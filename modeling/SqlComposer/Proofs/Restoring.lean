import SqlComposer.Proofs.QuotePairs
import SqlComposer.Proofs.Splitting

/-!
# Options that are read and set again

The four options of a dialect can be read and, one after the other, set again in place of those of
another dialect. Everything comes back in this way but the lack of a name: a dialect that has its
name from no database has one that is refused when it is set.
-/

namespace SqlComposer

/-! ## Values that are read -/

theorem PlaceholderStyle.ofValue_ofToken (style : PlaceholderStyle) :
    ofValue (.ofToken style) = .ok style := by
  cases style <;> rfl

theorem quotesOf_opening {given opening closing : Value}
    (h : quotesOf given = .ok (opening, closing)) : quotesOf opening = .ok (opening, closing) := by
  rcases quotesOf_cases h with ⟨rfl, rfl⟩ | ⟨c, serial, hc, rfl, rfl⟩
  · rfl
  · exact quotesOf_singleton hc serial

namespace Database

theorem nameIn_nameIn (text : String) : nameIn (nameIn text) = nameIn text := by
  let cs := Text.trimChars (Text.split (· == ',') text.toList).1
  have hfree : ∀ c ∈ cs.map Char.toLower, (c == ',') = false := by
    rintro c hc
    obtain ⟨c, hmem, rfl⟩ := List.mem_map.mp hc
    have hne := Text.not_separator_of_mem (p := (· == ',')) List.mem_cons_self
      (Text.mem_of_mem_trimBy hmem)
    rcases Text.toLower_cases c with h | ⟨-, h⟩
    · rwa [h]
    · refine beq_false_of_ne fun hcomma => ?_
      rw [hcomma] at h
      simp at h
  have halone : (Text.split (· == ',') (cs.map Char.toLower)).1 = cs.map Char.toLower :=
    (List.cons.inj (Text.splitAll_free hfree)).1
  have htrim : Text.trimChars (cs.map Char.toLower) = cs.map Char.toLower := by
    rw [Text.trimChars, Text.trimBy_map Text.isBlank_toLower]
    exact congrArg (List.map Char.toLower) Text.trimBy_trimBy
  have hlower : (cs.map Char.toLower).map Char.toLower = cs.map Char.toLower := by
    rw [List.map_map]
    exact List.map_congr_left fun c _ => Text.toLower_toLower c
  show String.ofList _ = String.ofList (cs.map Char.toLower)
  rw [show nameIn text = String.ofList (cs.map Char.toLower) from rfl, String.toList_ofList, halone,
    htrim, hlower]

theorem visible_nameIn {text : String} (h : nameIn text ≠ "") :
    Text.allBlank (nameIn text) = false := by
  cases htrimmed : Text.trimChars (Text.split (· == ',') text.toList).1 with
  | nil => exact absurd (by rw [nameIn, htrimmed]; rfl) h
  | cons c rest =>
      rw [nameIn, htrimmed, Text.allBlank, String.toList_ofList, List.map_cons, List.all_cons,
        Text.isBlank_toLower, Text.not_dropped_of_trimBy htrimmed, Bool.false_and]

end Database

namespace Dialect

variable {databases : Databases}

theorem ofDatabase_nameIn {text : String} {quotes : String × String}
    (hquotes : databases.quotesFor text = .ok quotes) (hne : Database.nameIn text ≠ "") :
    ofDatabase databases (.ofText (Database.nameIn text)) =
      .ok (ofQuotes (Database.nameIn text) quotes) := by
  have hvisible : (Value.ofText (Database.nameIn text)).visibleName? =
      some (.plain (Database.nameIn text)) :=
    Option.filter_eq_some_iff.mpr ⟨rfl, by simp [Name.text, Database.visible_nameIn hne]⟩
  simp only [ofDatabase, hvisible, Name.text, databases.quotesFor_nameIn hquotes hne,
    Database.nameIn_nameIn]

/-! ## Dialects to read from -/

/-- What is read from a dialect may be set, but perhaps for its name. -/
structure IsRestorable (databases : Databases) (d : Dialect) : Prop where
  style : ∃ style, d.style = .keyword (.placeholderStyle style)
  quotes : quotesOf d.opening = .ok (d.opening, d.closing)
  bindsCounts : ∃ b, d.bindsCounts = .bool b
  name : (∃ named, ofDatabase databases d.name = .ok named ∧ named.name = d.name) ∨
    d.name = .null ∨ d.name = .ofText ""

theorem isRestorable_ofDatabase {given : Value} {d : Dialect}
    (h : ofDatabase databases given = .ok d) : d.IsRestorable databases := by
  obtain ⟨text, quotes, hquotes, rfl⟩ := exists_of_ofDatabase h
  refine ⟨⟨_, rfl⟩, databases.quotesOf_quotesFor hquotes, ⟨false, rfl⟩, ?_⟩
  refine or_iff_not_imp_right.mpr fun hname => ⟨_, ofDatabase_nameIn hquotes ?_, rfl⟩
  exact fun hempty => hname (.inr (congrArg Value.ofText hempty))

theorem IsRestorable.withOption {d after : Dialect} {option value : Value}
    (hd : d.IsRestorable databases) (h : d.withOption databases option value = .ok after) :
    after.IsRestorable databases := by
  cases sets_of_withOption h with
  | style style => exact { hd with style := ⟨style, rfl⟩ }
  | quotes hquotes => exact { hd with quotes := quotesOf_opening hquotes }
  | bindsCounts b => exact { hd with bindsCounts := ⟨b, rfl⟩ }
  | database hnamed => exact { isRestorable_ofDatabase hnamed with bindsCounts := hd.bindsCounts }

theorem Reachable.isRestorable {d : Dialect} (h : d.Reachable databases) :
    d.IsRestorable databases := by
  induction h with
  | standard => exact ⟨⟨.dollar, rfl⟩, rfl, ⟨false, rfl⟩, .inr (.inl rfl)⟩
  | ofDatabase h => exact isRestorable_ofDatabase h
  | withOption _ h ih => exact ih.withOption h

/-! ## Setting what has been read -/

/-- The options to save, the one that decides most of the others first. -/
def savedOptions : List String :=
  ["dialect", "placeholder", "quoteChar", "parameterizeLimits"]

/-- The calls that set the options of a dialect as they are read from it. -/
def saved (d : Dialect) : Except OptionError (List RegistryCall) :=
  savedOptions.mapM fun named => do
    return .setOption (.ofText named) (← d.getOption (.ofText named))

end Dialect

/-- What is in use after calls that are all accepted, or why the first other one is refused. -/
def RegistryCall.applyAll (databases : Databases) (calls : List RegistryCall) (inUse : Value) :
    Except OptionError Value :=
  calls.foldlM (fun inUse c => c.apply databases inUse) inUse

variable {databases : Databases}

theorem RegistryCall.apply_database (databases : Databases) (given : Value) (current : Dialect)
    (serial : Serial) :
    (setOption (.ofText "dialect") given).apply databases (.dialect current serial) = do
      let named ← Dialect.ofDatabase databases given
      return .dialect { named with bindsCounts := current.bindsCounts } 0 := by
  rw [apply_setOption]
  show (do
    let d ← (do
      let named ← Dialect.ofDatabase databases given
      return { named with bindsCounts := current.bindsCounts })
    return Value.dialect d 0) = _
  rw [bind_assoc]
  rfl

theorem RegistryCall.applyAll_cons {c : RegistryCall} {calls : List RegistryCall}
    {inUse next : Value} (h : c.apply databases inUse = .ok next) :
    applyAll databases (c :: calls) inUse = applyAll databases calls next := by
  rw [applyAll, List.foldlM_cons, h]
  rfl

/-- If all calls are accepted, it makes no difference that refused ones would be left out. -/
theorem Value.afterRegistryCalls_of_applyAll {calls : List RegistryCall} {inUse last : Value}
    (h : RegistryCall.applyAll databases calls inUse = .ok last) :
    inUse.afterRegistryCalls databases calls = last := by
  induction calls generalizing inUse with
  | nil =>
      cases h
      rfl
  | cons c calls ih =>
      rw [RegistryCall.applyAll, List.foldlM_cons] at h
      obtain ⟨next, hnext, h⟩ := Condition.bind_ok h
      have hafter : c.after databases inUse = next := by rw [RegistryCall.after, hnext]
      rw [afterRegistryCalls, List.foldl_cons, hafter]
      exact ih h

namespace Dialect

variable {d : Dialect} (hd : d.IsRestorable databases)
include hd

theorem IsRestorable.apply_read (named : Value) {value : Value} {option : DialectOption}
    (hoption : DialectOption.ofValue named = .ok option) (hne : option ≠ .database)
    (hvalue : d.getOption named = .ok value) (current : Dialect) (serial : Serial) :
    (RegistryCall.setOption named value).apply databases (.dialect current serial) =
      .ok (.dialect (option.put d current) 0) := by
  have hset : current.withOption databases named value = .ok (option.put d current) := by
    rw [Dialect.withOption, hoption]
    rw [getOption, hoption] at hvalue
    cases option with
    | placeholder =>
        obtain ⟨style, hstyle⟩ := hd.style
        have hfound : d.style? = some style := by rw [style?, hstyle]
        simp only [bind, Except.bind, hfound] at hvalue
        cases hvalue
        simp only [bind, Except.bind, PlaceholderStyle.ofValue_ofToken, DialectOption.put, hstyle]
        rfl
    | quote =>
        cases hvalue
        simp only [bind, Except.bind, hd.quotes]
        rfl
    | countBinding =>
        obtain ⟨b, hb⟩ := hd.bindsCounts
        cases hvalue
        simp only [bind, Except.bind, DialectOption.put, hb]
        rfl
    | database => exact absurd rfl hne
  rw [RegistryCall.apply_setOption, hset]
  rfl

/-- All options can be read, and those behind the name can be set for any dialect. -/
theorem IsRestorable.saved :
    ∃ rest, d.saved = .ok (.setOption (.ofText "dialect") d.name :: rest) ∧
      ∀ (current : Dialect) (serial : Serial),
        RegistryCall.applyAll databases rest (.dialect current serial) =
          .ok (.dialect { d with name := current.name } 0) := by
  obtain ⟨style, hstyle⟩ := hd.style
  have hplaceholder : DialectOption.ofValue (.ofText "placeholder") = .ok .placeholder := rfl
  have hquote : DialectOption.ofValue (.ofText "quoteChar") = .ok .quote := rfl
  have hcounts : DialectOption.ofValue (.ofText "parameterizeLimits") = .ok .countBinding := rfl
  have hread : d.getOption (.ofText "placeholder") = .ok (.ofToken style) := by
    have hfound : d.style? = some style := by rw [style?, hstyle]
    simp only [getOption, hplaceholder, bind, Except.bind, hfound]
    rfl
  refine ⟨[.setOption (.ofText "placeholder") (.ofToken style),
    .setOption (.ofText "quoteChar") d.opening,
    .setOption (.ofText "parameterizeLimits") d.bindsCounts], ?_, fun current serial => ?_⟩
  · simp only [Dialect.saved, savedOptions, List.mapM_cons, List.mapM_nil, hread]
    rfl
  · rw [RegistryCall.applyAll_cons
        (hd.apply_read _ hplaceholder (by decide) hread current serial),
      RegistryCall.applyAll_cons (hd.apply_read _ hquote (by decide) rfl _ 0),
      RegistryCall.applyAll_cons (hd.apply_read _ hcounts (by decide) rfl _ 0)]
    rfl

end Dialect

/-- After any calls on a registry, all options of its dialect can be read. Set in the order in which
they are saved, on a registry with any dialect, they restore it if a database has given it its name.
If there is no name, or an empty one, setting the name is refused although it has been read; the
other options come back without it. -/
theorem saved_options_restored (databases : Databases) (calls : List RegistryCall)
    (hcalls : ∀ c ∈ calls, c.IsReaching databases) :
    ∃ d serial saved,
      Value.standardDialect.afterRegistryCalls databases calls = .dialect d serial ∧
      d.saved = .ok saved ∧
      ((d.name.visibleName?.isSome ∧ ∀ (current : Dialect) (other : Serial),
          RegistryCall.applyAll databases saved (.dialect current other) = .ok (.dialect d 0)) ∨
        ((d.name = .null ∨ d.name = .ofText "") ∧ ∀ (current : Dialect) (other : Serial),
          RegistryCall.applyAll databases saved (.dialect current other) =
              .error (.unknownDialect d.name) ∧
            (Value.dialect current other).afterRegistryCalls databases saved =
              .dialect { d with name := current.name } 0)) := by
  obtain ⟨d, serial, hinUse, hreachable⟩ :=
    Value.afterRegistryCalls_reachable hcalls .standard 1
  have hd := hreachable.isRestorable
  obtain ⟨rest, hsaved, hrest⟩ := hd.saved
  refine ⟨d, serial, _, hinUse, hsaved, ?_⟩
  rcases hd.name with ⟨named, hnamed, hname⟩ | hunnamed
  · have hvisible : d.name.visibleName?.isSome := by
      cases hnone : d.name.visibleName? with
      | none =>
          rw [Dialect.ofDatabase, hnone] at hnamed
          cases hnamed
      | some name => rfl
    refine .inl ⟨hvisible, fun current other => ?_⟩
    have hset := RegistryCall.apply_database databases d.name current other
    rw [hnamed] at hset
    have hsame : { d with name := named.name } = d := by
      rw [hname]
      cases d
      rfl
    rw [RegistryCall.applyAll_cons hset, hrest, hsame]
  · have hnone : Dialect.ofDatabase databases d.name = .error (.unknownDialect d.name) := by
      rcases hunnamed with h | h <;> rw [h] <;> rfl
    refine .inr ⟨hunnamed, fun current other => ?_⟩
    have hrefused : (RegistryCall.setOption (.ofText "dialect") d.name).apply databases
        (.dialect current other) = .error (.unknownDialect d.name) := by
      rw [RegistryCall.apply_database, hnone]
      rfl
    constructor
    · rw [RegistryCall.applyAll, List.foldlM_cons, hrefused]
      rfl
    · rw [Value.afterRegistryCalls, List.foldl_cons, RegistryCall.after, hrefused]
      exact Value.afterRegistryCalls_of_applyAll (hrest current other)

/-- The name comes from a text with a setting, and the placeholders are others than those of the
database. -/
theorem saved_options_restored_brackets :
    let calls : List RegistryCall :=
      [.use (.ofText " tsql , version=8"), .setOption (.ofText "placeholder") (.ofText ":"),
        .setOption (.ofText "parameterizeLimits") (.bool true)]
    let d : Dialect :=
      { Dialect.ofQuotes "tsql" ("[", "]") with
        style := .keyword (.placeholderStyle .colon), bindsCounts := .bool true }
    (∀ c ∈ calls, c.IsReaching .known) ∧
      ∃ saved, Value.standardDialect.afterRegistryCalls .known calls = .dialect d 0 ∧
        d.saved = .ok saved ∧
        RegistryCall.applyAll .known saved .standardDialect = .ok (.dialect d 0) := by
  intro calls d
  have hcalls : ∀ c ∈ calls, c.IsReaching .known :=
    List.forall_mem_cons.mpr
      ⟨.inl rfl, List.forall_mem_cons.mpr ⟨trivial, List.forall_mem_singleton.mpr trivial⟩⟩
  have hinUse : Value.standardDialect.afterRegistryCalls .known calls = .dialect d 0 := rfl
  obtain ⟨_, _, saved, hreached, hsaved, hrestored⟩ := saved_options_restored .known calls hcalls
  cases hinUse.symm.trans hreached
  refine ⟨hcalls, saved, hinUse, hsaved, ?_⟩
  rcases hrestored with ⟨-, hnamed⟩ | ⟨hunnamed, -⟩
  · exact hnamed .standard 1
  · rcases hunnamed with h | h
    · cases h
    · exact absurd (Value.text.inj h).1 (by decide)

/-- The name that is read from the default dialect is refused when it is set. -/
theorem missing_name_refused :
    Dialect.standard.getOption (.ofText "dialect") = .ok .null ∧
      (RegistryCall.setOption (.ofText "dialect") .null).apply .known .standardDialect =
        .error (.unknownDialect .null) :=
  ⟨rfl, rfl⟩

end SqlComposer
