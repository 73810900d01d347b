import SqlComposer.Proofs.Embedding
import SqlComposer.Proofs.Nesting
import SqlComposer.Proofs.Quoting
import SqlComposer.Proofs.Settings

/-!
# Reading quoted names back

Whatever options are set and whatever databases are chosen, a dialect has no quotes, or a pair of
quotes that are single characters. What is put between such a pair can be read back: the first
closing quote that is not written twice ends it, so no name ends its own quotes early.
-/

namespace SqlComposer

/-! ## Reading a quoted text -/

namespace Text

/-- Reads up to the first `closing` that is not written twice, each one that is written twice as
one; gives what has been read, and what follows the closing one. -/
def readQuoted? (closing : Char) : List Char → Option (List Char × List Char)
  | [] => none
  | [c] => if c = closing then some ([], []) else none
  | c :: next :: cs =>
    if c = closing then
      if next = closing then (readQuoted? closing cs).map (Prod.map (closing :: ·) id)
      else some ([], next :: cs)
    else (readQuoted? closing (next :: cs)).map (Prod.map (c :: ·) id)

section Reading

variable {closing : Char}

theorem readQuoted?_other {c : Char} (h : c ≠ closing) {cs : List Char} :
    readQuoted? closing (c :: cs) = (readQuoted? closing cs).map (Prod.map (c :: ·) id) := by
  cases cs with
  | nil => simp [readQuoted?, h]
  | cons next cs => rw [readQuoted?, if_neg h]

theorem readQuoted?_twice (cs : List Char) :
    readQuoted? closing (closing :: closing :: cs) =
      (readQuoted? closing cs).map (Prod.map (closing :: ·) id) := by
  rw [readQuoted?, if_pos rfl, if_pos rfl]

theorem readQuoted?_closing {behind : List Char} (h : behind.head? ≠ some closing) :
    readQuoted? closing (closing :: behind) = some ([], behind) := by
  cases behind with
  | nil => rw [readQuoted?, if_pos rfl]
  | cons next cs =>
      have hnext : next ≠ closing := fun heq => h (congrArg some heq)
      rw [readQuoted?, if_pos rfl, if_neg hnext]

theorem doubleFrom_singleton_cons (closing c : Char) (cs : List Char) :
    doubleFrom [closing] 0 (c :: cs) =
      if c = closing then closing :: closing :: doubleFrom [closing] 0 cs
      else c :: doubleFrom [closing] 0 cs := by
  by_cases hc : c = closing
  · simp [doubleFrom, hc]
  · simp [doubleFrom, hc, Ne.symm hc]

theorem readQuoted?_double (cs : List Char) {behind : List Char}
    (h : behind.head? ≠ some closing) :
    readQuoted? closing (doubleFrom [closing] 0 cs ++ closing :: behind) = some (cs, behind) := by
  induction cs with
  | nil => exact readQuoted?_closing h
  | cons c cs ih =>
      rw [doubleFrom_singleton_cons]
      by_cases hc : c = closing
      · rw [if_pos hc, List.cons_append, List.cons_append, readQuoted?_twice, ih, hc]
        rfl
      · rw [if_neg hc, List.cons_append, readQuoted?_other hc, ih]
        rfl

end Reading

end Text

/-! ## Pairs of quotes -/

/-- A character is none of letters, digits, blanks and the underscore. -/
structure IsPunctuation (c : Char) : Prop where
  notAlphanumeric : Text.isAlphanumeric c = false
  notBlank : Text.isBlank c = false
  notUnderscore : c ≠ '_'

/-- The character that closes what `c` opens. -/
def closingCharacter (c : Char) : Char :=
  if c = '[' then ']' else c

/-- Two quotes are the character `c` and the one that closes what it opens. -/
structure AreQuotes (c : Char) (opening closing : Value) : Prop where
  punctuation : IsPunctuation c
  closingPunctuation : IsPunctuation (closingCharacter c)
  opening : ∃ serial, opening = .text (String.singleton c) serial
  closing : ∃ serial, closing = .text (String.singleton (closingCharacter c)) serial

theorem isPunctuation_iff {c : Char} : IsPunctuation c ↔ isQuoteCharacter c := by
  simp only [isQuoteCharacter, Bool.and_eq_true, Bool.not_eq_true', decide_eq_true_eq]
  exact ⟨fun ⟨h, h', h''⟩ => ⟨⟨h, h'⟩, h''⟩, fun ⟨⟨h, h'⟩, h''⟩ => ⟨h, h', h''⟩⟩

theorem IsPunctuation.closing {c : Char} (h : IsPunctuation c) :
    IsPunctuation (closingCharacter c) := by
  unfold closingCharacter
  split
  · exact isPunctuation_iff.mpr (by decide +kernel)
  · exact h

theorem areQuotes_of_quotesOf {given opening closing : Value}
    (h : quotesOf given = .ok (opening, closing)) :
    (opening = .null ∧ closing = .null) ∨ ∃ c, AreQuotes c opening closing := by
  rcases quotesOf_cases h with hnone | ⟨c, serial, hc, rfl, rfl⟩
  · exact .inl hnone
  · have hpunctuation := isPunctuation_iff.mpr hc
    refine .inr ⟨c, hpunctuation, hpunctuation.closing, ⟨serial, rfl⟩, ?_⟩
    unfold closingFor closingCharacter
    split
    · exact ⟨0, rfl⟩
    · exact ⟨serial, rfl⟩

namespace Dialect

/-- The quotes of a dialect are missing both, or they are a pair of characters. -/
def HasQuotePair (d : Dialect) : Prop :=
  (d.opening = .null ∧ d.closing = .null) ∨ ∃ c, AreQuotes c d.opening d.closing

/-- The dialects that setting options leads to from the default one and those of databases. -/
inductive Reachable (databases : Databases) : Dialect → Prop
  | standard : Reachable databases .standard
  | ofDatabase {given : Value} {d : Dialect} :
      Dialect.ofDatabase databases given = .ok d → Reachable databases d
  | withOption {d after : Dialect} {option value : Value} : Reachable databases d →
      d.withOption databases option value = .ok after → Reachable databases after

variable {databases : Databases}

theorem hasQuotePair_ofDatabase {given : Value} {d : Dialect}
    (h : ofDatabase databases given = .ok d) : d.HasQuotePair := by
  obtain ⟨text, quotes, hquotes, rfl⟩ := exists_of_ofDatabase h
  exact areQuotes_of_quotesOf (databases.quotesOf_quotesFor hquotes)

theorem HasQuotePair.withOption {d after : Dialect} {option value : Value} (hd : d.HasQuotePair)
    (h : d.withOption databases option value = .ok after) : after.HasQuotePair := by
  cases sets_of_withOption h with
  | style style => exact hd
  | quotes hquotes => exact areQuotes_of_quotesOf hquotes
  | bindsCounts b => exact hd
  | database hnamed =>
      have hpair := hasQuotePair_ofDatabase hnamed
      exact hpair

theorem Reachable.hasQuotePair {d : Dialect} (h : d.Reachable databases) : d.HasQuotePair := by
  induction h with
  | standard => exact .inl ⟨rfl, rfl⟩
  | ofDatabase h => exact hasQuotePair_ofDatabase h
  | withOption _ h ih => exact ih.withOption h

end Dialect

/-! ## Registries -/

namespace RegistryCall

/-- A use is given a name, or a dialect that is reachable itself. -/
def IsReaching (databases : Databases) : RegistryCall → Prop
  | .use choice =>
    choice.name?.isSome ∨ ∃ d serial, choice = .dialect d serial ∧ d.Reachable databases
  | _ => True

variable {databases : Databases}

/-- A registry with a reachable dialect has one after a call too, whether it is refused or not. -/
theorem after_reachable {c : RegistryCall} (hc : c.IsReaching databases) {d : Dialect}
    (hd : d.Reachable databases) (serial : Serial) :
    ∃ next after, c.after databases (.dialect d serial) = .dialect next after ∧
      next.Reachable databases := by
  unfold after
  split
  · rename_i inUse haccepted
    cases c with
    | setOption option value =>
        rw [apply_setOption] at haccepted
        obtain ⟨next, hnext, h⟩ := Condition.bind_ok haccepted
        cases h
        exact ⟨next, 0, rfl, hd.withOption hnext⟩
    | use choice =>
        rcases hc with hname | ⟨installed, other, rfl, hinstalled⟩
        · rw [apply_use hname] at haccepted
          obtain ⟨next, hnext, h⟩ := Condition.bind_ok haccepted
          cases h
          exact ⟨next, 0, rfl, .ofDatabase hnext⟩
        · cases haccepted
          exact ⟨installed, other, rfl, hinstalled⟩
    | reset =>
        cases haccepted
        exact ⟨.standard, 1, rfl, .standard⟩
  · exact ⟨d, serial, rfl, hd⟩

theorem after_quote {given opening closing : Value}
    (h : quotesOf given = .ok (opening, closing)) (d : Dialect) (serial : Serial) :
    (setOption (.ofText "quoteChar") given).after databases (.dialect d serial) =
      .dialect { d with opening, closing } 0 := by
  have hset : d.withOption databases (.ofText "quoteChar") given =
      .ok { d with opening, closing } := by
    show (do
      let quotes ← quotesOf given
      return { d with opening := quotes.1, closing := quotes.2 }) = _
    rw [h]
    rfl
  rw [after, apply_setOption, hset]
  rfl

end RegistryCall

theorem Value.afterRegistryCalls_reachable {databases : Databases} {calls : List RegistryCall}
    (hcalls : ∀ c ∈ calls, c.IsReaching databases) {d : Dialect} (hd : d.Reachable databases)
    (serial : Serial) :
    ∃ next after, (Value.dialect d serial).afterRegistryCalls databases calls =
        .dialect next after ∧
      next.Reachable databases := by
  induction calls generalizing d serial with
  | nil => exact ⟨d, serial, rfl, hd⟩
  | cons c calls ih =>
      obtain ⟨next, after, hnext, hreachable⟩ :=
        RegistryCall.after_reachable (hcalls c List.mem_cons_self) hd serial
      have hrest := ih (fun c hc => hcalls c (List.mem_cons_of_mem _ hc)) hreachable after
      rwa [← hnext] at hrest

/-! ## Quoted names -/

section Names

variable {c : Char} {d : Dialect}

theorem AreQuotes.quotesWith (h : AreQuotes c d.opening d.closing) :
    d.QuotesWith c (closingCharacter c) := by
  obtain ⟨serial, hopening⟩ := h.opening
  obtain ⟨serial', hclosing⟩ := h.closing
  constructor
  · rw [hopening]
    rfl
  · rw [Dialect.closingQuote, hclosing, if_pos (by simp [Value.isTruthy])]
    rfl

theorem AreQuotes.toList_quote (h : AreQuotes c d.opening d.closing) (name : Name) :
    (d.quote name).text.toList =
      c :: (Text.doubleFrom [closingCharacter c] 0 name.text.toList ++ [closingCharacter c]) := by
  rw [h.quotesWith.quote]
  simp [Name.text, Name.display, Dialect.enclosed, Text.double]

/-- Between the quotes stands the name and nothing else, whatever it holds and whatever follows. -/
theorem AreQuotes.readQuoted?_quote (h : AreQuotes c d.opening d.closing) (name : Name)
    (behind : List Char) (hbehind : behind.head? ≠ some (closingCharacter c)) :
    Text.readQuoted? (closingCharacter c) (((d.quote name).text.toList ++ behind).drop 1) =
      some (name.text.toList, behind) := by
  rw [h.toList_quote, List.cons_append, List.append_assoc]
  exact Text.readQuoted?_double _ hbehind

theorem AreQuotes.spelled_quoted (h : AreQuotes c d.opening d.closing) (name : Name) :
    d.spelled [.quoted name] = (d.quote name).text := by
  have hplain : (d.quote name).display = (d.quote name).text := by
    rw [h.quotesWith.quote]
    rfl
  rw [Dialect.spelled, List.map_singleton, String.join_cons, String.join_nil, String.append_empty]
  exact hplain

theorem AreQuotes.quote_injective (h : AreQuotes c d.opening d.closing) {first second : Name}
    (hsame : (d.quote first).text = (d.quote second).text) : first.text = second.text := by
  have hfirst := h.readQuoted?_quote first [] nofun
  rw [hsame, h.readQuoted?_quote second [] nofun] at hfirst
  exact String.toList_inj.mp (Prod.mk.inj (Option.some.inj hfirst)).1.symm

end Names

/-! ## Aliases of subselects -/

section Aliases

variable {s : Select} {inner : SelectId} {sourceAlias : Name}

theorem Select.layout_aliased (hsource : s.source = some (.subselect inner))
    (halias : s.sourceAlias = some sourceAlias) :
    ∃ front behind,
      s.layout = front ++ [.word ")", .word " AS ", .quoted sourceAlias] ++ behind ∧
        (behind = [] ∨ ∃ rest, behind = .word " " :: rest) := by
  obtain ⟨front, behind, hbehind, hlayout⟩ := s.layout_source
  refine ⟨front ++ [.word "FROM ", .word "(", .subselect inner], behind, ?_, hbehind⟩
  have hself : { s with source := some (.subselect inner) } = s := by rw [← hsource]
  have hpieces : Source.layout (some sourceAlias) (.subselect inner) =
      [.word "(", .subselect inner, .word ")", .word " AS ", .quoted sourceAlias] := rfl
  have hwhole := hlayout (.subselect inner)
  rw [hself, halias, hpieces] at hwhole
  rw [hwhole]
  simp only [List.append_assoc, List.cons_append, List.nil_append]

namespace Store

variable {st : Store} {inUse : Value} {d : Dialect} {serial : Serial} {id : SelectId}
  {before after : Progress} {rendered : Rendered}

theorem text_aliased (hd : d.hasPlainQuotes)
    (hsource : (st.select id).source = some (.subselect inner))
    (halias : (st.select id).sourceAlias = some sourceAlias)
    (h : (st.render inUse (.dialect d serial) (.select id)).run before = .ok rendered after) :
    ∃ front behind, rendered.text = front ++ ") AS " ++ d.spelled [.quoted sourceAlias] ++ behind ∧
      (behind = "" ∨ ∃ rest, behind = " " ++ rest) := by
  obtain ⟨written, last, hwritten, rfl⟩ := tokens_of_render h
  obtain ⟨front, behind, hlayout, hbehind⟩ := Select.layout_aliased hsource halias
  have hclauses : (st.clauses (.select id)).layout = (st.select id).layout := rfl
  rw [pieces_layout, hclauses, hlayout, tokens_unfolded_append, tokens_unfolded_append,
    bind_assoc] at hwritten
  obtain ⟨first, middle, -, hwritten⟩ := Writing.bind_ok hwritten
  have hname (sub : SelectId → List Piece) :
      tokens (st.writer (st.text inUse) {} (.dialect d serial))
        (unfolded sub [.word ")", .word " AS ", .quoted sourceAlias]) =
          pure [.text ")", .text " AS ", .text (d.spelled [.quoted sourceAlias])] := by
    have hquoted := Piece.tokens_quoted
      (w := st.writer (st.text inUse) {} (.dialect d serial)) rfl hd sourceAlias
    have hunfolded : unfolded sub [.quoted sourceAlias] = [.quoted sourceAlias] := rfl
    rw [tokens_unfolded_word, tokens_unfolded_word, hunfolded, tokens_singleton, hquoted]
    rfl
  simp only [hname, pure_bind] at hwritten
  obtain ⟨rest, final, hrest, hwritten⟩ := Writing.bind_ok hwritten
  cases hwritten
  refine ⟨Token.textFrom d 0 first, Token.textFrom d (Token.values first).length rest, ?_, ?_⟩
  · have hmarks : ") AS " = ")" ++ " AS " := rfl
    rw [Rendered.ofTokens, List.append_assoc, List.length_nil, Value.asDialect,
      Token.textFrom_append, hmarks]
    simp only [List.cons_append, List.nil_append, Token.textFrom, Nat.zero_add, String.append_assoc]
  · rcases hbehind with rfl | ⟨pieces, rfl⟩
    · cases hrest
      exact .inl rfl
    · rw [tokens_unfolded_word] at hrest
      obtain ⟨tokens, _, -, htokens⟩ := Writing.bind_ok hrest
      cases htokens
      exact .inr ⟨_, rfl⟩

end Store

end Aliases

/-! ## Reading back -/

/-- Whatever calls are made on a registry, it holds a dialect without quotes, or with two characters
as its quotes, neither of them a letter, a digit, blank or an underscore. Every name between them is
read back, with what follows it, by looking for the first closing quote that is not written twice.
So no two names are quoted alike, and an alias ends where its quotes end. -/
theorem quoted_readback (databases : Databases) :
    (∀ calls : List RegistryCall, (∀ c ∈ calls, c.IsReaching databases) →
      ∃ d serial, Value.standardDialect.afterRegistryCalls databases calls = .dialect d serial ∧
        d.Reachable databases) ∧
    ∀ d : Dialect, d.Reachable databases →
      (d.opening = .null ∧ d.closing = .null) ∨
        ∃ c, AreQuotes c d.opening d.closing ∧
          (∀ (name : Name) (behind : List Char), behind.head? ≠ some (closingCharacter c) →
            (d.quote name).text.toList.head? = some c ∧
              Text.readQuoted? (closingCharacter c)
                (((d.quote name).text.toList ++ behind).drop 1) =
                  some (name.text.toList, behind)) ∧
          (∀ first second : Name,
            (d.quote first).text = (d.quote second).text → first.text = second.text) ∧
          ∀ (st : Store) (inUse : Value) (serial : Serial) (id inner : SelectId)
            (sourceAlias : Name) (before after : Progress) (rendered : Rendered),
            (st.select id).source = some (.subselect inner) →
            (st.select id).sourceAlias = some sourceAlias →
            (st.render inUse (.dialect d serial) (.select id)).run before = .ok rendered after →
              ∃ front behind,
                rendered.text = front ++ ") AS " ++ (d.quote sourceAlias).text ++ behind ∧
                  Text.readQuoted? (closingCharacter c)
                    (((d.quote sourceAlias).text.toList ++ behind.toList).drop 1) =
                      some (sourceAlias.text.toList, behind.toList) := by
  refine ⟨fun calls hcalls => Value.afterRegistryCalls_reachable hcalls .standard 1,
    fun d hd => hd.hasQuotePair.imp_right ?_⟩
  rintro ⟨c, hquotes⟩
  refine ⟨c, hquotes, fun name behind hbehind => ?_, fun _ _ => hquotes.quote_injective, ?_⟩
  · refine ⟨?_, hquotes.readQuoted?_quote name behind hbehind⟩
    rw [hquotes.toList_quote]
    rfl
  · intro st inUse serial id inner sourceAlias before after rendered hsource halias h
    obtain ⟨front, behind, htext, hbehind⟩ :=
      Store.text_aliased hquotes.quotesWith.hasPlainQuotes hsource halias h
    refine ⟨front, behind, ?_, hquotes.readQuoted?_quote sourceAlias _ ?_⟩
    · rw [htext, hquotes.spelled_quoted]
    · rcases hbehind with rfl | ⟨rest, rfl⟩
      · exact nofun
      · -- A blank follows, which closes no quotes.
        intro hblank
        rw [String.toList_append] at hblank
        obtain heq : ' ' = closingCharacter c := Option.some.inj hblank
        have hnot := hquotes.closingPunctuation.notBlank
        rw [← heq] at hnot
        cases hnot

/-- A SELECT from another one, under an alias that has closing brackets at both ends. -/
def bracketedAlias : Store where
  selects :=
    [{ source := some (.table (.plain "users")) },
      { source := some (.subselect ⟨0⟩), sourceAlias := some (.plain "]a]]"), limit := some 5 }]

theorem quoted_readback_brackets :
    let calls : List RegistryCall :=
      [.use (.ofText "mysql"), .setOption (.ofText "quoteChar") (.ofText "[")]
    (∀ c ∈ calls, c.IsReaching .known) ∧
      ∃ d serial, Value.standardDialect.afterRegistryCalls .known calls = .dialect d serial ∧
        Text.readQuoted? ']' "]]a]]]]] x".toList = some ("]a]]".toList, " x".toList) ∧
        ∃ rendered after front behind,
          (bracketedAlias.render .null (.dialect d serial) (.select ⟨1⟩)).run {} =
              .ok rendered after ∧
            rendered.text = front ++ ") AS " ++ "[]]a]]]]]" ++ behind ∧
            Text.readQuoted? ']' ("]]a]]]]]".toList ++ behind.toList) =
              some ("]a]]".toList, behind.toList) := by
  intro calls
  have hcalls : ∀ c ∈ calls, c.IsReaching .known := by
    simp only [calls, List.forall_mem_cons, RegistryCall.IsReaching]
    exact ⟨.inl rfl, trivial, nofun⟩
  let d : Dialect :=
    { Dialect.ofQuotes "mysql" ("\x60", "\x60") with
      opening := .ofText "[", closing := .ofText "]" }
  have hinUse : Value.standardDialect.afterRegistryCalls .known calls = .dialect d 0 := by
    have hbracket : isQuoteCharacter '[' = true := by decide +kernel
    have hquotes : quotesOf (.ofText "[") = .ok (.ofText "[", .ofText "]") := by
      simp [quotesOf, Value.ofText, hbracket, closingFor]
    have hname : (RegistryCall.use (.ofText "mysql")).after .known .standardDialect =
        .dialect (Dialect.ofQuotes "mysql" ("\x60", "\x60")) 0 := rfl
    simp only [calls, Value.afterRegistryCalls, List.foldl_cons, List.foldl_nil, hname,
      RegistryCall.after_quote hquotes, d]
  obtain ⟨_, _, hreached, hreachable⟩ := (quoted_readback .known).1 calls hcalls
  cases hinUse.symm.trans hreached
  rcases (quoted_readback .known).2 d hreachable with ⟨hnone, -⟩ | ⟨c, hquotes, hread, -, halias⟩
  · cases hnone
  · obtain rfl : c = '[' := by
      obtain ⟨serial, hopening⟩ := hquotes.opening
      have htext : "[" = String.singleton c := (Value.text.inj hopening).1
      simpa using congrArg String.toList htext.symm
    have hclosing : closingCharacter '[' = ']' := rfl
    have hquote : (d.quote (.plain "]a]]")).text = "[]]a]]]]]" := by decide +kernel
    have hdrop (behind : List Char) :
        ("[]]a]]]]]".toList ++ behind).drop 1 = "]]a]]]]]".toList ++ behind := rfl
    have hblank := (hread (.plain "]a]]") " x".toList (by decide)).2
    obtain ⟨rendered, after, hok⟩ := Writing.succeeds_iff.mp
      (show (bracketedAlias.render .null (.dialect d 0) (.select ⟨1⟩)).succeeds {} by
        decide +kernel)
    obtain ⟨front, behind, htext, hbehind⟩ :=
      halias bracketedAlias .null 0 ⟨1⟩ ⟨0⟩ (.plain "]a]]") {} after rendered rfl rfl hok
    rw [hclosing, hquote, hdrop] at hblank hbehind
    rw [hquote] at htext
    exact ⟨hcalls, d, 0, hinUse, hblank, rendered, after, front, behind, hok, htext, hbehind⟩

end SqlComposer
