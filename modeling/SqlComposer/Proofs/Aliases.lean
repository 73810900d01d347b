import Mathlib.Data.List.TakeWhile
import SqlComposer.Proofs.Paths
import SqlComposer.Proofs.Sequence

/-!
# Names with an alias

An entry of a select list or a table may be a path with an alias behind it, with or without the word
AS between them. There is at most one way to read a name like this, and such a name is no dotted
name itself.
-/

namespace SqlComposer

namespace Identifier

/-! ## Words at the front -/

theorem firstWord_run {word gap rest : List Char} (hword : ∀ c ∈ word, Text.isBlank c = false)
    (hne : gap ≠ []) (hgap : ∀ c ∈ gap, Text.isBlank c)
    (hrest : ∀ c, rest.head? = some c → Text.isBlank c = false) :
    firstWord (word ++ (gap ++ rest)) = (word, rest) := by
  have hword' : ∀ c ∈ word, (!Text.isBlank c) := by simpa using hword
  have hbehind : ∀ c, (gap ++ rest).head? = some c → (!Text.isBlank c) = false := by
    intro c hc
    obtain ⟨b, gap, rfl⟩ := List.exists_cons_of_ne_nil hne
    obtain rfl : b = c := Option.some.inj hc
    simpa using hgap b List.mem_cons_self
  rw [firstWord, Text.takeWhile_run hword' hbehind, Text.dropWhile_run hword' hbehind,
    Text.dropWhile_run hgap hrest]

theorem firstWord_split {cs word rest : List Char} (h : firstWord cs = (word, rest))
    (hrest : rest ≠ []) :
    ∃ gap, gap ≠ [] ∧ (∀ c ∈ gap, Text.isBlank c) ∧ (∀ c ∈ word, Text.isBlank c = false) ∧
      cs = word ++ (gap ++ rest) := by
  obtain ⟨rfl, rfl⟩ := Prod.mk.inj h
  refine ⟨(cs.dropWhile (!Text.isBlank ·)).takeWhile Text.isBlank, ?_, ?_, ?_, ?_⟩
  · intro hgap
    have hstop := List.head?_dropWhile_not (!Text.isBlank ·) cs
    cases hbehind : cs.dropWhile (!Text.isBlank ·) with
    | nil => simp [hbehind] at hrest
    | cons c behind =>
        rw [hbehind] at hgap hstop
        simp only [List.head?_cons, Bool.not_eq_false'] at hstop
        rw [List.takeWhile_cons_of_pos hstop] at hgap
        cases hgap
  · exact fun c hc => List.mem_takeWhile_imp hc
  · intro c hc
    simpa using List.mem_takeWhile_imp hc
  · rw [List.takeWhile_append_dropWhile, List.takeWhile_append_dropWhile]

theorem isOneWord_iff {cs : List Char} : isOneWord cs ↔ ∀ c ∈ cs, Text.isBlank c = false := by
  rw [isOneWord, List.isEmpty_iff, List.dropWhile_eq_nil_iff]
  simp

theorem firstWord_of_isOneWord {cs : List Char} (h : isOneWord cs) : (firstWord cs).1 = cs := by
  have hcs := isOneWord_iff.mp h
  rw [firstWord, List.takeWhile_eq_self_iff]
  simpa using hcs

theorem ne_nil_of_isBare {cs : List Char} (h : isBare cs) : cs ≠ [] := by
  rintro rfl
  cases h

theorem notBlank_of_isBare {cs : List Char} (h : isBare cs) :
    ∀ c ∈ cs, Text.isBlank c = false :=
  fun _ hc => notBlank_of_isFollower (isFollower_of_isBare h hc)

theorem isBare_of_isAs {word : List Char} (h : isAs word) : isBare word := by
  simp only [isAs, Bool.or_eq_true, decide_eq_true_eq] at h
  rcases h with ((rfl | rfl) | rfl) | rfl <;> decide

theorem isValid_of_isBare {gap word : List Char} (hne : gap ≠ []) (hgap : ∀ c ∈ gap, Text.isBlank c)
    (hword : isBare word) : Text.SpacedWord.IsValid ⟨gap, word⟩ :=
  ⟨hne, hgap, ne_nil_of_isBare hword, notBlank_of_isBare hword⟩

/-! ## Spellings -/

/-- A path and its alias, perhaps with the word AS between them, and the blanks in front of both. -/
structure AliasSpelling where
  segments : List (List Char)
  asWord : Option Text.SpacedWord
  name : Text.SpacedWord

namespace AliasSpelling

def path (a : AliasSpelling) : List Char :=
  ['.'].intercalate a.segments

/-- The words behind the path. -/
def parts (a : AliasSpelling) : List Text.SpacedWord :=
  a.asWord.toList ++ [a.name]

def chars (a : AliasSpelling) : List Char :=
  a.path ++ Text.spaced a.parts

structure IsValid (a : AliasSpelling) : Prop where
  nonempty : a.segments ≠ []
  bare : ∀ segment ∈ a.segments, isBare segment
  spaced : ∀ part ∈ a.parts, part.IsValid
  asWord : ∀ part ∈ a.asWord, isAs part.word
  name : isBare a.name.word

def found (a : AliasSpelling) : Aliased where
  path := a.path
  hasAs := a.asWord.isSome
  name := a.name.word

variable {a b : AliasSpelling}

theorem IsValid.dotted (h : a.IsValid) : IsDotted a.segments false a.path :=
  ⟨h.nonempty, h.bare, by rw [starSegment, if_neg Bool.false_ne_true, List.append_nil, path]⟩

/-- The spelling of a path with its alias is unique, and with it the word that is the alias. -/
theorem IsValid.eq_of_chars (ha : a.IsValid) (hb : b.IsValid) (h : a.chars = b.chars) : a = b := by
  obtain ⟨hpath, hspaced⟩ := Text.spaced_behind ha.spaced hb.spaced ha.dotted.notBlank
    hb.dotted.notBlank h
  have hsegments := ha.dotted.segments_eq
  rw [hpath, hb.dotted.segments_eq] at hsegments
  obtain ⟨has, hname⟩ := List.append_inj' (Text.spaced_injective ha.spaced hb.spaced hspaced) rfl
  obtain ⟨segments, asWord, name⟩ := a
  obtain ⟨segments', asWord', name'⟩ := b
  obtain rfl : segments' = segments := by simpa [starSegment] using hsegments
  obtain rfl : name = name' := List.singleton_inj.mp hname
  cases asWord with
  | none =>
      cases asWord' with
      | none => rfl
      | some word' => cases has
  | some word =>
      cases asWord' with
      | none => cases has
      | some word' =>
          obtain rfl : word = word' := List.singleton_inj.mp has
          rfl

theorem IsValid.not_isDotted (h : a.IsValid) {segments : List (List Char)} {starred : Bool} :
    ¬ IsDotted segments starred a.chars := by
  intro hdotted
  have hpart := h.spaced a.name (by simp [parts])
  obtain ⟨b, gap, hgap⟩ := List.exists_cons_of_ne_nil hpart.gap_ne
  have hmem : b ∈ a.chars := by simp [chars, parts, Text.spaced, hgap]
  have hblank := hpart.blank b (hgap ▸ List.mem_cons_self)
  rw [hdotted.notBlank b hmem] at hblank
  cases hblank

theorem IsValid.aliased? (h : a.IsValid) {cs : List Char} (hcs : withoutLineEnd cs = a.chars) :
    Identifier.aliased? cs = some a.found := by
  obtain ⟨segments, asWord, name⟩ := a
  have hname := h.spaced name (by simp [parts])
  have hpath : isPath (path ⟨segments, asWord, name⟩) := isPath_iff.mpr ⟨_, h.dotted⟩
  have hone : isOneWord name.word := isOneWord_iff.mpr hname.notBlank
  cases asWord with
  | none =>
      have hfirst := firstWord_run h.dotted.notBlank hname.gap_ne hname.blank fun _ hc =>
        hname.head_word [] (by simpa using hc)
      simp only [chars, parts, Option.toList_none, List.nil_append, Text.spaced_cons,
        Text.spaced_nil, List.append_nil] at hcs hfirst
      simp only [Identifier.aliased?, hcs, hfirst, hpath, hone, firstWord_of_isOneWord hone, h.name,
        found]
      rfl
  | some word =>
      have hword := h.spaced word (by simp [parts])
      have hfirst := firstWord_run h.dotted.notBlank hword.gap_ne hword.blank fun _ =>
        hword.head_word (name.gap ++ name.word)
      have hsecond := firstWord_run hword.notBlank hname.gap_ne hname.blank fun _ hc =>
        hname.head_word [] (by simpa using hc)
      have htwo : isOneWord (word.word ++ (name.gap ++ name.word)) = false := by
        obtain ⟨b, gap, hgap⟩ := List.exists_cons_of_ne_nil hname.gap_ne
        rw [← Bool.not_eq_true, isOneWord_iff]
        intro hnone
        have hblank := hname.blank b (hgap ▸ List.mem_cons_self)
        rw [hnone b (by simp [hgap])] at hblank
        cases hblank
      simp only [chars, parts, Option.toList_some, List.singleton_append, Text.spaced_cons,
        Text.spaced_nil, List.append_nil] at hcs hfirst
      simp [Identifier.aliased?, hcs, hfirst, hsecond, hpath, htwo, h.asWord word rfl, h.name,
        found]

theorem exists_of_aliased? {cs : List Char} {found : Aliased}
    (h : Identifier.aliased? cs = some found) :
    ∃ a : AliasSpelling, a.IsValid ∧ a.chars = withoutLineEnd cs ∧ a.found = found := by
  obtain ⟨path, behindPath, hfirst⟩ : ∃ path rest, firstWord (withoutLineEnd cs) = (path, rest) :=
    ⟨_, _, rfl⟩
  obtain ⟨word, behindWord, hsecond⟩ : ∃ word rest, firstWord behindPath = (word, rest) :=
    ⟨_, _, rfl⟩
  simp only [Identifier.aliased?, hfirst, hsecond] at h
  split at h
  · cases h
  · rename_i hpath
    rw [Bool.not_eq_true', Bool.not_eq_false, isPath_iff] at hpath
    obtain ⟨segments, hdotted⟩ := hpath
    have hjoined : ['.'].intercalate segments = path := by
      simpa [starSegment] using hdotted.joined.symm
    split at h
    · rename_i hone
      split at h
      · rename_i hbare
        cases h
        obtain rfl : word = behindPath := by
          rw [← firstWord_of_isOneWord hone, hsecond]
        obtain ⟨gap, hne, hgap, -, hcs⟩ := firstWord_split hfirst (ne_nil_of_isBare hbare)
        have hpart := isValid_of_isBare hne hgap hbare
        refine ⟨⟨segments, none, ⟨gap, word⟩⟩, ?_, ?_, ?_⟩
        · exact ⟨hdotted.nonempty, hdotted.bare, by simpa [parts] using hpart,
            fun _ has => (Option.not_mem_none _ has).elim, hbare⟩
        · rw [hcs, ← hjoined]
          simp [chars, AliasSpelling.path, parts]
        · rw [← hjoined]
          rfl
      · cases h
    · split at h
      · rename_i hwords
        cases h
        obtain ⟨has, hbare⟩ := Bool.and_eq_true_iff.mp hwords
        obtain ⟨gap', hne', hgap', -, hbehind⟩ := firstWord_split hsecond (ne_nil_of_isBare hbare)
        have hrest : behindPath ≠ [] := by
          rw [hbehind]
          simp [hne']
        obtain ⟨gap, hne, hgap, -, hcs⟩ := firstWord_split hfirst hrest
        have hword := isBare_of_isAs has
        have hparts : ∀ part ∈ [Text.SpacedWord.mk gap word, ⟨gap', behindWord⟩], part.IsValid :=
          List.forall_mem_cons.mpr ⟨isValid_of_isBare hne hgap hword,
            List.forall_mem_singleton.mpr (isValid_of_isBare hne' hgap' hbare)⟩
        refine ⟨⟨segments, some ⟨gap, word⟩, ⟨gap', behindWord⟩⟩, ?_, ?_, ?_⟩
        · refine ⟨hdotted.nonempty, hdotted.bare, hparts, ?_, hbare⟩
          rintro part ⟨⟩
          exact has
        · rw [hcs, hbehind, ← hjoined]
          simp [chars, AliasSpelling.path, parts]
        · rw [← hjoined]
          rfl
      · cases h

end AliasSpelling

end Identifier

/-! ## References -/

namespace Dialect

open Identifier

variable {d : Dialect} {s : String}

theorem reference_of_aliased (hquoting : d.isQuoting) {a : AliasSpelling} (ha : a.IsValid)
    (h : aliased? s.toList = some a.found) :
    d.reference (.plain s) =
      d.dotted a.segments false ++ (if a.asWord.isSome then " AS " else " ") ++
        d.quotedSegment a.name.word := by
  have hpath : d.spelled (d.identifierParts (.plain (String.ofList a.path))) =
      d.dotted a.segments false :=
    identifier_of_isDotted hquoting (String.toList_ofList ▸ ha.dotted)
  have hsplit : d.referenceParts (.plain s) =
      d.identifierParts (.plain (String.ofList a.path)) ++
        [.copied (if a.asWord.isSome then " AS " else " "),
          .quoted (.plain (String.ofList a.name.word))] := by
    rw [referenceParts, if_pos hquoting, Name.text, h]
    rfl
  rw [reference, hsplit, spelled_append, hpath, spelled, List.map_cons, List.map_singleton,
    String.join_cons, String.join_cons, String.join_nil, String.append_empty, partText_quoted,
    String.append_assoc]
  rfl

theorem reference_of_not_aliased (h : aliased? s.toList = none) :
    d.reference (.plain s) = d.identifier (.plain s) := by
  rw [reference, referenceParts, Name.text, h, ite_self]
  rfl

end Dialect

open Identifier

/-- In a dialect with quotes, a plain name without line feeds is written alike as an entry of a
list, as a source and as a joined table. A path with an alias is read as such in one way only and
written as both, quoted; a dotted name is quoted segment by segment; anything else is copied. -/
theorem reference_spelled {d : Dialect} {w : Writer} {serial : Serial}
    (hw : w.dialect = .dialect d serial) (hquoting : d.isQuoting) (hplain : d.hasPlainQuotes)
    {s : String} (hline : '\n' ∉ s.toList) :
    (∀ sub : SelectId → Binding String,
      (Column.named (.plain s)).write w sub = pure (d.reference (.plain s)) ∧
      (∀ sourceAlias, (Source.table (.plain s)).write w sub sourceAlias =
        pure (d.reference (.plain s))) ∧
      ∀ kind terms, Join.write w sub ⟨kind, .plain s, terms⟩ = do
        return kind.text ++ " " ++ d.reference (.plain s) ++ " ON " ++ (← terms.write w sub)) ∧
    (tokens w (Column.named (.plain s)).layout = pure [.text (d.reference (.plain s))] ∧
      (∀ sourceAlias, tokens w (Source.layout sourceAlias (.table (.plain s))) =
        pure [.text (d.reference (.plain s))]) ∧
      ∀ kind terms, tokens w (Join.layout ⟨kind, .plain s, terms⟩) = do
        let behind ← tokens w terms.layout
        return .text (kind.text ++ " ") :: .text (d.reference (.plain s)) :: .text " ON " ::
          behind) ∧
    ((∃ a : AliasSpelling, a.IsValid ∧ a.chars = s.toList ∧
        (∀ b : AliasSpelling, b.IsValid → b.chars = s.toList → b = a) ∧
        (∀ segments starred, ¬ IsDotted segments starred s.toList) ∧
        d.reference (.plain s) =
          d.dotted a.segments false ++ (if a.asWord.isSome then " AS " else " ") ++
            d.quotedSegment a.name.word) ∨
      (∃ segments starred, IsDotted segments starred s.toList ∧
        (∀ a : AliasSpelling, a.IsValid → a.chars ≠ s.toList) ∧
        d.reference (.plain s) = d.dotted segments starred) ∨
      ((∀ a : AliasSpelling, a.IsValid → a.chars ≠ s.toList) ∧
        (∀ segments starred, ¬ IsDotted segments starred s.toList) ∧
        d.reference (.plain s) = s)) := by
  have htext := Writer.reference_of_plainQuotes hw hplain (.plain s)
  have htokens := Piece.tokens_reference hw hplain (.plain s)
  have hsame := withoutLineEnd_of_not_mem hline
  refine ⟨fun sub => ⟨?_, fun _ => ?_, fun kind terms => ?_⟩, ⟨?_, ?_, ?_⟩, ?_⟩
  · exact congrArg liftM htext
  · exact congrArg liftM htext
  · simp only [Join.write, htext, liftM_pure, pure_bind]
  · exact (tokens_singleton w _).trans htokens
  · exact fun _ => (tokens_singleton w _).trans htokens
  · intro kind terms
    simp only [Join.layout, tokens, Piece.tokens, htext, pure_bind, bind_assoc, List.cons_append,
      List.nil_append]
  · cases haliased : aliased? s.toList with
    | some found =>
        obtain ⟨a, ha, hchars, rfl⟩ := AliasSpelling.exists_of_aliased? haliased
        rw [hsame] at hchars
        refine .inl ⟨a, ha, hchars, ?_, ?_, Dialect.reference_of_aliased hquoting ha haliased⟩
        · intro b hb hbchars
          exact hb.eq_of_chars ha (hbchars.trans hchars.symm)
        · intro segments starred
          exact hchars ▸ ha.not_isDotted
    | none =>
        have hnone : ∀ a : AliasSpelling, a.IsValid → a.chars ≠ s.toList := by
          intro a ha hchars
          rw [ha.aliased? (hsame.trans hchars.symm)] at haliased
          cases haliased
        rw [Dialect.reference_of_not_aliased haliased]
        by_cases hdotted : ∃ segments starred, IsDotted segments starred s.toList
        · obtain ⟨segments, starred, hdotted⟩ := hdotted
          exact .inr (.inl ⟨segments, starred, hdotted, hnone,
            Dialect.identifier_of_isDotted hquoting hdotted⟩)
        · refine .inr (.inr ⟨hnone, fun segments starred h => hdotted ⟨_, _, h⟩, ?_⟩)
          refine Dialect.identifier_copied (Bool.and_eq_false_imp.mpr fun _ => ?_)
          rwa [← Bool.not_eq_true, isQuotable_iff, hsame]

/-- The word AS is an alias if nothing follows it. -/
theorem reference_spelled_as :
    let w : Writer := ⟨.dialect .doubleQuoted 0, fun _ => pure "", fun _ => pure ""⟩
    (Dialect.doubleQuoted.isQuoting ∧ Dialect.doubleQuoted.hasPlainQuotes) ∧
      '\n' ∉ "app.users  as".toList ∧
      (∀ sub, (Column.named (.plain "app.users  as")).write w sub =
        pure "\"app\".\"users\" \"as\"") ∧
      tokens w (Column.named (.plain "app.users  as")).layout =
        pure [.text "\"app\".\"users\" \"as\""] := by
  intro w
  have hline : '\n' ∉ "app.users  as".toList := by decide
  refine ⟨⟨rfl, rfl⟩, hline, ?_⟩
  obtain ⟨hwritten, ⟨hentry, -, -⟩, hcases⟩ := reference_spelled (w := w) rfl rfl rfl hline
  let a : AliasSpelling := ⟨["app".toList, "users".toList], none, ⟨"  ".toList, "as".toList⟩⟩
  have ha : a.IsValid := by
    refine ⟨by decide, by decide, ?_, nofun, by decide⟩
    rintro part hpart
    obtain rfl := List.mem_singleton.mp hpart
    exact ⟨by decide, forall_of_all (by decide), by decide, forall_of_all (by decide)⟩
  have hchars : a.chars = "app.users  as".toList := by decide
  rcases hcases with ⟨b, -, -, hunique, -, htext⟩ | ⟨_, _, -, hnone, -⟩ | ⟨hnone, -, -⟩
  · obtain rfl := hunique a ha hchars
    have hspelled : Dialect.doubleQuoted.dotted a.segments false ++ " " ++
        Dialect.doubleQuoted.quotedSegment a.name.word = "\"app\".\"users\" \"as\"" := by
      decide +kernel
    rw [htext.trans hspelled] at hwritten hentry
    exact ⟨fun sub => (hwritten sub).1, hentry⟩
  · exact absurd hchars (hnone a ha)
  · exact absurd hchars (hnone a ha)

end SqlComposer
