import Mathlib.Data.List.DropRight
import SqlComposer.Proofs.Directions
import SqlComposer.Proofs.Paths
import SqlComposer.Proofs.Sequence

/-!
# Items to order by

An item may have a direction behind its expression. The shortest expression on one line is taken
that a direction follows, so it has no blank at its end unless it is one blank and nothing else. An
item is read in one way at most.
-/

namespace SqlComposer

namespace Identifier

/-! ## Expressions -/

/-- The characters are an expression with a direction behind it, up to the end. -/
structure IsOrdered (expression : List Char) (o : Direction) (cs : List Char) : Prop where
  valid : o.IsValid
  split : ∃ tail, isAtEnd tail ∧ cs = expression ++ (o.chars ++ tail)
  nonempty : expression ≠ []
  oneLine : '\n' ∉ expression
  shortest : ∀ front b, front ≠ [] → expression = front ++ [b] → Text.isBlank b = false

section Search

variable {before cs front behind : List Char} {found : Ordered}

/-- What is found is the shortest expression that a direction follows. -/
theorem split_of_orderedFrom (h : orderedFrom before cs = some found) :
    ∃ front behind, cs = front ++ behind ∧ found.expression = before.reverse ++ front ∧
      '\n' ∉ front ∧ found.expression ≠ [] ∧
      direction? behind = some (found.direction, found.nulls) ∧
      ∀ shorter b, front = shorter ++ [b] → before.reverse ++ shorter ≠ [] →
        direction? (b :: behind) = none := by
  induction cs generalizing before with
  | nil => cases h
  | cons c cs ih =>
      rw [orderedFrom] at h
      split at h
      · rename_i direction nulls hdirection
        cases h
        split at hdirection
        · cases hdirection
        · rename_i hbefore
          refine ⟨[], c :: cs, rfl, by simp, nofun, by simpa using hbefore, hdirection, ?_⟩
          intro shorter b hfront
          simp at hfront
      · rename_i hnone
        split at h
        · cases h
        · rename_i hline
          obtain ⟨front, behind, rfl, hexpression, hfront, hne, hdirection, hshortest⟩ := ih h
          refine ⟨c :: front, behind, rfl, by simpa using hexpression, ?_, hne, hdirection, ?_⟩
          · simpa [hfront] using Ne.symm hline
          · intro shorter b hsplit hshorter
            cases shorter with
            | nil =>
                obtain ⟨rfl, rfl⟩ := List.cons.inj hsplit
                rwa [if_neg (by simpa using hshorter)] at hnone
            | cons first shorter =>
                exact hshortest shorter b (List.cons.inj hsplit).2 (by simp)

theorem orderedFrom_of_split {direction : List Char} {nulls : Option (List Char)}
    (hdirection : direction? behind = some (direction, nulls)) (hline : '\n' ∉ front)
    (hne : before.reverse ++ front ≠ [])
    (hshortest : ∀ shorter rest, front = shorter ++ rest → rest ≠ [] →
      before.reverse ++ shorter ≠ [] → direction? (rest ++ behind) = none) :
    orderedFrom before (front ++ behind) = some ⟨before.reverse ++ front, direction, nulls⟩ := by
  induction front generalizing before with
  | nil =>
      cases behind with
      | nil => cases hdirection
      | cons c behind =>
          rw [List.append_nil] at hne
          rw [List.nil_append, orderedFrom, if_neg (by simpa using hne), hdirection,
            List.append_nil]
  | cons c front ih =>
      rw [List.mem_cons, not_or] at hline
      have hnone :
          (if before.isEmpty then none else direction? (c :: (front ++ behind))) = none := by
        split
        · rfl
        · rename_i hbefore
          exact hshortest [] (c :: front) rfl (List.cons_ne_nil _ _) (by simpa using hbefore)
      rw [List.cons_append, orderedFrom, hnone]
      simp only [if_neg (Ne.symm hline.1)]
      rw [ih hline.2 (by simp) ?_]
      · simp
      · intro shorter rest hfront hrest _
        exact hshortest (c :: shorter) rest (congrArg _ hfront) hrest (by simp)

end Search

variable {cs expression : List Char} {o : Direction} {found : Ordered}

theorem IsOrdered.ordered? (h : IsOrdered expression o cs) :
    ordered? cs = some (o.behind expression) := by
  obtain ⟨tail, htail, rfl⟩ := h.split
  refine orderedFrom_of_split (h.valid.direction? htail) h.oneLine h.nonempty ?_
  intro shorter rest hsplit hrest hshorter
  cases hdirection : direction? (rest ++ (o.chars ++ tail)) with
  | none => rfl
  | some read =>
      obtain ⟨o', ho', -, tail', htail', hsame⟩ := Direction.exists_of_direction? hdirection
      -- The end of the expression would be blanks in front of the same direction.
      have hblank := h.valid.blank_of_overlap ho' htail htail' hsame
      obtain ⟨rest, b, rfl⟩ := (List.eq_nil_or_concat rest).resolve_left hrest
      have hlast := h.shortest (shorter ++ rest) b
        (List.append_ne_nil_of_left_ne_nil (by simpa using hshorter) _) (by simp [hsplit])
      rw [hblank b (by simp)] at hlast
      cases hlast

theorem exists_of_ordered? (h : ordered? cs = some found) :
    ∃ expression o, IsOrdered expression o cs ∧ found = o.behind expression := by
  obtain ⟨front, behind, rfl, hexpression, hline, hne, hdirection, hshortest⟩ :=
    split_of_orderedFrom h
  obtain ⟨o, ho, hfound, tail, htail, rfl⟩ := Direction.exists_of_direction? hdirection
  rw [List.reverse_nil, List.nil_append] at hexpression
  rw [hexpression] at hne
  refine ⟨front, o, ⟨ho, ⟨tail, htail, rfl⟩, hne, hline, ?_⟩, ?_⟩
  · intro shorter b hshorter hfront
    by_contra hblank
    have hlonger : direction? ([b] ++ (o.chars ++ tail)) = some (found.direction, found.nulls) :=
      Direction.direction?_of_blank (by simpa using hblank) hdirection
    rw [List.singleton_append, hshortest shorter b hfront hshorter] at hlonger
    cases hlonger
  · rw [Direction.behind, hfound, ← hexpression]

theorem IsOrdered.getLast? (h : IsOrdered expression o cs) :
    ∃ c ∈ ['\n', 'C', 'c', 'T', 't'], cs.getLast? = some c := by
  obtain ⟨tail, htail, rfl⟩ := h.split
  rcases isAtEnd_iff.mp htail with rfl | rfl
  · obtain ⟨c, hc, hlast⟩ := h.valid.getLast?_chars
    exact ⟨c, List.mem_cons_of_mem _ hc, by simp [hlast]⟩
  · exact ⟨'\n', List.mem_cons_self, by simp⟩

theorem IsOrdered.expression_eq {expression' : List Char} {o' : Direction}
    (h : IsOrdered expression o cs) (h' : IsOrdered expression' o' cs) :
    expression = expression' := by
  have hread := h.ordered?
  rw [h'.ordered?] at hread
  exact (congrArg Ordered.expression (Option.some.inj hread)).symm

/-- The blanks at the end of an expression belong to the direction. -/
theorem exists_isOrdered (ho : o.IsValid) {front tail : List Char} (htail : isAtEnd tail)
    (hline : '\n' ∉ front) {c : Char} (hc : c ∈ front) (hblank : Text.isBlank c = false) :
    ∃ expression o', IsOrdered expression o' (front ++ (o.chars ++ tail)) := by
  have hne : front.rdropWhile Text.isBlank ≠ [] := by
    intro hnil
    rw [List.rdropWhile_eq_nil_iff.mp hnil c hc] at hblank
    cases hblank
  refine ⟨front.rdropWhile Text.isBlank, o.widened (front.rtakeWhile Text.isBlank),
    ho.widened fun _ => List.mem_rtakeWhile_imp, ⟨tail, htail, ?_⟩, hne, ?_, ?_⟩
  · rw [Direction.chars_widened, List.append_assoc, ← List.append_assoc (front.rdropWhile _),
      List.rdropWhile_append_rtakeWhile]
  · exact fun hmem => hline ((List.rdropWhile_prefix _ _).subset hmem)
  · intro shorter b _ hsplit
    have hlast := List.rdropWhile_last_not Text.isBlank front hne
    simp only [hsplit, List.getLast_concat] at hlast
    exact Bool.eq_false_iff.mpr hlast

/-! ## ASCII -/

/-- The characters are an expression with a direction in ASCII behind it. -/
structure IsSplit (expression : List Char) (o : Direction) (cs : List Char) : Prop where
  nonempty : expression ≠ []
  spelled : o.IsSpelled
  joined : cs = expression ++ o.chars

/-- There is no blank at the end. -/
def EndsInWord (cs : List Char) : Prop :=
  ∀ c, cs.getLast? = some c → Text.isBlank c = false

section Ascii

variable (hascii : ∀ c ∈ cs, c.toNat < 128) (hline : '\n' ∉ cs)
include hascii hline

theorem IsOrdered.isSplit (h : IsOrdered expression o cs) : IsSplit expression o cs := by
  obtain ⟨tail, htail, rfl⟩ := h.split
  rcases isAtEnd_iff.mp htail with rfl | rfl
  · have hchars : ∀ c ∈ o.chars, c.toNat < 128 := fun c hc => hascii c (by simp [hc])
    exact ⟨h.nonempty, (Direction.isValid_iff_isSpelled hchars).mp h.valid, by simp⟩
  · exact absurd (by simp) hline

theorem IsSplit.isValid (h : IsSplit expression o cs) : o.IsValid := by
  obtain rfl := h.joined
  exact (Direction.isValid_iff_isSpelled fun c hc => hascii c (by simp [hc])).mpr h.spelled

theorem IsSplit.isOrdered (h : IsSplit expression o cs) (hend : EndsInWord expression) :
    IsOrdered expression o cs := by
  refine ⟨h.isValid hascii hline, ⟨[], rfl, by simpa using h.joined⟩, h.nonempty, ?_, ?_⟩
  · exact fun hmem => hline (h.joined ▸ List.mem_append_left _ hmem)
  · intro front b _ hsplit
    exact hend b (by simp [hsplit])

theorem IsSplit.unique {expression' : List Char} {o' : Direction}
    (h : IsSplit expression o cs) (hend : EndsInWord expression)
    (h' : IsSplit expression' o' cs) (hend' : EndsInWord expression') :
    expression' = expression ∧ o' = o := by
  have hordered := h.isOrdered hascii hline hend
  have hordered' := h'.isOrdered hascii hline hend'
  obtain rfl := hordered.expression_eq hordered'
  have hchars := h'.joined.symm.trans h.joined
  exact ⟨rfl, hordered'.valid.eq_of_chars hordered.valid (List.append_cancel_left hchars)⟩

end Ascii

theorem IsOrdered.endsInWord (h : IsOrdered expression o cs)
    (hhead : ∀ c, cs.head? = some c → Text.isBlank c = false) : EndsInWord expression := by
  intro c hc
  obtain ⟨front, rfl⟩ := List.getLast?_eq_some_iff.mp hc
  obtain ⟨tail, -, rfl⟩ := h.split
  by_cases hfront : front = []
  · exact hhead c (by simp [hfront])
  · exact h.shortest front c hfront rfl

theorem IsSplit.ordered?_isSome (h : IsSplit expression o cs) (hascii : ∀ c ∈ cs, c.toNat < 128)
    (hline : '\n' ∉ cs) (hhead : ∀ c, cs.head? = some c → Text.isBlank c = false) :
    (ordered? cs).isSome := by
  have hvalid := h.isValid hascii hline
  obtain ⟨c, rest, hexpression⟩ := List.exists_cons_of_ne_nil h.nonempty
  obtain rfl := h.joined
  have hfront : '\n' ∉ expression := fun hmem => hline (List.mem_append_left _ hmem)
  have hc : Text.isBlank c = false := hhead c (by simp [hexpression])
  obtain ⟨_, _, hordered⟩ := exists_isOrdered hvalid (show isAtEnd [] from rfl) hfront
    (hexpression ▸ List.mem_cons_self) hc
  rw [List.append_nil] at hordered
  rw [hordered.ordered?]
  rfl

end Identifier

namespace Dialect

open Identifier

variable {d : Dialect} {s : String} {expression : List Char} {o : Direction}

theorem ordering_of_isOrdered (h : IsOrdered expression o s.toList) :
    d.ordering (.plain s) =
      d.identifier (.plain (String.ofList expression)) ++ String.ofList o.capitals.chars := by
  have hparts : d.orderingParts (.plain s) =
      d.identifierParts (.plain (String.ofList expression)) ++
        [.copied (o.behind expression).suffix] := by
    rw [orderingParts, Name.text, h.ordered?]
    rfl
  rw [ordering, hparts, spelled_append, spelled_copied, Direction.suffix_behind]
  rfl

theorem ordering_of_not_ordered (h : ordered? s.toList = none) :
    d.ordering (.plain s) = d.reference (.plain s) := by
  rw [ordering, orderingParts, Name.text, h]
  rfl

end Dialect

open Identifier

/-- An item of ASCII characters on one line may be an expression with a direction behind it, in one
way only: the expression is then written as an identifier, and the words of the direction in
capitals, with single blanks. Any other item is written like an entry of a list. An expression with
a direction at its own end is copied. -/
theorem ordering_spelled {d : Dialect} {w : Writer} {serial : Serial}
    (hw : w.dialect = .dialect d serial) (hplain : d.hasPlainQuotes) {s : String}
    (hascii : ∀ c ∈ s.toList, c.toNat < 128) (hline : '\n' ∉ s.toList)
    (hhead : ∀ c, s.toList.head? = some c → Text.isBlank c = false) :
    (∃ expression o, IsSplit expression o s.toList ∧ EndsInWord expression ∧
        (∀ expression' o', IsSplit expression' o' s.toList → EndsInWord expression' →
          expression' = expression ∧ o' = o) ∧
        (∀ sub : SelectId → Binding String, (Column.named (.plain s)).writeOrder w sub =
          pure (d.identifier (.plain (String.ofList expression)) ++ o.written)) ∧
        tokens w (Column.named (.plain s)).orderLayout =
          pure [.text (d.identifier (.plain (String.ofList expression)) ++ o.written)] ∧
        ∀ front o', IsSplit front o' expression →
          d.identifier (.plain (String.ofList expression)) = String.ofList expression) ∨
      ((∀ expression o, ¬ IsSplit expression o s.toList) ∧
        (∀ sub : SelectId → Binding String, (Column.named (.plain s)).writeOrder w sub =
          (Column.named (.plain s)).write w sub) ∧
        tokens w (Column.named (.plain s)).orderLayout =
          tokens w (Column.named (.plain s)).layout) := by
  have htext : w.ordering (.plain s) = pure (d.ordering (.plain s)) :=
    Writer.ordering_of_plainQuotes hw hplain _
  have htokens : tokens w (Column.named (.plain s)).orderLayout =
      pure [.text (d.ordering (.plain s))] :=
    (tokens_singleton w _).trans (Piece.tokens_ordering hw hplain _)
  cases hordered : ordered? s.toList with
  | some found =>
      obtain ⟨expression, o, h, rfl⟩ := exists_of_ordered? hordered
      have hsplit := h.isSplit hascii hline
      have hend := h.endsInWord hhead
      have hchars : ∀ c ∈ o.chars, c.toNat < 128 := fun c hc =>
        hascii c (hsplit.joined ▸ List.mem_append_right _ hc)
      have hwritten : d.ordering (.plain s) =
          d.identifier (.plain (String.ofList expression)) ++ o.written := by
        rw [Dialect.ordering_of_isOrdered h, h.valid.written hchars]
      refine .inl ⟨expression, o, hsplit, hend, ?_, fun sub => ?_, ?_, ?_⟩
      · exact fun _ _ h' hend' => hsplit.unique hascii hline hend h' hend'
      · rw [← hwritten]
        exact congrArg liftM htext
      · rw [htokens, hwritten]
      · intro front o' hfront
        obtain ⟨b, gap, hgap⟩ :=
          List.exists_cons_of_ne_nil (hfront.spelled.gap_ne o'.word List.mem_cons_self)
        have hblank : Text.isBlank b :=
          hfront.spelled.blank o'.word List.mem_cons_self b (hgap ▸ List.mem_cons_self)
        have hmem : b ∈ expression := by
          simp [hfront.joined, Direction.chars, Direction.parts, hgap]
        exact Dialect.identifier_of_blank (String.toList_ofList ▸ h.oneLine)
          (String.toList_ofList ▸ hmem) hblank
  | none =>
      have hsame := Dialect.ordering_of_not_ordered (d := d) hordered
      refine .inr ⟨?_, fun sub => ?_, ?_⟩
      · intro expression o h
        have hsome := h.ordered?_isSome hascii hline hhead
        rw [hordered] at hsome
        cases hsome
      · rw [hsame, ← Writer.reference_of_plainQuotes hw hplain] at htext
        exact congrArg liftM htext
      · rw [htokens, hsame]
        exact ((tokens_singleton w _).trans (Piece.tokens_reference hw hplain _)).symm

/-- Only the last direction is taken off. -/
theorem ordering_spelled_last :
    let w : Writer := ⟨.dialect .doubleQuoted 0, fun _ => pure "", fun _ => pure ""⟩
    Dialect.doubleQuoted.hasPlainQuotes ∧
      (∀ c ∈ "a desc  asc nulls first".toList, c.toNat < 128) ∧
      '\n' ∉ "a desc  asc nulls first".toList ∧
      (∀ c, "a desc  asc nulls first".toList.head? = some c → Text.isBlank c = false) ∧
      (∀ sub, (Column.named (.plain "a desc  asc nulls first")).writeOrder w sub =
        pure "a desc ASC NULLS FIRST") ∧
      tokens w (Column.named (.plain "a desc  asc nulls first")).orderLayout =
        pure [.text "a desc ASC NULLS FIRST"] := by
  intro w
  have hascii : ∀ c ∈ "a desc  asc nulls first".toList, c.toNat < 128 :=
    forall_of_all (by decide)
  have hline : '\n' ∉ "a desc  asc nulls first".toList := by decide
  have hhead : ∀ c, "a desc  asc nulls first".toList.head? = some c → Text.isBlank c = false := by
    rintro c ⟨⟩
    decide
  let o : Direction := ⟨⟨"  ".toList, "asc".toList⟩,
    some (⟨[' '], "nulls".toList⟩, ⟨[' '], "first".toList⟩)⟩
  let o' : Direction := ⟨⟨[' '], "desc".toList⟩, none⟩
  have hsplit : IsSplit "a desc".toList o "a desc  asc nulls first".toList := by
    have hblank := Text.blank_gaps (show o.parts.all (·.gap.all Text.isBlank) by decide)
    refine ⟨by decide, ⟨by decide, hblank, by decide, ?_⟩, by decide⟩
    rintro places ⟨⟩
    decide
  have hsplit' : IsSplit "a".toList o' "a desc".toList := by
    have hblank := Text.blank_gaps (show o'.parts.all (·.gap.all Text.isBlank) by decide)
    exact ⟨by decide, ⟨by decide, hblank, by decide, nofun⟩, by decide⟩
  have hend : EndsInWord "a desc".toList := by
    rintro c ⟨⟩
    decide
  refine ⟨rfl, hascii, hline, hhead, ?_⟩
  rcases ordering_spelled (w := w) rfl rfl hascii hline hhead with
    ⟨expression, read, -, -, hunique, hwritten, htokens, hverbatim⟩ | ⟨hnone, -⟩
  · obtain ⟨rfl, rfl⟩ := hunique _ _ hsplit hend
    have hspelled : String.ofList "a desc".toList ++ o.written = "a desc ASC NULLS FIRST" := by
      decide +kernel
    rw [hverbatim _ _ hsplit', hspelled] at hwritten htokens
    exact ⟨hwritten, htokens⟩
  · exact absurd hsplit (hnone _ _)

/-- A direction with nothing in front of it is an identifier. -/
theorem lone_direction_quoted :
    let o : Direction := ⟨⟨[' '], "desc".toList⟩, none⟩
    IsSplit "asc".toList o "asc desc".toList ∧ EndsInWord "asc".toList ∧
      "asc".toList.map Char.toUpper = "ASC".toList ∧
      Dialect.doubleQuoted.ordering (.plain "asc desc") = "\"asc\" DESC" ∧
      Dialect.doubleQuoted.ordering (.plain "asc desc") ≠ "asc" ++ o.written := by
  intro o
  have hend : EndsInWord "asc".toList := by
    rintro c ⟨⟩
    decide
  have hquoted : Dialect.doubleQuoted.ordering (.plain "asc desc") = "\"asc\" DESC" := by
    decide +kernel
  have hblank := Text.blank_gaps (show o.parts.all (·.gap.all Text.isBlank) by decide)
  refine ⟨⟨by decide, ⟨by decide, hblank, by decide, nofun⟩, by decide⟩, hend, by decide,
    hquoted, ?_⟩
  rw [hquoted]
  decide +kernel

end SqlComposer
