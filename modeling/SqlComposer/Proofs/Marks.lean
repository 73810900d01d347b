import SqlComposer.Proofs.Aliases
import SqlComposer.Proofs.Orderings

/-!
# Marks in names

Placeholders start with one of four marks. A name is written without a mark if neither the name nor
the quotes around it have the mark, whatever is read as a path, an alias or a direction.
-/

namespace SqlComposer

/-- The characters that placeholders start with. -/
def marks : List Char := ['$', ':', '?', '%']

abbrev Lacks (mark : Char) (text : String) : Prop :=
  mark ∉ text.toList

variable {mark : Char}

theorem lacks_of_marks {text : String} (hmark : mark ∈ marks)
    (h : marks.all fun mark => mark ∉ text.toList) : Lacks mark text :=
  forall_of_all h mark hmark

theorem lacks_append {s t : String} : Lacks mark (s ++ t) ↔ Lacks mark s ∧ Lacks mark t := by
  rw [Lacks, String.toList_append, List.mem_append, not_or]

theorem lacks_ofList {cs : List Char} : Lacks mark (String.ofList cs) ↔ mark ∉ cs := by
  rw [Lacks, String.toList_ofList]

theorem lacks_of_subset {cs ds : List Char} (hsub : ∀ c ∈ cs, c ∈ ds) (h : mark ∉ ds) :
    mark ∉ cs :=
  fun hmem => h (hsub mark hmem)

theorem Text.lacks_double {closing s : String} (hclosing : Lacks mark closing) (hs : Lacks mark s) :
    Lacks mark (Text.double closing s) := by
  have hfrom : ∀ (cs : List Char) (skip : Nat), mark ∉ cs →
      mark ∉ Text.doubleFrom closing.toList skip cs := by
    intro cs
    induction cs with
    | nil => exact fun _ h => h
    | cons c cs ih =>
        intro skip h
        rw [List.mem_cons, not_or] at h
        cases skip with
        | succ skip =>
            rw [Text.doubleFrom, List.mem_cons, not_or]
            exact ⟨h.1, ih skip h.2⟩
        | zero =>
            rw [Text.doubleFrom]
            split
            · rw [List.mem_append, List.mem_cons, not_or, not_or]
              exact ⟨hclosing, h.1, ih _ h.2⟩
            · rw [List.mem_cons, not_or]
              exact ⟨h.1, ih 0 h.2⟩
  unfold Text.double
  split
  · exact hs
  · exact lacks_ofList.mpr (hfrom _ 0 hs)

theorem Name.lacks_display (hmark : mark ∈ marks) {name : Name} (h : Lacks mark name.text) :
    Lacks mark name.display := by
  cases name with
  | plain text => exact h
  | keyword word =>
      refine lacks_of_marks hmark ?_
      cases word with
      | joinKind kind => cases kind <;> decide
      | placeholderStyle style => cases style <;> decide

namespace Identifier

/-! ## Characters of aliases and orderings -/

theorem mem_of_mem_withoutLineEnd {cs : List Char} {c : Char} (h : c ∈ withoutLineEnd cs) :
    c ∈ cs := by
  unfold withoutLineEnd at h
  split at h
  · exact (List.dropLast_sublist cs).mem h
  · exact h

theorem mem_of_mem_aliased {cs : List Char} {found : Aliased} (h : aliased? cs = some found)
    {c : Char} (hc : c ∈ found.path ∨ c ∈ found.name) : c ∈ cs := by
  obtain ⟨a, -, hchars, rfl⟩ := AliasSpelling.exists_of_aliased? h
  refine mem_of_mem_withoutLineEnd (hchars ▸ List.mem_append.mpr (hc.imp_right fun hname => ?_))
  exact List.mem_flatMap.mpr ⟨a.name, List.mem_append_right _ List.mem_cons_self,
    List.mem_append_right _ hname⟩

theorem not_mem_upperChars (hmark : mark ∈ marks) {capitals word : List Char}
    (hcapitals : capitals ∈ directionWords) (h : spells capitals word) :
    mark ∉ Text.upperChars word := by
  intro hmem
  obtain ⟨capital, hcapital, hletter⟩ := exists_isLetter (areCapitalized hcapitals h).spells hmem
  have hnone := forall_letter (P := fun _ c => c ∉ marks) (by decide)
    (mem_directionLetters hcapitals capital hcapital) hletter
  exact hnone hmark

theorem Direction.IsValid.not_mem_capitals (hmark : mark ∈ marks) {o : Direction} (h : o.IsValid) :
    mark ∉ o.capitals.chars := by
  intro hmem
  obtain ⟨capitalized, hcapitalized, hmem⟩ := List.mem_flatMap.mp hmem
  rw [parts_capitals] at hcapitalized
  obtain ⟨part, hpart, rfl⟩ := List.mem_map.mp hcapitalized
  obtain ⟨capitals, hcapitals, -, hspells⟩ := h.spelled hpart
  have hword := not_mem_upperChars hmark hcapitals hspells
  have hblank : ∀ mark ∈ marks, mark ∉ [' '] := forall_of_all (by decide)
  exact (List.mem_append.mp hmem).elim (hblank mark hmark) hword

theorem Ordered.lacks_spelled (hmark : mark ∈ marks) {text : String} {found : Ordered}
    (h : Lacks mark text) (hfound : ordered? text.toList = some found) :
    mark ∉ found.expression ∧ Lacks mark found.suffix := by
  obtain ⟨expression, o, hordered, rfl⟩ := exists_of_ordered? hfound
  obtain ⟨tail, -, htext⟩ := hordered.split
  refine ⟨fun hmem => h (htext ▸ List.mem_append_left _ hmem), ?_⟩
  rw [Direction.suffix_behind, lacks_ofList]
  exact hordered.valid.not_mem_capitals hmark

end Identifier

/-! ## Names -/

namespace Dialect

open Identifier

/-- The quotes of a dialect that are texts. -/
def quoteNames (d : Dialect) : List Name :=
  if d.isQuoting then [d.opening, d.closingQuote].filterMap Value.name? else []

variable {d : Dialect} (hmark : mark ∈ marks)
include hmark

theorem lacks_partText (hquotes : ∀ quote ∈ d.quoteNames, Lacks mark quote.text) {part : NamePart}
    (h : Lacks mark part.unquoted) : Lacks mark (d.partText part) := by
  cases part with
  | copied text => exact h
  | quoted name =>
      rw [partText, quote]
      by_cases hquoting : d.isQuoting
      · rw [quoteNames, if_pos hquoting] at hquotes
        rw [if_pos hquoting, enclose]
        split
        · rename_i opening closing hopening hclosing
          have hopeningText := hquotes opening (by simp [hopening])
          have hclosingText := hquotes closing (by simp [hclosing])
          simp only [Name.display, enclosed, lacks_append]
          exact ⟨⟨Name.lacks_display hmark hopeningText, Text.lacks_double hclosingText h⟩,
            Name.lacks_display hmark hclosingText⟩
        · exact h
      · rw [if_neg hquoting]
        exact Name.lacks_display hmark h

theorem lacks_spelled (hquotes : ∀ quote ∈ d.quoteNames, Lacks mark quote.text)
    {parts : List NamePart} (h : Lacks mark (unquoted parts)) : Lacks mark (d.spelled parts) := by
  induction parts with
  | nil => exact h
  | cons part parts ih =>
      rw [unquoted_cons, lacks_append] at h
      rw [spelled, List.map_cons, String.join_cons, lacks_append]
      exact ⟨lacks_partText hmark hquotes h.1, ih h.2⟩

theorem lacks_identifierParts {name : Name} (h : Lacks mark name.text) :
    Lacks mark (unquoted (d.identifierParts name)) := by
  unfold identifierParts
  split
  · rwa [unquoted_pathParts, String.ofList_toList]
  · simpa [NamePart.unquoted] using Name.lacks_display hmark h

theorem lacks_referenceParts {name : Name} (h : Lacks mark name.text) :
    Lacks mark (unquoted (d.referenceParts name)) := by
  unfold referenceParts
  split
  · rename_i found hfound
    have haliased : aliased? name.text.toList = some found := by
      by_cases hquoting : d.isQuoting
      · rwa [if_pos hquoting] at hfound
      · rw [if_neg hquoting] at hfound
        cases hfound
    have hpath : mark ∉ found.path :=
      lacks_of_subset (fun c hc => mem_of_mem_aliased haliased (.inl hc)) h
    have hname : mark ∉ found.name :=
      lacks_of_subset (fun c hc => mem_of_mem_aliased haliased (.inr hc)) h
    have hword : Lacks mark (if found.hasAs then " AS " else " ") := by
      split <;> exact lacks_of_marks hmark (by decide)
    simp only [unquoted_append, unquoted_cons, unquoted_nil, lacks_append, NamePart.unquoted]
    exact ⟨lacks_identifierParts hmark (lacks_ofList.mpr hpath), hword,
      lacks_ofList.mpr hname, by simp [Lacks]⟩
  · exact lacks_identifierParts hmark h

theorem lacks_orderingParts {name : Name} (h : Lacks mark name.text) :
    Lacks mark (unquoted (d.orderingParts name)) := by
  unfold orderingParts
  split
  · rename_i found hfound
    obtain ⟨hexpression, hsuffix⟩ := Ordered.lacks_spelled hmark h hfound
    simp only [unquoted_append, unquoted_cons, unquoted_nil, lacks_append, NamePart.unquoted]
    exact ⟨lacks_identifierParts hmark (lacks_ofList.mpr hexpression), hsuffix, by simp [Lacks]⟩
  · exact lacks_referenceParts hmark h

end Dialect

end SqlComposer
