import SqlComposer.Proofs.Spelling

/-!
# Dotted names

A name is quoted if it is made of bare identifiers with dots between them, perhaps with a star at
the end, and then it is quoted segment by segment. Any other name is written as it is. One line feed
at the end of a name is overlooked when its shape is checked, and not when it is quoted.
-/

namespace SqlComposer

/-! ## Shapes -/

namespace Identifier

theorem code_of_isAlphanum {c : Char} (h : c.isAlphanum) :
    48 ≤ c.toNat ∧ c.toNat ≤ 57 ∨ 65 ≤ c.toNat ∧ c.toNat ≤ 90 ∨ 97 ≤ c.toNat ∧ c.toNat ≤ 122 := by
  have hclasses : c.isAlphanum = ((decide (65 ≤ c.val ∧ c.val ≤ 90) ||
      (decide (97 ≤ c.val) && decide (c.val ≤ 122))) ||
        (decide (48 ≤ c.val) && decide (c.val ≤ 57))) := rfl
  simp only [hclasses, Bool.or_eq_true, Bool.and_eq_true, decide_eq_true_eq,
    UInt32.le_iff_toNat_le] at h
  change ((65 ≤ c.toNat ∧ c.toNat ≤ 90) ∨ (97 ≤ c.toNat ∧ c.toNat ≤ 122)) ∨
    (48 ≤ c.toNat ∧ c.toNat ≤ 57) at h
  omega

theorem isFollower_of_isStart {c : Char} (h : isStart c) : isFollower c := by
  simp only [isStart, isFollower, Char.isAlphanum, Bool.or_eq_true] at h ⊢
  exact .inl (h.imp_left .inl)

theorem notBlank_of_isFollower {c : Char} (h : isFollower c) : Text.isBlank c = false := by
  simp only [isFollower, Bool.or_eq_true, decide_eq_true_eq] at h
  rcases h with (h | rfl) | rfl
  · have hcode := code_of_isAlphanum h
    simp only [Text.isBlank, Text.inBlocks, Text.blankBlocks, List.any_cons, List.any_nil,
      Bool.or_false, Bool.or_eq_false_iff, Bool.and_eq_false_iff, decide_eq_false_iff_not]
    omega
  · decide
  · decide

theorem isFollower_of_isBare {cs : List Char} (h : isBare cs) {c : Char} (hc : c ∈ cs) :
    isFollower c := by
  cases cs with
  | nil => cases hc
  | cons first cs =>
      obtain ⟨hfirst, hrest⟩ := Bool.and_eq_true_iff.mp h
      obtain rfl | hc := List.mem_cons.mp hc
      · exact isFollower_of_isStart hfirst
      · exact List.all_eq_true.mp hrest c hc

theorem follower_of_isPath {cs : List Char} (h : isPath cs) {c : Char} (hc : c ∈ cs) :
    isFollower c ∨ c = '.' := by
  obtain hdot | ⟨segment, hsegment, hc⟩ := Text.mem_splitAll (· == '.') hc
  · exact .inr (eq_of_beq hdot)
  · exact .inl (isFollower_of_isBare (List.all_eq_true.mp h segment hsegment) hc)

theorem not_mem_path {cs : List Char} (h : isPath cs) :
    ∀ c ∈ ['"', '\n', ' ', ',', '(', ')'], c ∉ cs := by
  intro c hc hmem
  have hnone : ∀ c ∈ ['"', '\n', ' ', ',', '(', ')'], ¬ (isFollower c ∨ c = '.') :=
    forall_of_all (by decide)
  exact hnone c hc (follower_of_isPath h hmem)

/-! ## Dotted names -/

/-- The last segment of a starred name. -/
def starSegment (starred : Bool) : List (List Char) :=
  if starred then [['*']] else []

/-- Bare identifiers with dots between them and, if the name is starred, a dot and a star behind
them. -/
structure IsDotted (segments : List (List Char)) (starred : Bool) (cs : List Char) : Prop where
  nonempty : segments ≠ []
  bare : ∀ segment ∈ segments, isBare segment
  joined : cs = ['.'].intercalate (segments ++ starSegment starred)

section Dotted

variable {segments : List (List Char)} {starred : Bool} {cs : List Char}

theorem not_mem_star_of_bare (h : ∀ segment ∈ segments, isBare segment) : ['*'] ∉ segments :=
  fun hstar => absurd (h _ hstar) (by decide)

theorem IsDotted.segments_eq (h : IsDotted segments starred cs) :
    Identifier.segments cs = segments ++ starSegment starred := by
  rw [h.joined]
  refine Text.splitAll_intercalate (by simp [h.nonempty]) ?_
  intro segment hsegment hdot
  obtain hsegment | hstar := List.mem_append.mp hsegment
  · exact absurd (isFollower_of_isBare (h.bare segment hsegment) hdot) (by decide)
  · cases starred with
    | true =>
        obtain rfl := List.mem_singleton.mp hstar
        exact absurd hdot (by decide)
    | false => cases hstar

theorem IsDotted.mem (h : IsDotted segments starred cs) {c : Char} (hc : c ∈ cs) :
    isFollower c ∨ c = '.' ∨ c = '*' := by
  obtain hdot | ⟨segment, hsegment, hc⟩ := Text.mem_splitAll (· == '.') hc
  · exact .inr (.inl (eq_of_beq hdot))
  · rw [← Identifier.segments, h.segments_eq] at hsegment
    obtain hsegment | hstar := List.mem_append.mp hsegment
    · exact .inl (isFollower_of_isBare (h.bare segment hsegment) hc)
    · cases starred with
      | true =>
          obtain rfl := List.mem_singleton.mp hstar
          exact .inr (.inr (List.mem_singleton.mp hc))
      | false => cases hstar

theorem IsDotted.notBlank (h : IsDotted segments starred cs) :
    ∀ c ∈ cs, Text.isBlank c = false := by
  intro c hc
  rcases h.mem hc with hfollower | rfl | rfl
  · exact notBlank_of_isFollower hfollower
  · decide
  · decide

theorem isPath_iff : isPath cs ↔ ∃ segments, IsDotted segments false cs := by
  constructor
  · intro h
    refine ⟨Identifier.segments cs, List.cons_ne_nil _ _, List.all_eq_true.mp h, ?_⟩
    rw [starSegment, if_neg Bool.false_ne_true, List.append_nil]
    exact (Text.intercalate_splitAll '.' cs).symm
  · rintro ⟨segments, h⟩
    rw [isPath, h.segments_eq, starSegment, if_neg Bool.false_ne_true, List.append_nil]
    exact List.all_eq_true.mpr h.bare

theorem isStarredPath_iff : isStarredPath cs ↔ ∃ segments, IsDotted segments true cs := by
  simp only [isStarredPath, Bool.and_eq_true, beq_iff_eq, bne_iff_ne]
  constructor
  · rintro ⟨⟨hlast, hne⟩, hbare⟩
    refine ⟨_, hne, List.all_eq_true.mp hbare, ?_⟩
    obtain ⟨front, hfront⟩ := List.getLast?_eq_some_iff.mp hlast
    rw [hfront, List.dropLast_concat, starSegment, if_pos rfl, ← hfront]
    exact (Text.intercalate_splitAll '.' cs).symm
  · rintro ⟨segments, h⟩
    rw [h.segments_eq, starSegment, if_pos rfl, List.dropLast_concat]
    exact ⟨⟨List.getLast?_concat, h.nonempty⟩, List.all_eq_true.mpr h.bare⟩

theorem isQuotable_iff :
    isQuotable cs ↔ ∃ segments starred, IsDotted segments starred (withoutLineEnd cs) := by
  rw [isQuotable, Bool.or_eq_true, isPath_iff, isStarredPath_iff]
  constructor
  · rintro (⟨segments, h⟩ | ⟨segments, h⟩)
    · exact ⟨segments, false, h⟩
    · exact ⟨segments, true, h⟩
  · rintro ⟨segments, _ | _, h⟩
    · exact .inl ⟨segments, h⟩
    · exact .inr ⟨segments, h⟩

/-! ### Line ends -/

theorem withoutLineEnd_append (cs : List Char) : withoutLineEnd (cs ++ ['\n']) = cs := by
  simp [withoutLineEnd]

theorem withoutLineEnd_of_not_mem (h : '\n' ∉ cs) : withoutLineEnd cs = cs := by
  have hlast : cs.getLast? ≠ some '\n' := fun hlast => h (List.mem_of_getLast? hlast)
  simp [withoutLineEnd, hlast]

theorem withoutLineEnd_cases (cs : List Char) :
    withoutLineEnd cs = cs ∨ cs = withoutLineEnd cs ++ ['\n'] := by
  unfold withoutLineEnd
  split
  · rename_i hlast
    obtain ⟨front, hfront⟩ := List.getLast?_eq_some_iff.mp (eq_of_beq hlast)
    rw [hfront, List.dropLast_concat]
    exact .inr rfl
  · exact .inl rfl

/-- A line feed behind a path belongs to its last segment. -/
theorem segments_append_lineEnd {front : List (List Char)} {last : List Char}
    (h : Identifier.segments cs = front ++ [last]) :
    Identifier.segments (cs ++ ['\n']) = front ++ [last ++ ['\n']] := by
  have hfree : ∀ segment ∈ front ++ [last], '.' ∉ segment := by
    intro segment hsegment hdot
    rw [← h] at hsegment
    cases Text.not_separator_of_mem hsegment hdot
  have hjoined : cs ++ ['\n'] = ['.'].intercalate (front ++ [last ++ ['\n']]) := by
    rw [← Text.intercalate_append_last, ← h]
    exact congrArg (· ++ ['\n']) (Text.intercalate_splitAll '.' cs).symm
  rw [hjoined]
  refine Text.splitAll_intercalate (by simp) ?_
  simp only [List.mem_append, List.mem_singleton, or_imp, forall_and, forall_eq] at hfree ⊢
  refine ⟨hfree.1, ?_⟩
  rintro (hdot | hdot)
  · exact hfree.2 hdot
  · cases hdot

theorem IsDotted.not_mem_lineFeed (h : IsDotted segments starred cs) : '\n' ∉ cs :=
  fun hmem => absurd (h.notBlank _ hmem) (by decide)

theorem IsDotted.isQuotable (h : IsDotted segments starred cs) : isQuotable cs :=
  isQuotable_iff.mpr
    ⟨segments, starred, (withoutLineEnd_of_not_mem h.not_mem_lineFeed).symm ▸ h⟩

theorem isQuotable_of_isPath (h : isPath cs) : isQuotable cs :=
  have ⟨_, hdotted⟩ := isPath_iff.mp h
  hdotted.isQuotable

end Dotted

end Identifier

/-! ## Quoted names -/

namespace Dialect

open Identifier

variable {d : Dialect}

/-- A segment of a path between the quotes of a dialect. -/
def quotedSegment (d : Dialect) (segment : List Char) : String :=
  (d.quote (.plain (String.ofList segment))).text

/-- Segments between quotes, with dots between them and perhaps a star behind them. -/
def dotted (d : Dialect) (segments : List (List Char)) (starred : Bool) : String :=
  ".".intercalate (segments.map d.quotedSegment ++ if starred then ["*"] else [])

theorem partText_quoted (d : Dialect) (segment : List Char) :
    d.partText (.quoted (.plain (String.ofList segment))) = d.quotedSegment segment := by
  rw [partText, quotedSegment, quote]
  split <;> rfl

theorem spelled_intersperse (d : Dialect) : (parts : List NamePart) →
    d.spelled (parts.intersperse (.copied ".")) = ".".intercalate (parts.map d.partText)
  | [] => rfl
  | [part] => by simp [spelled]
  | part :: next :: parts => by
      have hrest := d.spelled_intersperse (next :: parts)
      rw [spelled] at hrest
      rw [List.intersperse_cons_cons, spelled, List.map_cons, List.map_cons, String.join_cons,
        String.join_cons, hrest, List.map_cons, List.map_cons, List.map_cons,
        String.intercalate_cons_cons, String.append_assoc]
      rfl

theorem spelled_pathParts {cs : List Char} {segments : List (List Char)} {starred : Bool}
    (hcs : Identifier.segments cs = segments ++ starSegment starred) (hstar : ['*'] ∉ segments) :
    d.spelled (pathParts cs) = d.dotted segments starred := by
  have hsegments : segments.map (d.partText ∘ segmentPart) = segments.map d.quotedSegment := by
    refine List.map_congr_left fun segment hsegment => ?_
    have hne : segment ≠ ['*'] := fun heq => hstar (heq ▸ hsegment)
    rw [Function.comp_apply, segmentPart, if_neg hne, partText_quoted]
  rw [pathParts, spelled_intersperse, hcs, List.map_map, List.map_append, hsegments, dotted]
  cases starred <;> rfl

theorem identifier_of_isQuotable (hquoting : d.isQuoting) {s : String}
    (h : isQuotable s.toList) : d.identifier (.plain s) = d.spelled (pathParts s.toList) := by
  rw [identifier, identifierParts, if_pos (by simp [hquoting, h, Name.text])]
  rfl

theorem identifier_copied {s : String} (h : (d.isQuoting && isQuotable s.toList) = false) :
    d.identifier (.plain s) = s := by
  rw [identifier, identifierParts, if_neg (by simpa [Name.text] using h)]
  exact d.spelled_copied s

theorem identifier_of_blank {s : String} (hline : '\n' ∉ s.toList) {c : Char} (hc : c ∈ s.toList)
    (hblank : Text.isBlank c) : d.identifier (.plain s) = s := by
  refine identifier_copied (Bool.and_eq_false_imp.mpr fun _ => ?_)
  rw [← Bool.not_eq_true, isQuotable_iff, withoutLineEnd_of_not_mem hline]
  rintro ⟨segments, starred, hdotted⟩
  rw [hdotted.notBlank c hc] at hblank
  cases hblank

theorem identifier_of_isDotted (hquoting : d.isQuoting) {s : String}
    {segments : List (List Char)} {starred : Bool} (h : IsDotted segments starred s.toList) :
    d.identifier (.plain s) = d.dotted segments starred := by
  rw [identifier_of_isQuotable hquoting h.isQuotable]
  exact spelled_pathParts h.segments_eq (not_mem_star_of_bare h.bare)

/-- A line feed behind a dotted name is put between the last quotes. -/
theorem identifier_of_lineEnd (hquoting : d.isQuoting) {s : String} {path : List Char}
    {segments front : List (List Char)} {starred : Bool} {last : List Char}
    (h : IsDotted segments starred path) (hs : s.toList = path ++ ['\n'])
    (hlast : segments ++ starSegment starred = front ++ [last]) :
    d.identifier (.plain s) = d.dotted (front ++ [last ++ ['\n']]) false := by
  have hquotable : isQuotable s.toList := by
    rw [hs, isQuotable_iff, withoutLineEnd_append]
    exact ⟨segments, starred, h⟩
  have hcut : Identifier.segments s.toList = front ++ [last ++ ['\n']] := by
    rw [hs]
    exact segments_append_lineEnd (h.segments_eq.trans hlast)
  rw [identifier_of_isQuotable hquoting hquotable]
  refine spelled_pathParts (by simpa [starSegment] using hcut) ?_
  intro hstar
  obtain hfront | hstar := List.mem_append.mp hstar
  · cases starred with
    | true =>
        obtain ⟨rfl, -⟩ := List.append_inj' hlast rfl
        exact not_mem_star_of_bare h.bare hfront
    | false =>
        have hmem : ['*'] ∈ segments ++ starSegment false :=
          hlast ▸ List.mem_append_left _ hfront
        exact not_mem_star_of_bare h.bare (by simpa [starSegment] using hmem)
  · have hnone := congrArg List.getLast? (List.mem_singleton.mp hstar)
    simp at hnone

end Dialect

open Identifier

/-- In a dialect with quotes, a dotted name is written with each segment between quotes and the
star, if there is one, as it is. With one line feed behind it, it is quoted all the same: the line
feed goes between the last quotes, and the star with it. Any other name is written as it is. -/
theorem identifier_spelled {d : Dialect} {w : Writer} {serial : Serial}
    (hw : w.dialect = .dialect d serial) (hquoting : d.isQuoting) (hplain : d.hasPlainQuotes)
    (s : String) :
    w.identifier (.plain s) = pure (d.identifier (.plain s)) ∧
      (Piece.identifier (.plain s)).tokens w = pure [.text (d.identifier (.plain s))] ∧
      (∀ segments starred, IsDotted segments starred s.toList →
        d.identifier (.plain s) = d.dotted segments starred) ∧
      (∀ front last path, IsDotted (front ++ [last]) false path → s.toList = path ++ ['\n'] →
        d.identifier (.plain s) = d.dotted (front ++ [last ++ ['\n']]) false) ∧
      (∀ segments path, IsDotted segments true path → s.toList = path ++ ['\n'] →
        d.identifier (.plain s) = d.dotted (segments ++ [['*', '\n']]) false) ∧
      ((∀ segments starred path, IsDotted segments starred path →
          s.toList ≠ path ∧ s.toList ≠ path ++ ['\n']) →
        d.identifier (.plain s) = s) := by
  refine ⟨Writer.identifier_of_plainQuotes hw hplain _, Piece.tokens_identifier hw hplain _,
    ?_, ?_, ?_, ?_⟩
  · intro segments starred h
    exact Dialect.identifier_of_isDotted hquoting h
  · intro front last path h hs
    exact Dialect.identifier_of_lineEnd hquoting h hs (List.append_nil _)
  · intro segments path h hs
    exact Dialect.identifier_of_lineEnd hquoting h hs rfl
  · intro hnone
    refine Dialect.identifier_copied (Bool.and_eq_false_imp.mpr fun _ => ?_)
    rw [← Bool.not_eq_true, isQuotable_iff]
    rintro ⟨segments, starred, h⟩
    obtain ⟨hsame, hline⟩ := hnone segments starred _ h
    rcases withoutLineEnd_cases s.toList with heq | heq
    · exact hsame heq.symm
    · exact hline heq

/-- The dialect with double quotes and everything else as in the default one. -/
def Dialect.doubleQuoted : Dialect :=
  { Dialect.standard with opening := .ofText "\"", closing := .ofText "\"" }

theorem identifier_spelled_starred :
    let w : Writer := ⟨.dialect .doubleQuoted 0, fun _ => pure "", fun _ => pure ""⟩
    (Dialect.doubleQuoted.isQuoting ∧ Dialect.doubleQuoted.hasPlainQuotes) ∧
      IsDotted ["u".toList, "id".toList] true "u.id.*".toList ∧
      w.identifier (.plain "u.id.*") = pure "\"u\".\"id\".*" ∧
      (Piece.identifier (.plain "u.id.*")).tokens w = pure [.text "\"u\".\"id\".*"] ∧
      (Piece.identifier (.plain "u.id.*\n")).tokens w = pure [.text "\"u\".\"id\".\"*\n\""] := by
  intro w
  have hdotted : IsDotted ["u".toList, "id".toList] true "u.id.*".toList :=
    ⟨by decide, by decide, by decide⟩
  have hstar := identifier_spelled (w := w) rfl rfl rfl "u.id.*"
  have hline := identifier_spelled (w := w) rfl rfl rfl "u.id.*\n"
  have htext : Dialect.doubleQuoted.dotted ["u".toList, "id".toList] true = "\"u\".\"id\".*" := by
    decide +kernel
  refine ⟨⟨rfl, rfl⟩, hdotted, ?_, ?_, ?_⟩
  · rw [hstar.1, hstar.2.2.1 _ _ hdotted, htext]
  · rw [hstar.2.1, hstar.2.2.1 _ _ hdotted, htext]
  · have htext : Dialect.doubleQuoted.dotted ["u".toList, "id".toList, "*\n".toList] false =
        "\"u\".\"id\".\"*\n\"" := by
      decide +kernel
    rw [hline.2.1, hline.2.2.2.2.1 _ _ hdotted (by decide)]
    exact congrArg (pure [Token.text ·]) htext

/-- A name with a line feed behind it is no dotted name, but it is quoted. -/
theorem line_feed_quoted :
    (∀ segments starred, ¬ IsDotted segments starred "users\n".toList) ∧
      Dialect.doubleQuoted.identifier (.plain "users\n") = "\"users\n\"" := by
  refine ⟨fun segments starred h => h.not_mem_lineFeed (by decide), ?_⟩
  decide +kernel

end SqlComposer
