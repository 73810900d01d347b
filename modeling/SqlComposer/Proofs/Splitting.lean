import Mathlib.Data.List.DropRight
import SqlComposer.Text.Blank

/-!
# Taking texts apart

What is cut at a separator can be joined again, and what has been joined is cut into the same parts.
Cutting at blanks gives the words of a text. When each word has blanks in front of it, the text can
be taken apart into these words and blanks in one way only. Trimming twice is trimming once, and
letters may be put into lower case before or after.
-/

namespace SqlComposer.Text

/-! ## Parts between separators -/

section Separators

variable {p : Char → Bool} {c : Char}

theorem splitAll_separator (h : p c) (cs : List Char) :
    splitAll p (c :: cs) = [] :: splitAll p cs := by
  simp [splitAll, split, h]

theorem splitAll_other (h : p c = false) (cs : List Char) :
    ∃ first rest, splitAll p cs = first :: rest ∧
      splitAll p (c :: cs) = (c :: first) :: rest :=
  ⟨_, _, rfl, by simp [splitAll, split, h]⟩

theorem splitAll_append (h : p c) (front back : List Char) :
    splitAll p (front ++ c :: back) = splitAll p front ++ splitAll p back := by
  induction front with
  | nil => exact splitAll_separator h back
  | cons x front ih =>
      rw [List.cons_append]
      cases hx : p x with
      | true => rw [splitAll_separator hx, splitAll_separator hx, ih, List.cons_append]
      | false =>
          obtain ⟨first, rest, hrest, hsplit⟩ := splitAll_other hx front
          obtain ⟨first', rest', hrest', hsplit'⟩ := splitAll_other hx (front ++ c :: back)
          rw [ih, hrest, List.cons_append] at hrest'
          obtain ⟨rfl, rfl⟩ := List.cons.inj hrest'
          rw [hsplit, hsplit', List.cons_append]

theorem splitAll_free {cs : List Char} (h : ∀ c ∈ cs, p c = false) :
    splitAll p cs = [cs] := by
  induction cs with
  | nil => rfl
  | cons c cs ih =>
      obtain ⟨first, rest, hrest, hsplit⟩ := splitAll_other (h c List.mem_cons_self) cs
      rw [ih fun c hc => h c (List.mem_cons_of_mem _ hc)] at hrest
      obtain ⟨rfl, rfl⟩ := List.cons.inj hrest
      exact hsplit

theorem mem_splitAll (p : Char → Bool) {cs : List Char} (h : c ∈ cs) :
    p c ∨ ∃ part ∈ splitAll p cs, c ∈ part := by
  induction cs with
  | nil => cases h
  | cons x cs ih =>
      cases hx : p x with
      | true =>
          rw [splitAll_separator hx]
          obtain rfl | hc := List.mem_cons.mp h
          · exact .inl hx
          · refine (ih hc).imp_right ?_
            rintro ⟨part, hpart, hc⟩
            exact ⟨part, List.mem_cons_of_mem _ hpart, hc⟩
      | false =>
          obtain ⟨first, rest, hrest, hsplit⟩ := splitAll_other hx cs
          rw [hsplit]
          obtain rfl | hc := List.mem_cons.mp h
          · exact .inr ⟨_, List.mem_cons_self, List.mem_cons_self⟩
          · rw [hrest] at ih
            refine (ih hc).imp_right ?_
            rintro ⟨part, hpart, hc⟩
            obtain rfl | hpart := List.mem_cons.mp hpart
            · exact ⟨_, List.mem_cons_self, List.mem_cons_of_mem _ hc⟩
            · exact ⟨part, List.mem_cons_of_mem _ hpart, hc⟩

theorem not_separator_of_mem {cs part : List Char} (hpart : part ∈ splitAll p cs)
    (hc : c ∈ part) : p c = false := by
  induction cs generalizing part with
  | nil =>
      obtain rfl := List.mem_singleton.mp hpart
      cases hc
  | cons x cs ih =>
      cases hx : p x with
      | true =>
          rw [splitAll_separator hx] at hpart
          obtain rfl | hpart := List.mem_cons.mp hpart
          · cases hc
          · exact ih hpart hc
      | false =>
          obtain ⟨first, rest, hrest, hsplit⟩ := splitAll_other hx cs
          rw [hsplit] at hpart
          rw [hrest] at ih
          obtain rfl | hpart := List.mem_cons.mp hpart
          · obtain rfl | hc := List.mem_cons.mp hc
            · exact hx
            · exact ih List.mem_cons_self hc
          · exact ih (List.mem_cons_of_mem _ hpart) hc

end Separators

theorem intercalate_splitAll (separator : Char) (cs : List Char) :
    [separator].intercalate (splitAll (· == separator) cs) = cs := by
  induction cs with
  | nil => rfl
  | cons c cs ih =>
      by_cases hc : c = separator
      · have hsplit := splitAll_separator (p := (· == separator)) (beq_iff_eq.mpr hc) cs
        rw [hsplit, splitAll, List.intercalate_cons_cons, ← splitAll, ih, hc]
        rfl
      · obtain ⟨first, rest, hrest, hsplit⟩ :=
          splitAll_other (p := (· == separator)) (beq_false_of_ne hc) cs
        rw [hrest] at ih
        rw [hsplit]
        cases rest with
        | nil => simpa using ih
        | cons next rest =>
            rw [List.intercalate_cons_cons] at ih
            rw [List.intercalate_cons_cons, List.cons_append, List.cons_append, ih]

theorem splitAll_intercalate {separator : Char} : {parts : List (List Char)} → parts ≠ [] →
    (∀ part ∈ parts, separator ∉ part) →
      splitAll (· == separator) ([separator].intercalate parts) = parts
  | [], h, _ => absurd rfl h
  | part :: parts, _, hfree => by
      have hpart : splitAll (· == separator) part = [part] := splitAll_free fun c hc =>
        beq_false_of_ne fun h => hfree part List.mem_cons_self (h ▸ hc)
      cases parts with
      | nil => rw [List.intercalate_singleton, hpart]
      | cons next parts =>
          have hrest := splitAll_intercalate (List.cons_ne_nil next parts) fun part hmem =>
            hfree part (List.mem_cons_of_mem _ hmem)
          have hcut := splitAll_append (p := (· == separator))
            (beq_self_eq_true separator) part ([separator].intercalate (next :: parts))
          rw [List.intercalate_cons_cons, List.append_assoc, List.singleton_append, hcut, hpart,
            hrest, List.singleton_append]

theorem intercalate_append_last (separator last tail : List Char) : (front : List (List Char)) →
    separator.intercalate (front ++ [last]) ++ tail =
      separator.intercalate (front ++ [last ++ tail])
  | [] => by simp
  | [part] => by simp [List.intercalate_cons_cons]
  | part :: next :: front => by
      have hrest := intercalate_append_last separator last tail (next :: front)
      simp only [List.cons_append] at hrest ⊢
      rw [List.intercalate_cons_cons, List.intercalate_cons_cons, List.append_assoc, hrest]

/-! ## Words -/

theorem words_append {c : Char} (h : isBlank c) (front back : List Char) :
    words (front ++ c :: back) = words front ++ words back := by
  rw [words, splitAll_append h, List.filter_append]
  rfl

theorem words_cons {c : Char} (h : isBlank c) (cs : List Char) : words (c :: cs) = words cs :=
  words_append h [] cs

theorem words_behind_blanks {gap : List Char} (h : ∀ c ∈ gap, isBlank c) (cs : List Char) :
    words (gap ++ cs) = words cs := by
  induction gap with
  | nil => rfl
  | cons c gap ih =>
      rw [List.cons_append, words_cons (h c List.mem_cons_self)]
      exact ih fun c hc => h c (List.mem_cons_of_mem _ hc)

theorem words_of_blank {cs : List Char} (h : ∀ c ∈ cs, isBlank c) : words cs = [] := by
  rw [← List.append_nil cs, words_behind_blanks h]
  rfl

theorem words_of_word {cs : List Char} (hne : cs ≠ []) (h : ∀ c ∈ cs, isBlank c = false) :
    words cs = [cs] := by
  rw [words, splitAll_free h]
  simp [hne]

theorem blank_of_words_nil {cs : List Char} (h : words cs = []) : ∀ c ∈ cs, isBlank c := by
  intro c hc
  refine (mem_splitAll isBlank hc).resolve_right ?_
  rintro ⟨part, hpart, hmem⟩
  have hkept : part ∈ words cs := by simp [words, hpart, List.ne_nil_of_mem hmem]
  rw [h] at hkept
  cases hkept

/-! ## Words with blanks in front -/

/-- A word with the blanks in front of it. -/
structure SpacedWord where
  gap : List Char
  word : List Char

structure SpacedWord.IsValid (w : SpacedWord) : Prop where
  gap_ne : w.gap ≠ []
  blank : ∀ c ∈ w.gap, isBlank c
  word_ne : w.word ≠ []
  notBlank : ∀ c ∈ w.word, isBlank c = false

theorem SpacedWord.IsValid.head_word {w : SpacedWord} (h : w.IsValid) (cs : List Char) {c : Char}
    (hc : (w.word ++ cs).head? = some c) : isBlank c = false := by
  obtain ⟨first, rest, hword⟩ := List.exists_cons_of_ne_nil h.word_ne
  rw [hword] at hc
  obtain rfl : first = c := Option.some.inj hc
  exact h.notBlank first (hword ▸ List.mem_cons_self)

theorem SpacedWord.IsValid.blank_of_head {w : SpacedWord} (h : w.IsValid) {cs : List Char}
    {c : Char} (hc : (w.gap ++ cs).head? = some c) : isBlank c := by
  obtain ⟨first, rest, hgap⟩ := List.exists_cons_of_ne_nil h.gap_ne
  rw [hgap] at hc
  obtain rfl : first = c := Option.some.inj hc
  exact h.blank first (hgap ▸ List.mem_cons_self)

theorem blank_gaps {parts : List SpacedWord} (h : parts.all (·.gap.all isBlank)) :
    ∀ part ∈ parts, ∀ c ∈ part.gap, isBlank c :=
  fun part hpart => List.all_eq_true.mp (List.all_eq_true.mp h part hpart)

/-- Words one behind the other, each with the blanks in front of it. -/
def spaced (parts : List SpacedWord) : List Char :=
  parts.flatMap fun part => part.gap ++ part.word

@[simp] theorem spaced_nil : spaced [] = [] := rfl

@[simp] theorem spaced_cons (part : SpacedWord) (parts : List SpacedWord) :
    spaced (part :: parts) = part.gap ++ (part.word ++ spaced parts) := by
  simp [spaced]

section Runs

variable {p : Char → Bool} {run rest : List Char} (hrun : ∀ c ∈ run, p c)
  (hrest : ∀ c, rest.head? = some c → p c = false)
include hrun hrest

theorem takeWhile_run : (run ++ rest).takeWhile p = run := by
  rw [List.takeWhile_append_of_pos hrun]
  cases rest with
  | nil => simp
  | cons c rest => simp [hrest c rfl]

theorem dropWhile_run : (run ++ rest).dropWhile p = rest := by
  rw [List.dropWhile_append_of_pos hrun]
  cases rest with
  | nil => rfl
  | cons c rest => simp [hrest c rfl]

end Runs

theorem run_injective {p : Char → Bool} {run run' rest rest' : List Char} (hrun : ∀ c ∈ run, p c)
    (hrun' : ∀ c ∈ run', p c) (hrest : ∀ c, rest.head? = some c → p c = false)
    (hrest' : ∀ c, rest'.head? = some c → p c = false) (h : run ++ rest = run' ++ rest') :
    run = run' ∧ rest = rest' := by
  refine ⟨?_, ?_⟩
  · rw [← takeWhile_run hrun hrest, h, takeWhile_run hrun' hrest']
  · rw [← dropWhile_run hrun hrest, h, dropWhile_run hrun' hrest']

section Spaced

variable {parts parts' : List SpacedWord} (hparts : ∀ part ∈ parts, part.IsValid)
include hparts

theorem blank_of_head_spaced (c : Char) (h : (spaced parts).head? = some c) : isBlank c := by
  cases parts with
  | nil => cases h
  | cons part parts =>
      rw [spaced_cons] at h
      exact (hparts part List.mem_cons_self).blank_of_head h

theorem words_spaced (front : List Char) {tail : List Char} (htail : ∀ c ∈ tail, isBlank c) :
    words (front ++ (spaced parts ++ tail)) = words front ++ parts.map SpacedWord.word := by
  induction parts generalizing front with
  | nil =>
      cases tail with
      | nil => simp
      | cons b tail =>
          have hrest := words_of_blank fun c hc => htail c (List.mem_cons_of_mem _ hc)
          simp [words_append (htail b List.mem_cons_self), hrest]
  | cons part parts ih =>
      have hpart := hparts part List.mem_cons_self
      have hrest := ih (fun part hmem => hparts part (List.mem_cons_of_mem _ hmem)) part.word
      obtain ⟨b, gap, hgap⟩ := List.exists_cons_of_ne_nil hpart.gap_ne
      have hblank : ∀ c ∈ gap, isBlank c := fun c hc =>
        hpart.blank c (hgap ▸ List.mem_cons_of_mem _ hc)
      rw [spaced_cons, hgap, List.append_assoc, List.cons_append, List.append_assoc,
        words_append (hpart.blank b (hgap ▸ List.mem_cons_self)), words_behind_blanks hblank, hrest,
        words_of_word hpart.word_ne hpart.notBlank]
      rfl

theorem spaced_behind {word word' : List Char} (hparts' : ∀ part ∈ parts', part.IsValid)
    (hword : ∀ c ∈ word, isBlank c = false) (hword' : ∀ c ∈ word', isBlank c = false)
    (h : word ++ spaced parts = word' ++ spaced parts') :
    word = word' ∧ spaced parts = spaced parts' :=
  run_injective (p := (!isBlank ·)) (by simpa using hword) (by simpa using hword')
    (by simpa using blank_of_head_spaced hparts) (by simpa using blank_of_head_spaced hparts') h

theorem spaced_injective (hparts' : ∀ part ∈ parts', part.IsValid)
    (h : spaced parts = spaced parts') : parts = parts' := by
  induction parts generalizing parts' with
  | nil =>
      cases parts' with
      | nil => rfl
      | cons part parts' => simp [(hparts' part List.mem_cons_self).gap_ne] at h
  | cons part parts ih =>
      cases parts' with
      | nil => simp [(hparts part List.mem_cons_self).gap_ne] at h
      | cons part' parts' =>
          have hpart := hparts part List.mem_cons_self
          have hpart' := hparts' part' List.mem_cons_self
          have hrest := fun part hmem => hparts part (List.mem_cons_of_mem _ hmem)
          have hrest' := fun part hmem => hparts' part (List.mem_cons_of_mem _ hmem)
          rw [spaced_cons, spaced_cons] at h
          obtain ⟨hgap, hword⟩ := run_injective hpart.blank hpart'.blank
            (fun _ => hpart.head_word _) (fun _ => hpart'.head_word _) h
          obtain ⟨hword, hspaced⟩ := spaced_behind hrest hrest' hpart.notBlank hpart'.notBlank hword
          cases part
          cases part'
          cases hgap
          cases hword
          rw [ih hrest hrest' hspaced]

end Spaced

/-! ## Trimmed texts -/

section Trimming

variable {p : Char → Bool} {c : Char} {cs : List Char}

theorem trimBy_eq (p : Char → Bool) (cs : List Char) :
    trimBy p cs = (cs.dropWhile p).rdropWhile p :=
  rfl

theorem mem_of_mem_trimBy (h : c ∈ trimBy p cs) : c ∈ cs :=
  (List.dropWhile_sublist p).subset ((List.rdropWhile_prefix p _).subset h)

theorem not_dropped_of_trimBy {rest : List Char} (h : trimBy p cs = c :: rest) : p c = false := by
  obtain ⟨behind, hbehind⟩ := List.rdropWhile_prefix p (cs.dropWhile p)
  have hfirst := List.head?_dropWhile_not p cs
  rw [← hbehind, ← trimBy_eq, h] at hfirst
  exact hfirst

theorem trimBy_trimBy : trimBy p (trimBy p cs) = trimBy p cs := by
  have hfront : (trimBy p cs).dropWhile p = trimBy p cs := by
    cases h : trimBy p cs with
    | nil => rfl
    | cons c rest => rw [List.dropWhile_cons_of_neg (by simp [not_dropped_of_trimBy h])]
  rw [trimBy_eq p (trimBy p cs), hfront, trimBy_eq, List.rdropWhile_idempotent]

theorem trimBy_map {f : Char → Char} (h : ∀ c, p (f c) = p c) :
    trimBy p (cs.map f) = (trimBy p cs).map f := by
  have hsame : p ∘ f = p := funext h
  simp only [trimBy, List.dropWhile_map, ← List.map_reverse, hsame]

end Trimming

/-! ## Lower case -/

/-- Only the capitals of ASCII have another lower case. -/
theorem toLower_cases (c : Char) :
    c.toLower = c ∨
      (65 ≤ c.toNat ∧ c.toNat ≤ 90) ∧ 97 ≤ c.toLower.toNat ∧ c.toLower.toNat ≤ 122 := by
  by_cases h : c.val ≥ 'A'.val ∧ c.val ≤ 'Z'.val
  · have hcapital : 65 ≤ c.toNat ∧ c.toNat ≤ 90 := h
    have hlower : c.toLower.toNat = (c.toNat + 32) % 2 ^ 32 :=
      (congrArg Char.toNat (dif_pos h)).trans (UInt32.toNat_add ..)
    omega
  · exact .inl (dif_neg h)

theorem toLower_toLower (c : Char) : c.toLower.toLower = c.toLower := by
  rcases toLower_cases c with h | ⟨-, h⟩
  · rw [h, h]
  · refine (toLower_cases c.toLower).resolve_right ?_
    omega

theorem isBlank_toLower (c : Char) : isBlank c.toLower = isBlank c := by
  have hletter {c : Char} (h : 65 ≤ c.toNat ∧ c.toNat ≤ 122) : isBlank c = false := by
    simp [isBlank, inBlocks, blankBlocks]
    omega
  rcases toLower_cases c with h | ⟨h, h'⟩
  · rw [h]
  · rw [hletter (by omega), hletter (by omega)]

end SqlComposer.Text
