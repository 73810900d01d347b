import Mathlib.Data.List.Forall2
import Mathlib.Data.List.TakeDrop
import Mathlib.Data.List.TakeWhile
import SqlComposer.Proofs.Spelling

/-!
# Directions

Behind an expression to order by stand blanks and a direction, perhaps with the place of NULL
values, up to the end. The words are read in either case and written in capitals. Of two directions
that end at one place, the longer one only has more blanks in front.
-/

namespace SqlComposer

namespace Identifier

/-! ## Letters -/

/-- The letters of the words that a direction is spelled with. -/
def directionLetters : List Char := "ACDEFILNRSTU".toList

/-- The letters that are taken for a capital. Three of them are outside of ASCII. -/
def lettersOf (capital : Char) : List Char :=
  [capital, capital.toLower, 'ſ', 'İ', 'ı'].filter (isLetter capital)

theorem isLetter_iff {capital c : Char} : isLetter capital c ↔ c ∈ lettersOf capital := by
  rw [lettersOf, List.mem_filter]
  refine ⟨fun h => ⟨?_, h⟩, And.right⟩
  simp only [isLetter, Bool.or_eq_true, Bool.and_eq_true, decide_eq_true_eq] at h
  rcases h with ((rfl | rfl) | ⟨-, rfl⟩) | ⟨-, rfl | rfl⟩ <;> simp

theorem isLetter_toUpper {c : Char} (hascii : c.toNat < 128) : isLetter c.toUpper c := by
  have hall : (List.range 128).all fun code =>
      isLetter (Char.ofNat code).toUpper (Char.ofNat code) := by decide +kernel
  have hletter := List.all_eq_true.mp hall c.toNat (List.mem_range.mpr hascii)
  rwa [Char.ofNat_toNat] at hletter

/-- What holds of all letters that are taken for a capital, checked one by one. -/
theorem forall_letter {P : Char → Char → Prop} [∀ capital c, Decidable (P capital c)]
    (hall : directionLetters.all fun capital => (lettersOf capital).all fun c => P capital c)
    {capital c : Char} (hcapital : capital ∈ directionLetters) (h : isLetter capital c) :
    P capital c :=
  forall_of_all (List.all_eq_true.mp hall capital hcapital) c (isLetter_iff.mp h)

/-- A letter has one letter as its upper case, which stands for the same capital and is in upper
case already. In ASCII it is the capital. -/
structure IsCapitalized (capital c upper : Char) : Prop where
  capitalized : Text.upperChar c = [upper]
  letter : isLetter capital upper
  again : Text.upperChar upper = [upper]
  notBlank : Text.isBlank c = false
  ascii : c.toNat < 128 → upper = capital ∧ c.toUpper = capital

section Letters

variable {capital c : Char} (hcapital : capital ∈ directionLetters)
include hcapital

theorem exists_isCapitalized (h : isLetter capital c) : ∃ upper, IsCapitalized capital c upper := by
  obtain ⟨hlength, hupper, hblank⟩ := forall_letter
    (P := fun capital c => (Text.upperChar c).length = 1 ∧
      ((Text.upperChar c).all fun upper => isLetter capital upper ∧
        Text.upperChar upper = [upper] ∧
          (c.toNat < 128 → upper = capital ∧ c.toUpper = capital)) ∧
      Text.isBlank c = false)
    (by decide +kernel) hcapital h
  obtain ⟨upper, heq⟩ := List.length_eq_one_iff.mp hlength
  obtain ⟨hletter, hagain, hascii⟩ := forall_of_all hupper upper (heq ▸ List.mem_cons_self)
  exact ⟨upper, heq, hletter, hagain, hblank, hascii⟩

theorem isLetter_of_ascii (hascii : c.toNat < 128) : isLetter capital c ↔ c.toUpper = capital := by
  constructor
  · intro h
    obtain ⟨upper, hupper⟩ := exists_isCapitalized hcapital h
    exact (hupper.ascii hascii).2
  · rintro rfl
    exact isLetter_toUpper hascii

end Letters

/-! ## Words -/

/-- The words that directions and the places of NULL values are spelled with. -/
def directionWords : List (List Char) :=
  ["ASC".toList, "DESC".toList, "NULLS".toList, "FIRST".toList, "LAST".toList]

theorem mem_directionLetters {capitals : List Char} (h : capitals ∈ directionWords) :
    ∀ capital ∈ capitals, capital ∈ directionLetters := by
  have hall : directionWords.all fun capitals => capitals.all (· ∈ directionLetters) := by decide
  exact forall_of_all (List.all_eq_true.mp hall capitals h)

section Spelled

variable {capitals word : List Char}

theorem spells_iff :
    spells capitals word ↔ List.Forall₂ (fun capital c => isLetter capital c) capitals word := by
  induction capitals generalizing word with
  | nil => cases word <;> simp [spells]
  | cons capital capitals ih => cases word <;> simp [spells, ih]

theorem ne_nil_of_spells {capital : Char} (h : spells (capital :: capitals) word) : word ≠ [] := by
  rintro rfl
  cases h

theorem exists_isLetter (h : spells capitals word) {c : Char} (hc : c ∈ word) :
    ∃ capital ∈ capitals, isLetter capital c := by
  rw [spells_iff] at h
  induction h with
  | nil => cases hc
  | cons hletter _ ih =>
      obtain rfl | hc := List.mem_cons.mp hc
      · exact ⟨_, List.mem_cons_self, hletter⟩
      · obtain ⟨capital, hcapital, hletter⟩ := ih hc
        exact ⟨capital, List.mem_cons_of_mem _ hcapital, hletter⟩

theorem spells_of_ascii (hcapitals : capitals ∈ directionWords)
    (hascii : ∀ c ∈ word, c.toNat < 128) :
    spells capitals word ↔ word.map Char.toUpper = capitals := by
  replace hcapitals := mem_directionLetters hcapitals
  induction capitals generalizing word with
  | nil => cases word <;> simp [spells]
  | cons capital capitals ih =>
      cases word with
      | nil => simp [spells]
      | cons c word =>
          rw [List.forall_mem_cons] at hcapitals hascii
          rw [spells, Bool.and_eq_true, List.map_cons, List.cons.injEq]
          exact and_congr (isLetter_of_ascii hcapitals.1 hascii.1) (ih hascii.2 hcapitals.2)

/-- Each character has an upper case that stands for the capital in its place. -/
def AreCapitalized (capitals word : List Char) : Prop :=
  List.Forall₂ (fun capital c => ∃ upper, IsCapitalized capital c upper) capitals word

theorem areCapitalized (hcapitals : capitals ∈ directionWords) (h : spells capitals word) :
    AreCapitalized capitals word := by
  replace hcapitals := mem_directionLetters hcapitals
  rw [spells_iff] at h
  induction h with
  | nil => exact .nil
  | cons hletter _ ih =>
      rw [List.forall_mem_cons] at hcapitals
      exact .cons (exists_isCapitalized hcapitals.1 hletter) (ih hcapitals.2)

theorem AreCapitalized.notBlank (h : AreCapitalized capitals word) :
    ∀ c ∈ word, Text.isBlank c = false := by
  induction h with
  | nil => exact nofun
  | cons hletter _ ih =>
      obtain ⟨upper, hupper⟩ := hletter
      exact List.forall_mem_cons.mpr ⟨hupper.notBlank, ih⟩

theorem AreCapitalized.spells (h : AreCapitalized capitals word) :
    spells capitals (Text.upperChars word) := by
  rw [spells_iff]
  induction h with
  | nil => exact .nil
  | cons hletter _ ih =>
      obtain ⟨upper, hupper⟩ := hletter
      rw [Text.upperChars, List.flatMap_cons, hupper.capitalized]
      exact .cons hupper.letter ih

theorem AreCapitalized.upperChars_again (h : AreCapitalized capitals word) :
    Text.upperChars (Text.upperChars word) = Text.upperChars word := by
  induction h with
  | nil => rfl
  | cons hletter _ ih =>
      obtain ⟨upper, hupper⟩ := hletter
      simp only [Text.upperChars, List.flatMap_cons, hupper.capitalized, hupper.again,
        List.singleton_append] at ih ⊢
      exact congrArg _ ih

theorem AreCapitalized.upperChars_eq (h : AreCapitalized capitals word)
    (hascii : ∀ c ∈ word, c.toNat < 128) : Text.upperChars word = capitals := by
  induction h with
  | nil => rfl
  | cons hletter _ ih =>
      obtain ⟨upper, hupper⟩ := hletter
      rw [List.forall_mem_cons] at hascii
      rw [Text.upperChars, List.flatMap_cons, hupper.capitalized, (hupper.ascii hascii.1).1]
      exact congrArg _ (ih hascii.2)

end Spelled

theorem getLast?_of_spells {capital : Char} : {capitals word : List Char} →
    spells (capitals ++ [capital]) word → ∃ c, word.getLast? = some c ∧ isLetter capital c
  | _, [], h => by simp [spells_iff] at h
  | [], c :: word, h => by
      rw [List.nil_append, spells, Bool.and_eq_true] at h
      cases word with
      | nil => exact ⟨c, rfl, h.1⟩
      | cons _ _ => cases h.2
  | _ :: capitals, c :: word, h => by
      rw [List.cons_append, spells, Bool.and_eq_true] at h
      obtain ⟨last, hlast, hletter⟩ := getLast?_of_spells h.2
      exact ⟨last, by simp [List.getLast?_cons, hlast], hletter⟩

theorem isDirection_iff {word : List Char} :
    isDirection word ↔ spells "ASC".toList word ∨ spells "DESC".toList word :=
  Bool.or_eq_true_iff

theorem areNullsWords_iff {first second : List Char} :
    areNullsWords first second ↔
      spells "NULLS".toList first ∧
        (spells "FIRST".toList second ∨ spells "LAST".toList second) := by
  rw [areNullsWords, Bool.and_eq_true, Bool.or_eq_true]
  rfl

theorem isDirection_upperChars {word : List Char} (h : isDirection word) :
    isDirection (Text.upperChars word) := by
  have hupper {capitals : List Char} (hcapitals : capitals ∈ directionWords)
      (h : spells capitals word) := (areCapitalized hcapitals h).spells
  rw [isDirection_iff] at h ⊢
  exact h.imp (hupper (by decide)) (hupper (by decide))

theorem areNullsWords_upperChars {first second : List Char} (h : areNullsWords first second) :
    areNullsWords (Text.upperChars first) (Text.upperChars second) := by
  have hupper {capitals word : List Char} (hcapitals : capitals ∈ directionWords)
      (h : spells capitals word) := (areCapitalized hcapitals h).spells
  rw [areNullsWords_iff] at h ⊢
  exact ⟨hupper (by decide) h.1, h.2.imp (hupper (by decide)) (hupper (by decide))⟩

theorem getLast?_of_isDirection {word : List Char} (h : isDirection word) :
    ∃ c ∈ ['C', 'c'], word.getLast? = some c := by
  have hspells : ∃ capitals, spells (capitals ++ ['C']) word := by
    rcases isDirection_iff.mp h with h | h
    · exact ⟨['A', 'S'], h⟩
    · exact ⟨['D', 'E', 'S'], h⟩
  obtain ⟨capitals, h⟩ := hspells
  obtain ⟨c, hc, hletter⟩ := getLast?_of_spells h
  exact ⟨c, isLetter_iff.mp hletter, hc⟩

theorem getLast?_of_areNullsWords {first second : List Char} (h : areNullsWords first second) :
    ∃ c ∈ ['T', 't'], second.getLast? = some c := by
  have hspells : ∃ capitals, spells (capitals ++ ['T']) second := by
    rcases (areNullsWords_iff.mp h).2 with h | h
    · exact ⟨['F', 'I', 'R', 'S'], h⟩
    · exact ⟨['L', 'A', 'S'], h⟩
  obtain ⟨capitals, h⟩ := hspells
  obtain ⟨c, hc, hletter⟩ := getLast?_of_spells h
  exact ⟨c, isLetter_iff.mp hletter, hc⟩

/-! ## Directions -/

open Text (SpacedWord)

/-- A direction as it stands behind an expression, perhaps with the place of NULL values. -/
structure Direction where
  word : SpacedWord
  nulls : Option (SpacedWord × SpacedWord)

namespace Direction

def parts (o : Direction) : List SpacedWord :=
  o.word :: o.nulls.elim [] fun (nulls, place) => [nulls, place]

def chars (o : Direction) : List Char :=
  Text.spaced o.parts

structure IsValid (o : Direction) : Prop where
  gap_ne : ∀ part ∈ o.parts, part.gap ≠ []
  blank : ∀ part ∈ o.parts, ∀ c ∈ part.gap, Text.isBlank c
  direction : isDirection o.word.word
  nulls : ∀ places ∈ o.nulls, areNullsWords places.1.word places.2.word

/-- The words in upper case, those of the place of NULL values with one blank between them. -/
def found (o : Direction) : List Char × Option (List Char) :=
  (Text.upperChars o.word.word, o.nulls.map fun (nulls, place) =>
    Text.upperChars nulls.word ++ ' ' :: Text.upperChars place.word)

variable {o o' : Direction}

theorem IsValid.spelled (h : o.IsValid) {part : SpacedWord} (hpart : part ∈ o.parts) :
    ∃ capitals ∈ directionWords, capitals ≠ [] ∧ spells capitals part.word := by
  have hdirection :
      ∃ capitals ∈ directionWords, capitals ≠ [] ∧ spells capitals o.word.word := by
    rcases isDirection_iff.mp h.direction with h | h
    · exact ⟨_, by decide, by decide, h⟩
    · exact ⟨_, by decide, by decide, h⟩
  obtain ⟨word, nulls⟩ := o
  cases nulls with
  | none =>
      obtain rfl := List.mem_singleton.mp hpart
      exact hdirection
  | some places =>
      obtain ⟨nulls, place⟩ := places
      obtain ⟨hnulls, hplace⟩ := areNullsWords_iff.mp (h.nulls _ rfl)
      simp only [parts, Option.elim_some, List.mem_cons, List.not_mem_nil, or_false] at hpart
      rcases hpart with rfl | rfl | rfl
      · exact hdirection
      · exact ⟨_, by decide, by decide, hnulls⟩
      · rcases hplace with h | h
        · exact ⟨_, by decide, by decide, h⟩
        · exact ⟨_, by decide, by decide, h⟩

theorem IsValid.parts (h : o.IsValid) : ∀ part ∈ o.parts, part.IsValid := by
  intro part hpart
  obtain ⟨capitals, hcapitals, hne, hspells⟩ := h.spelled hpart
  obtain ⟨capital, capitals, rfl⟩ := List.exists_cons_of_ne_nil hne
  exact ⟨h.gap_ne part hpart, h.blank part hpart, ne_nil_of_spells hspells,
    (areCapitalized hcapitals hspells).notBlank⟩

theorem IsValid.getLast?_chars (h : o.IsValid) :
    ∃ c ∈ ['C', 'c', 'T', 't'], o.chars.getLast? = some c := by
  obtain ⟨word, nulls⟩ := o
  cases nulls with
  | none =>
      obtain ⟨c, hc, hlast⟩ := getLast?_of_isDirection h.direction
      exact ⟨c, List.mem_append_left ['T', 't'] hc, by simp_all [chars, Direction.parts]⟩
  | some places =>
      obtain ⟨c, hc, hlast⟩ := getLast?_of_areNullsWords (h.nulls _ rfl)
      exact ⟨c, List.mem_append_right ['C', 'c'] hc, by simp_all [chars, Direction.parts]⟩

end Direction

/-! ## Reading -/

theorem isAtEnd_iff {cs : List Char} : isAtEnd cs ↔ cs = [] ∨ cs = ['\n'] := by
  simp [isAtEnd]

theorem blank_of_isAtEnd {tail : List Char} (h : isAtEnd tail) : ∀ c ∈ tail, Text.isBlank c := by
  rcases isAtEnd_iff.mp h with rfl | rfl
  · exact nofun
  · exact forall_of_all (by decide)

theorem span_spaced {part : SpacedWord} (hpart : part.IsValid) (rest : List Char)
    (hrest : ∀ c, rest.head? = some c → Text.isBlank c) :
    ((part.gap ++ (part.word ++ rest)).dropWhile Text.isBlank).span (!Text.isBlank ·) =
      (part.word, rest) := by
  have hword : ∀ c ∈ part.word, (!Text.isBlank c) := by simpa using hpart.notBlank
  have hstop : ∀ c, rest.head? = some c → (!Text.isBlank c) = false := by simpa using hrest
  rw [Text.dropWhile_run hpart.blank fun _ => hpart.head_word _, List.span_eq_takeWhile_dropWhile,
    Text.takeWhile_run hword hstop, Text.dropWhile_run hword hstop]

theorem exists_of_span {cs word rest : List Char}
    (h : (cs.dropWhile Text.isBlank).span (!Text.isBlank ·) = (word, rest))
    (hgap : cs.takeWhile Text.isBlank ≠ []) :
    ∃ part : SpacedWord, part.word = word ∧ part.gap ≠ [] ∧ (∀ c ∈ part.gap, Text.isBlank c) ∧
      cs = part.gap ++ (part.word ++ rest) := by
  rw [List.span_eq_takeWhile_dropWhile] at h
  obtain ⟨rfl, rfl⟩ := Prod.mk.inj h
  refine ⟨⟨_, _⟩, rfl, hgap, fun _ hc => List.mem_takeWhile_imp hc, ?_⟩
  rw [List.takeWhile_append_dropWhile, List.takeWhile_append_dropWhile]

theorem takeWhile_behind_span {cs word rest : List Char}
    (h : (cs.dropWhile Text.isBlank).span (!Text.isBlank ·) = (word, rest)) (hne : rest ≠ []) :
    rest.takeWhile Text.isBlank ≠ [] := by
  rw [List.span_eq_takeWhile_dropWhile] at h
  obtain ⟨-, rfl⟩ := Prod.mk.inj h
  have hstop := List.head?_dropWhile_not (!Text.isBlank ·) (cs.dropWhile Text.isBlank)
  obtain ⟨c, rest, hrest⟩ := List.exists_cons_of_ne_nil hne
  rw [hrest, List.head?_cons] at hstop
  rw [hrest, List.takeWhile_cons_of_pos (by simpa using hstop)]
  exact List.cons_ne_nil _ _

theorem not_isAtEnd {part : SpacedWord} (hpart : part.IsValid) (rest : List Char) :
    isAtEnd (part.gap ++ (part.word ++ rest)) = false := by
  rw [← Bool.not_eq_true]
  intro hend
  obtain ⟨c, word, hword⟩ := List.exists_cons_of_ne_nil hpart.word_ne
  have hblank := blank_of_isAtEnd hend c (by simp [hword])
  rw [hpart.notBlank c (by simp [hword])] at hblank
  cases hblank

namespace Direction

variable {o o' : Direction}

theorem IsValid.direction? (h : o.IsValid) {tail : List Char} (htail : isAtEnd tail) :
    direction? (o.chars ++ tail) = some o.found := by
  have hparts := h.parts
  have hend : ∀ c, tail.head? = some c → Text.isBlank c := fun c hc =>
    blank_of_isAtEnd htail c (List.mem_of_mem_head? hc)
  have hword := hparts o.word List.mem_cons_self
  have hgap (rest : List Char) :
      ((o.word.gap ++ (o.word.word ++ rest)).takeWhile Text.isBlank).isEmpty = false := by
    rw [Text.takeWhile_run hword.blank fun _ => hword.head_word _]
    simpa using hword.gap_ne
  have hdirection := h.direction
  have hnulls := h.nulls
  obtain ⟨word, nulls⟩ := o
  cases nulls with
  | none =>
      have hchars : chars ⟨word, none⟩ ++ tail = word.gap ++ (word.word ++ tail) := by
        simp [chars, Direction.parts]
      rw [hchars, Identifier.direction?]
      simp only [hgap, span_spaced hword tail hend, hdirection, htail]
      rfl
  | some places =>
      obtain ⟨nulls, place⟩ := places
      have hfirst := hparts nulls (by simp [Direction.parts])
      have hsecond := hparts place (by simp [Direction.parts])
      have hchars : chars ⟨word, some (nulls, place)⟩ ++ tail =
          word.gap ++ (word.word ++ (nulls.gap ++ (nulls.word ++ (place.gap ++
            (place.word ++ tail))))) := by
        simp [chars, Direction.parts]
      have hbehindWord := span_spaced hword (nulls.gap ++ (nulls.word ++ (place.gap ++
        (place.word ++ tail)))) fun _ => hfirst.blank_of_head
      have hbehindFirst := span_spaced hfirst (place.gap ++ (place.word ++ tail)) fun _ =>
        hsecond.blank_of_head
      rw [hchars, Identifier.direction?]
      simp only [hgap, hbehindWord, hbehindFirst, span_spaced hsecond tail hend, hdirection, htail,
        not_isAtEnd hfirst, hnulls _ rfl]
      rfl

theorem exists_of_direction? {cs : List Char} {found : List Char × Option (List Char)}
    (h : Identifier.direction? cs = some found) :
    ∃ o : Direction, o.IsValid ∧ o.found = found ∧
      ∃ tail, isAtEnd tail ∧ cs = o.chars ++ tail := by
  unfold Identifier.direction? at h
  split at h
  · cases h
  · rename_i hgap
    rw [List.isEmpty_iff] at hgap
    rcases hspan : (cs.dropWhile Text.isBlank).span (!Text.isBlank ·) with ⟨word, behindWord⟩
    obtain ⟨word, rfl, hne, hblank, rfl⟩ := exists_of_span hspan hgap
    simp only [hspan] at h
    split at h
    · cases h
    · rename_i hdirection
      rw [Bool.not_eq_true', Bool.not_eq_false] at hdirection
      split at h
      · rename_i hend
        cases h
        refine ⟨⟨word, none⟩, ⟨?_, ?_, hdirection, nofun⟩, rfl, behindWord, hend, ?_⟩
        · simpa [parts] using hne
        · simpa [parts] using hblank
        · simp [chars, parts]
      · rename_i hmore
        rcases hfirst : (behindWord.dropWhile Text.isBlank).span (!Text.isBlank ·) with
          ⟨nulls, behindNulls⟩
        rcases hsecond : (behindNulls.dropWhile Text.isBlank).span (!Text.isBlank ·) with
          ⟨place, behindPlace⟩
        simp only [hfirst, hsecond] at h
        split at h
        · rename_i hnulls
          cases h
          obtain ⟨hnulls, hend⟩ := Bool.and_eq_true_iff.mp hnulls
          have hbehindWord : behindWord ≠ [] := by
            rintro rfl
            exact hmore rfl
          have hbehindNulls : behindNulls ≠ [] := by
            rintro rfl
            cases hsecond
            simp [areNullsWords, Identifier.spells] at hnulls
          obtain ⟨nulls, rfl, hneNulls, hblankNulls, rfl⟩ :=
            exists_of_span hfirst (takeWhile_behind_span hspan hbehindWord)
          obtain ⟨place, rfl, hnePlace, hblankPlace, rfl⟩ :=
            exists_of_span hsecond (takeWhile_behind_span hfirst hbehindNulls)
          refine ⟨⟨word, some (nulls, place)⟩, ⟨?_, ?_, hdirection, ?_⟩, rfl, behindPlace, hend, ?_⟩
          · simpa [parts] using ⟨hne, hneNulls, hnePlace⟩
          · simpa [parts] using ⟨hblank, hblankNulls, hblankPlace⟩
          · rintro places ⟨⟩
            exact hnulls
          · simp [chars, parts]
        · cases h

/-! ### Two directions with one end -/

theorem IsValid.words (h : o.IsValid) (front : List Char) {tail : List Char}
    (htail : isAtEnd tail) :
    Text.words (front ++ (o.chars ++ tail)) = Text.words front ++ o.parts.map SpacedWord.word :=
  Text.words_spaced h.parts front (blank_of_isAtEnd htail)

/-- What one direction has in front of another that ends where it ends is blank. The last word of
both is the same, so none of them stops at the place of NULL values of the other. -/
theorem IsValid.blank_of_overlap (h : o.IsValid) (h' : o'.IsValid) {front tail tail' : List Char}
    (htail : isAtEnd tail) (htail' : isAtEnd tail')
    (hsame : front ++ (o.chars ++ tail) = o'.chars ++ tail') : ∀ c ∈ front, Text.isBlank c := by
  have hwords : o'.parts.map SpacedWord.word = Text.words front ++ o.parts.map SpacedWord.word := by
    rw [← h.words front htail, hsame]
    exact (h'.words [] htail').symm
  have hlength := congrArg List.length hwords
  rw [List.length_append, List.length_map, List.length_map] at hlength
  refine Text.blank_of_words_nil (List.eq_nil_of_length_eq_zero ?_)
  obtain ⟨word, nulls⟩ := o
  obtain ⟨word', nulls'⟩ := o'
  rcases nulls with _ | ⟨nulls, place⟩ <;> rcases nulls' with _ | ⟨nulls', place'⟩
  · simp only [Direction.parts, Option.elim_none, List.length_singleton] at hlength
    omega
  · obtain ⟨c, hc, hlast⟩ := getLast?_of_isDirection h.direction
    obtain ⟨c', hc', hlast'⟩ := getLast?_of_areNullsWords (h'.nulls _ rfl)
    have hword := congrArg List.getLast? hwords
    simp only [Direction.parts, Option.elim_some, Option.elim_none, List.map_cons, List.map_nil,
      List.getLast?_append, List.getLast?_singleton, List.getLast?_cons_cons, Option.some_or,
      Option.some.injEq] at hword
    rw [hword, hlast] at hlast'
    obtain rfl := Option.some.inj hlast'
    have hnone : ∀ c ∈ ['C', 'c'], c ∉ ['T', 't'] := forall_of_all (by decide)
    exact absurd hc' (hnone c hc)
  · simp only [Direction.parts, Option.elim_some, Option.elim_none, List.length_cons,
      List.length_nil] at hlength
    omega
  · simp only [Direction.parts, Option.elim_some, List.length_cons, List.length_nil] at hlength
    omega

/-- The direction with more blanks in front. -/
def widened (front : List Char) (o : Direction) : Direction :=
  { o with word := ⟨front ++ o.word.gap, o.word.word⟩ }

theorem chars_widened (front : List Char) (o : Direction) :
    (o.widened front).chars = front ++ o.chars := by
  simp [widened, chars, parts]

theorem IsValid.widened (h : o.IsValid) {front : List Char} (hfront : ∀ c ∈ front, Text.isBlank c) :
    (o.widened front).IsValid := by
  obtain ⟨hne, hrest⟩ := List.forall_mem_cons.mp h.gap_ne
  obtain ⟨hblank, hblanks⟩ := List.forall_mem_cons.mp h.blank
  refine ⟨List.forall_mem_cons.mpr ⟨?_, hrest⟩, List.forall_mem_cons.mpr ⟨?_, hblanks⟩,
    h.direction, h.nulls⟩
  · exact List.append_ne_nil_of_right_ne_nil _ hne
  · exact List.forall_mem_append.mpr ⟨hfront, hblank⟩

theorem direction?_of_blank {front behind : List Char}
    {found : List Char × Option (List Char)} (hfront : ∀ c ∈ front, Text.isBlank c)
    (h : Identifier.direction? behind = some found) :
    Identifier.direction? (front ++ behind) = some found := by
  obtain ⟨o, ho, rfl, tail, htail, rfl⟩ := exists_of_direction? h
  rw [← List.append_assoc, ← chars_widened]
  exact (ho.widened hfront).direction? htail

theorem IsValid.eq_of_chars (h : o.IsValid) (h' : o'.IsValid) (hchars : o.chars = o'.chars) :
    o = o' := by
  have hparts := Text.spaced_injective h.parts h'.parts hchars
  obtain ⟨word, nulls⟩ := o
  obtain ⟨word', nulls'⟩ := o'
  rcases nulls with _ | ⟨nulls, place⟩ <;> rcases nulls' with _ | ⟨nulls', place'⟩ <;>
    simp_all [Direction.parts]

/-! ## Capitals -/

/-- The words in upper case, with one blank in front of each. -/
def capitals (o : Direction) : Direction where
  word := ⟨[' '], Text.upperChars o.word.word⟩
  nulls := o.nulls.map fun (nulls, place) =>
    (⟨[' '], Text.upperChars nulls.word⟩, ⟨[' '], Text.upperChars place.word⟩)

theorem parts_capitals (o : Direction) :
    o.capitals.parts = o.parts.map fun part => ⟨[' '], Text.upperChars part.word⟩ := by
  obtain ⟨word, nulls⟩ := o
  cases nulls <;> rfl

theorem IsValid.capitals (h : o.IsValid) : o.capitals.IsValid := by
  refine ⟨?_, ?_, isDirection_upperChars h.direction, ?_⟩
  · rw [parts_capitals, List.forall_mem_map]
    exact fun _ _ => List.cons_ne_nil _ _
  · rw [parts_capitals, List.forall_mem_map]
    exact fun _ _ => (forall_of_all (by decide) : ∀ c ∈ [' '], Text.isBlank c)
  · intro places hplaces
    obtain ⟨places, hmem, rfl⟩ := Option.map_eq_some_iff.mp hplaces
    exact areNullsWords_upperChars (h.nulls places hmem)

theorem IsValid.capitals_capitals (h : o.IsValid) : o.capitals.capitals = o.capitals := by
  have hagain : ∀ part ∈ o.parts,
      Text.upperChars (Text.upperChars part.word) = Text.upperChars part.word := by
    intro part hpart
    obtain ⟨capitals, hcapitals, -, hspells⟩ := h.spelled hpart
    exact (areCapitalized hcapitals hspells).upperChars_again
  obtain ⟨word, nulls⟩ := o
  rcases nulls with _ | ⟨nulls, place⟩ <;> simp_all [Direction.capitals, Direction.parts]

/-- What is read of an expression with a direction behind it. -/
def behind (o : Direction) (expression : List Char) : Ordered :=
  ⟨expression, o.found.1, o.found.2⟩

theorem suffix_behind (o : Direction) (expression : List Char) :
    (o.behind expression).suffix = String.ofList o.capitals.chars := by
  obtain ⟨word, nulls⟩ := o
  rcases nulls with _ | ⟨nulls, place⟩ <;>
    simp [behind, found, Ordered.suffix, chars, parts, capitals, ← String.toList_inj]

/-! ## ASCII -/

/-- The words are ASC or DESC and perhaps NULLS and FIRST or LAST, in any case. -/
structure IsSpelled (o : Direction) : Prop where
  gap_ne : ∀ part ∈ o.parts, part.gap ≠ []
  blank : ∀ part ∈ o.parts, ∀ c ∈ part.gap, Text.isBlank c
  direction : o.word.word.map Char.toUpper ∈ ["ASC".toList, "DESC".toList]
  nulls : ∀ places ∈ o.nulls, places.1.word.map Char.toUpper = "NULLS".toList ∧
    places.2.word.map Char.toUpper ∈ ["FIRST".toList, "LAST".toList]

/-- The words in capitals, with one blank in front of each. -/
def written (o : Direction) : String :=
  String.join (o.parts.map fun part => " " ++ String.ofList (part.word.map Char.toUpper))

section Ascii

variable (hascii : ∀ c ∈ o.chars, c.toNat < 128)
include hascii

theorem word_ascii {part : SpacedWord} (hpart : part ∈ o.parts) : ∀ c ∈ part.word, c.toNat < 128 :=
  fun c hc => hascii c (List.mem_flatMap.mpr ⟨part, hpart, List.mem_append_right _ hc⟩)

theorem isValid_iff_isSpelled : o.IsValid ↔ o.IsSpelled := by
  have hspells {part : SpacedWord} (hpart : part ∈ o.parts) {capitals : List Char}
      (hcapitals : capitals ∈ directionWords) :
      spells capitals part.word ↔ part.word.map Char.toUpper = capitals :=
    spells_of_ascii hcapitals (word_ascii hascii hpart)
  have hdirection : isDirection o.word.word ↔
      o.word.word.map Char.toUpper ∈ ["ASC".toList, "DESC".toList] := by
    have hmem : o.word ∈ o.parts := List.mem_cons_self
    rw [isDirection_iff, hspells hmem (by decide), hspells hmem (by decide)]
    simp
  have hnulls {places : SpacedWord × SpacedWord} (h : places ∈ o.nulls) :
      areNullsWords places.1.word places.2.word ↔
        places.1.word.map Char.toUpper = "NULLS".toList ∧
          places.2.word.map Char.toUpper ∈ ["FIRST".toList, "LAST".toList] := by
    have hfirst : places.1 ∈ o.parts := by simp [Direction.parts, Option.mem_def.mp h]
    have hsecond : places.2 ∈ o.parts := by simp [Direction.parts, Option.mem_def.mp h]
    rw [areNullsWords_iff, hspells hfirst (by decide), hspells hsecond (by decide),
      hspells hsecond (by decide)]
    simp
  constructor
  · intro h
    exact ⟨h.gap_ne, h.blank, hdirection.mp h.direction, fun places hplaces =>
      (hnulls hplaces).mp (h.nulls places hplaces)⟩
  · intro h
    exact ⟨h.gap_ne, h.blank, hdirection.mpr h.direction, fun places hplaces =>
      (hnulls hplaces).mpr (h.nulls places hplaces)⟩

theorem IsValid.written (h : o.IsValid) : String.ofList o.capitals.chars = o.written := by
  have hupper : ∀ part ∈ o.parts, Text.upperChars part.word = part.word.map Char.toUpper := by
    intro part hpart
    obtain ⟨capitals, hcapitals, -, hspells⟩ := h.spelled hpart
    have hword := word_ascii hascii hpart
    rw [(areCapitalized hcapitals hspells).upperChars_eq hword,
      (spells_of_ascii hcapitals hword).mp hspells]
  rw [Direction.written, chars, parts_capitals, ← String.toList_inj, String.toList_ofList,
    String.toList_join, Text.spaced, List.flatMap_map, List.flatMap_map]
  refine List.flatMap_congr fun part hpart => ?_
  simp [hupper part hpart]

end Ascii

end Direction

end Identifier

end SqlComposer
