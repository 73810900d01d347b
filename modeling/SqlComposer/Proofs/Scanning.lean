import SqlComposer.Proofs.Separation
import SqlComposer.Text.WholeNumber

/-!
# Finding the placeholders again

Whoever looks through the text of a statement for the mark of its style finds the placeholders of
the bound values, one after the other and nothing else, as long as the texts of the caller in it do
not have the mark and no fragment begins with a digit, which would go on with a placeholder in front
of it.
-/

namespace SqlComposer

/-! ## Scanning -/

/-- The digits behind each mark in a text, as many as there are, from left to right. -/
def numbersBehind (mark : Char) (digits : Char → Bool) : List Char → List String
  | [] => []
  | c :: cs =>
    if c = mark then String.ofList (cs.takeWhile digits) :: numbersBehind mark digits cs
    else numbersBehind mark digits cs

/-- The number of places where a text goes on with the pattern. -/
def occurrences (pattern : List Char) : List Char → Nat
  | [] => 0
  | c :: cs => (if pattern.isPrefixOf (c :: cs) then 1 else 0) + occurrences pattern cs

section Scanning

variable {mark : Char} {digits : Char → Bool}

theorem numbersBehind_append {front : List Char} (h : mark ∉ front) (back : List Char) :
    numbersBehind mark digits (front ++ back) = numbersBehind mark digits back := by
  induction front with
  | nil => rfl
  | cons c front ih =>
      rw [List.mem_cons, not_or] at h
      rw [List.cons_append, numbersBehind, if_neg (Ne.symm h.1), ih h.2]

theorem occurrences_append {front : List Char} (h : mark ∉ front) (pattern back : List Char) :
    occurrences (mark :: pattern) (front ++ back) = occurrences (mark :: pattern) back := by
  induction front with
  | nil => rfl
  | cons c front ih =>
      rw [List.mem_cons, not_or] at h
      simp [occurrences, List.isPrefixOf, h.1, ih h.2]

theorem takeWhile_eq_nil {cs : List Char} (h : ¬ cs.head?.any digits) :
    cs.takeWhile digits = [] := by
  cases cs with
  | nil => rfl
  | cons c cs => exact List.takeWhile_cons_of_neg h

namespace Token

variable {d : Dialect} {style : PlaceholderStyle}

theorem Separate.head (hstyle : d.style? = some style) (hnumbered : style.isNumbered)
    (hmark : digits style.character = false) {tokens : List Token} {count : Nat}
    (h : Separate style.character digits true tokens) :
    ¬ (textFrom d count tokens).toList.head?.any digits := by
  induction tokens generalizing count with
  | nil => simp [textFrom]
  | cons token tokens ih =>
      cases token with
      | text s =>
          obtain ⟨⟨-, hdigit⟩, hrest⟩ := h
          rw [textFrom, String.toList_append]
          -- An empty text leaves it to the tokens behind it.
          by_cases hempty : s.isEmpty
          · rw [hempty] at hrest
            rw [String.isEmpty_iff.mp hempty]
            exact ih hrest
          · have hcons : s.toList ≠ [] := by simpa using hempty
            obtain ⟨c, cs, hs⟩ := List.exists_cons_of_ne_nil hcons
            rw [hs] at hdigit ⊢
            exact hdigit rfl
      | bound v =>
          rw [textFrom, String.toList_append, Dialect.toList_placeholder hstyle hnumbered]
          simp [hmark]

/-- The numbers behind the marks are those of the values, counted on from the values that are bound
already. -/
theorem Separate.numbersBehind (hstyle : d.style? = some style) (hnumbered : style.isNumbered)
    (hmarks : style.character ∈ marks) (hmark : digits style.character = false)
    (hdigits : ∀ c : Char, c.isDigit → digits c) {glued : Bool} {tokens : List Token} {count : Nat}
    (h : Separate style.character digits glued tokens) :
    SqlComposer.numbersBehind style.character digits (textFrom d count tokens).toList =
      (List.range' (count + 1) (values tokens).length).map toString := by
  induction tokens generalizing count glued with
  | nil => rfl
  | cons token tokens ih =>
      cases token with
      | text s =>
          rw [textFrom, String.toList_append, numbersBehind_append h.1.1, ih h.2]
          rfl
      | bound v =>
          have hnumber : ∀ c ∈ (toString (count + 1)).toList, digits c := fun c hc =>
            hdigits c (isDigit_of_mem_number hc)
          have hend : (textFrom d (count + 1) tokens).toList.takeWhile digits = [] :=
            takeWhile_eq_nil (h.head hstyle hnumbered hmark)
          rw [textFrom, String.toList_append, Dialect.toList_placeholder hstyle hnumbered,
            List.cons_append, SqlComposer.numbersBehind, if_pos rfl,
            numbersBehind_append (lacks_number hmarks _), ih h,
            List.takeWhile_append_of_pos hnumber, hend, List.append_nil, String.ofList_toList]
          rfl

theorem Separate.count (hstyle : d.style? = some .questionMark) {glued : Bool}
    {tokens : List Token} {count : Nat} (h : Separate '?' digits glued tokens) :
    (textFrom d count tokens).toList.count '?' = (values tokens).length := by
  induction tokens generalizing count glued with
  | nil => rfl
  | cons token tokens ih =>
      cases token with
      | text s =>
          rw [textFrom, String.toList_append, List.count_append,
            List.count_eq_zero_of_not_mem h.1.1, ih h.2, Nat.zero_add]
          rfl
      | bound v =>
          have hmark : (PlaceholderStyle.questionMark.mark (count + 1)).toList = ['?'] := by
            simp [PlaceholderStyle.mark]
          rw [textFrom, Template.placeholder_eq_mark hstyle, String.toList_append, hmark,
            List.count_append, ih h]
          exact Nat.add_comm _ _

theorem Separate.occurrences (hstyle : d.style? = some .percent) {glued : Bool}
    {tokens : List Token} {count : Nat} (h : Separate '%' digits glued tokens) :
    SqlComposer.occurrences ['%', 's'] (textFrom d count tokens).toList =
      (values tokens).length := by
  induction tokens generalizing count glued with
  | nil => rfl
  | cons token tokens ih =>
      cases token with
      | text s =>
          rw [textFrom, String.toList_append, occurrences_append h.1.1, ih h.2]
          rfl
      | bound v =>
          have hmark : (PlaceholderStyle.percent.mark (count + 1)).toList = ['%', 's'] := by
            simp [PlaceholderStyle.mark]
          have hvalues : (values (.bound v :: tokens)).length = (values tokens).length + 1 := rfl
          rw [textFrom, Template.placeholder_eq_mark hstyle, String.toList_append, hmark, hvalues]
          simp [SqlComposer.occurrences, ih h, Nat.add_comm]

end Token

end Scanning

/-! ## Digits -/

/-- What counts as a digit: the ten of ASCII, or the decimal digits of every script. -/
inductive Digits where
  | ascii
  | everyScript

namespace Digits

def has : Digits → Char → Bool
  | ascii => Char.isDigit
  | everyScript => Text.isDecimalDigit

theorem has_of_isDigit (digits : Digits) {c : Char} (h : c.isDigit) : digits.has c := by
  cases digits with
  | ascii => exact h
  | everyScript =>
      simp only [Char.isDigit, Bool.and_eq_true, decide_eq_true_eq] at h
      have hlow : 0x30 ≤ c.toNat := UInt32.le_iff_toNat_le.mp h.1
      have hhigh : c.toNat ≤ 0x39 := UInt32.le_iff_toNat_le.mp h.2
      simp [has, Text.isDecimalDigit, Text.inBlocks, Text.decimalDigitBlocks, hlow, hhigh]

theorem not_has_mark (digits : Digits) : ∀ mark ∈ marks, digits.has mark = false := by
  cases digits with
  | ascii => exact forall_of_all (by decide)
  | everyScript => exact forall_of_all (by decide +kernel)

theorem not_has_wordCharacter (digits : Digits) : ∀ c ∈ wordCharacters, digits.has c = false := by
  cases digits with
  | ascii => exact forall_of_all (by decide)
  | everyScript => exact forall_of_all (by decide +kernel)

end Digits

/-! ## Statements -/

mutual

/-- A fragment has no question mark, for it is what stands between markers. -/
theorem Piece.lacks_of_fragment : (piece : Piece) → {before : Front} → piece.isPlaced before →
    {text : String} → .fragment text ∈ piece.supplied before → Lacks '?' text
  | .copied text, before, hplaced, other, h => by
      rw [Piece.supplied] at h
      split at h
      · exact nomatch List.mem_singleton.mp h
      · next hblank =>
          cases List.mem_singleton.mp h
          simpa [Piece.isPlaced, hblank] using hplaced
  | .identifier _, _, _, _, h | .reference _, _, _, _, h | .ordering _, _, _, _, h
  | .quoted _, _, _, _, h | .display _, _, _, _, h => nomatch List.mem_singleton.mp h
  | .streamed _ items, _, hplaced, _, h => by
      rw [Piece.isPlaced, Bool.and_eq_true] at hplaced
      exact itemsLack_of_fragment items hplaced.2 h
  | .unnamed _ behind, _, hplaced, _, h | .lateIdentifier _ behind, _, hplaced, _, h => by
      rw [Piece.isPlaced, Bool.and_eq_true] at hplaced
      obtain hfirst | hbehind := List.mem_cons.mp h
      · cases hfirst
      · exact lack_of_fragment behind hplaced.2 hbehind

theorem lack_of_fragment : (pieces : List Piece) → {before : Front} → arePlaced before pieces →
    {text : String} → .fragment text ∈ suppliedIn before pieces → Lacks '?' text
  | [], _, _, _, h => nomatch h
  | piece :: pieces, _, hplaced, _, h => by
      rw [arePlaced, Bool.and_eq_true] at hplaced
      obtain hpiece | hpieces := List.mem_append.mp h
      · exact piece.lacks_of_fragment hplaced.1 hpiece
      · exact lack_of_fragment pieces hplaced.2 hpieces

theorem itemsLack_of_fragment : (items : List (List Piece)) → arePlacedItems items →
    {text : String} → .fragment text ∈ suppliedInItems items → Lacks '?' text
  | [], _, _, h => nomatch h
  | item :: items, hplaced, _, h => by
      rw [arePlacedItems, Bool.and_eq_true] at hplaced
      obtain hitem | hitems := List.mem_append.mp h
      · exact lack_of_fragment item hplaced.1 hitem
      · exact itemsLack_of_fragment items hplaced.2 hitems

end

namespace Store

/-- The texts of the caller in a statement, with the quotes of its dialect. -/
def supplied (st : Store) (d : Dialect) (r : StatementRef) : List Supplied :=
  d.quotes ++ suppliedIn .word (st.pieces (st.layout r))

section Statements

variable {st : Store} {inUse : Value} {d : Dialect} {serial : Serial} {r : StatementRef}
  {before after : Progress}

theorem lacks_of_fragment {text : String} (h : .fragment text ∈ st.supplied d r) :
    Lacks '?' text := by
  obtain hquotes | hpieces := List.mem_append.mp h
  · rw [Dialect.quotes] at hquotes
    have hquote (quote : Value) : .fragment text ≠ Supplied.ofQuote quote := by
      unfold Supplied.ofQuote
      split <;> exact nofun
    split at hquotes
    · simp [hquote] at hquotes
    · cases hquotes
  · exact lack_of_fragment _ (st.arePlaced_pieces r) hpieces

/-- A statement without the mark in the texts of the caller comes to tokens that keep apart. -/
theorem separate_written {w : Writer} {mark : Char} {digits : Char → Bool} {written : List Token}
    (hw : w.dialect = .dialect d serial) (hmark : mark ∈ marks)
    (hwords : ∀ c ∈ wordCharacters, digits c = false)
    (hsupplied : ∀ s ∈ st.supplied d r, s.IsHarmless w mark digits)
    (hrun : (tokens w (st.pieces (st.layout r))).run before = .ok written after) :
    Token.Separate mark digits false written :=
  have hquotes : ∀ quote ∈ d.quotes, quote.Lacks w mark := fun quote hquote =>
    (hsupplied quote (List.mem_append_left _ hquote)).1
  have hscans : w.Scans mark digits := ⟨⟨d, serial, hw, hquotes⟩, hmark, hwords⟩
  separate_tokens hscans _ (st.arePlaced_pieces r)
    (fun s hs => hsupplied s (List.mem_append_right _ hs)) hrun

/-- Looking for the placeholders in the text of a statement finds those of its values. -/
theorem render_scanned (digits : Digits) {style : PlaceholderStyle} {rendered : Rendered}
    (hstyle : d.style? = some style)
    (h : (st.render inUse (.dialect d serial) r).run before = .ok rendered after) :
    let w := st.writer (st.text inUse) {} (.dialect d serial)
    match style with
    | .dollar | .colon =>
      (∀ s ∈ st.supplied d r, s.Lacks w style.character ∧ ¬ s.BeginsWithDigit digits.has) →
        numbersBehind style.character digits.has rendered.text.toList =
          (List.range' 1 rendered.values.length).map toString
    | .questionMark =>
      (∀ s ∈ st.supplied d r, ¬ s.isFragment → s.Lacks w '?') →
        rendered.text.toList.count '?' = rendered.values.length
    | .percent =>
      (∀ s ∈ st.supplied d r, s.Lacks w '%') →
        occurrences ['%', 's'] rendered.text.toList = rendered.values.length := by
  intro w
  obtain ⟨written, middle, hwritten, rfl⟩ := tokens_of_render h
  have hnumbers (hnumbered : style.isNumbered) (hmark : style.character ∈ marks)
      (hsupplied : ∀ s ∈ st.supplied d r, s.IsHarmless w style.character digits.has) :
      numbersBehind style.character digits.has (Token.textFrom d 0 written).toList =
        (List.range' 1 (Token.values written).length).map toString :=
    (separate_written rfl hmark digits.not_has_wordCharacter hsupplied hwritten).numbersBehind
      hstyle hnumbered hmark (digits.not_has_mark _ hmark) (fun _ => digits.has_of_isDigit)
  have hnone (s : Supplied) : ¬ s.BeginsWithDigit fun _ => false := by
    cases s <;> simp [Supplied.BeginsWithDigit]
  cases style with
  | dollar => exact hnumbers rfl (by decide)
  | colon => exact hnumbers rfl (by decide)
  | questionMark =>
      intro hsupplied
      -- No placeholder has digits here, so there are none that a text could go on with.
      refine (separate_written rfl (by decide) (fun _ _ => rfl) (fun s hs => ⟨?_, hnone s⟩)
        hwritten).count hstyle
      cases s with
      | fragment text => exact lacks_of_fragment hs
      | _ => exact hsupplied _ hs nofun
  | percent =>
      intro hsupplied
      exact (separate_written rfl (by decide) (fun _ _ => rfl)
        (fun s hs => ⟨hsupplied s hs, hnone s⟩) hwritten).occurrences hstyle

end Statements

/-- A SELECT with a limit, and with a raw fragment inside of another one. -/
def scannedSelect : Store where
  selects :=
    [{ source := some (.table (.plain "users"))
       rows := some (.comparison (.ofText "<") (.ofText "age") (.condition (.raw outer)) 0)
       limit := some 10 }]
where
  inner : Raw := ⟨.plain "g * ?", .list [.int 4 0] 0, 0⟩
  outer : Raw := ⟨.plain "f(?, ?)", .list [.int 3 0, .condition (.raw inner)] 0, 0⟩

theorem render_scanned_nested :
    let d := { Dialect.standard with bindsCounts := .bool true }
    let r := StatementRef.select ⟨0⟩
    ∃ rendered after,
      (scannedSelect.render .null (.dialect d 0) r).run {} = .ok rendered after ∧
        numbersBehind '$' Char.isDigit rendered.text.toList = ["1", "2", "3"] := by
  intro d r
  have hseen : ∀ s ∈ scannedSelect.supplied d r, s.isSeenHarmless '$' Char.isDigit := by
    decide +kernel
  have hgives : (scannedSelect.render .null (.dialect d 0) r).gives {}
      fun rendered => rendered.values.length = 3 := by
    decide +kernel
  obtain ⟨rendered, after, hok, hlength⟩ := Writing.ok_of_gives hgives
  have hstyle : d.style? = some .dollar := rfl
  have hscanned := render_scanned .ascii hstyle hok
    fun s hs => Supplied.isHarmless_of_seen _ (hseen s hs)
  rw [of_decide_eq_true hlength] at hscanned
  exact ⟨rendered, after, hok, hscanned⟩

/-- A SELECT that compares with an operator of its own, which is also a marker. -/
def operatorSelect : Store where
  selects :=
    [{ source := some (.table (.plain "t"))
       rows := some (.comparison (.ofText "?") (.ofText "a") (.int 1 0) 0) }]

/-- A SELECT with a raw fragment that begins with its marker, and goes on with a digit. -/
def markedSelect : Store where
  selects :=
    [{ source := some (.table (.plain "t"))
       rows := some (.raw ⟨.plain "?1", .list [.int 5 0] 0, 0⟩) }]

/-- An operator may put a mark into a text without one in its names and fragments, and a digit
behind a marker goes on with the number of its placeholder, whatever the fragment begins with. -/
theorem scanning_misled :
    let r := StatementRef.select ⟨0⟩
    let d := { Dialect.standard with style := .keyword (.placeholderStyle .questionMark) }
    ((∀ s ∈ operatorSelect.supplied d r,
        s matches .operator _ ∨ s.isSeenHarmless '?' Char.isDigit) ∧
      ∃ rendered after,
        (operatorSelect.render .null (.dialect d 0) r).run {} = .ok rendered after ∧
          rendered.values.length = 1 ∧ rendered.text.toList.count '?' = 2) ∧
    (∀ s ∈ markedSelect.supplied .standard r, s.isSeenHarmless '$' fun _ => false) ∧
      ¬ "?1".toList.head?.any Char.isDigit ∧
      ∃ rendered after,
        (markedSelect.render .null (.dialect .standard 0) r).run {} = .ok rendered after ∧
          rendered.values.length = 1 ∧
          numbersBehind '$' Char.isDigit rendered.text.toList = ["11"] := by
  intro r d
  have hoperator : (operatorSelect.render .null (.dialect d 0) r).gives {} fun rendered =>
      rendered.values.length = 1 ∧ rendered.text.toList.count '?' = 2 := by
    decide +kernel
  have hmarked : (markedSelect.render .null (.dialect .standard 0) r).gives {} fun rendered =>
      rendered.values.length = 1 ∧
        numbersBehind '$' Char.isDigit rendered.text.toList = ["11"] := by
    decide +kernel
  obtain ⟨_, _, hoperatorOk, hcount⟩ := Writing.ok_of_gives hoperator
  obtain ⟨_, _, hmarkedOk, hnumbers⟩ := Writing.ok_of_gives hmarked
  exact ⟨⟨by decide +kernel, _, _, hoperatorOk, of_decide_eq_true hcount⟩,
    by decide +kernel, by decide, _, _, hmarkedOk, of_decide_eq_true hnumbers⟩

end Store

end SqlComposer
