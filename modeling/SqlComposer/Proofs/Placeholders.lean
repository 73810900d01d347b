import SqlComposer.Proofs.Rendering
import SqlComposer.Proofs.WrittenAlike

/-!
# Placeholders in text order

Whatever the style of the placeholders is, a statement is the same template: literal texts with a
gap for each value between them. The style only fixes what is written into the gaps.
-/

namespace SqlComposer

/-! ## Templates -/

/-- A text with gaps. Each value that is bound stands for one, and a literal text follows it. -/
structure Template where
  opening : String
  gaps : List (Value × String)

/-- The placeholder of the value with the given number. -/
def PlaceholderStyle.mark : PlaceholderStyle → Nat → String
  | .dollar, number => "$" ++ toString number
  | .colon, number => ":" ++ toString number
  | .questionMark, _ => "?"
  | .percent, _ => "%s"

namespace Template

/-- Gaps that are filled and numbered from the given number on, each with the literal behind it. -/
def filledFrom (mark : Nat → String) : Nat → List (Value × String) → String
  | _, [] => ""
  | number, (_, literal) :: gaps => mark number ++ literal ++ filledFrom mark (number + 1) gaps

/-- The text with the placeholders of a style in the gaps, which are counted from one. -/
def text (template : Template) (style : PlaceholderStyle) : String :=
  template.opening ++ filledFrom style.mark 1 template.gaps

def values (template : Template) : List Value :=
  template.gaps.map Prod.fst

/-- The template of tokens behind some literal text. -/
def ofTokens : String → List Token → Template
  | opening, [] => ⟨opening, []⟩
  | opening, .text s :: tokens => ofTokens (opening ++ s) tokens
  | opening, .bound v :: tokens =>
    let rest := ofTokens "" tokens
    ⟨opening, (v, rest.opening) :: rest.gaps⟩

theorem values_ofTokens : (opening : String) → (tokens : List Token) →
    (ofTokens opening tokens).values = Token.values tokens
  | _, [] => rfl
  | opening, .text s :: tokens => values_ofTokens (opening ++ s) tokens
  | _, .bound v :: tokens => congrArg (v :: ·) (values_ofTokens "" tokens)

/-- The text with the placeholders of a dialect in the gaps, behind as many that are there
already. -/
def textFrom (template : Template) (d : Dialect) (count : Nat) : String :=
  template.opening ++ filledFrom d.placeholder (count + 1) template.gaps

theorem textFrom_ofTokens (d : Dialect) : (opening : String) → (count : Nat) →
    (tokens : List Token) →
      (ofTokens opening tokens).textFrom d count = opening ++ Token.textFrom d count tokens
  | _, _, [] => rfl
  | opening, count, .text s :: tokens => by
      rw [ofTokens, textFrom_ofTokens d (opening ++ s) count tokens, Token.textFrom,
        String.append_assoc]
  | opening, count, .bound v :: tokens => by
      have hrest := textFrom_ofTokens d "" (count + 1) tokens
      rw [String.empty_append] at hrest
      rw [Token.textFrom, ← hrest, ofTokens, textFrom, textFrom, filledFrom, String.append_assoc]

theorem placeholder_eq_mark {d : Dialect} {style : PlaceholderStyle} (h : d.style? = some style)
    (number : Nat) : d.placeholder number = style.mark number := by
  simp only [Dialect.placeholder, Dialect.placeholderFor, h]
  cases style <;> rfl

theorem filled_ofTokens {d : Dialect} {style : PlaceholderStyle} (h : d.style? = some style)
    (opening : String) (count : Nat) (tokens : List Token) :
    opening ++ Token.textFrom d count tokens =
      (ofTokens opening tokens).opening ++
        filledFrom style.mark (count + 1) (ofTokens opening tokens).gaps := by
  rw [← textFrom_ofTokens, textFrom, funext (placeholder_eq_mark h)]

end Template

/-! ## Characters of placeholders -/

/-- The character that the placeholders of a style start with. -/
def PlaceholderStyle.character : PlaceholderStyle → Char
  | .dollar => '$'
  | .colon => ':'
  | .questionMark => '?'
  | .percent => '%'

theorem isDigit_of_mem_number {n : Nat} {c : Char} (h : c ∈ (toString n).toList) : c.isDigit := by
  rw [Nat.toString_eq_repr, Nat.toList_repr] at h
  exact Nat.isDigit_of_mem_toDigits (by decide) (by decide) h

theorem Dialect.toList_placeholder {d : Dialect} {style : PlaceholderStyle}
    (hstyle : d.style? = some style) (hnumbered : style.isNumbered) (number : Nat) :
    (d.placeholder number).toList = style.character :: (toString number).toList := by
  rw [Template.placeholder_eq_mark hstyle]
  cases style with
  | dollar | colon => simp [PlaceholderStyle.mark, PlaceholderStyle.character]
  | questionMark | percent => cases hnumbered

/-! ## Statements in every style -/

theorem tokens_restyled {w w' : Writer} (hw : w.Agree w') (hagree : ∀ v, w.AgreeOn w' v)
    (pieces : List Piece) : tokens w pieces = tokens w' pieces :=
  tokens_congr hw fun v _ => hagree v

/-- A statement is one and the same template in every style of the placeholders, or is refused for
the same reason in every style. Every handler binds its values while it writes, behind those that
are bound by then; so the placeholder of the value at each position carries the number of that
position, and nothing else depends on the style. -/
theorem render_template (st : Store) (inUse opening closing bindsCounts name : Value)
    (serial : Serial) (r : StatementRef) (before : Progress) :
    let styled := fun style : PlaceholderStyle =>
      Value.dialect ⟨.keyword (.placeholderStyle style), opening, closing, bindsCounts, name⟩ serial
    (∃ template : Template, ∃ after, ∀ style,
      (st.render inUse (styled style) r).run before =
        .ok ⟨template.text style, template.values, styled style⟩ after) ∨
      ∃ fault after, ∀ style,
        (st.render inUse (styled style) r).run before = .error fault after := by
  intro styled
  have hactive (style) : st.activeDialect inUse (styled style) r = styled style := rfl
  have hagree (style) : (st.writer (st.text inUse) {} (styled style)).Agree
      (st.writer (st.text inUse) {} (styled .dollar)) :=
    ⟨.dialect serial (.restyled ⟨.null, opening, closing, bindsCounts, name⟩ style .dollar),
      rfl, rfl⟩
  have hsame (style) := tokens_restyled (hagree style) (fun _ => ⟨rfl, rfl⟩)
    (st.pieces (st.layout r))
  simp only [Store.render, Store.renderWith_run, hactive, hsame]
  split
  · rename_i written after _
    -- The line in the log counts the values, so it is the same in every style.
    let line : LogLine :=
      { logger := renderLogger, message := Store.renderMessage r (.ofTokens .null [] written) }
    refine .inl ⟨.ofTokens "" written, after.addLine line, fun style => ?_⟩
    have htext : Token.textFrom (styled style).asDialect 0 written =
        (Template.ofTokens "" written).text style :=
      String.empty_append.symm.trans (Template.filled_ofTokens rfl "" 0 written)
    rw [← htext, Template.values_ofTokens]
    rfl
  · exact .inr ⟨_, _, fun _ => rfl⟩

end SqlComposer
