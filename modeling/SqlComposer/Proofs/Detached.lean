import SqlComposer.Value.Display

/-!
# Values that mention no statement

A value that mentions no statement looks the same whatever the statements look like.
-/

namespace SqlComposer

mutual

/-- Whether nothing of what a value shows is a statement. -/
def Value.isDetached : Value → Bool
  | .list items _ => Value.areDetached items
  | .tuple items _ => Value.areDetached items
  | .set items _ => Value.areDetached items
  | .map entries _ => Value.areEntriesDetached entries
  | .condition c => c.isDetached
  | .statement _ => false
  | .dialect d _ => d.isDetached
  | .rendered _ values _ _ _ => Value.areDetached values
  | .joinSpec kind table on _ => kind.isDetached && table.isDetached && on.isDetached
  | .problem p _ => p.isDetached
  | _ => true

def Value.areDetached : List Value → Bool
  | [] => true
  | v :: vs => v.isDetached && Value.areDetached vs

def Value.areEntriesDetached : List (Value × Value) → Bool
  | [] => true
  | (key, value) :: entries =>
    key.isDetached && value.isDetached && Value.areEntriesDetached entries

def Dialect.isDetached : Dialect → Bool
  | ⟨style, opening, closing, bindsCounts, name⟩ =>
    style.isDetached && opening.isDetached && closing.isDetached && bindsCounts.isDetached &&
      name.isDetached

def Problem.isDetached : Problem → Bool
  | ⟨_, _, detail⟩ => detail.isDetached

def Raw.isDetached : Raw → Bool
  | ⟨_, values, _⟩ => values.isDetached

def Condition.isDetached : Condition → Bool
  | .comparison op column value _ => op.isDetached && column.isDetached && value.isDetached
  | .isNull column negated _ => column.isDetached && negated.isDetached
  | .between column low high _ => column.isDetached && low.isDetached && high.isDetached
  | .pattern column value ignoresCase _ =>
    column.isDetached && value.isDetached && ignoresCase.isDetached
  | .membership column values _ => column.isDetached && values.isDetached
  | .logical _ operands _ => operands.isDetached
  | .negation inner _ => inner.isDetached
  | .existence subselect negated _ => subselect.isDetached && negated.isDetached
  | .raw fragment => fragment.isDetached
  | .unspecified _ => true

end

section Showing

variable {m : Type → Type} [Monad m] (texts texts' : StatementTexts m)

theorem textOr_congr {inside : List Serial} {shown shown' : m String} {v : Value}
    (h : v.isDetached) (hshown : shown = shown') :
    v.textOr texts inside shown = v.textOr texts' inside shown' := by
  unfold Value.textOr
  cases v with
  | statement r => cases h
  | _ => rw [hshown]

mutual

theorem Value.shown_congr (v : Value) (inside : List Serial) (h : v.isDetached) :
    v.shown texts inside = v.shown texts' inside := by
  cases v with
  | list items serial | tuple items serial | set items serial =>
      simp only [Value.shown, Value.shownAll_congr items _ h]
  | map entries serial => simp only [Value.shown, Value.shownEntries_congr entries _ h]
  | condition c => exact c.shown_congr inside h
  | statement r => cases h
  | dialect d serial => simp only [Value.shown, d.shown_congr _ h]
  | rendered text values dialect serial listSerial =>
      simp only [Value.shown, Value.shownAll_congr values _ h]
  | joinSpec kind table on serial =>
      simp only [Value.isDetached, Bool.and_eq_true] at h
      simp only [Value.shown, kind.shown_congr _ h.1.1, table.shown_congr _ h.1.2,
        on.shown_congr _ h.2]
  | problem p serial => exact p.shown_congr inside h
  | _ => rfl

theorem Value.shownAll_congr : (vs : List Value) → (inside : List Serial) →
    Value.areDetached vs → Value.shownAll texts inside vs = Value.shownAll texts' inside vs
  | [], _, _ => rfl
  | v :: vs, inside, h => by
      simp only [Value.areDetached, Bool.and_eq_true] at h
      simp only [Value.shownAll, v.shown_congr _ h.1, Value.shownAll_congr vs _ h.2]

theorem Value.shownEntries_congr : (entries : List (Value × Value)) → (inside : List Serial) →
    Value.areEntriesDetached entries →
      Value.shownEntries texts inside entries = Value.shownEntries texts' inside entries
  | [], _, _ => rfl
  | (key, value) :: entries, inside, h => by
      simp only [Value.areEntriesDetached, Bool.and_eq_true] at h
      simp only [Value.shownEntries, key.shown_congr _ h.1.1, value.shown_congr _ h.1.2,
        Value.shownEntries_congr entries _ h.2]

theorem Dialect.shown_congr : (d : Dialect) → (inside : List Serial) → d.isDetached →
    d.shown texts inside = d.shown texts' inside
  | ⟨style, opening, closing, bindsCounts, name⟩, inside, h => by
      simp only [Dialect.isDetached, Bool.and_eq_true] at h
      obtain ⟨⟨⟨⟨hstyle, hopening⟩, hclosing⟩, hcounts⟩, hname⟩ := h
      simp only [Dialect.shown, style.shown_congr _ hstyle, opening.shown_congr _ hopening,
        closing.shown_congr _ hclosing, bindsCounts.shown_congr _ hcounts,
        name.shown_congr _ hname]

theorem Problem.shown_congr : (p : Problem) → (inside : List Serial) → p.isDetached →
    p.shown texts inside = p.shown texts' inside
  | ⟨kind, remarks, detail⟩, inside, h => by
      have hdetail := detail.shown_congr inside h
      simp only [Problem.shown, textOr_congr texts texts' h hdetail]

theorem Raw.shown_congr : (fragment : Raw) → (inside : List Serial) → fragment.isDetached →
    fragment.shown texts inside = fragment.shown texts' inside
  | ⟨text, values, serial⟩, inside, h => by
      simp only [Raw.shown, values.shown_congr _ h]

theorem Condition.shown_congr (c : Condition) (inside : List Serial) (h : c.isDetached) :
    c.shown texts inside = c.shown texts' inside := by
  cases c with
  | comparison first second third serial | between first second third serial
  | pattern first second third serial =>
      simp only [Condition.isDetached, Bool.and_eq_true] at h
      simp only [Condition.shown, first.shown_congr _ h.1.1, second.shown_congr _ h.1.2,
        third.shown_congr _ h.2]
  | isNull first second serial | membership first second serial
  | existence first second serial =>
      simp only [Condition.isDetached, Bool.and_eq_true] at h
      simp only [Condition.shown, first.shown_congr _ h.1, second.shown_congr _ h.2]
  | logical op operands serial => simp only [Condition.shown, operands.shown_congr _ h]
  | negation inner serial => simp only [Condition.shown, inner.shown_congr _ h]
  | raw fragment => exact fragment.shown_congr inside h
  | unspecified serial => rfl

end

theorem Value.display_congr (v : Value) (inside : List Serial) (h : v.isDetached) :
    v.display texts inside = v.display texts' inside :=
  textOr_congr texts texts' h (v.shown_congr texts texts' inside h)

end Showing

end SqlComposer
