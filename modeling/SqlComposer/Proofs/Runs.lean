import SqlComposer.Writing

/-!
# Runs

What computations that write something come to when they are run from given progress.
-/

namespace SqlComposer

theorem Writing.bind_run {α β : Type} (x : Writing α) (f : α → Writing β) (before : Progress) :
    (x >>= f).run before =
      match x.run before with
      | .ok a after => (f a).run after
      | .error fault after => .error fault after := by
  show EStateM.bind x f before = _
  simp only [EStateM.bind, EStateM.run]
  cases x before <;> rfl

theorem Writing.bind_ok {α β : Type} {x : Writing α} {f : α → Writing β} {before after : Progress}
    {b : β} (h : (x >>= f).run before = .ok b after) :
    ∃ a middle, x.run before = .ok a middle ∧ (f a).run middle = .ok b after := by
  rw [bind_run] at h
  cases hx : x.run before with
  | ok a middle => rw [hx] at h; exact ⟨a, middle, rfl, h⟩
  | error fault middle => rw [hx] at h; cases h

/-- Whether a computation gives a result. -/
def Writing.succeeds {α : Type} (x : Writing α) (before : Progress) : Bool :=
  match x.run before with
  | .ok _ _ => true
  | .error _ _ => false

theorem Writing.succeeds_iff {α : Type} {x : Writing α} {before : Progress} :
    x.succeeds before ↔ ∃ a after, x.run before = .ok a after := by
  unfold succeeds
  cases x.run before with
  | ok a after => exact iff_of_true rfl ⟨a, after, rfl⟩
  | error fault after => exact iff_of_false nofun nofun

/-- Whether a computation gives a result that passes a check. -/
def Writing.gives {α : Type} (x : Writing α) (before : Progress) (check : α → Bool) : Bool :=
  match x.run before with
  | .ok a _ => check a
  | .error _ _ => false

theorem Writing.ok_of_gives {α : Type} {x : Writing α} {before : Progress} {check : α → Bool}
    (h : x.gives before check) : ∃ a after, x.run before = .ok a after ∧ check a := by
  unfold gives at h
  split at h
  · next a after hok => exact ⟨a, after, hok, h⟩
  · cases h

theorem Writing.refuse_bind {α β : Type} (shown : Value → Writing String) (cause : ClauseError)
    (f : α → Writing β) : (Writing.refuse shown cause >>= f) = Writing.refuse shown cause := by
  unfold Writing.refuse
  split
  · rfl
  · exact bind_assoc ..

theorem Writing.refuse_run {α : Type} (shown : Value → Writing String) (cause : ClauseError)
    (before : Progress) :
    ∃ fault after, (Writing.refuse shown cause : Writing α).run before = .error fault after := by
  unfold Writing.refuse
  split
  · exact ⟨_, _, rfl⟩
  · rw [Writing.bind_run]
    cases (cause.message.text shown).run before <;> exact ⟨_, _, rfl⟩

end SqlComposer
