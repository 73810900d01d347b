import SqlComposer.Proofs.Runs

/-!
# Computations that come out alike

Two computations that write something are compared from one and the same progress: they come out
alike if both end with the same fault, or both give results that a relation holds between, and the
same has happened on the way.
-/

namespace SqlComposer

namespace Writing

variable {α β γ δ : Type} {R : α → β → Prop} {S : γ → δ → Prop}

/-- From any progress, both end with the same fault or give results that are related. -/
def Alike (R : α → β → Prop) (x : Writing α) (y : Writing β) : Prop :=
  ∀ before,
    (∃ a b after, x.run before = .ok a after ∧ y.run before = .ok b after ∧ R a b) ∨
      ∃ fault after, x.run before = .error fault after ∧ y.run before = .error fault after

theorem Alike.pure {a : α} {b : β} (h : R a b) : Alike R (pure a) (pure b) :=
  fun before => Or.inl ⟨a, b, before, rfl, rfl, h⟩

theorem Alike.throw (fault : Fault) : Alike R (throw fault) (throw fault) :=
  fun before => Or.inr ⟨fault, before, rfl, rfl⟩

theorem Alike.self {R : α → α → Prop} (x : Writing α) (h : ∀ a, R a a) : Alike R x x := by
  intro before
  cases x.run before with
  | ok a after => exact Or.inl ⟨a, a, after, rfl, rfl, h a⟩
  | error fault after => exact Or.inr ⟨fault, after, rfl, rfl⟩

theorem Alike.refl (x : Writing α) : Alike Eq x x :=
  .self x fun _ => rfl

theorem Alike.eq {x y : Writing α} (h : Alike Eq x y) : x = y := by
  funext before
  rcases h before with ⟨a, b, after, hx, hy, rfl⟩ | ⟨fault, after, hx, hy⟩
  · exact hx.trans hy.symm
  · exact hx.trans hy.symm

theorem Alike.symm {S : β → α → Prop} {x : Writing α} {y : Writing β} (h : Alike R x y)
    (hR : ∀ {a b}, R a b → S b a) : Alike S y x := by
  intro before
  rcases h before with ⟨a, b, after, hx, hy, hab⟩ | ⟨fault, after, hx, hy⟩
  · exact .inl ⟨b, a, after, hy, hx, hR hab⟩
  · exact .inr ⟨fault, after, hy, hx⟩

theorem Alike.trans {R : α → α → Prop} {x y z : Writing α} (h : Alike R x y)
    (hR : ∀ {a b c}, R a b → R b c → R a c) (h' : Alike R y z) : Alike R x z := by
  intro before
  rcases h before with ⟨a, b, after, hx, hy, hab⟩ | ⟨fault, after, hx, hy⟩
  · rcases h' before with ⟨b', c, after', hy', hz, hbc⟩ | ⟨fault', after', hy', hz⟩
    · cases hy.symm.trans hy'
      exact .inl ⟨a, c, after, hx, hz, hR hab hbc⟩
    · cases hy.symm.trans hy'
  · rcases h' before with ⟨b', c, after', hy', hz, hbc⟩ | ⟨fault', after', hy', hz⟩
    · cases hy.symm.trans hy'
    · cases hy.symm.trans hy'
      exact .inr ⟨fault, after, hx, hz⟩

theorem Alike.bind {x : Writing α} {y : Writing β} {f : α → Writing γ} {g : β → Writing δ}
    (h : Alike R x y) (hfg : ∀ a b, R a b → Alike S (f a) (g b)) :
    Alike S (x >>= f) (y >>= g) := by
  intro before
  rw [bind_run, bind_run]
  rcases h before with ⟨a, b, after, hx, hy, hab⟩ | ⟨fault, after, hx, hy⟩
  · rw [hx, hy]; exact hfg a b hab after
  · rw [hx, hy]; exact Or.inr ⟨fault, after, rfl, rfl⟩

theorem Alike.bind_same {x : Writing α} {f : α → Writing γ} {g : α → Writing δ}
    (hfg : ∀ a, Alike S (f a) (g a)) : Alike S (x >>= f) (x >>= g) :=
  Alike.bind (Alike.refl x) fun a _ hab => hab ▸ hfg a

end Writing

end SqlComposer
