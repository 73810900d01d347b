import SqlComposer.Proofs.Trees

/-!
# Stores that are laid out alike

A statement is written from its layout and from those of the SELECTs in it. So two stores in which
all statements have the same layouts render every statement alike, unless a statement stands for a
name and is shown as a text, which may show more of it than its layout does.
-/

namespace SqlComposer

theorem getD_set_congr {σ β : Type} (part : σ → β) {a b : σ} (h : part a = part b)
    (items : List σ) (i j : Nat) (d : σ) :
    part ((items.set i a).getD j d) = part ((items.set i b).getD j d) := by
  simp only [List.getD_eq_getElem?_getD, List.getElem?_set]
  split
  · split
    · exact h
    · rfl
  · rfl

namespace Store

/-- All statements have the same layouts in both stores, and are tied to the same dialects. -/
structure LaidOutAlike (st st' : Store) : Prop where
  select : ∀ id, (st.select id).layout = (st'.select id).layout
  layout : ∀ r, st.layout r = st'.layout r
  dialectOf : ∀ r, st.dialectOf r = st'.dialectOf r

/-- Every statement unfolds to the same pieces in both stores and is rendered in the same way, with
the same text and values or the same fault, from whatever has happened before. What stands for a
name, the quote included, must not mention a statement, of which it would be a text; in sound
statements and regular dialects none does (`RendersLike.render_eq`). -/
def RendersLike (st st' : Store) : Prop :=
  ∀ inUse asked r,
    st.pieces (st.layout r) = st'.pieces (st'.layout r) ∧
      ((st.activeDialect inUse asked r).asDialect.opening.isDetached →
        (∀ v ∈ displayedIn (st.pieces (st.layout r)), v.isDetached) →
          st.render inUse asked r = st'.render inUse asked r)

variable {st st' : Store}

theorem LaidOutAlike.selectPieces_eq (h : st.LaidOutAlike st') (nesting : List SelectId)
    (id : SelectId) : st.selectPieces nesting id = st'.selectPieces nesting id := by
  induction nesting, id using st.nesting_induct with
  | step nesting id ih =>
      by_cases hnested : id ∈ nesting
      · rw [selectPieces_nested hnested, selectPieces_nested hnested]
      · rw [selectPieces_fresh hnested, selectPieces_fresh hnested, ← h.select]
        exact unfolded_congr _ fun inner hinner => ih inner hnested (refers_of_mem hinner)

theorem LaidOutAlike.rendersLike (h : st.LaidOutAlike st') : st.RendersLike st' := by
  intro inUse asked r
  have hpieces : st.pieces (st.layout r) = st'.pieces (st'.layout r) := by
    rw [pieces, pieces, ← h.layout r]
    exact unfolded_congr _ fun id _ => h.selectPieces_eq [] id
  refine ⟨hpieces, fun hquote hdisplayed => ?_⟩
  have hactive : st'.activeDialect inUse asked r = st.activeDialect inUse asked r := by
    rw [activeDialect, activeDialect, h.dialectOf r]
  generalize hdialect : st.activeDialect inUse asked r = dialect at hquote hactive
  have hagree (v : Value) (hv : v.isDetached) :
      (st.writer (st.text inUse) {} dialect).AgreeOn (st'.writer (st'.text inUse) {} dialect) v :=
    agreeOn_of_isDetached st st' _ _ {} dialect hv
  have hwriters : (st.writer (st.text inUse) {} dialect).Agree
      (st'.writer (st'.text inUse) {} dialect) := ⟨.refl dialect, hagree _ hquote⟩
  have htokens := tokens_congr hwriters fun v hv => hagree v (hdisplayed v hv)
  rw [render, render, renderWith_eq, renderWith_eq, hdialect, hactive, htokens, hpieces]

theorem RendersLike.render_eq (h : st.RendersLike st') (hsound : st.isSound) {inUse asked : Value}
    {r : StatementRef} (hregular : (st.activeDialect inUse asked r).asDialect.isRegular) :
    st.render inUse asked r = st'.render inUse asked r := by
  refine (h inUse asked r).2 (opening_of_isRegular hregular) ?_
  rw [displayedIn_pieces hsound r]
  exact fun _ hv => nomatch hv

/-! ## Statements in the same place -/

section Place

variable (st : Store)

theorem setSelect_alike (id : SelectId) {s s' : Select} (hlayout : s.layout = s'.layout)
    (hdialect : s.dialect = s'.dialect) :
    (st.setSelect id s).LaidOutAlike (st.setSelect id s') where
  select _ := getD_set_congr Select.layout hlayout _ _ _ _
  layout r := by cases r <;> rfl
  dialectOf r := by
    cases r with
    | select _ => exact getD_set_congr Select.dialect hdialect _ _ _ _
    | _ => rfl

theorem setInsert_alike (id : InsertId) {s s' : Insert} (hlayout : s.layout = s'.layout)
    (hdialect : s.dialect = s'.dialect) :
    (st.setInsert id s).LaidOutAlike (st.setInsert id s') where
  select _ := rfl
  layout r := by
    cases r with
    | insert _ => exact getD_set_congr Insert.layout hlayout _ _ _ _
    | _ => rfl
  dialectOf r := by
    cases r with
    | insert _ => exact getD_set_congr Insert.dialect hdialect _ _ _ _
    | _ => rfl

theorem setUpdate_alike (id : UpdateId) {s s' : Update} (hlayout : s.layout = s'.layout)
    (hdialect : s.dialect = s'.dialect) :
    (st.setUpdate id s).LaidOutAlike (st.setUpdate id s') where
  select _ := rfl
  layout r := by
    cases r with
    | update _ => exact getD_set_congr Update.layout hlayout _ _ _ _
    | _ => rfl
  dialectOf r := by
    cases r with
    | update _ => exact getD_set_congr Update.dialect hdialect _ _ _ _
    | _ => rfl

theorem setDelete_alike (id : DeleteId) {s s' : Delete} (hlayout : s.layout = s'.layout)
    (hdialect : s.dialect = s'.dialect) :
    (st.setDelete id s).LaidOutAlike (st.setDelete id s') where
  select _ := rfl
  layout r := by
    cases r with
    | delete _ => exact getD_set_congr Delete.layout hlayout _ _ _ _
    | _ => rfl
  dialectOf r := by
    cases r with
    | delete _ => exact getD_set_congr Delete.dialect hdialect _ _ _ _
    | _ => rfl

end Place

end Store

end SqlComposer
