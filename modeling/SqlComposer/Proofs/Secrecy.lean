import SqlComposer.Proofs.Changes
import SqlComposer.Proofs.Detached
import SqlComposer.Proofs.Rendering
import SqlComposer.Proofs.WrittenAlike

/-!
# Bound values stay out of the text

Two runs of the same statement over stores that differ only in bound values end with the same fault,
or with the same text and with values that differ only where the stores do.
-/

namespace SqlComposer

variable {changed : Value → Value → Prop} {bound : Bool}

/-! ## Looking up -/

theorem getD_matches {α : Type} {R : α → α → Prop} {d : α} (hd : R d d) :
    {as as' : List α} → List.Forall₂ R as as' → (i : Nat) → R (as.getD i d) (as'.getD i d)
  | _, _, .nil, _ => hd
  | _, _, .cons h _, 0 => h
  | _, _, .cons _ hs, i + 1 => getD_matches hd hs i

namespace Store.Matches

variable {st st' : Store} (h : st.Matches changed bound st')
include h

theorem select (id : SelectId) : (st.select id).Matches changed bound (st'.select id) :=
  getD_matches ⟨rfl, .nil, rfl, rfl, rfl, .nil, .none, .nil, .none, .nil, .none, .none, rfl⟩
    h.selects id.index

theorem insert (id : InsertId) : (st.insert id).Matches changed (st'.insert id) :=
  getD_matches ⟨rfl, rfl, rfl, .nil, rfl, .none⟩ h.inserts id.index

theorem update (id : UpdateId) : (st.update id).Matches changed (st'.update id) :=
  getD_matches ⟨rfl, rfl, .nil, .none, .none⟩ h.updates id.index

theorem delete (id : DeleteId) : (st.delete id).Matches changed (st'.delete id) :=
  getD_matches ⟨rfl, rfl, .none, .none⟩ h.deletes id.index

theorem dialectOf_eq (r : StatementRef) : st.dialectOf r = st'.dialectOf r := by
  cases r with
  | bare id => simp only [dialectOf, bare, h.bares]
  | select id => exact (h.select id).dialect
  | insert id => exact (h.insert id).dialect
  | update id => exact (h.update id).dialect
  | delete id => exact (h.delete id).dialect

theorem activeDialect_eq (inUse asked : Value) (r : StatementRef) :
    st.activeDialect inUse asked r = st'.activeDialect inUse asked r := by
  simp only [activeDialect, h.dialectOf_eq r]

theorem layout (r : StatementRef) :
    LayoutMatches changed bound (st.layout r) (st'.layout r) := by
  cases r with
  | bare id => exact pieces_same _
  | select id => exact pieces_same _
  | insert id => exact (h.insert id).layout
  | update id => exact (h.update id).layout
  | delete id => exact (h.delete id).layout

theorem pieces (r : StatementRef) :
    LayoutMatches changed bound (st.pieces (st.layout r)) (st'.pieces (st'.layout r)) :=
  pieces_matches h.selects.length_eq (fun id => (h.select id).layout) (h.layout r)

end Store.Matches

/-! ## Two runs -/

/-- A value that mentions no statement is the same text over any two stores. -/
theorem agreeOn_of_isDetached (st st' : Store) (nested nested' : Store.Nested)
    (around : Surroundings) (dialect : Value) {v : Value} (hv : v.isDetached) :
    (st.writer nested around dialect).AgreeOn (st'.writer nested' around dialect) v :=
  ⟨Value.display_congr _ _ v around.serials hv, Value.shown_congr _ _ v around.serials hv⟩

/-- Bound values never get into the text. Over two stores that differ only in bound values, a
statement is refused with the same fault, or it is the same text and its values differ only where
they are changed. Counts may be changed if they are bound. What stands for a name must not mention a
statement; in sound statements none does (`displayedIn_pieces`). -/
theorem render_secrecy {st st' : Store} (inUse asked : Value) (r : StatementRef) {d : Value}
    (hd : st.activeDialect inUse asked r = d)
    (h : st.Matches changed d.asDialect.countsAreBound st')
    (hquote : d.asDialect.opening.isDetached)
    (hdisplayed : ∀ v ∈ displayedIn (st.pieces (st.layout r)), v.isDetached) (before : Progress) :
    (∃ text values values' after,
      (st.render inUse asked r).run before = .ok ⟨text, values, d⟩ after ∧
        (st'.render inUse asked r).run before = .ok ⟨text, values', d⟩ after ∧
          List.Forall₂ (fun v v' => v = v' ∨ changed v v') values values') ∨
      ∃ fault after, (st.render inUse asked r).run before = .error fault after ∧
        (st'.render inUse asked r).run before = .error fault after := by
  have hd' := (h.activeDialect_eq inUse asked r).symm.trans hd
  have hagree (v : Value) (hv : v.isDetached) :=
    agreeOn_of_isDetached st st' (st.text inUse) (st'.text inUse) {} d hv
  rw [Store.render, Store.render, Store.renderWith_run, Store.renderWith_run, hd, hd']
  have hwritten := tokens_alike ⟨.refl d, hagree _ hquote⟩ rfl (h.pieces r)
    (fun v hv => hagree v (hdisplayed v hv)) before
  rcases hwritten with ⟨written, written', after, hx, hy, hts⟩ | ⟨fault, after, hx, hy⟩
  · have htext := Token.textFrom_eq d.asDialect 0 hts
    have hvalues := Token.values_matches hts
    have hmessage : Store.renderMessage r (.ofTokens d [] written') =
        Store.renderMessage r (.ofTokens d [] written) := by
      simp only [Store.renderMessage, Rendered.ofTokens, List.nil_append, hvalues.length_eq]
    rw [hx, hy]
    refine .inl ⟨Token.textFrom d.asDialect 0 written, Token.values written, Token.values written',
      _, rfl, ?_, hvalues⟩
    rw [htext]
    simp only [hmessage]
    rfl
  · rw [hx, hy]
    exact .inr ⟨fault, after, rfl, rfl⟩

/-- An UPDATE that binds a secret in a subselect, in a raw fragment and in its conditions. -/
def secretive (secret : Value) (count : Nat) : Store where
  selects :=
    [{ columns := [.named (.plain "id")]
       source := some (.table (.plain "users"))
       rows := some (.comparison (.ofText "=") (.ofText "token") secret 0)
       limit := some count }]
  updates :=
    [{ table := some (.plain "logins")
       assignments :=
         [(.plain "owner", .statement (.select ⟨0⟩)),
          (.plain "note", .condition (.raw ⟨.plain "upper(?)", .tuple [secret] 0, 0⟩))]
       rows := some (.logical .or
         (.tuple [.condition (.membership (.ofText "key") (.tuple [.int 3 0, secret] 0) 0),
           .condition (.between (.ofText "age") (.int 1 0) secret 0)] 0) 0) }]

/-- Only secrets and counts are changed. -/
def secretChanged (v v' : Value) : Prop :=
  v = .int 1 0 ∧ v' = .ofText "' OR 1=1" ∨ v = .int 5 0 ∧ v' = .int 7 0

theorem secretive_matches :
    (secretive (.int 1 0) 5).Matches secretChanged true (secretive (.ofText "' OR 1=1") 7) := by
  have hsecret : Value.Matches secretChanged (.int 1 0) (.ofText "' OR 1=1") :=
    .data rfl rfl (.inl ⟨rfl, rfl⟩)
  have hcount : CountMatches secretChanged true 5 7 := .inr ⟨rfl, .inr ⟨rfl, rfl⟩⟩
  have hfragment : Raw.Matches secretChanged ⟨.plain "upper(?)", .tuple [.int 1 0] 0, 0⟩
      ⟨.plain "upper(?)", .tuple [.ofText "' OR 1=1"] 0, 0⟩ :=
    .mk (.plain "upper(?)") 0 0 (.cons hsecret .nil)
  refine ⟨rfl, .cons ?_ .nil, .nil, .cons ?_ .nil, .nil⟩
  · exact ⟨rfl, .cons (.same _) .nil, rfl, rfl, rfl, .nil,
      .some (.comparison (.ofText "=") (.ofText "token") 0 0 hsecret), .nil, .none, .nil,
      .some hcount, .none, rfl⟩
  · refine ⟨rfl, rfl, .cons ⟨rfl, .same _⟩ (.cons ⟨rfl, .raw hfragment⟩ .nil), .some ?_, .none⟩
    refine .logical .or 0 0 (.tuple 0 0 (.cons (.condition ?_) (.cons (.condition ?_) .nil)))
    · exact .membership (.ofText "key") 0 0 rfl rfl rfl (.cons (.same _) (.cons hsecret .nil))
    · exact .between (.ofText "age") 0 0 (.same _) hsecret

theorem render_secrecy_update :
    let d := Value.dialect { Dialect.standard with bindsCounts := .bool true } 0
    let r := StatementRef.update ⟨0⟩
    ∃ text values values' after,
      ((secretive (.int 1 0) 5).render .null d r).run {} = .ok ⟨text, values, d⟩ after ∧
        ((secretive (.ofText "' OR 1=1") 7).render .null d r).run {} =
          .ok ⟨text, values', d⟩ after ∧
        List.Forall₂ (fun v v' => v = v' ∨ secretChanged v v') values values' := by
  intro d r
  have hshown : (displayedIn ((secretive (.int 1 0) 5).pieces
      ((secretive (.int 1 0) 5).layout r))).all Value.isDetached = true := by
    decide +kernel
  have hok : (match ((secretive (.int 1 0) 5).render .null d r).run {} with
      | .ok _ _ => true
      | .error _ _ => false) = true := by
    decide +kernel
  have hruns := render_secrecy .null d r rfl secretive_matches rfl (List.all_eq_true.mp hshown) {}
  rcases hruns with hruns | ⟨fault, after, hfault, -⟩
  · exact hruns
  · rw [hfault] at hok
    cases hok

end SqlComposer
