import SqlComposer.Proofs.Completeness
import SqlComposer.Proofs.Redirection
import SqlComposer.Proofs.Secrecy

/-!
# Statements as trees

A statement that reaches no cycle is a tree: its clauses, and for each SELECT that they refer to a
tree of its own. A tree is written without looking at any store, and so is the statement. So it does
not matter which statements share a SELECT, nor which dialects the inner ones are tied to.
-/

namespace SqlComposer

open Relation

/-! ## Trees -/

/-- Clauses, with a tree for each SELECT that they refer to. -/
inductive Tree where
  | node (clauses : Clauses) (inner : (id : SelectId) → id ∈ clauses.references → Tree)

namespace Tree

def pieces : Tree → List Piece
  | node clauses inner =>
    unfolded (fun id => if h : id ∈ clauses.references then (inner id h).pieces else [])
      clauses.layout

def kindName : Tree → String
  | node clauses _ => clauses.kindName

/-- A writer that knows no statements. -/
def writer (dialect : Value) : Writer :=
  Store.writer {} (Store.text {} .null) {} dialect

/-- A tree as it is written in a dialect. -/
def render (dialect : Value) (tree : Tree) : Writing Rendered := do
  let rendered := Rendered.ofTokens dialect [] (← tokens (writer dialect) tree.pieces)
  Writing.addLine renderLogger
    ("Rendered " ++ tree.kindName ++ " with " ++ toString rendered.values.length ++
      " parameter(s)")
  return rendered

end Tree

/-! ## Redirected clauses -/

def Clauses.redirect (f : SelectId → SelectId) : Clauses → Clauses
  | .bare => .bare
  | .select s => .select (s.redirect f)
  | .insert s => .insert (s.redirect f)
  | .update s => .update (s.redirect f)
  | .delete s => .delete (s.redirect f)

theorem Clauses.layout_redirect (f : SelectId → SelectId) (c : Clauses) :
    (c.redirect f).layout = redirectedIn f c.layout := by
  cases c with
  | bare => rfl
  | select s => exact s.layout_redirect f
  | insert s => exact s.layout_redirect f
  | update s => exact s.layout_redirect f
  | delete s => exact s.layout_redirect f

theorem Clauses.kindName_redirect (f : SelectId → SelectId) (c : Clauses) :
    (c.redirect f).kindName = c.kindName := by
  cases c <;> rfl

theorem Clauses.mem_references_redirect {f : SelectId → SelectId} {c : Clauses} {id : SelectId}
    (h : id ∈ referencesIn c.layout) : f id ∈ (c.redirect f).references := by
  refine mem_references ?_
  rw [layout_redirect, referencesIn_redirected]
  exact List.mem_map_of_mem h

theorem Tree.pieces_redirect {f : SelectId → SelectId} {clauses clauses' : Clauses}
    (hclauses : clauses'.redirect f = clauses)
    {inner : (id : SelectId) → id ∈ clauses.references → Tree}
    {inner' : (id : SelectId) → id ∈ clauses'.references → Tree}
    (hinner : ∀ id h h', (inner' id h').pieces = (inner (f id) h).pieces) :
    (Tree.node clauses' inner').pieces = (Tree.node clauses inner).pieces := by
  subst hclauses
  rw [pieces, pieces, Clauses.layout_redirect, unfolded_redirected]
  refine unfolded_congr _ fun id hid => ?_
  rw [dif_pos (Clauses.mem_references hid), dif_pos (Clauses.mem_references_redirect hid), hinner]

/-! ## Copies -/

namespace Store

variable {st : Store}

/-- A SELECT as a tree, if its references come to an end. -/
def copy (st : Store) {id : SelectId} (h : Acc (Function.swap st.Refers) id) : Tree :=
  Acc.rec (motive := fun _ _ => Tree)
    (fun id _ ih => .node (st.clauses (.select id)) fun inner hinner => ih inner hinner) h

theorem copy_eq {id : SelectId} (h : Acc (Function.swap st.Refers) id) :
    st.copy h = .node (st.clauses (.select id)) fun _ hinner => st.copy (h.inv hinner) := by
  cases h
  rfl

theorem reaches_of_mem {r : StatementRef} {id other : SelectId}
    (hid : id ∈ (st.clauses r).references) (hother : ReflTransGen st.Refers id other) :
    st.Reaches r other := by
  cases r with
  | bare _ => cases hid
  | select own => exact ⟨own, List.mem_singleton.mpr rfl, .head hid hother⟩
  | _ => exact ⟨id, hid, hother⟩

theorem acc_of_mem {r : StatementRef} (h : ¬ st.HasCycle r) {id : SelectId}
    (hid : id ∈ (st.clauses r).references) : Acc (Function.swap st.Refers) id := by
  have hacc := not_hasCycle_iff.mp h
  cases r with
  | bare _ => cases hid
  | select own => exact (hacc own (List.mem_singleton.mpr rfl)).inv hid
  | _ => exact hacc id hid

/-- A statement as a tree, if it reaches no cycle: each SELECT in it is replaced with a copy of its
clauses. -/
def unfolding (st : Store) {r : StatementRef} (h : ¬ st.HasCycle r) : Tree :=
  .node (st.clauses r) fun _ hid => st.copy (acc_of_mem h hid)

theorem pieces_copy {id : SelectId} (h : Acc (Function.swap st.Refers) id) :
    {nesting : List SelectId} → (∀ other, ReflTransGen st.Refers id other → other ∉ nesting) →
      st.selectPieces nesting id = (st.copy h).pieces := by
  induction h with
  | intro id hacc ih =>
      intro nesting hfresh
      rw [selectPieces_fresh (hfresh id .refl), copy_eq, Tree.pieces]
      refine unfolded_congr _ fun inner hinner => ?_
      have hrefers := refers_of_mem hinner
      have hmem : inner ∈ (st.clauses (.select id)).references := hrefers
      rw [dif_pos hmem]
      refine ih inner hrefers fun other hother hmem => ?_
      rcases List.mem_cons.mp hmem with rfl | hmem
      · exact no_cycle_of_acc (.intro other hacc) (.head' hrefers hother)
      · exact hfresh other (hother.head hrefers) hmem

/-- A SELECT in the clauses of a statement does not reach that statement, if its references come to
an end. -/
theorem not_own {r : StatementRef} {id : SelectId} (hid : id ∈ (st.clauses r).references)
    (h : Acc (Function.swap st.Refers) id) (other : SelectId)
    (hother : ReflTransGen st.Refers id other) : other ∉ own r := by
  intro hown
  cases r with
  | select outer =>
      obtain rfl := List.mem_singleton.mp hown
      exact no_cycle_of_acc h (.tail' hother hid)
  | _ => cases hown

/-- A statement is unfolded as its tree is. -/
theorem pieces_unfolding {r : StatementRef} (h : ¬ st.HasCycle r) :
    st.pieces (st.layout r) = (st.unfolding h).pieces := by
  rw [pieces_layout, unfolding, Tree.pieces]
  refine unfolded_congr _ fun id hid => ?_
  have hmem := Clauses.mem_references hid
  have hacc := acc_of_mem h hmem
  rw [dif_pos hmem, pieces_copy hacc (not_own hmem hacc)]

/-! ## Shared clauses -/

/-- Each statement that is reached from `r'` has the clauses of one of the other store, with their
references redirected by `f`; the dialects that they are tied to may differ. -/
structure Redirects (st' : Store) (r' : StatementRef) (f : SelectId → SelectId) (st : Store)
    (r : StatementRef) : Prop where
  root : (st'.clauses r').redirect f = st.clauses r
  selects : ∀ id, st'.Reaches r' id →
    (st'.clauses (.select id)).redirect f = st.clauses (.select (f id))

section Redirects

variable {st' : Store} {f : SelectId → SelectId}

theorem acc_redirect {id : SelectId}
    (hclauses : ∀ other, ReflTransGen st'.Refers id other →
      (st'.clauses (.select other)).redirect f = st.clauses (.select (f other)))
    (h : Acc (Function.swap st.Refers) (f id)) : Acc (Function.swap st'.Refers) id := by
  generalize htarget : f id = target at h
  induction h generalizing id with
  | intro target _ ih =>
      subst htarget
      refine .intro id fun inner hrefers => ?_
      have hmem : inner ∈ referencesIn (st'.clauses (.select id)).layout := mem_of_refers hrefers
      have hinner : f inner ∈ (st.clauses (.select (f id))).references := by
        rw [← hclauses id .refl]
        exact Clauses.mem_references_redirect hmem
      exact ih (f inner) hinner (fun other hother => hclauses other (hother.head hrefers)) rfl

theorem pieces_copy_redirect {id : SelectId}
    (hclauses : ∀ other, ReflTransGen st'.Refers id other →
      (st'.clauses (.select other)).redirect f = st.clauses (.select (f other)))
    (h : Acc (Function.swap st'.Refers) id) (htarget : Acc (Function.swap st.Refers) (f id)) :
    (st'.copy h).pieces = (st.copy htarget).pieces := by
  induction h with
  | intro id hacc ih =>
      rw [copy_eq, copy_eq]
      refine Tree.pieces_redirect (hclauses id .refl) fun inner hinner hinner' => ?_
      exact ih inner hinner' (fun other hother => hclauses other (hother.head hinner'))
        (htarget.inv hinner)

theorem Redirects.pieces_eq {r r' : StatementRef} (h : st'.Redirects r' f st r)
    (hfree : ¬ st.HasCycle r) : st'.pieces (st'.layout r') = st.pieces (st.layout r) := by
  rw [pieces_layout, pieces_layout, ← h.root, Clauses.layout_redirect, unfolded_redirected]
  refine unfolded_congr _ fun id hid => ?_
  have hmem := Clauses.mem_references hid
  have hmem' : f id ∈ (st.clauses r).references := by
    rw [← h.root]
    exact Clauses.mem_references_redirect hid
  have hclauses (other : SelectId) (hother : ReflTransGen st'.Refers id other) :=
    h.selects other (reaches_of_mem hmem hother)
  have htarget := acc_of_mem hfree hmem'
  have hacc := acc_redirect hclauses htarget
  rw [pieces_copy hacc (not_own hmem hacc), pieces_copy htarget (not_own hmem' htarget),
    pieces_copy_redirect hclauses hacc htarget]

theorem Redirects.kindName_eq {r r' : StatementRef} (h : st'.Redirects r' f st r) :
    r'.kindName = r.kindName := by
  rw [← st'.kindName_clauses, ← st.kindName_clauses, ← h.root, Clauses.kindName_redirect]

end Redirects

/-! ## Rendering -/

theorem render_eq_tree {r : StatementRef} {inUse asked d : Value} {tree : Tree}
    (hd : st.activeDialect inUse asked r = d) (hkind : r.kindName = tree.kindName)
    (hpieces : st.pieces (st.layout r) = tree.pieces) (hquote : d.asDialect.opening.isDetached)
    (hdisplayed : ∀ v ∈ displayedIn tree.pieces, v.isDetached) :
    st.render inUse asked r = tree.render d := by
  have hagree (v : Value) (hv : v.isDetached) :
      (st.writer (st.text inUse) {} d).AgreeOn (Tree.writer d) v :=
    agreeOn_of_isDetached st {} _ _ {} d hv
  have htokens : tokens (st.writer (st.text inUse) {} d) tree.pieces =
      tokens (Tree.writer d) tree.pieces :=
    tokens_congr ⟨.refl d, hagree _ hquote⟩ fun v hv => hagree v (hdisplayed v hv)
  rw [render, renderWith_eq, hd, hpieces, htokens, Tree.render]
  simp only [renderMessage, hkind]

/-! ## Sound statements -/

theorem displayedIn_append (front back : List Piece) :
    displayedIn (front ++ back) = displayedIn front ++ displayedIn back := by
  induction front with
  | nil => rfl
  | cons piece pieces ih => rw [List.cons_append, displayedIn, displayedIn, ih, List.append_assoc]

theorem piecewise_displayedIn : Piecewise (displayedIn · = []) where
  nil := rfl
  append hfront hback := by
    rw [displayedIn_append, hfront, hback]
    rfl
  single piece h := by
    cases piece with
    | display | streamed | unnamed | lateIdentifier | refused => cases h
    | _ => rfl
  late name behind h := by
    rw [displayedIn, Piece.displayed, h]
    rfl

theorem quoted_of_shortfall {r : StatementRef} {cause : ClauseError} {message : String}
    (h : st.shortfall? r = some (cause, message)) : cause.quoted = [] := by
  cases r with
  | bare id =>
      cases h
      rfl
  | select id => cases h
  | insert id =>
      rw [shortfall?, Insert.shortfall?] at h
      split at h <;> cases h <;> rfl
  | update id =>
      rw [shortfall?, Update.shortfall?] at h
      split at h <;> cases h <;> rfl
  | delete id =>
      rw [shortfall?, Delete.shortfall?] at h
      split at h <;> cases h
      rfl

/-- Nothing is shown as a text in a statement that is made by calls with made conditions. -/
theorem displayedIn_pieces (hsound : st.isSound) (r : StatementRef) :
    displayedIn (st.pieces (st.layout r)) = [] := by
  refine pieces_of_isSound hsound piecewise_displayedIn rfl ?_
  intro cause message h
  have hquoted : displayedIn [.refused cause] = [] := by
    rw [displayedIn, Piece.displayed, quoted_of_shortfall h]
    rfl
  rcases pieces_of_shortfall h with hpieces | ⟨table, hpieces⟩
  · rw [hpieces, hquoted]
  · rw [hpieces]
    exact hquoted

theorem opening_of_isRegular {d : Dialect} (h : d.isRegular) : d.opening.isDetached := by
  rw [Dialect.isRegular, Bool.and_eq_true] at h
  have hplain := h.2
  rw [Dialect.hasPlainQuotes, Dialect.isQuoting] at hplain
  cases hopening : d.opening with
  | null | text | keyword => rfl
  | _ =>
      rw [hopening] at hplain
      cases hplain

/-! ## Structure -/

/-- Only the structure of a statement shows. If it reaches no cycle, it is rendered as the tree that
it unfolds to, whichever SELECTs are shared in it and whatever dialects the inner ones are tied to;
the dialect in use is of no account where there is another one. What stands for a name must not
mention a statement; in sound statements and regular dialects none does (`displayedIn_pieces`,
`opening_of_isRegular`). -/
theorem render_structure {inUse asked d : Value} {r : StatementRef}
    (hd : st.activeDialect inUse asked r = d) (hfree : ¬ st.HasCycle r)
    (hquote : d.asDialect.opening.isDetached)
    (hdisplayed : ∀ v ∈ displayedIn (st.pieces (st.layout r)), v.isDetached) :
    st.render inUse asked r = (st.unfolding hfree).render d ∧
    (∀ (st' : Store) (r' : StatementRef) (f : SelectId → SelectId) (inUse' asked' : Value),
      st'.Redirects r' f st r → st'.activeDialect inUse' asked' r' = d →
        st'.render inUse' asked' r' = st.render inUse asked r) ∧
    (asked.isTruthy ∨ (st.dialectOf r).isTruthy →
      ∀ inUse', st.render inUse' asked r = st.render inUse asked r) := by
  have hpieces := pieces_unfolding hfree
  rw [hpieces] at hdisplayed
  have hkind : (st.unfolding hfree).kindName = r.kindName := st.kindName_clauses r
  have htree (inUse' : Value) (hd' : st.activeDialect inUse' asked r = d) :
      st.render inUse' asked r = (st.unfolding hfree).render d :=
    render_eq_tree hd' hkind.symm hpieces hquote hdisplayed
  refine ⟨htree inUse hd, ?_, ?_⟩
  · intro st' r' f inUse' asked' hredirects hd'
    have hpieces' := (hredirects.pieces_eq hfree).trans hpieces
    have hkind' := hredirects.kindName_eq.trans hkind.symm
    rw [htree inUse hd, render_eq_tree hd' hkind' hpieces' hquote hdisplayed]
  · intro htied inUse'
    have hsame : st.activeDialect inUse' asked r = st.activeDialect inUse asked r := by
      unfold activeDialect Value.orElse
      rcases htied with hasked | htied
      · rw [if_pos hasked, if_pos hasked]
      · rw [if_pos htied, if_pos htied]
    rw [htree inUse hd, htree inUse' (hsame.trans hd)]

/-- A SELECT that is used four times in another one. -/
def shared : Store where
  selects :=
    [{ columns := [.named (.plain "id")]
       source := some (.table (.plain "users"))
       rows := some (.comparison (.ofText "=") (.ofText "age") (.int 3 0) 0) },
      { columns := [.subselect ⟨0⟩, .subselect ⟨0⟩]
        source := some (.table (.plain "logs"))
        rows := some (.membership (.ofText "owner") (.statement (.select ⟨0⟩)) 0)
        order := [.subselect ⟨0⟩] }]

/-- The same with a SELECT of its own for each use, all but one tied to a dialect. -/
def apart (pinned : Value) : Store :=
  let clauses := shared.select ⟨0⟩
  { selects :=
      [{ columns := [.subselect ⟨1⟩, .subselect ⟨2⟩]
         source := some (.table (.plain "logs"))
         rows := some (.membership (.ofText "owner") (.statement (.select ⟨3⟩)) 0)
         order := [.subselect ⟨4⟩] },
        clauses, { clauses with dialect := pinned }, { clauses with dialect := pinned },
        { clauses with dialect := pinned }] }

/-- Which SELECT of the shared ones a SELECT stands for. -/
def sharedFor : SelectId → SelectId
  | ⟨0⟩ => ⟨1⟩
  | ⟨1⟩ | ⟨2⟩ | ⟨3⟩ | ⟨4⟩ => ⟨0⟩
  | id => id

theorem shared_free : ¬ shared.HasCycle (.select ⟨1⟩) := by
  refine not_hasCycle_iff.mpr fun first hfirst => ?_
  obtain rfl := List.mem_singleton.mp hfirst
  refine .intro _ fun inner hinner => ?_
  have hall : inner ∈ [(⟨0⟩ : SelectId), ⟨0⟩, ⟨0⟩, ⟨0⟩] := hinner
  obtain rfl : inner = ⟨0⟩ := by simpa using hall
  exact .intro _ fun _ hnone => nomatch hnone

theorem apart_redirects (pinned : Value) :
    (apart pinned).Redirects (.select ⟨0⟩) sharedFor shared (.select ⟨1⟩) where
  root := rfl
  selects
    | ⟨0⟩, _ | ⟨1⟩, _ | ⟨2⟩, _ | ⟨3⟩, _ | ⟨4⟩, _ => rfl
    | ⟨_ + 5⟩, _ => rfl

theorem render_structure_shared :
    let d := Value.dialect .standard 0
    let other :=
      Value.dialect { Dialect.standard with style := .keyword (.placeholderStyle .questionMark) } 0
    let r := StatementRef.select ⟨1⟩
    shared.render .null d r = (shared.unfolding shared_free).render d ∧
      (apart other).render other d (.select ⟨0⟩) = shared.render .null d r ∧
      shared.render other d r = shared.render .null d r ∧
      ∃ rendered after, (shared.render .null d r).run {} = .ok rendered after := by
  intro d other r
  have hd : shared.activeDialect .null d r = d := rfl
  have hdisplayed : ∀ v ∈ displayedIn (shared.pieces (shared.layout r)), v.isDetached := by
    rw [displayedIn_pieces rfl r]
    exact fun _ hv => nomatch hv
  have hquote : d.asDialect.opening.isDetached := opening_of_isRegular rfl
  obtain ⟨htree, hredirects, htied⟩ := render_structure hd shared_free hquote hdisplayed
  refine ⟨htree, ?_, ?_, ?_⟩
  · exact hredirects (apart other) (.select ⟨0⟩) sharedFor other d (apart_redirects other) rfl
  · exact htied (.inl rfl) other
  · exact Writing.succeeds_iff.mp (by decide +kernel)

end Store

end SqlComposer
