import SqlComposer.Proofs.Embedding
import SqlComposer.Proofs.Meaning
import SqlComposer.Proofs.Narrowing
import SqlComposer.Proofs.Refusal
import SqlComposer.Proofs.SameLayout
import SqlComposer.Proofs.Sequence
import SqlComposer.Proofs.Soundness

/-!
# Grouping of equal connectives

A connective with a single operand is written as that operand, and an operand with the same
connective is written without parentheses. So conditions that differ only in how operands of equal
connectives are grouped are written alike, and a clause that is narrowed by several conditions is
written as if it had been narrowed by all of them at once.
-/

namespace SqlComposer

/-! ## Regrouping -/

/-- Conditions that differ in the grouping of equal connectives only, at any depth. The operands of
a connective may be a list or a tuple, and no serial number matters. -/
inductive Value.Regroups : Value → Value → Prop
  | refl (v : Value) : Regroups v v
  | symm {v v' : Value} : Regroups v v' → Regroups v' v
  | trans {v v' v'' : Value} : Regroups v v' → Regroups v' v'' → Regroups v v''
  /-- A connective with one operand is that operand. -/
  | single {op : Connective} {operands only : Value} {serial : Serial} :
      operands.items? = some [only] →
        Regroups (.condition (.logical op operands serial)) only
  /-- An operand with the same connective is replaced with its own operands. -/
  | splice {op : Connective} {operands inner spliced : Value}
      {serial innerSerial splicedSerial : Serial} (front members back : List Value) :
      operands.items? =
        some (front ++ .condition (.logical op inner innerSerial) :: back) →
      inner.items? = some members → members ≠ [] →
      spliced.items? = some (front ++ members ++ back) →
        Regroups (.condition (.logical op operands serial))
          (.condition (.logical op spliced splicedSerial))
  | operand {op : Connective} {operands operands' v v' : Value} {serial serial' : Serial}
      (front back : List Value) :
      Regroups v v' → operands.items? = some (front ++ v :: back) →
      operands'.items? = some (front ++ v' :: back) →
        Regroups (.condition (.logical op operands serial))
          (.condition (.logical op operands' serial'))
  | negation {v v' : Value} {serial serial' : Serial} :
      Regroups v v' →
        Regroups (.condition (.negation v serial)) (.condition (.negation v' serial'))

/-! ## Conditions that look alike -/

/-- Two conditions have the same layout, and nothing around them tells them apart. -/
structure Value.LooksAlike (v v' : Value) : Prop where
  layout : v.conditionLayout = v'.conditionLayout
  needsParentheses : ∀ op, v.needsParentheses op = v'.needsParentheses op
  isLogical : v.isLogical = v'.isLogical

namespace Value.LooksAlike

variable {v v' v'' : Value}

theorem refl (v : Value) : v.LooksAlike v :=
  ⟨rfl, fun _ => rfl, rfl⟩

theorem symm (h : v.LooksAlike v') : v'.LooksAlike v :=
  ⟨h.layout.symm, fun op => (h.needsParentheses op).symm, h.isLogical.symm⟩

theorem trans (h : v.LooksAlike v') (h' : v'.LooksAlike v'') : v.LooksAlike v'' :=
  ⟨h.layout.trans h'.layout, fun op => (h.needsParentheses op).trans (h'.needsParentheses op),
    h.isLogical.trans h'.isLogical⟩

end Value.LooksAlike

/-- A condition as an operand of a connective, in parentheses if it needs them. -/
def Value.operandLayout (op : Connective) (v : Value) : List Piece :=
  v.asOperand op v.conditionLayout

theorem Value.LooksAlike.operandLayout_eq {v v' : Value} (h : v.LooksAlike v') (op : Connective) :
    v.operandLayout op = v'.operandLayout op := by
  rw [operandLayout, operandLayout, asOperand, asOperand, h.layout, h.needsParentheses]

/-- The operands of a connective one after the other. -/
def Connective.chain (op : Connective) (items : List Value) : List Piece :=
  Piece.joined (" " ++ op.text ++ " ") (items.map (Value.operandLayout op))

/-- The operands as they are laid out under a connective; a single one stands for itself. -/
def Connective.layout (op : Connective) : List Value → List Piece
  | [only] => only.conditionLayout
  | items => op.chain items

theorem Connective.layout_several (op : Connective) {items : List Value}
    (hseveral : items.length ≠ 1) : op.layout items = op.chain items := by
  rcases items with _ | ⟨first, _ | ⟨second, rest⟩⟩
  · rfl
  · exact absurd rfl hseveral
  · rfl

section Logical

variable {op : Connective} {operands : Value} {items : List Value} {serial : Serial}

theorem Value.conditionLayouts_eq (vs : List Value) :
    Value.conditionLayouts vs = vs.map Value.conditionLayout := by
  induction vs with
  | nil => rfl
  | cons v vs ih => rw [conditionLayouts, ih, List.map_cons]

theorem Connective.joined_conditionLayouts (op : Connective) (items : List Value) :
    op.joined items (Value.conditionLayouts items) = op.layout items := by
  have hparts : List.zipWith (Value.asOperand op) items (Value.conditionLayouts items) =
      items.map (Value.operandLayout op) := by
    rw [Value.conditionLayouts_eq, List.zipWith_map_right, List.zipWith_self]
    rfl
  rcases items with _ | ⟨first, _ | ⟨second, rest⟩⟩
  · rfl
  · rfl
  · exact congrArg (Piece.joined _) hparts

theorem Condition.layout_logical (serial : Serial) (h : operands.items? = some items) :
    (Condition.logical op operands serial).layout = op.layout items := by
  rw [Condition.layout]
  cases operands with
  | list _ _ | tuple _ _ =>
      cases h
      exact op.joined_conditionLayouts items
  | _ => cases h

theorem Condition.unwrapped_logical (h : operands.items? = some items) :
    (Condition.logical op operands serial).unwrapped =
      (Value.unwrappedSingle? items).getD (.condition (.logical op operands serial)) := by
  rw [Condition.unwrapped]
  cases operands with
  | list _ _ =>
      cases h
      rw [Value.onlyUnwrapped?_list]
  | tuple _ _ =>
      cases h
      rw [Value.onlyUnwrapped?_tuple]
  | _ => cases h

theorem Value.looksAlike_single {only : Value} (h : operands.items? = some [only]) :
    LooksAlike (.condition (.logical op operands serial)) only := by
  have hunwrapped : (Value.condition (.logical op operands serial)).unwrapped = only.unwrapped :=
    Condition.unwrapped_logical h
  constructor
  · exact Condition.layout_logical serial h
  · intro op'
    rw [needsParentheses, hunwrapped, needsParentheses]
  · rw [isLogical, hunwrapped, isLogical]

theorem Value.logical_several (op : Connective) (serial : Serial)
    (h : operands.items? = some items) (hseveral : items.length ≠ 1) :
    (Value.condition (.logical op operands serial)).unwrapped =
        .condition (.logical op operands serial) ∧
      (Value.condition (.logical op operands serial)).conditionLayout = op.chain items := by
  rw [Value.unwrapped, Condition.unwrapped_logical h, conditionLayout,
    Condition.layout_logical serial h, op.layout_several hseveral]
  refine ⟨?_, rfl⟩
  rcases items with _ | ⟨first, _ | ⟨second, rest⟩⟩
  · rfl
  · exact absurd rfl hseveral
  · rfl

theorem Value.looksAlike_chain {operands' : Value} {items' : List Value} {serial' : Serial}
    (h : operands.items? = some items) (h' : operands'.items? = some items')
    (hseveral : items.length ≠ 1) (hseveral' : items'.length ≠ 1)
    (hchain : op.chain items = op.chain items') :
    LooksAlike (.condition (.logical op operands serial))
      (.condition (.logical op operands' serial')) := by
  obtain ⟨hunwrapped, hlayout⟩ := logical_several op serial h hseveral
  obtain ⟨hunwrapped', hlayout'⟩ := logical_several op serial' h' hseveral'
  constructor
  · rw [hlayout, hlayout', hchain]
  · intro op'
    rw [needsParentheses, hunwrapped, needsParentheses, hunwrapped']
  · rw [isLogical, hunwrapped, isLogical, hunwrapped']

theorem Value.looksAlike_same {operands' : Value} {serial' : Serial}
    (h : operands.items? = some items) (h' : operands'.items? = some items) :
    LooksAlike (.condition (.logical op operands serial))
      (.condition (.logical op operands' serial')) := by
  by_cases hsingle : items.length = 1
  · obtain ⟨only, rfl⟩ := List.length_eq_one_iff.mp hsingle
    exact (looksAlike_single h).trans (looksAlike_single h').symm
  · exact looksAlike_chain h h' hsingle hsingle rfl

theorem Value.operandLayout_logical (h : operands.items? = some items) :
    (Value.condition (.logical op operands serial)).operandLayout op = op.chain items := by
  by_cases hsingle : items.length = 1
  · obtain ⟨only, rfl⟩ := List.length_eq_one_iff.mp hsingle
    rw [(looksAlike_single h).operandLayout_eq, Connective.chain, List.map_singleton, Piece.joined,
      List.intercalate_singleton]
  · obtain ⟨hunwrapped, hlayout⟩ := logical_several op serial h hsingle
    have hbare : (Value.condition (.logical op operands serial)).needsParentheses op = false := by
      rw [needsParentheses, hunwrapped]
      simp
    rw [operandLayout, asOperand, hbare, hlayout]
    rfl

end Logical

theorem Piece.joined_splice (text : String) (front : List (List Piece))
    {members : List (List Piece)} (hmembers : members ≠ []) (back : List (List Piece)) :
    joined text (front ++ joined text members :: back) =
      joined text (front ++ members ++ back) := by
  have hback : joined text (joined text members :: back) = joined text (members ++ back) := by
    by_cases hempty : back = []
    · rw [hempty, List.append_nil, joined, List.intercalate_singleton]
    · rw [joined_append text hmembers hempty, ← List.singleton_append,
        joined_append text (List.cons_ne_nil _ _) hempty]
      simp only [joined, List.intercalate_singleton]
  by_cases hempty : front = []
  · rw [hempty]
    exact hback
  · rw [List.append_assoc, joined_append text hempty (List.cons_ne_nil _ _),
      joined_append text hempty (List.append_ne_nil_of_left_ne_nil hmembers _), hback]

theorem Value.Regroups.looksAlike {v v' : Value} (h : v.Regroups v') : v.LooksAlike v' := by
  induction h with
  | refl v => exact .refl v
  | symm _ ih => exact ih.symm
  | trans _ _ ih ih' => exact ih.trans ih'
  | single hoperands => exact looksAlike_single hoperands
  | @splice op operands inner spliced serial innerSerial splicedSerial front members back hoperands
      hinner hmembers hspliced =>
      have hsome := List.length_pos_of_ne_nil hmembers
      by_cases halone : front = [] ∧ back = []
      · obtain ⟨rfl, rfl⟩ := halone
        rw [List.nil_append, List.append_nil] at hspliced
        exact (looksAlike_single hoperands).trans (looksAlike_same hinner hspliced)
      · have haround : front.length ≠ 0 ∨ back.length ≠ 0 := by
          simpa only [ne_eq, List.length_eq_zero_iff, ← not_and_or] using halone
        refine looksAlike_chain hoperands hspliced ?_ ?_ ?_
        · simp only [List.length_append, List.length_cons]
          omega
        · simp only [List.length_append]
          omega
        · rw [Connective.chain, Connective.chain, List.map_append, List.map_cons,
            operandLayout_logical hinner, List.map_append, List.map_append]
          exact Piece.joined_splice _ _ (List.map_eq_nil_iff.not.mpr hmembers) _
  | @operand op operands operands' v v' serial serial' front back _ hoperands hoperands' ih =>
      by_cases halone : front = [] ∧ back = []
      · obtain ⟨rfl, rfl⟩ := halone
        exact (looksAlike_single hoperands).trans (ih.trans (looksAlike_single hoperands').symm)
      · have haround : front.length ≠ 0 ∨ back.length ≠ 0 := by
          simpa only [ne_eq, List.length_eq_zero_iff, ← not_and_or] using halone
        refine looksAlike_chain hoperands hoperands' ?_ ?_ ?_
        · simp only [List.length_append, List.length_cons]
          omega
        · simp only [List.length_append, List.length_cons]
          omega
        · simp only [Connective.chain, List.map_append, List.map_cons, ih.operandLayout_eq]
  | negation _ ih =>
      rename_i v v' serial serial'
      refine ⟨?_, fun _ => rfl, rfl⟩
      rw [conditionLayout, conditionLayout, Condition.layout, Condition.layout, negated, negated,
        ih.layout, ih.isLogical]

/-! ## Narrowing step by step -/

section Narrowing

/-- A clause narrowed by several conditions one after the other. -/
def Condition.narrowAll (prior : Option Condition) (cs : List Condition) : Option Condition :=
  cs.foldl (fun prior c => some (narrow prior c)) prior

/-- Several conditions joined by AND. -/
def Condition.all (cs : List Condition) : Condition :=
  .logical .and (.tuple (cs.map .condition) 0) 0

theorem Condition.narrowAll_some (prior : Condition) {cs : List Condition} (hcs : cs ≠ []) :
    ∃ whole, narrowAll (some prior) cs = some whole ∧
      (Value.condition whole).Regroups (.condition (all (prior :: cs))) := by
  induction cs generalizing prior with
  | nil => exact absurd rfl hcs
  | cons c cs ih =>
      by_cases hlast : cs = []
      · subst hlast
        exact ⟨_, rfl, .refl _⟩
      · obtain ⟨whole, hwhole, hgrouped⟩ := ih (.logical .and (.tuple [.condition prior,
          .condition c] 0) 0) hlast
        refine ⟨whole, hwhole, hgrouped.trans ?_⟩
        exact .splice [] [.condition prior, .condition c] (cs.map .condition) rfl rfl
          (List.cons_ne_nil _ _) rfl

/-- A clause narrowed step by step is written like one that is narrowed by all conditions at
once. -/
theorem Condition.narrowAll_regroups (prior : Option Condition) {cs : List Condition}
    (hcs : cs ≠ []) :
    ∃ whole, narrowAll prior cs = some whole ∧
      (Value.condition whole).Regroups (.condition (narrow prior (all cs))) := by
  cases prior with
  | some prior =>
      obtain ⟨whole, hwhole, hgrouped⟩ := narrowAll_some prior hcs
      refine ⟨whole, hwhole, hgrouped.trans (.symm ?_)⟩
      refine .splice [.condition prior] (cs.map .condition) [] rfl rfl ?_ ?_
      · exact List.map_eq_nil_iff.not.mpr hcs
      · rw [List.append_nil]
        rfl
  | none =>
      obtain ⟨c, rest, rfl⟩ := List.exists_cons_of_ne_nil hcs
      by_cases hlast : rest = []
      · subst hlast
        exact ⟨c, rfl, .symm (.single rfl)⟩
      · exact narrowAll_some c hlast

theorem Condition.narrow_regroups (prior : Option Condition) {c c' : Condition}
    (h : (Value.condition c).Regroups (.condition c')) :
    (Value.condition (narrow prior c)).Regroups (.condition (narrow prior c')) := by
  cases prior with
  | none => exact h
  | some prior => exact .operand [.condition prior] [] h rfl rfl

end Narrowing

/-! ## Clauses that are narrowed -/

theorem Outcome.ofChecked_afterCall {σ : Type} (s : σ) (clause : ConditionClause)
    (prior : Option Condition) (argument : Value) (value : Option Value)
    (set : Option Condition → σ) :
    Outcome.ofChecked s (do return set (← Condition.afterCall clause prior argument value)) =
      match Condition.ofCall clause argument value with
      | .ok c => ⟨set (some (.narrow prior c)), none⟩
      | .error cause => ⟨s, some cause⟩ := by
  rw [Condition.afterCall_bind]
  cases Condition.ofCall clause argument value <;> rfl

/-- A clause that calls on a statement narrow. -/
inductive Filter where
  | selectRows (id : SelectId)
  | selectGroups (id : SelectId)
  | updateRows (id : UpdateId)
  | deleteRows (id : DeleteId)

namespace Filter

def clause : Filter → ConditionClause
  | selectGroups _ => .groups
  | _ => .rows

/-- Whether the statement has been started. -/
def IsKnown (st : Store) : Filter → Prop
  | selectRows id | selectGroups id => id.index < st.selects.length
  | updateRows id => id.index < st.updates.length
  | deleteRows id => id.index < st.deletes.length

/-- The call that narrows the clause. -/
def call (argument : Value) (value : Option Value) : Filter → Store.Call
  | selectRows id => .select id (.rows argument value)
  | selectGroups id => .select id (.groups argument value)
  | updateRows id => .update id (.rows argument value)
  | deleteRows id => .delete id (.rows argument value)

/-- The condition that the clause has. -/
def condition? (st : Store) : Filter → Option Condition
  | selectRows id => (st.select id).rows
  | selectGroups id => (st.select id).groups
  | updateRows id => (st.update id).rows
  | deleteRows id => (st.delete id).rows

/-- The statements with the given condition in the clause. -/
def put (st : Store) (condition : Option Condition) : Filter → Store
  | selectRows id => st.setSelect id { st.select id with rows := condition }
  | selectGroups id => st.setSelect id { st.select id with groups := condition }
  | updateRows id => st.setUpdate id { st.update id with rows := condition }
  | deleteRows id => st.setDelete id { st.delete id with rows := condition }

variable {st : Store} {f : Filter}

@[simp] theorem put_condition (st : Store) (f : Filter) : f.put st (f.condition? st) = st := by
  cases f with
  | selectRows id | selectGroups id => exact st.setSelect_select id
  | updateRows id =>
      have hsame : st.setUpdate id (st.update id) = st := by
        simp only [Store.setUpdate, Store.update, Store.set_getD]
      exact hsame
  | deleteRows id =>
      have hsame : st.setDelete id (st.delete id) = st := by
        simp only [Store.setDelete, Store.delete, Store.set_getD]
      exact hsame

@[simp] theorem isKnown_put (condition : Option Condition) :
    f.IsKnown (f.put st condition) ↔ f.IsKnown st := by
  cases f <;> simp [IsKnown, put, Store.setSelect, Store.setUpdate, Store.setDelete]

theorem condition_put (h : f.IsKnown st) (condition : Option Condition) :
    f.condition? (f.put st condition) = condition := by
  cases f with
  | selectRows id | selectGroups id => simp only [condition?, put, Store.select_setSelect st h]
  | updateRows id => simp only [condition?, put, Store.update, Store.setUpdate, Store.getD_set h]
  | deleteRows id => simp only [condition?, put, Store.delete, Store.setDelete, Store.getD_set h]

theorem put_put (h : f.IsKnown st) (condition last : Option Condition) :
    f.put (f.put st condition) last = f.put st last := by
  cases f with
  | selectRows id | selectGroups id =>
      simp only [put, Store.select_setSelect st h]
      simp only [Store.setSelect, List.set_set]
  | updateRows id => simp only [put, Store.update, Store.setUpdate, Store.getD_set h, List.set_set]
  | deleteRows id => simp only [put, Store.delete, Store.setDelete, Store.getD_set h, List.set_set]

theorem call_eq (st : Store) (f : Filter) (argument : Value) (value : Option Value) :
    st.call (f.call argument value) =
      match Condition.ofCall f.clause argument value with
      | .ok c => ⟨f.put st (some (.narrow (f.condition? st) c)), none⟩
      | .error cause => ⟨st, some cause⟩ := by
  have hkept := f.put_condition st
  cases f with
  | selectRows id | selectGroups id =>
      simp only [call, Store.call, Select.call, Outcome.ofChecked_afterCall, clause]
      cases Condition.ofCall _ argument value with
      | ok c => rfl
      | error cause => exact congrArg (Outcome.mk · _) hkept
  | updateRows id =>
      simp only [call, Store.call, Update.call, Outcome.ofChecked_afterCall, clause]
      cases Condition.ofCall _ argument value with
      | ok c => rfl
      | error cause => exact congrArg (Outcome.mk · _) hkept
  | deleteRows id =>
      simp only [call, Store.call, Delete.call, Outcome.ofChecked_afterCall, clause]
      cases Condition.ofCall _ argument value with
      | ok c => rfl
      | error cause => exact congrArg (Outcome.mk · _) hkept

theorem put_alike (st : Store) (f : Filter) {c c' : Condition} (h : c.layout = c'.layout) :
    (f.put st (some c)).LaidOutAlike (f.put st (some c')) := by
  cases f with
  | selectRows id | selectGroups id =>
      refine st.setSelect_alike id ?_ rfl
      simp only [Select.layout, Select.clauses, ConditionClause.layout, optional, h]
  | updateRows id =>
      refine st.setUpdate_alike id ?_ rfl
      simp only [Update.layout, ConditionClause.layout, optional, h]
  | deleteRows id =>
      refine st.setDelete_alike id ?_ rfl
      simp only [Delete.layout, ConditionClause.layout, optional, h]

end Filter

/-! ## Chains of calls -/

/-- The store after calls that are made one after the other, up to the first that is refused. -/
def Store.chain (st : Store) : List Store.Call → Except ClauseError Store
  | [] => .ok st
  | c :: calls =>
    match (st.call c).refusal with
    | none => (st.call c).state.chain calls
    | some cause => .error cause

/-- What a clause is called with: an argument, and a value if the argument is a column. -/
abbrev Request := Value × Option Value

namespace Filter

variable {st : Store} {f : Filter}

def calls (f : Filter) (requests : List Request) : List Store.Call :=
  requests.map fun request => f.call request.1 request.2

/-- The condition that a request stands for. -/
def conditionOf (f : Filter) (request : Request) : Except ClauseError Condition :=
  Condition.ofCall f.clause request.1 request.2

theorem chain_eq (h : f.IsKnown st) (requests : List Request) :
    st.chain (f.calls requests) = do
      let cs ← requests.mapM f.conditionOf
      return f.put st (Condition.narrowAll (f.condition? st) cs) := by
  induction requests generalizing st with
  | nil => exact congrArg Except.ok (f.put_condition st).symm
  | cons request requests ih =>
      rw [calls, List.map_cons, Store.chain, call_eq, List.mapM_cons]
      show _ = (do
        let cs ← (do
          let c ← Condition.ofCall f.clause request.1 request.2
          let cs ← requests.mapM f.conditionOf
          return c :: cs)
        return f.put st (Condition.narrowAll (f.condition? st) cs))
      cases Condition.ofCall f.clause request.1 request.2 with
      | error cause => rfl
      | ok c =>
          have hrest := ih ((isKnown_put (some (.narrow (f.condition? st) c))).mpr h)
          simp only [condition_put h, put_put h] at hrest
          refine hrest.trans ?_
          cases requests.mapM f.conditionOf <;> rfl

theorem narrowAll_rendersLike (st : Store) (f : Filter) {cs : List Condition} (hcs : cs ≠ [])
    {c : Condition} (hc : (Value.condition (.all cs)).Regroups (.condition c)) :
    (f.put st (Condition.narrowAll (f.condition? st) cs)).RendersLike
      (f.put st (some (.narrow (f.condition? st) c))) := by
  obtain ⟨whole, hwhole, hgrouped⟩ := Condition.narrowAll_regroups (f.condition? st) hcs
  have hsame := (hgrouped.trans (Condition.narrow_regroups (f.condition? st) hc)).looksAlike
  rw [hwhole]
  exact (f.put_alike st hsame.layout).rendersLike

end Filter

/-! ### Several arguments -/

theorem Condition.ofConditions_all {cs : List Condition} (hcs : cs ≠ []) :
    ofConditions .and cs = .ok (all cs) := by
  obtain ⟨c, rest, rfl⟩ := List.exists_cons_of_ne_nil hcs
  rfl

/-- A condition, or a mapping that stands for one. -/
def Value.IsConditionLike : Value → Prop
  | .condition _ | .map _ _ => True
  | _ => False

theorem Condition.ofCall_of_isConditionLike (clause : ConditionClause) {argument : Value}
    (h : argument.IsConditionLike) : ofCall clause argument none = ofArgument argument := by
  cases argument with
  | condition c | map entries serial => rfl
  | _ => cases h

theorem Condition.connect_eq {arguments : List Value} (hne : arguments ≠ [])
    (hlike : ∀ a ∈ arguments, a.IsConditionLike) :
    connect .and arguments = do return all (← arguments.mapM ofArgument) := by
  have hflat : flattened arguments = arguments := by
    rcases arguments with _ | ⟨first, _ | ⟨second, rest⟩⟩
    · rfl
    · have hfirst := hlike first List.mem_cons_self
      cases first with
      | list items serial | tuple items serial => cases hfirst
      | _ => rfl
    · cases first <;> rfl
  rw [connect, hflat]
  cases hconditions : arguments.mapM ofArgument with
  | error cause => rfl
  | ok cs => exact ofConditions_all (ne_nil_of_mapM hconditions hne)

namespace Filter

variable {st : Store} {f : Filter}

/-- Calls with one condition each are refused like the one call with all of them joined by AND, or
the statements render alike after both, however the joined conditions are grouped. -/
theorem chain_joined (h : f.IsKnown st) {arguments : List Value} (hne : arguments ≠ [])
    (hlike : ∀ a ∈ arguments, a.IsConditionLike) :
    (∀ cause, Condition.connect .and arguments = .error cause →
        st.chain (f.calls (arguments.map (·, none))) = .error cause) ∧
      ∀ joined c, Condition.connect .and arguments = .ok joined →
        (Value.condition joined).Regroups (.condition c) →
          ∃ chained single, st.chain (f.calls (arguments.map (·, none))) = .ok chained ∧
            st.chain (f.calls [(.condition c, none)]) = .ok single ∧
              chained.RendersLike single := by
  have hrequests : (arguments.map (·, none)).mapM f.conditionOf =
      arguments.mapM Condition.ofArgument := by
    rw [List.mapM_map]
    exact mapM_congr fun a ha => Condition.ofCall_of_isConditionLike _ (hlike a ha)
  rw [Condition.connect_eq hne hlike, chain_eq h, hrequests]
  cases hconditions : arguments.mapM Condition.ofArgument with
  | error refused =>
      refine ⟨fun cause hcause => ?_, nofun⟩
      cases hcause
      rfl
  | ok cs =>
      refine ⟨nofun, fun joined c hjoined hc => ?_⟩
      cases hjoined
      have hcs := ne_nil_of_mapM hconditions hne
      exact ⟨_, _, rfl, chain_eq h _, narrowAll_rendersLike st f hcs hc⟩

end Filter

/-! ### Mappings -/

theorem Condition.ofCall_of_name (clause : ConditionClause) {column : Value}
    (h : column.name?.isSome) (value : Value) :
    ofCall clause column (some value) = equals column value := by
  obtain ⟨name, hname⟩ := Option.isSome_iff_exists.mp h
  simp only [ofCall, hname]

theorem Condition.refused_of_not_name (clause : ConditionClause) {column : Value}
    (h : column.name? = none) (value : Value) :
    (∃ cause, equals column value = .error cause) ∧
      ∃ cause, ofCall clause column (some value) = .error cause := by
  have hcolumn : columnOf column = .error (.columnExpected column) := by
    rw [columnOf, Value.visibleName?, h]
    rfl
  constructor
  · refine ⟨.columnExpected column, ?_⟩
    show (do
      let op ← comparisonOf (.ofText "=")
      let column ← columnOf column
      return Condition.comparison op column value 0) = _
    rw [hcolumn]
    rfl
  · simp only [ofCall, h]
    exact ⟨_, rfl⟩

theorem mapM_refused {ε α β : Type} {f : α → Except ε β} {as : List α} {a : α} (ha : a ∈ as)
    (h : ∃ cause, f a = .error cause) : ∃ cause, as.mapM f = .error cause := by
  induction as with
  | nil => cases ha
  | cons first as ih =>
      rw [List.mapM_cons]
      cases hfirst : f first with
      | error cause => exact ⟨cause, rfl⟩
      | ok b =>
          rcases List.mem_cons.mp ha with rfl | ha
          · obtain ⟨cause, hcause⟩ := h
            cases hfirst.symm.trans hcause
          · obtain ⟨cause, hrest⟩ := ih ha
            rw [hrest]
            exact ⟨cause, rfl⟩

namespace Filter

variable {st : Store} {f : Filter}

theorem chain_single (h : f.IsKnown st) (request : Request) :
    st.chain (f.calls [request]) = do
      return f.put st (some (.narrow (f.condition? st) (← f.conditionOf request))) := by
  rw [chain_eq h, List.mapM_cons]
  cases f.conditionOf request <;> rfl

/-- A mapping of columns to values and a call for each of the columns are both refused, for the same
cause if all columns are names; or the statements render alike after both. -/
theorem chain_pairs (h : f.IsKnown st) {entries : List (Value × Value)} (hne : entries ≠ [])
    (serial : Serial) :
    (∃ chained single,
        st.chain (f.calls (entries.map fun entry => (entry.1, some entry.2))) = .ok chained ∧
          st.chain (f.calls [(.map entries serial, none)]) = .ok single ∧
            chained.RendersLike single) ∨
      ∃ cause cause',
        st.chain (f.calls (entries.map fun entry => (entry.1, some entry.2))) = .error cause ∧
          st.chain (f.calls [(.map entries serial, none)]) = .error cause' ∧
            ((∀ entry ∈ entries, entry.1.name?.isSome) → cause = cause') := by
  have hmap : f.conditionOf (.map entries serial, none) = Condition.ofEntries entries := by
    obtain ⟨entry, rest, rfl⟩ := List.exists_cons_of_ne_nil hne
    rfl
  rw [chain_eq h, chain_single h, hmap, List.mapM_map, Condition.ofEntries]
  by_cases hnames : ∀ entry ∈ entries, entry.1.name?.isSome
  · have hsame : entries.mapM (f.conditionOf ∘ fun entry => (entry.1, some entry.2)) =
        entries.mapM fun entry => Condition.equals entry.1 entry.2 :=
      mapM_congr fun entry hentry => Condition.ofCall_of_name _ (hnames entry hentry) entry.2
    rw [hsame]
    cases hconditions : entries.mapM fun entry => Condition.equals entry.1 entry.2 with
    | error cause => exact .inr ⟨cause, cause, rfl, rfl, fun _ => rfl⟩
    | ok cs =>
        have hcs := ne_nil_of_mapM hconditions hne
        refine .inl ⟨_, _, rfl, ?_, narrowAll_rendersLike st f hcs (.refl _)⟩
        show (do
          return f.put st (some (.narrow (f.condition? st) (← Condition.ofConditions .and cs)))) = _
        rw [Condition.ofConditions_all hcs]
        rfl
  · have hunnamed : ∃ entry ∈ entries, entry.1.name? = none := by
      simpa [Option.isNone_iff_eq_none] using hnames
    obtain ⟨entry, hentry, hname⟩ := hunnamed
    have hrefused := Condition.refused_of_not_name f.clause hname entry.2
    obtain ⟨cause, hcause⟩ :
        ∃ cause, entries.mapM (f.conditionOf ∘ fun entry => (entry.1, some entry.2)) =
          .error cause :=
      mapM_refused hentry hrefused.2
    obtain ⟨cause', hcause'⟩ :
        ∃ cause, entries.mapM (fun entry => Condition.equals entry.1 entry.2) = .error cause :=
      mapM_refused hentry hrefused.1
    rw [hcause, hcause']
    exact .inr ⟨cause, cause', rfl, rfl, fun hall => absurd hall hnames⟩

end Filter

/-! ## Grouping does not show -/

/-- Conditions that differ only in how equal connectives are grouped are written alike, and so are
statements with either of them in a clause. A clause that is narrowed step by step comes out as if
it had been narrowed once by all conditions joined by AND, or is refused for the same cause; a
mapping is as good as a call for each of its columns. -/
theorem render_regrouped :
    (∀ c c' : Condition, (Value.condition c).Regroups (.condition c') →
      (∀ (st : Store) (inUse dialect : Value) (context : Context),
        st.renderInside inUse dialect context (.condition c) =
          st.renderInside inUse dialect context (.condition c')) ∧
      ∀ (st : Store) (f : Filter), (f.put st (some c)).RendersLike (f.put st (some c'))) ∧
    ∀ (st : Store) (f : Filter), f.IsKnown st →
      (∀ arguments : List Value, arguments ≠ [] → (∀ a ∈ arguments, a.IsConditionLike) →
        (∀ cause, Condition.connect .and arguments = .error cause →
          st.chain (f.calls (arguments.map (·, none))) = .error cause) ∧
        ∀ joined c, Condition.connect .and arguments = .ok joined →
          (Value.condition joined).Regroups (.condition c) →
            ∃ chained single, st.chain (f.calls (arguments.map (·, none))) = .ok chained ∧
              st.chain (f.calls [(.condition c, none)]) = .ok single ∧
                chained.RendersLike single) ∧
      ∀ (entries : List (Value × Value)) (serial : Serial), entries ≠ [] →
        (∃ chained single,
          st.chain (f.calls (entries.map fun entry => (entry.1, some entry.2))) = .ok chained ∧
            st.chain (f.calls [(.map entries serial, none)]) = .ok single ∧
              chained.RendersLike single) ∨
        ∃ cause cause',
          st.chain (f.calls (entries.map fun entry => (entry.1, some entry.2))) = .error cause ∧
            st.chain (f.calls [(.map entries serial, none)]) = .error cause' ∧
              ((∀ entry ∈ entries, entry.1.name?.isSome) → cause = cause') := by
  constructor
  · intro c c' h
    have hlayout : c.layout = c'.layout := h.looksAlike.layout
    refine ⟨fun st inUse dialect context => ?_, fun st f => (f.put_alike st hlayout).rendersLike⟩
    rw [Store.renderInside_eq, Store.renderInside_eq, Part.layout, Part.layout, hlayout]
  · intro st f hf
    exact ⟨fun arguments hne hlike => Filter.chain_joined hf hne hlike,
      fun entries serial hne => Filter.chain_pairs hf hne serial⟩

/-- A condition, a mapping, and a negation with connectives of one operand around and inside it. -/
def groupedArguments : List Value :=
  let a : Condition := .comparison (.ofText "=") (.ofText "a") (.int 1 0) 0
  let d : Condition := .comparison (.ofText "=") (.ofText "d") (.int 4 0) 0
  [.condition a, .map [(.ofText "b", .int 2 0), (.ofText "c", .int 3 0)] 0,
    .condition (.logical .or (.tuple [.condition (.negation
      (.condition (.logical .and (.tuple [.condition d] 0) 0)) 0)] 0) 0)]

/-- The same conditions in other groups. -/
def regroupedArguments : Condition :=
  let equals (column : String) (n : Int) : Value :=
    .condition (.comparison (.ofText "=") (.ofText column) (.int n 0) 0)
  .logical .and (.list [.condition (.logical .and (.tuple [equals "a" 1, equals "b" 2] 0) 0),
    equals "c" 3, .condition (.negation (equals "d" 4) 0)] 0) 0

theorem groupedArguments_regroups {joined : Condition}
    (h : Condition.connect .and groupedArguments = .ok joined) :
    (Value.condition joined).Regroups (.condition regroupedArguments) := by
  let equals (column : String) (n : Int) : Value :=
    .condition (.comparison (.ofText "=") (.ofText column) (.int n 0) 0)
  let negated (v : Value) : Value := .condition (.negation v 0)
  let all (vs : List Value) : Value := .condition (.logical .and (.tuple vs 0) 0)
  let onlyD : Value := all [equals "d" 4]
  let wrapped : Value := .condition (.logical .or (.tuple [negated onlyD] 0) 0)
  cases h
  have hmapping : (all [equals "a" 1, all [equals "b" 2, equals "c" 3], wrapped]).Regroups
      (all [equals "a" 1, equals "b" 2, equals "c" 3, wrapped]) :=
    .splice [equals "a" 1] [equals "b" 2, equals "c" 3] [wrapped] rfl rfl (List.cons_ne_nil _ _) rfl
  have hwrapped : wrapped.Regroups (negated (equals "d" 4)) :=
    .trans (.single rfl) (.negation (.single rfl))
  have hlast : (all [equals "a" 1, equals "b" 2, equals "c" 3, wrapped]).Regroups
      (all [equals "a" 1, equals "b" 2, equals "c" 3, negated (equals "d" 4)]) :=
    .operand [equals "a" 1, equals "b" 2, equals "c" 3] [] hwrapped rfl rfl
  have hfirst : (Value.condition regroupedArguments).Regroups
      (all [equals "a" 1, equals "b" 2, equals "c" 3, negated (equals "d" 4)]) :=
    .splice [] [equals "a" 1, equals "b" 2] [equals "c" 3, negated (equals "d" 4)] rfl rfl
      (List.cons_ne_nil _ _) rfl
  exact .trans hmapping (.trans hlast (.symm hfirst))

theorem render_regrouped_select :
    let st : Store := { selects := [{ source := some (.table (.plain "t")) }] }
    let f := Filter.selectRows ⟨0⟩
    let dialect := Value.dialect .standard 0
    ∃ chained single,
      st.chain (f.calls (groupedArguments.map (·, none))) = .ok chained ∧
        st.chain (f.calls [(.condition regroupedArguments, none)]) = .ok single ∧
          chained.render .null dialect (.select ⟨0⟩) = single.render .null dialect (.select ⟨0⟩) ∧
            (single.render .null dialect (.select ⟨0⟩)).gives {} fun rendered =>
              rendered.text =
                "SELECT * FROM t WHERE a = $1 AND b = $2 AND c = $3 AND (NOT d = $4)" := by
  intro st f dialect
  have hlike : ∀ a ∈ groupedArguments, a.IsConditionLike := by
    simp [groupedArguments, Value.IsConditionLike]
  obtain ⟨-, hjoined⟩ := (render_regrouped.2 st f Nat.zero_lt_one).1 groupedArguments
    (List.cons_ne_nil _ _) hlike
  obtain ⟨chained, single, hchained, hsingle, hrender⟩ :=
    hjoined _ regroupedArguments rfl (groupedArguments_regroups rfl)
  refine ⟨chained, single, hchained, hsingle, ?_, ?_⟩
  · have hsound : chained.isSound := by
      cases hchained
      decide +kernel
    exact hrender.render_eq hsound rfl
  · cases hsingle
    decide +kernel

end SqlComposer
