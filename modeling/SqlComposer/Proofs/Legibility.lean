import SqlComposer.Proofs.Formulas
import SqlComposer.Proofs.Soundness

/-!
# Legible conditions

The conditions that are made over paths, from values that are bound as they are. All that they say
is known predicates under connectives and negations.
-/

namespace SqlComposer

/-! ## Legible conditions -/

/-- Whether a value is bound wherever it stands. Raw fragments and subselects stand for
themselves. -/
def Value.isBound : Value → Bool
  | .condition (.raw _) => false
  | .statement (.select _) => false
  | _ => true

/-- Whether a value is a path of bare identifiers. -/
def Value.isColumnPath (v : Value) : Bool :=
  v.name?.any fun name => Identifier.isPath name.text.toList

def Predicate.isLegible : Predicate → Bool
  | .comparison column op value =>
    Identifier.isPath column.toList && op ∈ comparisonOperators && value.isBound
  | .isNull column _ => Identifier.isPath column.toList
  | .between column low high => Identifier.isPath column.toList && low.isBound && high.isBound
  | .pattern column value _ => Identifier.isPath column.toList && value.isBound
  | .membership column members =>
    Identifier.isPath column.toList && !members.isEmpty && members.all Value.isBound
  | .other _ => false

/-- The entries of a mapping from paths to values that are bound. -/
def AreLegible (entries : List (Value × Value)) : Prop :=
  ∀ entry ∈ entries, entry.1.isColumnPath ∧ entry.2.isBound

/-- The conditions that are made from paths, from values that are bound, and from conditions and
mappings of that kind. -/
inductive Condition.Legible : Condition → Prop
  | compare {op column value : Value} {c : Condition} : column.isColumnPath → value.isBound →
      Condition.compare op column value = .ok c → Legible c
  | null {column : Value} {negated : Bool} {c : Condition} : column.isColumnPath →
      Condition.null column negated = .ok c → Legible c
  | within {column low high : Value} {c : Condition} : column.isColumnPath → low.isBound →
      high.isBound → Condition.within column low high = .ok c → Legible c
  | matching {column value : Value} {ignoresCase : Bool} {c : Condition} : column.isColumnPath →
      value.isBound → Condition.matching column value ignoresCase = .ok c → Legible c
  | isIn {column given : Value} {c : Condition} : column.isColumnPath → given.isBound →
      (∀ members, given.members? = some members → ∀ v ∈ members, v.isBound) →
      Condition.isIn column given = .ok c → Legible c
  | mapping {entries : List (Value × Value)} {c : Condition} : AreLegible entries →
      Condition.ofEntries entries = .ok c → Legible c
  | connect {op : Connective} {arguments : List Value} {c : Condition} :
      (∀ inner, .condition inner ∈ flattened arguments → Legible inner) →
      (∀ entries serial, .map entries serial ∈ flattened arguments → AreLegible entries) →
      Condition.connect op arguments = .ok c → Legible c
  | opposite {argument : Value} {c : Condition} :
      (∀ inner, argument = .condition inner → Legible inner) →
      (∀ entries serial, argument = .map entries serial → AreLegible entries) →
      Condition.opposite argument = .ok c → Legible c

namespace Condition

/-- Whether all that a condition says is legible. -/
def HasLegible (c : Condition) : Prop :=
  ∀ p ∈ c.formula.leaves, p.isLegible

theorem columnOf_path {given column : Value} (h : columnOf given = .ok column)
    (hpath : given.isColumnPath) :
    ∃ name, column.name? = some name ∧ Identifier.isPath name.text.toList := by
  unfold columnOf at h
  split at h
  · cases h
    exact (Option.any_eq_true _ _).mp hpath
  · cases h

theorem hasLegible_of_name {c : Condition} {column : Value} {name : Name} {p : Name → Predicate}
    (h : c.predicate? = column.name?.map p) (hname : column.name? = some name)
    (hp : (p name).isLegible) : c.HasLegible := by
  rw [hname, Option.map_some] at h
  have hformula : c.formula = .predicate (p name) := by
    cases c with
    | logical | negation => cases h
    | _ => simp only [formula, Value.predicate, h, Option.getD_some]
  intro q hq
  rw [hformula] at hq
  cases List.mem_singleton.mp hq
  exact hp

theorem compare_legible {op column value : Value} {c : Condition} (hcolumn : column.isColumnPath)
    (hvalue : value.isBound) (h : compare op column value = .ok c) : c.HasLegible := by
  obtain ⟨op', hop, h⟩ := bind_ok h
  obtain ⟨column', hcolumn', h⟩ := bind_ok h
  cases h
  obtain ⟨name, hname, hpath⟩ := columnOf_path hcolumn' hcolumn
  unfold comparisonOf at hop
  split at hop
  · split at hop
    · rename_i text serial hmem
      cases hop
      exact hasLegible_of_name rfl hname (by simp [Predicate.isLegible, hpath, hmem, hvalue])
    · cases hop
  · cases hop

theorem isIn_legible {column given : Value} {c : Condition} (hcolumn : column.isColumnPath)
    (hgiven : given.isBound)
    (hmembers : ∀ members, given.members? = some members → ∀ v ∈ members, v.isBound)
    (h : isIn column given = .ok c) : c.HasLegible := by
  obtain ⟨column', hcolumn', h⟩ := bind_ok h
  obtain ⟨name, hname, hpath⟩ := columnOf_path hcolumn' hcolumn
  split at h
  · -- A subselect is not bound.
    rename_i hselect
    unfold Value.select? at hselect
    split at hselect
    · cases hgiven
    · cases hselect
  · obtain ⟨collected, hcollected, h⟩ := bind_ok h
    split at h
    · rename_i htrue
      cases h
      obtain ⟨members, serial, rfl, hgivenMembers⟩ : ∃ members serial,
          collected = .tuple members serial ∧ given.members? = some members := by
        unfold membersOf Value.collected? at hcollected
        cases given with
        | list | tuple | set | stream | rendered =>
            cases hcollected
            exact ⟨_, _, rfl, rfl⟩
        | _ => cases hcollected
      have hall := List.all_eq_true.mpr (hmembers members hgivenMembers)
      refine hasLegible_of_name rfl hname ?_
      simp only [Predicate.isLegible, hpath, hall, Bool.and_true, Bool.true_and]
      exact htrue
    · cases h

theorem mem_leavesIn_formulas {conditions : List Condition} {p : Predicate}
    (h : p ∈ Formula.leavesIn (Value.formulas (conditions.map .condition))) :
    ∃ c ∈ conditions, p ∈ c.formula.leaves := by
  induction conditions with
  | nil => cases h
  | cons first conditions ih =>
      obtain hfirst | hrest := List.mem_append.mp h
      · exact ⟨first, List.mem_cons_self .., hfirst⟩
      · obtain ⟨c, hc, hp⟩ := ih hrest
        exact ⟨c, List.mem_cons_of_mem _ hc, hp⟩

theorem hasLegible_joined {op : Connective} {conditions : List Condition} {c : Condition}
    (h : ofConditions op conditions = .ok c) (hall : ∀ c ∈ conditions, c.HasLegible) :
    c.HasLegible := by
  unfold ofConditions joined at h
  split at h
  · rename_i htrue
    cases h
    cases conditions with
    | nil => cases htrue
    | cons first conditions =>
        intro p hp
        have hleaves :
            p ∈ Formula.leavesIn (Value.formulas ((first :: conditions).map .condition)) := hp
        obtain ⟨c, hc, hp⟩ := mem_leavesIn_formulas hleaves
        exact hall c hc p hp
  · cases h

theorem ofEntries_legible {entries : List (Value × Value)} {c : Condition}
    (h : ofEntries entries = .ok c) (hentries : AreLegible entries) : c.HasLegible := by
  obtain ⟨conditions, hconditions, h⟩ := bind_ok h
  refine hasLegible_joined h (mapM_ok _ hconditions fun entry hentry c hc => ?_)
  obtain ⟨hcolumn, hvalue⟩ := hentries entry hentry
  exact compare_legible hcolumn hvalue hc

theorem ofArgument_legible {argument : Value} {c : Condition} (h : ofArgument argument = .ok c)
    (hinner : ∀ inner, argument = .condition inner → inner.HasLegible)
    (hentries : ∀ entries serial, argument = .map entries serial → AreLegible entries) :
    c.HasLegible := by
  unfold ofArgument at h
  split at h
  · cases h
    exact hinner _ rfl
  · cases h
  · exact ofEntries_legible h (hentries _ _ rfl)
  · cases h

/-- The conditions that are made from paths and bound values say what can be read. -/
theorem Legible.hasLegible {c : Condition} (h : c.Legible) : c.HasLegible := by
  induction h with
  | compare hcolumn hvalue h => exact compare_legible hcolumn hvalue h
  | null hcolumn h =>
      obtain ⟨column, hcolumn', h⟩ := bind_ok h
      cases h
      obtain ⟨name, hname, hpath⟩ := columnOf_path hcolumn' hcolumn
      exact hasLegible_of_name rfl hname hpath
  | within hcolumn hlow hhigh h =>
      obtain ⟨column, hcolumn', h⟩ := bind_ok h
      cases h
      obtain ⟨name, hname, hpath⟩ := columnOf_path hcolumn' hcolumn
      exact hasLegible_of_name rfl hname (by simp [Predicate.isLegible, hpath, hlow, hhigh])
  | matching hcolumn hvalue h =>
      obtain ⟨column, hcolumn', h⟩ := bind_ok h
      cases h
      obtain ⟨name, hname, hpath⟩ := columnOf_path hcolumn' hcolumn
      exact hasLegible_of_name rfl hname (by simp [Predicate.isLegible, hpath, hvalue])
  | isIn hcolumn hgiven hmembers h => exact isIn_legible hcolumn hgiven hmembers h
  | mapping hentries h => exact ofEntries_legible h hentries
  | connect _ hentries h ih =>
      obtain ⟨conditions, hconditions, h⟩ := bind_ok h
      refine hasLegible_joined h (mapM_ok _ hconditions fun argument hmem c hc => ?_)
      exact ofArgument_legible hc (fun inner hinner => ih inner (hinner ▸ hmem))
        fun entries serial hmap => hentries entries serial (hmap ▸ hmem)
  | opposite _ hentries h ih =>
      obtain ⟨inner, hinner, h⟩ := bind_ok h
      cases h
      have hlegible : inner.HasLegible := ofArgument_legible hinner ih hentries
      exact hlegible

end Condition

end SqlComposer
