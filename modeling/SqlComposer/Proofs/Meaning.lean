import SqlComposer.Proofs.Grammar
import SqlComposer.Proofs.LaidOut

/-!
# The meaning of written conditions

A condition is written as a phrase: its predicates, with connectives, negations and parentheses
between them. Read as usual, the phrase has the truth value that the condition has as a tree, in two
as in three truth values.
-/

namespace SqlComposer

/-! ## Phrases -/

/-- A predicate and the place where it stands: the positions of the operands on the way to it, the
innermost first. -/
structure Occurrence where
  place : List Nat
  predicate : Value

def Lexeme.pieces : Lexeme Occurrence → List Piece
  | .opening => [.word "("]
  | .closing => [.word ")"]
  | .not => [.word "NOT "]
  | .connective op => [.word (" " ++ op.text ++ " ")]
  | .predicate occurrence => occurrence.predicate.conditionLayout

/-- A lexeme as it is written. -/
def Lexeme.write (w : Writer) (sub : SelectId → Binding String) :
    Lexeme Occurrence → Binding String
  | .opening => pure "("
  | .closing => pure ")"
  | .not => pure "NOT "
  | .connective op => pure (" " ++ op.text ++ " ")
  | .predicate occurrence => occurrence.predicate.writeCondition w sub

def Value.operandPhrase (op : Connective) (v : Value) (phrase : List (Lexeme Occurrence)) :
    List (Lexeme Occurrence) :=
  if v.needsParentheses op then Lexeme.grouped phrase else phrase

/-- The phrases of the operands of a connective; a single one stands for itself. -/
def Connective.phrase (op : Connective) :
    List Value → List (List (Lexeme Occurrence)) → List (Lexeme Occurrence)
  | [_], [only] => only
  | operands, phrases =>
    [Lexeme.connective op].intercalate (List.zipWith (Value.operandPhrase op) operands phrases)

def Connective.phrase? (op : Connective) (operands : List Value)
    (phrases : List (List (Lexeme Occurrence))) : Option (List (Lexeme Occurrence)) :=
  if operands.isEmpty then none else some (op.phrase operands phrases)

def Value.negatedPhrase (v : Value) (phrase : List (Lexeme Occurrence)) :
    List (Lexeme Occurrence) :=
  .not :: if v.isLogical then Lexeme.grouped phrase else phrase

mutual

/-- A value in the place of a condition. What is neither a negation nor a connective over a sequence
of operands is a predicate. -/
def Value.phrase (place : List Nat) : Value → List (Lexeme Occurrence)
  | .condition c => c.phrase place
  | v => [.predicate ⟨place, v⟩]

def Value.phrases (place : List Nat) (position : Nat) :
    List Value → List (List (Lexeme Occurrence))
  | [] => []
  | v :: vs => v.phrase (position :: place) :: Value.phrases place (position + 1) vs

def Value.operandsPhrase? (op : Connective) (place : List Nat) :
    Value → Option (List (Lexeme Occurrence))
  | .list items _ => op.phrase? items (Value.phrases place 0 items)
  | .tuple items _ => op.phrase? items (Value.phrases place 0 items)
  | _ => none

def Condition.phrase (place : List Nat) : Condition → List (Lexeme Occurrence)
  | .logical op operands serial =>
    (operands.operandsPhrase? op place).getD
      [.predicate ⟨place, .condition (.logical op operands serial)⟩]
  | .negation inner _ => inner.negatedPhrase (inner.phrase (0 :: place))
  | c => [.predicate ⟨place, .condition c⟩]

end

/-! ## Truth values of trees -/

section Truth

variable {T : Type} (logic : Logic T) (assigned : Occurrence → T)

def Logic.joined? (op : Connective) : List T → Option T
  | [] => none
  | t :: ts => some (logic.joined op t ts)

mutual

/-- The truth value of a value in the place of a condition, if predicates have the assigned ones. -/
def Value.truth (place : List Nat) : Value → T
  | .condition c => c.truth place
  | v => assigned ⟨place, v⟩

def Value.truths (place : List Nat) (position : Nat) : List Value → List T
  | [] => []
  | v :: vs => v.truth (position :: place) :: Value.truths place (position + 1) vs

def Value.operandsTruth? (op : Connective) (place : List Nat) : Value → Option T
  | .list items _ => logic.joined? op (Value.truths place 0 items)
  | .tuple items _ => logic.joined? op (Value.truths place 0 items)
  | _ => none

def Condition.truth (place : List Nat) : Condition → T
  | .logical op operands serial =>
    (operands.operandsTruth? op place).getD
      (assigned ⟨place, .condition (.logical op operands serial)⟩)
  | .negation inner _ => logic.negation (inner.truth (0 :: place))
  | c => assigned ⟨place, .condition c⟩

end

end Truth

/-! ## Phrases spell layouts -/

def spelled (phrase : List (Lexeme Occurrence)) : List Piece :=
  phrase.flatMap Lexeme.pieces

theorem spelled_grouped (phrase : List (Lexeme Occurrence)) :
    spelled (Lexeme.grouped phrase) = Piece.parenthesized (spelled phrase) := by
  simp [spelled, Lexeme.grouped, Lexeme.pieces, Piece.parenthesized]

theorem spelled_append (front back : List (Lexeme Occurrence)) :
    spelled (front ++ back) = spelled front ++ spelled back :=
  List.flatMap_append

theorem spelled_intercalate (op : Connective) : (phrases : List (List (Lexeme Occurrence))) →
    spelled ([Lexeme.connective op].intercalate phrases) =
      Piece.joined (" " ++ op.text ++ " ") (phrases.map spelled)
  | [] => rfl
  | [phrase] => by simp [Piece.joined]
  | phrase :: next :: phrases => by
      have hrest := spelled_intercalate op (next :: phrases)
      simp only [Piece.joined, List.map_cons] at hrest ⊢
      rw [List.intercalate_cons_cons, List.intercalate_cons_cons, spelled_append, spelled_append,
        hrest]
      rfl

theorem spelled_operandPhrase (op : Connective) (v : Value) (phrase : List (Lexeme Occurrence)) :
    spelled (v.operandPhrase op phrase) = v.asOperand op (spelled phrase) := by
  unfold Value.operandPhrase Value.asOperand
  split
  · exact spelled_grouped phrase
  · rfl

theorem spelled_negatedPhrase (v : Value) (phrase : List (Lexeme Occurrence)) :
    spelled (v.negatedPhrase phrase) = v.negated (spelled phrase) := by
  unfold Value.negatedPhrase Value.negated
  split
  · exact congrArg (Piece.word "NOT " :: ·) (spelled_grouped phrase)
  · rfl

theorem spelled_chain (op : Connective) (operands : List Value)
    (phrases : List (List (Lexeme Occurrence))) :
    spelled (op.phrase operands phrases) = op.joined operands (phrases.map spelled) := by
  have hparts : ∀ (vs : List Value) (ps : List (List (Lexeme Occurrence))),
      (List.zipWith (Value.operandPhrase op) vs ps).map spelled =
        List.zipWith (Value.asOperand op) vs (ps.map spelled) := by
    intro vs ps
    rw [List.map_zipWith, List.zipWith_map_right]
    simp only [spelled_operandPhrase]
  unfold Connective.phrase
  split
  · rfl
  · rename_i hsingle
    rw [spelled_intercalate, hparts]
    unfold Connective.joined
    split
    · rename_i v only heq
      obtain ⟨phrase, rfl, -⟩ := List.map_eq_singleton_iff.mp heq
      exact (hsingle v phrase rfl rfl).elim
    · rfl

mutual

theorem Value.spelled_phrase (place : List Nat) (v : Value) :
    spelled (v.phrase place) = v.conditionLayout := by
  cases v with
  | condition c => exact c.spelled_phrase place
  | _ => exact List.append_nil _

theorem Value.spelled_phrases (place : List Nat) : (position : Nat) → (vs : List Value) →
    (Value.phrases place position vs).map spelled = Value.conditionLayouts vs
  | _, [] => rfl
  | position, v :: vs => by
      simp only [Value.phrases, List.map_cons, v.spelled_phrase,
        Value.spelled_phrases place (position + 1) vs, Value.conditionLayouts]

theorem Value.spelled_operandsPhrase (op : Connective) (place : List Nat) (v : Value)
    {phrase : List (Lexeme Occurrence)} (h : v.operandsPhrase? op place = some phrase) :
    spelled phrase = v.operandsLayout op := by
  cases v with
  | list items serial | tuple items serial =>
      simp only [Value.operandsPhrase?, Connective.phrase?] at h
      split at h
      · cases h
      · cases h
        rw [spelled_chain, Value.spelled_phrases place 0 items, Value.operandsLayout]
  | _ => cases h

theorem Condition.spelled_phrase (place : List Nat) (c : Condition) :
    spelled (c.phrase place) = c.layout := by
  cases c with
  | logical op operands serial =>
      rw [Condition.phrase, Condition.layout]
      cases hphrase : operands.operandsPhrase? op place with
      | none => exact List.append_nil _
      | some phrase => exact operands.spelled_operandsPhrase op place hphrase
  | negation inner serial =>
      rw [Condition.phrase, Condition.layout, spelled_negatedPhrase, inner.spelled_phrase]
  | _ => exact List.append_nil _

end

/-! ## Readings of phrases -/

/-- How tightly the outermost connective of a condition binds. -/
def Value.rank (v : Value) : Rank :=
  match v.unwrapped with
  | .condition (.logical op _ _) => op.rank
  | _ => .factor

section Readings

variable {T : Type} {logic : Logic T} {assigned : Occurrence → T}

theorem Reads.operand {v : Value} {phrase : List (Lexeme Occurrence)} {t : T} (op : Connective)
    (h : Reads logic assigned v.rank phrase t) :
    Reads logic assigned op.rank (v.operandPhrase op phrase) t := by
  unfold Value.operandPhrase
  split
  · exact ofFactor (.grouped h.toDisjunction)
  · rename_i hneeds
    unfold Value.rank at h
    unfold Value.needsParentheses at hneeds
    split at h
    · rename_i inner operands serial hunwrapped
      rw [hunwrapped] at hneeds
      have hop : inner = op := by simpa using hneeds
      exact hop ▸ h
    · exact ofFactor h

theorem Reads.negated {v : Value} {phrase : List (Lexeme Occurrence)} {t : T}
    (h : Reads logic assigned v.rank phrase t) :
    Reads logic assigned .factor (v.negatedPhrase phrase) (logic.negation t) := by
  unfold Value.negatedPhrase
  refine .not ?_
  split
  · exact .grouped h.toDisjunction
  · rename_i hlogical
    unfold Value.rank at h
    unfold Value.isLogical at hlogical
    split at h
    · rename_i op operands serial hunwrapped
      rw [hunwrapped] at hlogical
      exact (hlogical rfl).elim
    · exact h

/-- Each of the operands reads as its truth value. -/
def Value.AllRead (logic : Logic T) (assigned : Occurrence → T) (place : List Nat) :
    Nat → List Value → Prop
  | _, [] => True
  | position, v :: vs =>
    Reads logic assigned v.rank (v.phrase (position :: place))
        (v.truth logic assigned (position :: place)) ∧
      Value.AllRead logic assigned place (position + 1) vs

theorem Value.AllRead.chain (op : Connective) {place : List Nat} :
    {position : Nat} → {v : Value} → {vs : List Value} →
      Value.AllRead logic assigned place position (v :: vs) →
      Reads logic assigned op.rank
        ([Lexeme.connective op].intercalate
          (List.zipWith (Value.operandPhrase op) (v :: vs)
            (Value.phrases place position (v :: vs))))
        (logic.joined op (v.truth logic assigned (position :: place))
          (Value.truths logic assigned place (position + 1) vs))
  | position, v, [], h => by
      simp only [Value.phrases, List.zipWith_cons_cons, List.zipWith_nil_right,
        List.intercalate_singleton, Value.truths, Logic.joined]
      exact h.1.operand op
  | position, v, next :: vs, h => by
      have hrest := Value.AllRead.chain op h.2
      simp only [Value.phrases, List.zipWith_cons_cons, List.intercalate_cons_cons, Value.truths,
        Logic.joined, List.append_assoc, List.singleton_append] at hrest ⊢
      exact (h.1.operand op).chain op hrest

def Value.unwrappedSingle? : List Value → Option Value
  | [only] => some only.unwrapped
  | _ => none

theorem Value.onlyUnwrapped?_list (items : List Value) (serial : Serial) :
    (Value.list items serial).onlyUnwrapped? = Value.unwrappedSingle? items := by
  rcases items with _ | ⟨first, _ | ⟨second, rest⟩⟩ <;> rfl

theorem Value.onlyUnwrapped?_tuple (items : List Value) (serial : Serial) :
    (Value.tuple items serial).onlyUnwrapped? = Value.unwrappedSingle? items := by
  rcases items with _ | ⟨first, _ | ⟨second, rest⟩⟩ <;> rfl

theorem Value.AllRead.phrase {op : Connective} {place : List Nat} {items : List Value}
    {operands : Value} (serial : Serial)
    (h : Value.AllRead logic assigned place 0 items)
    (honly : operands.onlyUnwrapped? = Value.unwrappedSingle? items) :
    Option.Rel (Reads logic assigned (Value.condition (.logical op operands serial)).rank)
      (op.phrase? items (Value.phrases place 0 items))
      (logic.joined? op (Value.truths logic assigned place 0 items)) := by
  unfold Value.rank
  rw [Value.unwrapped, Condition.unwrapped, honly]
  rcases items with _ | ⟨first, _ | ⟨second, rest⟩⟩
  · exact .none
  · exact .some h.1
  · exact .some (Value.AllRead.chain op h)

mutual

/-- The phrase of a condition reads as its truth value. -/
theorem Value.reads (place : List Nat) (v : Value) :
    Reads logic assigned v.rank (v.phrase place) (v.truth logic assigned place) := by
  cases v with
  | condition c => exact c.reads place
  | _ => exact .predicate _

theorem Value.allRead (place : List Nat) : (position : Nat) → (vs : List Value) →
    Value.AllRead logic assigned place position vs
  | _, [] => trivial
  | position, v :: vs =>
      ⟨v.reads (position :: place), Value.allRead place (position + 1) vs⟩

theorem Value.operandsRead (op : Connective) (place : List Nat) (serial : Serial) (v : Value) :
    Option.Rel (Reads logic assigned (Value.condition (.logical op v serial)).rank)
      (v.operandsPhrase? op place) (v.operandsTruth? logic assigned op place) := by
  cases v with
  | list items inner =>
      exact (Value.allRead place 0 items).phrase serial (Value.onlyUnwrapped?_list items inner)
  | tuple items inner =>
      exact (Value.allRead place 0 items).phrase serial (Value.onlyUnwrapped?_tuple items inner)
  | _ => exact .none

theorem Condition.reads (place : List Nat) (c : Condition) :
    Reads logic assigned (Value.condition c).rank (c.phrase place)
      (c.truth logic assigned place) := by
  cases c with
  | logical op operands serial =>
      have hoperands := operands.operandsRead op place serial
      rw [Condition.phrase, Condition.truth]
      generalize operands.operandsPhrase? op place = phrase at hoperands ⊢
      generalize operands.operandsTruth? logic assigned op place = t at hoperands ⊢
      cases hoperands with
      | none => exact .ofFactor (.predicate _)
      | some h => exact h
  | negation inner serial => exact (inner.reads (0 :: place)).negated
  | _ => exact .predicate _

end

theorem Condition.reads_iff {c : Condition} {t : T} :
    Reads logic assigned .disjunction (c.phrase []) t ↔ t = c.truth logic assigned [] := by
  have hreads : Reads logic assigned .disjunction (c.phrase []) (c.truth logic assigned []) :=
    (c.reads []).toDisjunction
  constructor
  · intro h
    exact h.unique hreads
  · rintro rfl
    exact hreads

end Readings

/-! ## Places -/

def Lexeme.place? : Lexeme Occurrence → Option (List Nat)
  | .opening | .closing | .not | .connective _ => none
  | .predicate occurrence => some occurrence.place

def places (phrase : List (Lexeme Occurrence)) : List (List Nat) :=
  phrase.filterMap Lexeme.place?

theorem places_append (front back : List (Lexeme Occurrence)) :
    places (front ++ back) = places front ++ places back :=
  List.filterMap_append

theorem places_grouped (phrase : List (Lexeme Occurrence)) :
    places (Lexeme.grouped phrase) = places phrase :=
  (places_append phrase [.closing]).trans (List.append_nil _)

theorem places_intercalate (op : Connective) : (phrases : List (List (Lexeme Occurrence))) →
    places ([Lexeme.connective op].intercalate phrases) = (phrases.map places).flatten
  | [] => rfl
  | [phrase] => by simp
  | phrase :: next :: phrases => by
      have hrest := places_intercalate op (next :: phrases)
      rw [List.intercalate_cons_cons, places_append, places_append, hrest, List.append_assoc]
      rfl

theorem places_operandPhrase (op : Connective) (v : Value) (phrase : List (Lexeme Occurrence)) :
    places (v.operandPhrase op phrase) = places phrase := by
  unfold Value.operandPhrase
  split
  · exact places_grouped phrase
  · rfl

theorem places_negatedPhrase (v : Value) (phrase : List (Lexeme Occurrence)) :
    places (v.negatedPhrase phrase) = places phrase := by
  unfold Value.negatedPhrase
  split
  · exact places_grouped phrase
  · rfl

theorem length_phrases (place : List Nat) : (position : Nat) → (vs : List Value) →
    (Value.phrases place position vs).length = vs.length
  | _, [] => rfl
  | position, _ :: vs => congrArg (· + 1) (length_phrases place (position + 1) vs)

theorem places_chain (op : Connective) {operands : List Value}
    {phrases : List (List (Lexeme Occurrence))} (h : phrases.length = operands.length) :
    places (op.phrase operands phrases) = (phrases.map places).flatten := by
  unfold Connective.phrase
  split
  · simp
  · rw [places_intercalate]
    congr 1
    apply List.ext_getElem
    · simp [h]
    · intro i _ _
      simp [places_operandPhrase]

/-- Places behind a place, no two of them the same. -/
structure Apart (place : List Nat) (places : List (List Nat)) : Prop where
  behind : ∀ p ∈ places, place <:+ p
  nodup : places.Nodup

/-- Places behind the operands from a position on, no two of them the same. -/
structure ApartFrom (place : List Nat) (position : Nat) (places : List (List Nat)) : Prop where
  behind : ∀ p ∈ places, ∃ i, position ≤ i ∧ i :: place <:+ p
  nodup : places.Nodup

theorem Apart.singleton (place : List Nat) : Apart place [place] :=
  ⟨fun p hp => List.mem_singleton.mp hp ▸ List.suffix_refl place, by simp⟩

theorem Apart.ofOperand {place ps} (i : Nat) (h : Apart (i :: place) ps) : Apart place ps :=
  ⟨fun p hp => (List.suffix_cons i place).trans (h.behind p hp), h.nodup⟩

theorem ApartFrom.apart {place ps} (h : ApartFrom place 0 ps) : Apart place ps := by
  refine ⟨fun p hp => ?_, h.nodup⟩
  obtain ⟨i, -, hsuffix⟩ := h.behind p hp
  exact (List.suffix_cons i place).trans hsuffix

theorem ApartFrom.cons {place ps qs} {position : Nat} (h : Apart (position :: place) ps)
    (hs : ApartFrom place (position + 1) qs) : ApartFrom place position (ps ++ qs) := by
  refine ⟨fun p hp => ?_, List.nodup_append.mpr ⟨h.nodup, hs.nodup, ?_⟩⟩
  · rcases List.mem_append.mp hp with hp | hp
    · exact ⟨position, Nat.le_refl _, h.behind p hp⟩
    · obtain ⟨i, hi, hsuffix⟩ := hs.behind p hp
      exact ⟨i, Nat.le_of_succ_le hi, hsuffix⟩
  · rintro p hp q hq rfl
    obtain ⟨i, hi, hsuffix⟩ := hs.behind p hq
    have hsame : position :: place <:+ i :: place :=
      List.suffix_of_suffix_length_le (h.behind p hp) hsuffix (Nat.le_refl _)
    have hposition : position = i := (List.cons.inj (hsame.eq_of_length rfl)).1
    omega

mutual

theorem Value.apart (place : List Nat) (v : Value) : Apart place (places (v.phrase place)) := by
  cases v with
  | condition c => exact c.apart place
  | _ => exact .singleton place

theorem Value.apartFrom (place : List Nat) : (position : Nat) → (vs : List Value) →
    ApartFrom place position ((Value.phrases place position vs).map places).flatten
  | _, [] => ⟨by simp [Value.phrases], by simp [Value.phrases]⟩
  | position, v :: vs =>
      .cons (v.apart (position :: place)) (Value.apartFrom place (position + 1) vs)

theorem Value.operandsApart (op : Connective) (place : List Nat) (v : Value)
    {phrase : List (Lexeme Occurrence)} (h : v.operandsPhrase? op place = some phrase) :
    Apart place (places phrase) := by
  cases v with
  | list items inner | tuple items inner =>
      have hitems := (Value.apartFrom place 0 items).apart
      simp only [Value.operandsPhrase?, Connective.phrase?] at h
      split at h
      · cases h
      · cases h
        rw [places_chain op (length_phrases place 0 items)]
        exact hitems
  | _ => cases h

theorem Condition.apart (place : List Nat) (c : Condition) :
    Apart place (places (c.phrase place)) := by
  cases c with
  | logical op operands serial =>
      rw [Condition.phrase]
      cases hphrase : operands.operandsPhrase? op place with
      | none => exact .singleton place
      | some phrase => exact operands.operandsApart op place hphrase
  | negation inner serial =>
      rw [Condition.phrase, places_negatedPhrase]
      exact (inner.apart (0 :: place)).ofOperand
  | _ => exact .singleton place

end

/-! ## Conditions -/

theorem tokens_spelled (w : Writer) (sub : SelectId → List Piece)
    (phrase : List (Lexeme Occurrence)) :
    tokens w (unfolded sub (spelled phrase)) = do
      let written ← phrase.mapM fun lexeme => tokens w (unfolded sub lexeme.pieces)
      return written.flatten := by
  induction phrase with
  | nil => rfl
  | cons lexeme phrase ih =>
      simp only [spelled] at ih
      simp only [spelled, List.flatMap_cons, tokens_unfolded_append, ih, List.mapM_cons, bind_assoc,
        pure_bind, List.flatten_cons]

theorem Lexeme.write_eq {w : Writer} {sub : SelectId → List Piece} (lexeme : Lexeme Occurrence) :
    lexeme.write w (laidOutSelect w sub) = laidOut w sub lexeme.pieces := by
  cases lexeme with
  | predicate occurrence => exact occurrence.predicate.writeCondition_eq
  | _ => exact (laidOut_lastWord _).symm

theorem laidOut_spelled {w : Writer} {sub : SelectId → List Piece}
    (phrase : List (Lexeme Occurrence)) :
    laidOut w sub (spelled phrase) = do
      return String.join (← phrase.mapM (Lexeme.write w (laidOutSelect w sub))) := by
  induction phrase with
  | nil => exact laidOut_nil
  | cons lexeme phrase ih =>
      simp only [spelled] at ih
      simp only [spelled, List.flatMap_cons, laidOut_append, ih, ← lexeme.write_eq, List.mapM_cons,
        bind_assoc, pure_bind, String.join_cons]

/-- A condition is written as its predicates with words and parentheses between them, each where it
stands and no two at one place. Read as usual, this has one truth value, which is that of the
condition as a tree, whatever the truth values of the predicates are. -/
theorem condition_meaning (st : Store) (nesting : List SelectId) (w : Writer) (c : Condition) :
    (c.write w (st.writeSelect w nesting) = do
        return String.join (← (c.phrase []).mapM (Lexeme.write w (st.writeSelect w nesting)))) ∧
      (tokens w (unfolded (st.selectPieces nesting) c.layout) = do
        let written ← (c.phrase []).mapM fun lexeme =>
          tokens w (unfolded (st.selectPieces nesting) lexeme.pieces)
        return written.flatten) ∧
      (places (c.phrase [])).Nodup ∧
      (∀ (assigned : Occurrence → Bool) (t : Bool),
        Reads .twoValued assigned .disjunction (c.phrase []) t ↔
          t = c.truth .twoValued assigned []) ∧
      ∀ (assigned : Occurrence → Truth) (t : Truth),
        Reads .threeValued assigned .disjunction (c.phrase []) t ↔
          t = c.truth .threeValued assigned [] := by
  refine ⟨?_, ?_, (c.apart []).nodup, fun _ _ => Condition.reads_iff,
    fun _ _ => Condition.reads_iff⟩
  · rw [st.writeSelects_eq, c.write_eq, ← c.spelled_phrase []]
    exact laidOut_spelled (c.phrase [])
  · rw [← c.spelled_phrase []]
    exact tokens_spelled w _ (c.phrase [])

end SqlComposer
