import SqlComposer.Proofs.References
import SqlComposer.Proofs.Splitting

/-!
# Where pieces stand

Names and counts always stand behind a word of the language, never right behind a value, and an
operator stands behind the blank that follows a column. All other text of the caller is a fragment
without markers. This holds for every statement, however its subselects are nested.
-/

namespace SqlComposer

/-! ## Fronts -/

/-- What is known about the text in front of a piece. -/
inductive Front where
  /-- Nothing; it may be a placeholder. -/
  | any
  /-- A word of the language, or the start of the text. -/
  | word
  /-- A column that is compared with something or looked up in something. -/
  | column
  /-- The blank behind a column, which is a word too. -/
  | blank
deriving DecidableEq

namespace Front

def isWord : Front → Bool
  | word | blank => true
  | _ => false

/-- Whether the second front says all that the first one does. -/
def le : Front → Front → Bool
  | any, _ => true
  | word, front => front.isWord
  | front, other => front = other

theorem le_refl (front : Front) : front.le front := by
  cases front <;> rfl

theorem isWord_of_le {front other : Front} (h : front.le other) (hword : front.isWord) :
    other.isWord := by
  cases front with
  | word => exact h
  | blank => exact of_decide_eq_true h ▸ rfl
  | _ => cases hword

end Front

/-- The characters of the words of the language. -/
def wordCharacters : List Char :=
  "ABCDEFGHIJKLMNOPQRSTUVWXYZ (),=*".toList

def isWordOfLanguage (text : String) : Bool :=
  !text.isEmpty && text.toList.all (· ∈ wordCharacters)

/-- What stands in front of whatever follows the piece. -/
def Piece.front (before : Front) : Piece → Front
  | .word text => if before = .column ∧ text = " " then .blank else .word
  | .identifier _ | .unnamed _ [] => .column
  | _ => .any

mutual

/-- Whether a piece may stand where it does, and all those in it. -/
def Piece.isPlaced (before : Front) : Piece → Bool
  | .word text => isWordOfLanguage text
  | .copied text => before = .blank || '?' ∉ text.toList
  | .identifier _ | .reference _ | .ordering _ | .quoted _ | .count _ | .display _
  | .subselect _ => before.isWord
  | .streamed _ items => before.isWord && arePlacedItems items
  | .unnamed _ behind | .lateIdentifier _ behind => before.isWord && arePlaced .any behind
  | .value _ | .refused _ => true

def arePlaced (before : Front) : List Piece → Bool
  | [] => true
  | piece :: pieces => piece.isPlaced before && arePlaced (piece.front before) pieces

def arePlacedItems : List (List Piece) → Bool
  | [] => true
  | item :: items => arePlaced .any item && arePlacedItems items

end

/-! ## Pieces one after the other -/

section Pieces

variable {before other : Front}

theorem Piece.isWord_front_word (text : String) (before : Front) :
    ((Piece.word text).front before).isWord := by
  show (if before = .column ∧ text = " " then Front.blank else Front.word).isWord
  split <;> rfl

theorem Piece.front_le (h : before.le other) (piece : Piece) :
    (piece.front before).le (piece.front other) := by
  cases piece with
  | word text =>
      by_cases hblank : before = .column ∧ text = " "
      · obtain ⟨rfl, rfl⟩ := hblank
        exact of_decide_eq_true h ▸ Front.le_refl _
      · rw [Piece.front, if_neg hblank]
        exact isWord_front_word text other
  | unnamed column behind => cases behind <;> exact Front.le_refl _
  | _ => exact Front.le_refl _

theorem Piece.isPlaced_of_le (h : before.le other) {piece : Piece}
    (hpiece : piece.isPlaced before) : piece.isPlaced other := by
  cases piece with
  | copied text =>
      rw [Piece.isPlaced, Bool.or_eq_true] at hpiece ⊢
      refine hpiece.imp (fun hblank => ?_) id
      cases of_decide_eq_true hblank
      exact of_decide_eq_true h ▸ rfl
  | streamed number items | unnamed column items | lateIdentifier name items =>
      rw [Piece.isPlaced, Bool.and_eq_true] at hpiece ⊢
      exact ⟨Front.isWord_of_le h hpiece.1, hpiece.2⟩
  | identifier | reference | ordering | quoted | count | display | subselect =>
      exact Front.isWord_of_le h hpiece
  | _ => exact hpiece

theorem arePlaced_of_le : {before other : Front} → before.le other → {pieces : List Piece} →
    arePlaced before pieces → arePlaced other pieces
  | _, _, _, [], _ => rfl
  | _, _, h, piece :: pieces, hpieces => by
      rw [arePlaced, Bool.and_eq_true] at hpieces ⊢
      exact ⟨Piece.isPlaced_of_le h hpieces.1, arePlaced_of_le (piece.front_le h) hpieces.2⟩

theorem arePlaced_anywhere {pieces : List Piece} (h : arePlaced .any pieces) (before : Front) :
    arePlaced before pieces :=
  arePlaced_of_le rfl h

theorem arePlaced_append {front back : List Piece} (h : arePlaced before front)
    (hback : arePlaced .any back) : arePlaced before (front ++ back) := by
  induction front generalizing before with
  | nil => exact arePlaced_anywhere hback before
  | cons piece pieces ih =>
      rw [arePlaced, Bool.and_eq_true] at h
      rw [List.cons_append, arePlaced, Bool.and_eq_true]
      exact ⟨h.1, ih h.2⟩

theorem arePlaced_word {text : String} {pieces : List Piece} (htext : isWordOfLanguage text)
    (h : arePlaced .word pieces) : arePlaced before (.word text :: pieces) := by
  have hle : Front.word.le ((Piece.word text).front before) := Piece.isWord_front_word text before
  rw [arePlaced, Bool.and_eq_true]
  exact ⟨htext, arePlaced_of_le hle h⟩

theorem arePlaced_parenthesized {pieces : List Piece} (h : arePlaced .word pieces) :
    arePlaced before (Piece.parenthesized pieces) :=
  arePlaced_word (by decide) (arePlaced_append h (arePlaced_word (by decide) rfl))

theorem arePlaced_joined {word : String} (hword : isWordOfLanguage word) :
    {parts : List (List Piece)} → parts.all (arePlaced .word) →
      arePlaced .word (Piece.joined word parts)
  | [], _ => rfl
  | [part], h => by simpa [Piece.joined] using h
  | part :: next :: parts, h => by
      rw [List.all_cons, Bool.and_eq_true] at h
      have hrest : arePlaced .word (Piece.joined word (next :: parts)) := arePlaced_joined hword h.2
      rw [Piece.joined, List.intercalate_cons_cons, List.append_assoc]
      exact arePlaced_append h.1 (arePlaced_word hword hrest)

theorem arePlaced_column {given : Value} {behind : List Piece}
    (h : arePlaced .column behind) : arePlaced .word (Piece.column given behind) := by
  unfold Piece.column
  split
  · exact h
  · exact h

theorem arePlaced_lateColumn {given : Value} {behind : List Piece}
    (h : arePlaced .any behind) : arePlaced .word (Piece.lateColumn given behind) := by
  unfold Piece.lateColumn
  split
  · exact arePlaced_anywhere h .column
  · simp only [arePlaced, Piece.isPlaced, h]
    rfl

theorem arePlacedItems_eq (items : List (List Piece)) :
    arePlacedItems items = items.all (arePlaced .any) := by
  induction items with
  | nil => rfl
  | cons item items ih => simp only [arePlacedItems, ih, List.all_cons]

theorem all_arePlaced_word {parts : List (List Piece)} (h : parts.all (arePlaced .any)) :
    parts.all (arePlaced .word) :=
  List.all_eq_true.mpr fun part hpart =>
    arePlaced_anywhere (List.all_eq_true.mp h part hpart) .word

end Pieces

/-! ## Values -/

theorem Raw.fragments_free (fragment : Raw) : ∀ part ∈ fragment.fragments, '?' ∉ part.toList := by
  intro part hpart
  obtain ⟨cs, hcs, rfl⟩ := List.mem_map.mp hpart
  rw [String.toList_ofList]
  intro hmark
  cases Text.not_separator_of_mem hcs hmark

theorem arePlaced_interleave : {parts : List String} → {values : List (List Piece)} →
    (∀ part ∈ parts, '?' ∉ part.toList) → values.all (arePlaced .any) →
      arePlaced .any (interleave parts values)
  | [], _, _, _ => rfl
  | [part], _, h, _ => by simpa [interleave, arePlaced, Piece.isPlaced] using h
  | part :: _ :: _, [], h, _ => by
      simpa [interleave, arePlaced, Piece.isPlaced] using h part (List.mem_cons_self ..)
  | part :: next :: parts, value :: values, h, hvalues => by
      rw [List.all_cons, Bool.and_eq_true] at hvalues
      have hpart := h part (List.mem_cons_self ..)
      have hrest : arePlaced .any (interleave (next :: parts) values) :=
        arePlaced_interleave (fun part hpart => h part (List.mem_cons_of_mem _ hpart)) hvalues.2
      have hbehind := arePlaced_append hvalues.1 hrest
      rw [interleave, arePlaced, Bool.and_eq_true]
      exact ⟨by simpa [Piece.isPlaced] using hpart, hbehind⟩

mutual

theorem Value.arePlaced_layout (v : Value) : arePlaced .any v.layout := by
  cases v with
  | condition c =>
      cases c with
      | raw fragment => exact fragment.arePlaced_layout
      | _ => rfl
  | statement r =>
      cases r with
      | select id => exact arePlaced_parenthesized rfl
      | _ => rfl
  | _ => rfl

theorem Value.arePlaced_layouts : (vs : List Value) → (Value.layouts vs).all (arePlaced .any)
  | [] => rfl
  | v :: vs => by
      rw [Value.layouts, List.all_cons, v.arePlaced_layout, Value.arePlaced_layouts vs]
      rfl

theorem Value.arePlaced_keyLayouts : (entries : List (Value × Value)) →
    (Value.keyLayouts entries).all (arePlaced .any)
  | [] => rfl
  | (key, _) :: entries => by
      rw [Value.keyLayouts, List.all_cons, key.arePlaced_layout, Value.arePlaced_keyLayouts entries]
      rfl

theorem Value.arePlaced_memberLayouts (v : Value) : v.memberLayouts.all (arePlaced .any) := by
  cases v with
  | list items _ | tuple items _ | set items _ | stream items _ =>
      exact Value.arePlaced_layouts items
  | map entries _ => exact Value.arePlaced_keyLayouts entries
  | text s _ | keyword word | bytes octets _ =>
      simp [Value.memberLayouts, arePlaced, Piece.isPlaced]
  | _ => rfl

theorem Raw.arePlaced_layout : (fragment : Raw) → arePlaced .any fragment.layout
  | ⟨text, values, serial⟩ =>
      arePlaced_interleave (Raw.fragments_free ⟨text, values, serial⟩)
        values.arePlaced_memberLayouts

end

/-! ## Conditions -/

theorem arePlaced_operator (op : Value) {pieces : List Piece} (h : arePlaced .any pieces) :
    arePlaced .column (.word " " :: op.operator :: pieces) := by
  have hop : op.operator.isPlaced .blank := by
    unfold Value.operator
    split <;> rfl
  have hrest : arePlaced (op.operator.front .blank) pieces := arePlaced_anywhere h _
  exact Bool.and_eq_true_iff.mpr ⟨by decide, Bool.and_eq_true_iff.mpr ⟨hop, hrest⟩⟩

theorem arePlaced_membersList {parts : List (List Piece)} (h : parts.all (arePlaced .any)) :
    arePlaced .any (.word " IN " :: Piece.parenthesized (Piece.joined ", " parts)) :=
  arePlaced_word (by decide)
    (arePlaced_parenthesized (arePlaced_joined (by decide) (all_arePlaced_word h)))

theorem arePlaced_operands (op : Connective) {operands : List Value} {parts : List (List Piece)}
    (h : parts.all (arePlaced .word)) : arePlaced .word (op.joined operands parts) := by
  have hword : isWordOfLanguage (" " ++ op.text ++ " ") := by cases op <;> decide
  unfold Connective.joined
  split
  · simpa using h
  · refine arePlaced_joined hword (List.all_eq_true.mpr fun part hpart => ?_)
    obtain ⟨i, hi, rfl⟩ := List.getElem_of_mem hpart
    rw [List.getElem_zipWith]
    have hlength : i < parts.length := by
      rw [List.length_zipWith] at hi
      omega
    have hplaced := List.all_eq_true.mp h _ (List.getElem_mem hlength)
    unfold Value.asOperand
    split
    · exact arePlaced_parenthesized hplaced
    · exact hplaced

theorem arePlaced_negated {v : Value} {pieces : List Piece} (h : arePlaced .word pieces) :
    arePlaced .word (v.negated pieces) := by
  unfold Value.negated
  refine arePlaced_word (by decide) ?_
  split
  · exact arePlaced_parenthesized h
  · exact h

theorem Condition.arePlaced_membership (column values : Value) (serial : Serial) :
    arePlaced .word (Condition.membership column values serial).layout := by
  -- Whatever is no SELECT and no stream is laid out by its members, if it has any.
  have hmembers : arePlaced .word (if values.isTruthy then
      Piece.column column
        (.word " IN " :: Piece.parenthesized (Piece.joined ", " values.memberLayouts))
      else Piece.lateColumn column [.refused (.noMembers column)]) := by
    split
    · exact arePlaced_column
        (arePlaced_anywhere (arePlaced_membersList values.arePlaced_memberLayouts) _)
    · exact arePlaced_lateColumn rfl
  cases values with
  | statement r =>
      cases r with
      | select id =>
          exact arePlaced_column (arePlaced_word (by decide) (arePlaced_parenthesized rfl))
      | _ => exact hmembers
  | stream items number =>
      refine arePlaced_column (arePlaced_word (by decide) (arePlaced_parenthesized ?_))
      rw [arePlaced, Piece.isPlaced, arePlacedItems_eq, Value.arePlaced_layouts items]
      rfl
  | _ => exact hmembers

mutual

theorem Value.arePlaced_conditionLayout (v : Value) : arePlaced .word v.conditionLayout := by
  cases v with
  | condition c => exact c.arePlaced_layout
  | _ => rfl

theorem Value.arePlaced_conditionLayouts : (vs : List Value) →
    (Value.conditionLayouts vs).all (arePlaced .word)
  | [] => rfl
  | v :: vs => by
      rw [Value.conditionLayouts, List.all_cons, v.arePlaced_conditionLayout,
        Value.arePlaced_conditionLayouts vs]
      rfl

theorem Value.arePlaced_keyConditionLayouts : (entries : List (Value × Value)) →
    (Value.keyConditionLayouts entries).all (arePlaced .word)
  | [] => rfl
  | (key, _) :: entries => by
      rw [Value.keyConditionLayouts, List.all_cons, key.arePlaced_conditionLayout,
        Value.arePlaced_keyConditionLayouts entries]
      rfl

theorem Value.arePlaced_operandsLayout (op : Connective) (v : Value) :
    arePlaced .word (v.operandsLayout op) := by
  cases v with
  | tuple items _ | list items _ | set items _ =>
      exact arePlaced_operands op (Value.arePlaced_conditionLayouts items)
  | map entries _ =>
      match entries with
      | [] => rfl
      | [(_, only)] => exact only.arePlaced_conditionLayout
      | first :: second :: rest =>
          have hkeys := Value.arePlaced_keyConditionLayouts (first :: second :: rest)
          simp only [Value.operandsLayout]
          exact arePlaced_operands op hkeys
  | _ => rfl

theorem Condition.arePlaced_layout (c : Condition) : arePlaced .word c.layout := by
  cases c with
  | comparison op column value serial =>
      have hvalue : arePlaced .word value.layout := arePlaced_anywhere value.arePlaced_layout _
      exact arePlaced_column (arePlaced_operator op (arePlaced_word (by decide) hvalue))
  | isNull column negated serial =>
      refine arePlaced_column (arePlaced_word ?_ rfl)
      unfold worded
      split <;> decide
  | between column low high serial =>
      have hhigh : arePlaced .any (.word " AND " :: high.layout) :=
        arePlaced_word (by decide) (arePlaced_anywhere high.arePlaced_layout _)
      have hlow := arePlaced_append low.arePlaced_layout hhigh
      exact arePlaced_lateColumn (arePlaced_word (by decide) (arePlaced_anywhere hlow _))
  | pattern column value ignoresCase serial =>
      refine arePlaced_column (arePlaced_word ?_ (arePlaced_anywhere value.arePlaced_layout _))
      unfold worded
      split <;> decide
  | membership column values serial => exact Condition.arePlaced_membership column values serial
  | logical op operands serial => exact operands.arePlaced_operandsLayout op
  | negation inner serial => exact arePlaced_negated inner.arePlaced_conditionLayout
  | existence subselect negated serial =>
      have hselect (id : SelectId) : arePlaced .word
          (Condition.existence (.statement (.select id)) negated serial).layout := by
        refine arePlaced_word ?_ (arePlaced_parenthesized rfl)
        unfold worded
        split <;> decide
      cases subselect with
      | statement r =>
          cases r with
          | select id => exact hselect id
          | _ => rfl
      | _ => rfl
  | raw fragment => exact arePlaced_anywhere fragment.arePlaced_layout _
  | unspecified serial => rfl

end

/-! ## Clauses -/

theorem arePlaced_map {α : Type} {before : Front} {layout : α → List Piece} {as : List α}
    (h : ∀ a, arePlaced before (layout a)) : (as.map layout).all (arePlaced before) := by
  simp [List.all_map, h]

theorem arePlaced_optional {α : Type} {before : Front} {layout : α → List Piece}
    {clause : Option α} (h : ∀ a, arePlaced before (layout a)) :
    (optional clause layout).all (arePlaced before) := by
  cases clause with
  | none => rfl
  | some part => simpa [optional] using h part

theorem Column.arePlaced_layout (column : Column) : arePlaced .word column.layout := by
  cases column with
  | named name => rfl
  | raw fragment => exact arePlaced_anywhere fragment.arePlaced_layout _
  | subselect id => exact arePlaced_parenthesized rfl

theorem Column.arePlaced_orderLayout (column : Column) : arePlaced .word column.orderLayout := by
  cases column with
  | named name => rfl
  | raw fragment => exact arePlaced_anywhere fragment.arePlaced_layout _
  | subselect id => exact Column.arePlaced_layout (.subselect id)

theorem Column.arePlaced_listLayout (columns : List Column) :
    arePlaced .word (Column.listLayout columns) :=
  arePlaced_joined (by decide) (arePlaced_map Column.arePlaced_layout)

theorem arePlaced_orAll (columns : List Column) :
    arePlaced .word (if columns.isEmpty then [.word "*"] else Column.listLayout columns) := by
  split
  · rfl
  · exact Column.arePlaced_listLayout columns

theorem arePlaced_identifierList (names : List Name) : arePlaced .word (identifierList names) :=
  arePlaced_joined (by decide) (arePlaced_map fun _ => rfl)

theorem Source.arePlaced_layout (sourceAlias : Option Name) (source : Source) :
    arePlaced .word (source.layout sourceAlias) := by
  cases source with
  | table name => rfl
  | subselect id =>
      refine arePlaced_append (arePlaced_parenthesized rfl) ?_
      cases sourceAlias with
      | none => rfl
      | some name => exact arePlaced_word (by decide) rfl

theorem JoinTerms.arePlaced_layout (terms : JoinTerms) : arePlaced .word terms.layout := by
  cases terms with
  | pairs columns =>
      have hequals (right : Name) : arePlaced .column [.word " = ", .identifier right] :=
        arePlaced_word (by decide) rfl
      exact arePlaced_joined (by decide) (arePlaced_map fun pair => hequals pair.2)
  | condition c => exact c.arePlaced_layout

theorem Join.arePlaced_layout (j : Join) : arePlaced .word j.layout := by
  have hterms : arePlaced .any (.word " ON " :: j.terms.layout) :=
    arePlaced_word (by decide) j.terms.arePlaced_layout
  refine arePlaced_word ?_ hterms
  cases j.kind <;> decide

theorem ConditionClause.arePlaced_layout (clause : ConditionClause) (condition : Option Condition) :
    (clause.layout condition).all (arePlaced .word) := by
  have hword : isWordOfLanguage (clause.text ++ " ") := by cases clause <;> decide
  exact arePlaced_optional fun c => arePlaced_word hword c.arePlaced_layout

theorem arePlaced_returningLayout (returning : Option (List Column)) :
    (returningLayout returning).all (arePlaced .word) :=
  arePlaced_optional fun columns => arePlaced_word (by decide) (arePlaced_orAll columns)

/-! ## Statements -/

theorem arePlaced_switch (switch : Bool) {word : String} (hword : isWordOfLanguage word) :
    (if switch then [[Piece.word word]] else []).all (arePlaced .word) := by
  have hplaced : arePlaced .word [.word word] := arePlaced_word hword rfl
  cases switch with
  | true => simpa using hplaced
  | false => rfl

theorem arePlaced_count (count : Option Nat) {word : String} (hword : isWordOfLanguage word) :
    (optional count fun n => [.word word, .count n]).all (arePlaced .word) :=
  arePlaced_optional fun _ => arePlaced_word hword rfl

theorem Select.arePlaced_layout (s : Select) : arePlaced .word s.layout := by
  have hselect : arePlaced .word [.word "SELECT"] := arePlaced_word (by decide) rfl
  have hdistinct := arePlaced_switch s.distinct.isTruthy (by decide : isWordOfLanguage "DISTINCT")
  have hjoins : (s.joins.map Join.layout).all (arePlaced .word) :=
    arePlaced_map Join.arePlaced_layout
  have hsource : (optional s.source fun source =>
      .word "FROM " :: source.layout s.sourceAlias).all (arePlaced .word) :=
    arePlaced_optional fun source =>
      arePlaced_word (by decide) (source.arePlaced_layout s.sourceAlias)
  have hgrouping : (optional (expressions s.grouping) fun columns =>
      .word "GROUP BY " :: Column.listLayout columns).all (arePlaced .word) :=
    arePlaced_optional fun columns =>
      arePlaced_word (by decide) (Column.arePlaced_listLayout columns)
  have horder : (optional (expressions s.order) fun columns =>
      .word "ORDER BY " :: Piece.joined ", " (columns.map Column.orderLayout)).all
        (arePlaced .word) :=
    arePlaced_optional fun columns => arePlaced_word (by decide)
      (arePlaced_joined (by decide) (arePlaced_map Column.arePlaced_orderLayout))
  have hlimit := arePlaced_count s.limit (by decide : isWordOfLanguage "LIMIT ")
  have hoffset := arePlaced_count s.offset (by decide : isWordOfLanguage "OFFSET ")
  have hforUpdate :=
    arePlaced_switch s.forUpdate.isTruthy (by decide : isWordOfLanguage "FOR UPDATE")
  refine arePlaced_joined (by decide) ?_
  simp only [Select.clauses, List.all_append, List.all_cons, List.all_nil, hselect, hdistinct,
    arePlaced_orAll, hsource, hjoins, ConditionClause.arePlaced_layout, hgrouping, horder, hlimit,
    hoffset, hforUpdate, Bool.and_self]

theorem Row.arePlaced_layout (columns : List Name) (row : Row) :
    arePlaced .word (row.layout columns) := by
  have hcell (column : Name) : arePlaced .word (row.cellLayout column) := by
    unfold Row.cellLayout
    split
    · rename_i value _
      exact arePlaced_anywhere value.arePlaced_layout _
    · rfl
  exact arePlaced_parenthesized (arePlaced_joined (by decide) (arePlaced_map hcell))

theorem Insert.arePlaced_contents (s : Insert) : s.contents.all (arePlaced .word) := by
  have hcolumns (names : List Name) :
      arePlaced .word (Piece.parenthesized (identifierList names)) :=
    arePlaced_parenthesized (arePlaced_identifierList names)
  have hrows : arePlaced .word
      (.word "VALUES " :: Piece.joined ", " (s.rows.map (Row.layout s.columnNames))) :=
    arePlaced_word (by decide)
      (arePlaced_joined (by decide) (arePlaced_map (Row.arePlaced_layout s.columnNames)))
  have hselect (id : SelectId) : arePlaced .word [.subselect id] := rfl
  unfold Insert.contents
  split
  · simp only [List.all_cons, List.all_nil, hcolumns, hrows, Bool.and_self]
  · split
    · rfl
    · cases s.columns.isEmpty <;> simp [hcolumns, hselect]

theorem Insert.arePlaced_layout (s : Insert) : arePlaced .word s.layout := by
  have hinto (table : Name) : arePlaced .word [.word "INSERT INTO ", .identifier table] :=
    arePlaced_word (by decide) rfl
  unfold Insert.layout
  split
  · rfl
  · refine arePlaced_joined (by decide) ?_
    simp only [List.all_append, List.all_cons, List.all_nil, hinto, s.arePlaced_contents,
      arePlaced_returningLayout, Bool.and_self]

theorem arePlaced_assignments (table : Name) (assignments : Row) :
    arePlaced .word (assignmentsLayout table assignments) := by
  have hassignment (assignment : Name × Value) :
      arePlaced .word (assignmentLayout assignment) := by
    have hvalue : arePlaced .word assignment.2.layout :=
      arePlaced_anywhere assignment.2.arePlaced_layout _
    have hbehind : arePlaced .column (.word " = " :: assignment.2.layout) :=
      arePlaced_word (by decide) hvalue
    exact hbehind
  have hset : arePlaced .any
      (.word " SET " :: Piece.joined ", " (assignments.map assignmentLayout)) :=
    arePlaced_word (by decide) (arePlaced_joined (by decide) (arePlaced_map hassignment))
  have htable : (Piece.lateIdentifier table
      (.word " SET " :: Piece.joined ", " (assignments.map assignmentLayout))).isPlaced .word :=
    Bool.and_eq_true_iff.mpr ⟨rfl, hset⟩
  exact arePlaced_word (by decide) (Bool.and_eq_true_iff.mpr ⟨htable, rfl⟩)

theorem Update.arePlaced_layout (s : Update) : arePlaced .word s.layout := by
  unfold Update.layout
  split
  · rfl
  · split
    · rfl
    · refine arePlaced_joined (by decide) ?_
      simp only [List.all_append, List.all_cons, List.all_nil, arePlaced_assignments,
        ConditionClause.arePlaced_layout, arePlaced_returningLayout, Bool.and_self]

theorem Delete.arePlaced_layout (s : Delete) : arePlaced .word s.layout := by
  have hfrom (table : Name) : arePlaced .word [.word "DELETE FROM ", .identifier table] :=
    arePlaced_word (by decide) rfl
  unfold Delete.layout
  split
  · rfl
  · refine arePlaced_joined (by decide) ?_
    simp only [List.all_append, List.all_cons, List.all_nil, hfrom,
      ConditionClause.arePlaced_layout, arePlaced_returningLayout, Bool.and_self]

theorem Store.arePlaced_layout (st : Store) (r : StatementRef) : arePlaced .word (st.layout r) := by
  cases r with
  | bare id => rfl
  | select id => rfl
  | insert id => exact (st.insert id).arePlaced_layout
  | update id => exact (st.update id).arePlaced_layout
  | delete id => exact (st.delete id).arePlaced_layout

/-! ## Unfolding -/

section Unfolding

variable {sub : SelectId → List Piece}

mutual

theorem Piece.arePlaced_unfolded (hsub : ∀ id, arePlaced .word (sub id)) :
    (piece : Piece) → {before : Front} → {rest : List Piece} → piece.isPlaced before →
      arePlaced (piece.front before) rest → arePlaced before (piece.unfolded sub ++ rest)
  | .subselect id, before, _, h, hrest => by
      have hle : Front.word.le before := h
      exact arePlaced_append (arePlaced_of_le hle (hsub id)) hrest
  | .streamed number items, _, _, h, hrest => by
      rw [Piece.isPlaced, Bool.and_eq_true] at h
      have hitems := arePlacedItems_unfolded hsub items h.2
      exact Bool.and_eq_true_iff.mpr ⟨Bool.and_eq_true_iff.mpr ⟨h.1, hitems⟩, hrest⟩
  | .unnamed column behind, before, _, h, hrest => by
      rw [Piece.isPlaced, Bool.and_eq_true] at h
      have hbehind := arePlaced_unfolded hsub behind h.2
      have hle : ((Piece.unnamed column behind).front before).le
          ((Piece.unnamed column (unfolded sub behind)).front before) := by
        cases behind <;> rfl
      exact Bool.and_eq_true_iff.mpr
        ⟨Bool.and_eq_true_iff.mpr ⟨h.1, hbehind⟩, arePlaced_of_le hle hrest⟩
  | .lateIdentifier name behind, _, _, h, hrest => by
      rw [Piece.isPlaced, Bool.and_eq_true] at h
      have hbehind := arePlaced_unfolded hsub behind h.2
      exact Bool.and_eq_true_iff.mpr ⟨Bool.and_eq_true_iff.mpr ⟨h.1, hbehind⟩, hrest⟩
  | .word _, _, _, h, hrest | .copied _, _, _, h, hrest | .identifier _, _, _, h, hrest
  | .reference _, _, _, h, hrest | .ordering _, _, _, h, hrest | .quoted _, _, _, h, hrest
  | .value _, _, _, h, hrest | .count _, _, _, h, hrest | .display _, _, _, h, hrest
  | .refused _, _, _, h, hrest => Bool.and_eq_true_iff.mpr ⟨h, hrest⟩

theorem arePlaced_unfolded (hsub : ∀ id, arePlaced .word (sub id)) :
    (pieces : List Piece) → {before : Front} → arePlaced before pieces →
      arePlaced before (unfolded sub pieces)
  | [], _, _ => rfl
  | piece :: pieces, before, h => by
      rw [arePlaced, Bool.and_eq_true] at h
      have hfirst : arePlaced before (piece.unfolded sub ++ []) :=
        piece.arePlaced_unfolded hsub h.1 rfl
      rw [unfolded]
      split
      · -- Nothing follows a refusal.
        rwa [List.append_nil] at hfirst
      · exact piece.arePlaced_unfolded hsub h.1 (arePlaced_unfolded hsub pieces h.2)

theorem arePlacedItems_unfolded (hsub : ∀ id, arePlaced .word (sub id)) :
    (items : List (List Piece)) → arePlacedItems items → arePlacedItems (unfoldedItems sub items)
  | [], _ => rfl
  | item :: items, h => by
      rw [arePlacedItems, Bool.and_eq_true] at h
      exact Bool.and_eq_true_iff.mpr
        ⟨arePlaced_unfolded hsub item h.1, arePlacedItems_unfolded hsub items h.2⟩

end

end Unfolding

namespace Store

theorem arePlaced_selectPieces (st : Store) (nesting : List SelectId) (id : SelectId) :
    arePlaced .word (st.selectPieces nesting id) := by
  rw [selectPieces]
  split
  · rfl
  · split
    · exact arePlaced_unfolded (fun inner => st.arePlaced_selectPieces (id :: nesting) inner) _
        (st.select id).arePlaced_layout
    · exact Select.arePlaced_layout {}
termination_by st.remaining nesting
decreasing_by exact remaining_lt ‹_› ‹_›

/-- All pieces of a statement are placed, in it and in the subselects in it. -/
theorem arePlaced_pieces (st : Store) (r : StatementRef) :
    arePlaced .word (st.pieces (st.layout r)) :=
  arePlaced_unfolded (st.arePlaced_selectPieces []) _ (st.arePlaced_layout r)

end Store

end SqlComposer
