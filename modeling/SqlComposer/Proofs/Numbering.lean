import SqlComposer.Proofs.Sequence
import SqlComposer.Render

/-!
# Numbering

Writing hands on the values that are bound, and numbers each placeholder when its value is bound. It
comes to the same to write tokens first and to number the placeholders from left to right when all
of them are there: this is shown for one piece, and from it for any number of them.
-/

namespace SqlComposer

/-! ## Texts of tokens -/

namespace Token

theorem values_append (front back : List Token) :
    values (front ++ back) = values front ++ values back :=
  List.filterMap_append

theorem textFrom_append (d : Dialect) : (count : Nat) → (front back : List Token) →
    textFrom d count (front ++ back) =
      textFrom d count front ++ textFrom d (count + (values front).length) back
  | count, [], back => (String.empty_append).symm
  | count, .text s :: front, back => by
      rw [List.cons_append, textFrom, textFrom_append d count front back, textFrom,
        String.append_assoc]
      rfl
  | count, .bound v :: front, back => by
      rw [List.cons_append, textFrom, textFrom_append d (count + 1) front back, textFrom,
        String.append_assoc]
      congr 3
      exact Nat.add_right_comm ..

/-- The texts of several parts, each of them behind the values of those in front of it. -/
def textsFrom (d : Dialect) : Nat → List (List Token) → List String
  | _, [] => []
  | count, part :: parts =>
    textFrom d count part :: textsFrom d (count + (values part).length) parts

theorem values_intercalate (separator : String) : (parts : List (List Token)) →
    values ([text separator].intercalate parts) = values parts.flatten
  | [] => rfl
  | [part] => by rw [List.intercalate_singleton, List.flatten_singleton]
  | part :: next :: parts => by
      have hseparator : values [text separator] = [] := rfl
      rw [List.intercalate_cons_cons, values_append, values_append, hseparator, List.append_nil,
        values_intercalate separator (next :: parts)]
      exact (values_append part _).symm

theorem textFrom_intercalate (d : Dialect) (separator : String) : (count : Nat) →
    (parts : List (List Token)) →
      textFrom d count ([text separator].intercalate parts) =
        separator.intercalate (textsFrom d count parts)
  | _, [] => rfl
  | _, [part] => by
      rw [List.intercalate_singleton, textsFrom, textsFrom, String.intercalate_singleton]
  | count, part :: next :: parts => by
      rw [List.intercalate_cons_cons, List.append_assoc, textFrom_append, List.singleton_append,
        textFrom, textFrom_intercalate d separator _ (next :: parts), ← String.append_assoc]
      exact String.intercalate_cons_cons.symm

end Token

/-! ## Tokens that are numbered in the end -/

namespace Binding

variable (d : Dialect)

/-- Tokens whose placeholders are numbered from left to right when all of them are there. -/
def numbered (written : Writing (List Token)) : Binding String := fun bound => do
  let tokens ← written
  return (Token.textFrom d bound.length tokens, bound ++ Token.values tokens)

/-- Tokens of several parts that are numbered when all of them are there. -/
def numberedEach (written : Writing (List (List Token))) : Binding (List String) := fun bound => do
  let parts ← written
  return (Token.textsFrom d bound.length parts, bound ++ Token.values parts.flatten)

theorem numbered_run (written : Writing (List Token)) (bound : List Value) :
    (numbered d written).run bound = do
      let tokens ← written
      return (Token.textFrom d bound.length tokens, bound ++ Token.values tokens) :=
  rfl

theorem numberedEach_run (written : Writing (List (List Token))) (bound : List Value) :
    (numberedEach d written).run bound = do
      let parts ← written
      return (Token.textsFrom d bound.length parts, bound ++ Token.values parts.flatten) :=
  rfl

theorem lift_run {α : Type} (x : Writing α) (bound : List Value) :
    (liftM x : Binding α).run bound = do return (← x, bound) :=
  rfl

theorem numbered_nil : numbered d (pure []) = pure "" := by
  refine StateT.ext fun bound => ?_
  simp only [numbered_run, pure_bind, Token.textFrom, Token.values, List.filterMap_nil,
    List.append_nil, StateT.run_pure]

theorem numbered_behind {α : Type} (x : Writing α) (written : α → Writing (List Token)) :
    numbered d (x >>= written) = (do numbered d (written (← x))) := by
  refine StateT.ext fun bound => ?_
  simp only [numbered_run, StateT.run_bind, lift_run, bind_assoc, pure_bind]

/-- Tokens are numbered part by part, those behind others from the values of these on. -/
theorem numbered_append (front back : Writing (List Token)) :
    numbered d (do return (← front) ++ (← back)) = do
      return (← numbered d front) ++ (← numbered d back) := by
  refine StateT.ext fun bound => ?_
  simp only [numbered_run, StateT.run_bind, StateT.run_pure, bind_assoc, pure_bind,
    Token.textFrom_append, Token.values_append, List.length_append, List.append_assoc]

/-- A text that is written last may still be the first one. -/
theorem numbered_late (late : Writing String) (behind : Writing (List Token)) :
    numbered d (do
        let rest ← behind
        let text ← late
        return .text text :: rest) = do
      let rest ← numbered d behind
      let text ← late
      return text ++ rest := by
  refine StateT.ext fun bound => ?_
  simp only [numbered_run, StateT.run_bind, StateT.run_pure, lift_run, bind_assoc, pure_bind,
    Token.textFrom]
  rfl

theorem numbered_text (text : Writing String) :
    numbered d (do return [.text (← text)]) = liftM text := by
  refine StateT.ext fun bound => ?_
  simp only [numbered_run, lift_run, bind_assoc, pure_bind, Token.textFrom, String.append_empty]
  exact bind_congr fun _ => congrArg (fun values => pure (_, values)) (List.append_nil bound)

theorem numbered_pure (text : String) : numbered d (pure [.text text]) = pure text := by
  have htext := numbered_text d (pure text)
  rwa [pure_bind] at htext

theorem numbered_intercalate (separator : String) (written : Writing (List (List Token))) :
    numbered d (do return [Token.text separator].intercalate (← written)) = do
      return separator.intercalate (← numberedEach d written) := by
  refine StateT.ext fun bound => ?_
  simp only [numbered_run, numberedEach_run, StateT.run_bind, StateT.run_pure, bind_assoc,
    pure_bind, Token.textFrom_intercalate, Token.values_intercalate]

theorem numberedEach_nil : numberedEach d (pure []) = pure [] := by
  refine StateT.ext fun bound => ?_
  simp only [numberedEach_run, pure_bind, Token.textsFrom, List.flatten_nil, Token.values,
    List.filterMap_nil, List.append_nil, StateT.run_pure]

theorem numberedEach_cons (first : Writing (List Token)) (rest : Writing (List (List Token))) :
    numberedEach d (do return (← first) :: (← rest)) = do
      return (← numbered d first) :: (← numberedEach d rest) := by
  refine StateT.ext fun bound => ?_
  simp only [numbered_run, numberedEach_run, StateT.run_bind, StateT.run_pure, bind_assoc,
    pure_bind, Token.textsFrom, List.flatten_cons, Token.values_append, List.length_append,
    List.append_assoc]

theorem numberedEach_behind {α : Type} (x : Writing α) (written : α → Writing (List (List Token))) :
    numberedEach d (x >>= written) = (do numberedEach d (written (← x))) := by
  refine StateT.ext fun bound => ?_
  simp only [numberedEach_run, StateT.run_bind, lift_run, bind_assoc, pure_bind]

theorem numberedEach_mapM {α : Type} (written : α → Writing (List Token)) (as : List α) :
    numberedEach d (as.mapM written) = (as.map fun a => numbered d (written a)).mapM id := by
  induction as with
  | nil => exact numberedEach_nil d
  | cons a as ih =>
      rw [List.mapM_cons, numberedEach_cons, ih, List.map_cons, List.mapM_cons]
      rfl

end Binding

theorem Writer.refuse_bind {α β : Type} (w : Writer) (cause : ClauseError) (f : α → Binding β) :
    (w.refuse cause >>= f) = w.refuse cause := by
  refine StateT.ext fun bound => ?_
  simp only [Writer.refuse, StateT.run_bind, Binding.lift_run, Writing.refuse_bind]

/-! ## Pieces that are numbered in the end -/

/-- The text of pieces, with the placeholders numbered when all tokens are there. -/
def laidOut (w : Writer) (sub : SelectId → List Piece) (pieces : List Piece) : Binding String :=
  Binding.numbered w.dialect.asDialect (tokens w (unfolded sub pieces))

/-- A SELECT in the place of a reference to it. -/
def laidOutSelect (w : Writer) (sub : SelectId → List Piece) (id : SelectId) : Binding String :=
  laidOut w sub [.subselect id]

section Pieces

variable {w : Writer} {sub : SelectId → List Piece}

theorem laidOut_nil : laidOut w sub [] = pure "" :=
  Binding.numbered_nil _

theorem laidOut_append (front back : List Piece) :
    laidOut w sub (front ++ back) = do
      return (← laidOut w sub front) ++ (← laidOut w sub back) := by
  rw [laidOut, tokens_unfolded_append, Binding.numbered_append]
  rfl

theorem laidOut_cons (piece : Piece) (pieces : List Piece) :
    laidOut w sub (piece :: pieces) = do
      return (← Binding.numbered w.dialect.asDialect (tokens w (piece.unfolded sub))) ++
        (← laidOut w sub pieces) := by
  rw [laidOut, tokens_unfolded_cons, Binding.numbered_append]
  rfl

theorem laidOut_text {piece : Piece} {text : Writing String}
    (h : tokens w (piece.unfolded sub) = do return [.text (← text)]) (pieces : List Piece) :
    laidOut w sub (piece :: pieces) = do
      return (← text) ++ (← laidOut w sub pieces) := by
  rw [laidOut_cons, h, Binding.numbered_text]

theorem laidOut_word (text : String) (pieces : List Piece) :
    laidOut w sub (.word text :: pieces) = do return text ++ (← laidOut w sub pieces) := by
  have hword : tokens w ((Piece.word text).unfolded sub) = pure [.text text] := rfl
  rw [laidOut_cons, hword, Binding.numbered_pure, pure_bind]

theorem laidOut_copied (text : String) (pieces : List Piece) :
    laidOut w sub (.copied text :: pieces) = do return text ++ (← laidOut w sub pieces) :=
  laidOut_word text pieces

theorem laidOut_lastWord (text : String) : laidOut w sub [.word text] = pure text := by
  rw [laidOut_word, laidOut_nil, pure_bind, String.append_empty]

theorem laidOut_identifier (name : Name) (pieces : List Piece) :
    laidOut w sub (.identifier name :: pieces) = do
      return (← w.identifier name) ++ (← laidOut w sub pieces) :=
  laidOut_text (tokens_singleton w _) pieces

theorem laidOut_reference (name : Name) (pieces : List Piece) :
    laidOut w sub (.reference name :: pieces) = do
      return (← w.reference name) ++ (← laidOut w sub pieces) :=
  laidOut_text (tokens_singleton w _) pieces

theorem laidOut_ordering (name : Name) (pieces : List Piece) :
    laidOut w sub (.ordering name :: pieces) = do
      return (← w.ordering name) ++ (← laidOut w sub pieces) :=
  laidOut_text (tokens_singleton w _) pieces

theorem laidOut_quoted (name : Name) (pieces : List Piece) :
    laidOut w sub (.quoted name :: pieces) = do
      return (← w.quoted name) ++ (← laidOut w sub pieces) :=
  laidOut_text (tokens_singleton w _) pieces

theorem laidOut_operator (op : Value) (pieces : List Piece) :
    laidOut w sub (op.operator :: pieces) = do
      return (← w.operator op) ++ (← laidOut w sub pieces) := by
  refine laidOut_text ?_ pieces
  unfold Value.operator Writer.operator
  cases op.name? with
  | some name => rfl
  | none => exact tokens_singleton w _

/-- What is bound is bound in the dialect of the writer, or not at all. -/
theorem binding_eq {α : Type} (f : Dialect → Writing α) :
    (w.binding >>= f) = w.binding >>= fun _ => f w.dialect.asDialect := by
  unfold Writer.binding Writer.dialectFor
  cases w.dialect with
  | dialect d serial =>
      simp only [pure_bind]
      split <;> rfl
  | _ => rfl

theorem bind_run (v : Value) (bound : List Value) :
    (w.bind v).run bound = do
      let d ← w.binding
      return (d.placeholder (bound.length + 1), bound ++ [v]) := by
  simp only [Writer.bind, StateT.run_bind, StateT.run_modify, StateT.run_get, StateT.run_pure,
    Binding.lift_run, bind_assoc, pure_bind, List.length_append, List.length_singleton]

/-- A value gets its number at once, which is the one that its place gives it in the end. -/
theorem numbered_token (v : Value) :
    Binding.numbered w.dialect.asDialect (do return [← w.token v]) = w.bind v := by
  refine StateT.ext fun bound => ?_
  rw [bind_run, binding_eq, Binding.numbered_run]
  simp only [Writer.token, bind_assoc, pure_bind, Token.textFrom, String.append_empty]
  rfl

theorem laidOut_value (v : Value) : laidOut w sub [.value v] = w.bind v := by
  have hvalue : tokens w (unfolded sub [.value v]) = do return [← w.token v] :=
    tokens_singleton w _
  rw [laidOut, hvalue, numbered_token]

theorem laidOut_count (n : Nat) : laidOut w sub [.count n] = w.count n := by
  have hcount : tokens w (unfolded sub [.count n]) = (Piece.count n).tokens w :=
    tokens_singleton w _
  rw [laidOut, hcount, Piece.tokens, Binding.numbered_behind, Writer.count]
  refine bind_congr fun d => ?_
  split
  · exact numbered_token _
  · exact Binding.numbered_pure ..

theorem laidOut_refused (cause : ClauseError) :
    laidOut w sub [.refused cause] = w.refuse cause := by
  have hrefused : tokens w (unfolded sub [.refused cause]) = Writing.refuse w.shown cause :=
    tokens_singleton w _
  refine StateT.ext fun bound => ?_
  rw [laidOut, hrefused, Binding.numbered_run, Writer.refuse, Binding.lift_run,
    Writing.refuse_bind, Writing.refuse_bind]

theorem laidOut_single (piece : Piece) :
    laidOut w sub [piece] =
      Binding.numbered w.dialect.asDialect (tokens w (piece.unfolded sub)) := by
  rw [laidOut_cons, laidOut_nil]
  simp only [pure_bind, String.append_empty, bind_pure]

theorem laidOut_subselect (id : SelectId) :
    laidOut w sub [.subselect id] = Binding.numbered w.dialect.asDialect (tokens w (sub id)) :=
  laidOut_single _

theorem laidOut_parenthesized (pieces : List Piece) :
    laidOut w sub (Piece.parenthesized pieces) = do
      return inParentheses (← laidOut w sub pieces) := by
  simp only [Piece.parenthesized, laidOut_word, laidOut_append, laidOut_nil, inParentheses,
    bind_assoc, pure_bind, String.append_empty, String.append_assoc]

theorem laidOut_joined (separator : String) (parts : List (List Piece)) :
    laidOut w sub (Piece.joined separator parts) =
      Binding.joined separator (parts.map (laidOut w sub)) := by
  rw [laidOut, tokens_unfolded_joined, Binding.numbered_intercalate, Binding.numberedEach_mapM]
  rfl

theorem laidOut_lateIdentifier (name : Name) (behind : List Piece) :
    laidOut w sub [.lateIdentifier name behind] = do
      let rest ← laidOut w sub behind
      return (← w.identifier name) ++ rest := by
  have hlate : tokens w ((Piece.lateIdentifier name behind).unfolded sub) = do
      let rest ← tokens w (unfolded sub behind)
      return .text (← w.identifier name) :: rest :=
    tokens_singleton w _
  rw [laidOut_single, hlate, Binding.numbered_late]
  rfl

theorem laidOut_unnamed {given : Value} (h : given.name? = none) (behind : List Piece) :
    laidOut w sub [.unnamed given behind] = do
      let column ← w.column given
      let rest ← laidOut w sub behind
      return (← column) ++ rest := by
  have hunnamed : tokens w ((Piece.unnamed given behind).unfolded sub) = do
      let column ← w.column given
      let rest ← tokens w (unfolded sub behind)
      return .text (← column) :: rest := by
    refine (tokens_singleton w _).trans ?_
    rw [Piece.tokens, Writer.column, h]
    simp only [bind_assoc]
    refine bind_congr fun d => ?_
    split <;> rfl
  rw [laidOut_single, hunnamed, Binding.numbered_behind]
  exact bind_congr fun column => Binding.numbered_late ..

theorem laidOut_lateColumn (given : Value) (behind : List Piece) :
    laidOut w sub (Piece.lateColumn given behind) = do
      let column ← w.column given
      let rest ← laidOut w sub behind
      return (← column) ++ rest := by
  unfold Piece.lateColumn
  split
  · rename_i name hname
    simp only [laidOut_identifier, Writer.column, hname, liftM_bind, liftM_pure, bind_assoc,
      pure_bind]
  · exact laidOut_unnamed ‹_› behind

theorem laidOut_column (given : Value) (behind : List Piece) :
    laidOut w sub (Piece.column given behind) = do
      return (← w.columnText given) ++ (← laidOut w sub behind) := by
  unfold Piece.column
  split
  · rename_i name hname
    simp only [laidOut_identifier, Writer.columnText, Writer.column, hname, bind_assoc, pure_bind,
      bind_pure]
  · rw [laidOut_cons, ← laidOut_single, laidOut_unnamed ‹_›, laidOut_nil]
    simp only [Writer.columnText, liftM_bind, bind_assoc, pure_bind, String.append_empty]

/-- Items of a stream are taken while others are written, so they are written one by one. -/
theorem numberedEach_itemTokens (number : Nat) : (position : Nat) → (items : List (List Piece)) →
    Binding.numberedEach w.dialect.asDialect
        (itemTokens w number position (unfoldedItems sub items)) =
      Binding.leftIn number position (items.map (laidOut w sub))
  | position, [] => by
      rw [unfoldedItems, itemTokens]
      exact Binding.numberedEach_nil _
  | position, item :: items => by
      rw [unfoldedItems, itemTokens, Binding.numberedEach_behind, List.map_cons, Binding.leftIn]
      refine bind_congr fun progress => ?_
      split
      · exact numberedEach_itemTokens number (position + 1) items
      · rw [Binding.numberedEach_behind]
        refine bind_congr fun _ => ?_
        rw [Binding.numberedEach_cons, numberedEach_itemTokens number (position + 1) items]
        rfl

theorem laidOut_streamed (number : Nat) (items : List (List Piece)) :
    laidOut w sub [.streamed number items] = do
      return ", ".intercalate (← Binding.leftIn number 0 (items.map (laidOut w sub))) := by
  have hstreamed : tokens w ((Piece.streamed number items).unfolded sub) = do
      return [Token.text ", "].intercalate
        (← itemTokens w number 0 (unfoldedItems sub items)) :=
    tokens_singleton w _
  rw [laidOut_single, hstreamed, Binding.numbered_intercalate, numberedEach_itemTokens]

end Pieces

end SqlComposer
