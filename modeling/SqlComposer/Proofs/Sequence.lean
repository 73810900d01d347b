import SqlComposer.Proofs.Runs
import SqlComposer.Proofs.Token
import SqlComposer.Proofs.Unfolding

/-!
# Pieces one after the other

Pieces are written from left to right, and unfolding them makes no difference to that: what it
leaves out stands behind a refusal, so it would never be written.
-/

namespace SqlComposer

/-! ## Loops -/

section Loops

variable {m : Type → Type} [Monad m] [LawfulMonad m] {α β γ : Type}

theorem mapM_congr {f g : α → m β} {as : List α} (h : ∀ a ∈ as, f a = g a) :
    as.mapM f = as.mapM g := by
  induction as with
  | nil => rfl
  | cons a as ih =>
      rw [List.mapM_cons, List.mapM_cons, h a List.mem_cons_self,
        ih fun a ha => h a (List.mem_cons_of_mem _ ha)]

theorem mapM_map_result (f : α → m β) (g : β → γ) (as : List α) :
    (as.mapM fun a => do return g (← f a)) = do return (← as.mapM f).map g := by
  induction as with
  | nil => simp
  | cons a as ih => simp only [List.mapM_cons, ih, bind_assoc, pure_bind, List.map_cons]

end Loops

/-! ## Computations that fail -/

namespace Writing

variable {α β : Type}

/-- Whatever has happened before, the computation ends with a fault. -/
def Fails (x : Writing α) : Prop :=
  ∀ before, ∃ fault after, x.run before = .error fault after

theorem Fails.refuse (shown : Value → Writing String) (cause : ClauseError) :
    Fails (Writing.refuse shown cause : Writing α) :=
  refuse_run shown cause

theorem Fails.bind {x : Writing α} (h : Fails x) (f : α → Writing β) : Fails (x >>= f) := by
  intro before
  obtain ⟨fault, after, hx⟩ := h before
  rw [bind_run, hx]
  exact ⟨fault, after, rfl⟩

theorem Fails.bind_right (x : Writing α) {f : α → Writing β} (h : ∀ a, Fails (f a)) :
    Fails (x >>= f) := by
  intro before
  rw [bind_run]
  cases x.run before with
  | ok a middle => exact h a middle
  | error fault after => exact ⟨fault, after, rfl⟩

/-- What would come after a fault does not matter. -/
theorem Fails.bind_eq {x : Writing α} (h : Fails x) (f g : α → Writing β) :
    x >>= f = x >>= g := by
  funext before
  obtain ⟨fault, after, hx⟩ := h before
  show (x >>= f).run before = (x >>= g).run before
  rw [bind_run, bind_run, hx]

end Writing

/-! ## Pieces -/

section Sequence

variable (w : Writer)

theorem tokens_append (front back : List Piece) :
    tokens w (front ++ back) = do
      let first ← tokens w front
      let rest ← tokens w back
      return first ++ rest := by
  induction front with
  | nil => simp only [List.nil_append, tokens, pure_bind, bind_pure]
  | cons piece pieces ih =>
      simp only [List.cons_append, tokens, ih, bind_assoc, pure_bind, List.append_assoc]

theorem tokens_singleton (piece : Piece) : tokens w [piece] = piece.tokens w := by
  simp only [tokens, pure_bind, List.append_nil, bind_pure]

theorem fails_of_endsRefused {pieces : List Piece} (h : endsRefused pieces) :
    Writing.Fails (tokens w pieces) := by
  unfold endsRefused at h
  split at h
  · rename_i cause hlast
    obtain ⟨front, rfl⟩ := List.getLast?_eq_some_iff.mp hlast
    rw [tokens_append]
    refine .bind_right _ fun first => ?_
    rw [tokens_singleton]
    exact .bind (.refuse w.shown cause) _
  · cases h

variable (sub : SelectId → List Piece)

theorem tokens_unfolded_cons (piece : Piece) (pieces : List Piece) :
    tokens w (unfolded sub (piece :: pieces)) = do
      let first ← tokens w (piece.unfolded sub)
      let rest ← tokens w (unfolded sub pieces)
      return first ++ rest := by
  rw [unfolded]
  by_cases hend : endsRefused (piece.unfolded sub)
  · rw [if_pos hend]
    exact (bind_pure _).symm.trans ((fails_of_endsRefused w hend).bind_eq _ _)
  · rw [if_neg hend, tokens_append]

theorem tokens_unfolded_word (text : String) (pieces : List Piece) :
    tokens w (unfolded sub (.word text :: pieces)) = do
      return .text text :: (← tokens w (unfolded sub pieces)) := by
  have hword : tokens w ((Piece.word text).unfolded sub) = pure [.text text] := rfl
  rw [tokens_unfolded_cons, hword, pure_bind]
  rfl

theorem tokens_unfolded_append (front back : List Piece) :
    tokens w (unfolded sub (front ++ back)) = do
      let first ← tokens w (unfolded sub front)
      let rest ← tokens w (unfolded sub back)
      return first ++ rest := by
  induction front with
  | nil => simp only [List.nil_append, unfolded, tokens, pure_bind, bind_pure]
  | cons piece pieces ih =>
      rw [List.cons_append, tokens_unfolded_cons, tokens_unfolded_cons, ih]
      simp only [bind_assoc, pure_bind, List.append_assoc]

theorem tokens_unfolded_parenthesized (pieces : List Piece) :
    tokens w (unfolded sub (Piece.parenthesized pieces)) = do
      return .text "(" :: (← tokens w (unfolded sub pieces)) ++ [.text ")"] := by
  have hclosing : tokens w (unfolded sub [.word ")"]) = pure [.text ")"] := by
    rw [tokens_unfolded_word]
    rfl
  rw [Piece.parenthesized, tokens_unfolded_word, tokens_unfolded_append, hclosing]
  simp only [bind_assoc, pure_bind, List.cons_append]

theorem tokens_unfolded_joined (text : String) : (parts : List (List Piece)) →
    tokens w (unfolded sub (Piece.joined text parts)) = do
      let written ← parts.mapM fun part => tokens w (unfolded sub part)
      return [Token.text text].intercalate written
  | [] => by
      simp [Piece.joined, unfolded, tokens]
  | [part] => by
      simp [Piece.joined]
  | part :: next :: parts => by
      have hrest := tokens_unfolded_joined text (next :: parts)
      rw [Piece.joined] at hrest
      rw [Piece.joined, List.intercalate_cons_cons, List.append_assoc, List.singleton_append,
        tokens_unfolded_append, tokens_unfolded_word, hrest]
      simp only [List.mapM_cons, bind_assoc, pure_bind, List.intercalate_cons_cons,
        List.append_assoc, List.singleton_append]

end Sequence

/-! ## Parts with something between them -/

theorem intercalate_append {α : Type} (sep : List α) : {front back : List (List α)} →
    front ≠ [] → back ≠ [] →
      sep.intercalate (front ++ back) = sep.intercalate front ++ sep ++ sep.intercalate back
  | [], _, hfront, _ => absurd rfl hfront
  | [part], _, _, hback => by
      rw [List.singleton_append, List.intercalate_cons_of_ne_nil hback, List.intercalate_singleton]
  | part :: next :: front, back, _, hback => by
      have hrest := intercalate_append sep (List.cons_ne_nil next front) hback
      rw [List.cons_append, List.cons_append] at *
      rw [List.intercalate_cons_cons, hrest, List.intercalate_cons_cons]
      simp only [List.append_assoc]

theorem Piece.joined_append (text : String) {front back : List (List Piece)} (hfront : front ≠ [])
    (hback : back ≠ []) :
    joined text (front ++ back) = joined text front ++ .word text :: joined text back := by
  rw [joined, intercalate_append _ hfront hback, List.append_assoc]
  rfl

theorem Piece.joined_behind (text : String) {front : List (List Piece)} (hfront : front ≠ [])
    (back : List (List Piece)) :
    joined text (front ++ back) = joined text front ++ back.flatMap (.word text :: ·) := by
  induction back generalizing front with
  | nil => rw [List.append_nil, List.flatMap_nil, List.append_nil]
  | cons part back ih =>
      have hjoined : joined text (front ++ [part]) = joined text front ++ .word text :: part := by
        rw [joined_append text hfront (List.cons_ne_nil _ _), joined, joined,
          List.intercalate_singleton]
      rw [List.append_cons, ih (List.append_ne_nil_of_left_ne_nil hfront _), hjoined,
        List.append_assoc]
      rfl

theorem Piece.joined_first (text : String) (part : List Piece) (behind : List (List Piece)) :
    joined text (part :: behind) = part ++ behind.flatMap (.word text :: ·) := by
  have hbehind := joined_behind text (List.cons_ne_nil part []) behind
  rwa [joined, joined, List.intercalate_singleton] at hbehind

/-- The pieces in front of one of several parts and behind it do not depend on the part. Nothing or
the word follows it. -/
theorem Piece.joined_at (text : String) (front behind : List (List Piece)) :
    ∃ before after, (after = [] ∨ ∃ rest, after = .word text :: rest) ∧
      ∀ part, joined text (front ++ part :: behind) = before ++ part ++ after := by
  have hfront : ∃ before, ∀ part, joined text (front ++ [part]) = before ++ part := by
    by_cases hempty : front = []
    · refine ⟨[], fun part => ?_⟩
      rw [hempty, List.nil_append, joined, List.intercalate_singleton]
      rfl
    · refine ⟨joined text front ++ [.word text], fun part => ?_⟩
      rw [joined_behind text hempty, List.append_assoc]
      exact congrArg (joined text front ++ ·) (List.append_nil _)
  obtain ⟨before, hbefore⟩ := hfront
  refine ⟨before, behind.flatMap (.word text :: ·), ?_, fun part => ?_⟩
  · cases behind with
    | nil => exact .inl rfl
    | cons next behind => exact .inr ⟨_, rfl⟩
  · have hne : front ++ [part] ≠ [] := List.append_ne_nil_of_right_ne_nil _ (List.cons_ne_nil _ _)
    rw [List.append_cons, joined_behind text hne, hbefore]

/-! ## Sources of a SELECT -/

namespace Select

theorem clauses_sources (s : Select) :
    ∃ front behind, ∀ (source : Option Source) (joins : List Join),
      clauses { s with source, joins } =
        front ++ (optional source (fun source => .word "FROM " :: source.layout s.sourceAlias) ++
          (joins.map Join.layout ++ behind)) := by
  -- Without sources, nothing but the keyword and the select list stands in front of the rest.
  refine ⟨[[.word "SELECT"]] ++ (if s.distinct.isTruthy then [[.word "DISTINCT"]] else []) ++
    [if s.columns.isEmpty then [.word "*"] else Column.listLayout s.columns],
    (clauses { s with distinct := .null, source := none, joins := [] }).drop 2, ?_⟩
  intro source joins
  simp only [clauses, List.append_assoc]
  rfl

theorem layout_source (s : Select) :
    ∃ front behind, (behind = [] ∨ ∃ rest, behind = .word " " :: rest) ∧
      ∀ source : Source, layout { s with source := some source } =
        front ++ (.word "FROM " :: source.layout s.sourceAlias) ++ behind := by
  obtain ⟨first, rest, hclauses⟩ := s.clauses_sources
  obtain ⟨front, behind, hbehind, hjoined⟩ :=
    Piece.joined_at " " first (s.joins.map Join.layout ++ rest)
  refine ⟨front, behind, hbehind, fun source => ?_⟩
  rw [layout, hclauses]
  exact hjoined _

theorem layout_join (s : Select) (later : List Join) :
    ∃ front behind, ∀ j : Join, layout { s with joins := s.joins ++ j :: later } =
      front ++ j.layout ++ behind := by
  obtain ⟨first, rest, hclauses⟩ := s.clauses_sources
  obtain ⟨front, behind, -, hjoined⟩ := Piece.joined_at " "
    (first ++ (optional s.source (fun source => .word "FROM " :: source.layout s.sourceAlias) ++
      s.joins.map Join.layout)) (later.map Join.layout ++ rest)
  refine ⟨front, behind, fun j => ?_⟩
  rw [layout, hclauses, ← hjoined]
  simp only [List.map_append, List.map_cons, List.append_assoc, List.cons_append]

end Select

end SqlComposer
