import SqlComposer.Proofs.Alike
import SqlComposer.Proofs.Matching

/-!
# Pieces that are written alike

Matching pieces are written alike: with the same fault, or as tokens that match. The two writers
must make the same texts of what is shown and not bound, and their dialects may differ in the style
of the placeholders.
-/

namespace SqlComposer

variable {stands : Value → Value → Prop} {bound : Bool}

/-! ## What is shown as a text -/

/-- The values that the message about a refusal quotes. -/
def ClauseError.quoted (cause : ClauseError) : List Value :=
  cause.message.filterMap fun
    | .quoted v => some v
    | .words _ => none

mutual

/-- The values that a piece is written with as texts, and not bound. -/
def Piece.displayed : Piece → List Value
  | .display v => [v]
  | .streamed _ items => displayedInItems items
  | .unnamed column behind => column :: displayedIn behind
  | .lateIdentifier _ behind => displayedIn behind
  | .refused cause => cause.quoted
  | _ => []

def displayedIn : List Piece → List Value
  | [] => []
  | piece :: pieces => piece.displayed ++ displayedIn pieces

def displayedInItems : List (List Piece) → List Value
  | [] => []
  | item :: items => displayedIn item ++ displayedInItems items

end

/-! ## Writers that agree -/

/-- The same settings, but for the style of the placeholders. -/
inductive Dialect.SameButStyle : Dialect → Dialect → Prop
  | refl (d : Dialect) : Dialect.SameButStyle d d
  | restyled (d : Dialect) (style style' : PlaceholderStyle) :
      Dialect.SameButStyle { d with style := .keyword (.placeholderStyle style) }
        { d with style := .keyword (.placeholderStyle style') }

theorem Dialect.SameButStyle.isQuoting_eq {d d' : Dialect} (hd : d.SameButStyle d') :
    d.isQuoting = d'.isQuoting := by
  cases hd <;> rfl

theorem Dialect.SameButStyle.countsAreBound_eq {d d' : Dialect} (hd : d.SameButStyle d') :
    d.countsAreBound = d'.countsAreBound := by
  cases hd <;> rfl

/-- The same value, or dialects that are the same but for their style. -/
inductive Value.SameButStyle : Value → Value → Prop
  | refl (v : Value) : Value.SameButStyle v v
  | dialect {d d' : Dialect} (serial : Serial) : d.SameButStyle d' →
      Value.SameButStyle (.dialect d serial) (.dialect d' serial)

/-- Both make the same text of a value, by itself and inside of messages. -/
def Writer.AgreeOn (w w' : Writer) (v : Value) : Prop :=
  w.display v = w'.display v ∧ w.shown v = w'.shown v

/-- The dialects are the same but for their style, and both make the same text of the quote. -/
structure Writer.Agree (w w' : Writer) : Prop where
  dialect : w.dialect.SameButStyle w'.dialect
  quote : w.AgreeOn w' w.dialect.asDialect.opening

theorem Writer.part_eq {w w' : Writer} {d d' : Dialect} (hd : d.SameButStyle d')
    (hq : w.AgreeOn w' d.opening) (p : Identifier.NamePart) : w.part d p = w'.part d' p := by
  have hpart : w.part d p = w'.part d p := by
    cases p with
    | copied text => rfl
    | quoted name => simp only [Writer.part, hq.1]
  rw [hpart]
  cases hd <;> rfl

theorem Writer.spelled_eq {w w' : Writer} {d d' : Dialect} (hd : d.SameButStyle d')
    (hq : w.AgreeOn w' d.opening) (parts : List Identifier.NamePart) :
    w.spelled d parts = w'.spelled d' parts := by
  have hparts : w.part d = w'.part d' := funext (Writer.part_eq hd hq)
  have hplain : d.hasPlainQuotes = d'.hasPlainQuotes := by cases hd <;> rfl
  have hspelled : d.spelled parts = d'.spelled parts := by cases hd <;> rfl
  simp only [Writer.spelled, hparts, hplain, hspelled]

namespace Writer.Agree

open Writing

variable {w w' : Writer}

theorem dialectFor (h : w.Agree w') (part : String) :
    Alike (fun d d' => d.SameButStyle d' ∧ d = w.dialect.asDialect)
      (w.dialectFor part) (w'.dialectFor part) := by
  have hd := h.dialect
  unfold Writer.dialectFor
  generalize w.dialect = dialect at hd ⊢
  generalize w'.dialect = dialect' at hd ⊢
  cases hd with
  | refl =>
      cases dialect with
      | dialect d serial => exact .pure ⟨.refl d, rfl⟩
      | _ => exact .throw _
  | dialect serial hd => exact .pure ⟨hd, rfl⟩

theorem token (h : w.Agree w') {v v' : Value} (hv : stands v v') :
    Alike (Token.Matches stands) (w.token v) (w'.token v') := by
  have hbinding : Alike (fun _ _ => True) w.binding w'.binding := by
    refine Alike.bind (h.dialectFor _) ?_
    rintro d d' ⟨hd, -⟩
    cases hd with
    | refl =>
        split
        · exact .pure trivial
        · exact .throw _
    | restyled d style style' => exact .pure trivial
  exact .bind hbinding fun _ _ _ => .pure (.bound hv)

/-- A name comes to the same text, if the style has no part in how it is cut into parts. -/
theorem name (h : w.Agree w') {parts : Dialect → List Identifier.NamePart}
    (hparts : ∀ {d d'}, Dialect.SameButStyle d d' → parts d = parts d') :
    w.name parts = w'.name parts := by
  refine Alike.eq (Alike.bind (h.dialectFor _) ?_)
  rintro d d' ⟨hd, rfl⟩
  rw [Writer.spelled_eq hd h.quote, hparts hd]
  exact .refl _

theorem identifier (h : w.Agree w') (name : Name) : w.identifier name = w'.identifier name :=
  h.name fun hd => by cases hd <;> rfl

theorem reference (h : w.Agree w') (name : Name) : w.reference name = w'.reference name :=
  h.name fun hd => by cases hd <;> rfl

theorem ordering (h : w.Agree w') (name : Name) : w.ordering name = w'.ordering name :=
  h.name fun hd => by cases hd <;> rfl

theorem quoted (h : w.Agree w') (name : Name) : w.quoted name = w'.quoted name := by
  refine Alike.eq (Alike.bind (h.dialectFor _) ?_)
  rintro d d' ⟨hd, rfl⟩
  rw [Writer.spelled_eq hd h.quote]
  exact .refl _

end Writer.Agree

/-! ## Refusals -/

theorem Message.text_congr {shown shown' : Value → Writing String} (message : Message)
    (h : ∀ v, .quoted v ∈ message → shown v = shown' v) :
    message.text shown = message.text shown' := by
  induction message with
  | nil => rfl
  | cons part parts ih =>
      have hparts := ih fun v hv => h v (List.mem_cons_of_mem _ hv)
      cases part with
      | words text => simp only [Message.text, hparts]
      | quoted v => simp only [Message.text, hparts, h v (List.mem_cons_self ..)]

theorem refuse_congr {α : Type} {shown shown' : Value → Writing String} {cause : ClauseError}
    (h : ∀ v ∈ cause.quoted, shown v = shown' v) :
    (Writing.refuse shown cause : Writing α) = Writing.refuse shown' cause := by
  have hmessage := Message.text_congr cause.message fun v hv =>
    h v (List.mem_filterMap.mpr ⟨_, hv, rfl⟩)
  unfold Writing.refuse
  split
  · rfl
  · rw [hmessage]

theorem refuse_alike {α β : Type} {R : α → β → Prop} {shown shown' : Value → Writing String}
    {cause : ClauseError} (h : ∀ v ∈ cause.quoted, shown v = shown' v) :
    Writing.Alike R (Writing.refuse shown cause) (Writing.refuse shown' cause) := by
  rw [← refuse_congr h]
  unfold Writing.refuse
  split
  · exact .throw _
  · exact .bind_same fun _ => .throw _

/-! ## Tokens -/

section Tokens

open Writing

variable {w w' : Writer}

mutual

theorem Piece.Matches.tokens (hw : w.Agree w')
    (hbound : w.dialect.asDialect.countsAreBound = bound) :
    {piece piece' : Piece} → piece.Matches stands bound piece' →
    (∀ v ∈ piece.displayed, w.AgreeOn w' v) →
      Alike (List.Forall₂ (Token.Matches stands)) (piece.tokens w) (piece'.tokens w')
  | _, _, .word text, _ => .pure (.cons (.text text) .nil)
  | _, _, .copied text, _ => .pure (.cons (.text text) .nil)
  | _, _, .identifier name, _ => by
      simp only [Piece.tokens, hw.identifier name]
      exact .bind_same fun text => .pure (.cons (.text text) .nil)
  | _, _, .reference name, _ => by
      simp only [Piece.tokens, hw.reference name]
      exact .bind_same fun text => .pure (.cons (.text text) .nil)
  | _, _, .ordering name, _ => by
      simp only [Piece.tokens, hw.ordering name]
      exact .bind_same fun text => .pure (.cons (.text text) .nil)
  | _, _, .quoted name, _ => by
      simp only [Piece.tokens, hw.quoted name]
      exact .bind_same fun text => .pure (.cons (.text text) .nil)
  | _, _, .value hv, _ => .bind (hw.token hv) fun _ _ ht => .pure (.cons ht .nil)
  | _, _, .count hn, _ => by
      refine Alike.bind (hw.dialectFor _) ?_
      rintro d d' ⟨hd, rfl⟩
      rw [← hd.countsAreBound_eq, hbound]
      cases bound with
      | true => exact .bind (hw.token hn) fun _ _ ht => .pure (.cons ht .nil)
      | false =>
          cases (show _ = _ from hn)
          exact .pure (.cons (.text _) .nil)
  | _, _, .display v, h => by
      have hv := (h v (List.mem_singleton.mpr rfl)).1
      simp only [Piece.tokens, hv]
      exact .bind_same fun text => .pure (.cons (.text text) .nil)
  | _, _, .subselect id, _ => .pure .nil
  | _, _, .streamed number hitems, h =>
      .bind (itemTokens_alike hw hbound hitems h 0 number) fun _ _ ht =>
        .pure (forall₂_intercalate (.cons (.text _) .nil) ht)
  | _, _, .unnamed column hbehind, h => by
      have hcolumn := (h column (List.mem_cons_self ..)).1
      refine Alike.bind (hw.dialectFor _) ?_
      rintro d d' ⟨hd, -⟩
      rw [← hd.isQuoting_eq, ← hcolumn]
      split
      · exact .bind (R := fun _ _ => False) (.throw _) fun _ _ h => h.elim
      · have hrest := fun v hv => h v (List.mem_cons_of_mem _ hv)
        refine Alike.bind (tokens_alike hw hbound hbehind hrest) fun _ _ ht => ?_
        exact .bind_same fun text => .pure (.cons (.text text) ht)
  | _, _, .lateIdentifier name hbehind, h => by
      refine Alike.bind (tokens_alike hw hbound hbehind h) fun _ _ hbehind => ?_
      rw [hw.identifier name]
      exact .bind_same fun text => .pure (.cons (.text text) hbehind)
  | _, _, .refused cause, h => refuse_alike fun v hv => (h v hv).2

theorem tokens_alike (hw : w.Agree w')
    (hbound : w.dialect.asDialect.countsAreBound = bound) :
    {pieces pieces' : List Piece} → List.Forall₂ (Piece.Matches stands bound) pieces pieces' →
    (∀ v ∈ displayedIn pieces, w.AgreeOn w' v) →
      Alike (List.Forall₂ (Token.Matches stands)) (SqlComposer.tokens w pieces)
        (SqlComposer.tokens w' pieces')
  | _, _, .nil, _ => .pure .nil
  | _, _, .cons hpiece hpieces, h => by
      simp only [displayedIn, List.mem_append] at h
      have hfirst := hpiece.tokens hw hbound fun v hv => h v (.inl hv)
      have hrest := tokens_alike hw hbound hpieces fun v hv => h v (.inr hv)
      refine Alike.bind hfirst fun _ _ ht => ?_
      exact Alike.bind hrest fun _ _ hts => .pure (List.rel_append ht hts)

theorem itemTokens_alike (hw : w.Agree w')
    (hbound : w.dialect.asDialect.countsAreBound = bound) :
    {items items' : List (List Piece)} →
    List.Forall₂ (List.Forall₂ (Piece.Matches stands bound)) items items' →
    (∀ v ∈ displayedInItems items, w.AgreeOn w' v) → (position number : Nat) →
      Alike (List.Forall₂ (List.Forall₂ (Token.Matches stands)))
        (itemTokens w number position items) (itemTokens w' number position items')
  | _, _, .nil, _, _, _ => .pure .nil
  | _, _, .cons hitem hitems, h, position, number => by
      simp only [displayedInItems, List.mem_append] at h
      have hfirst := tokens_alike hw hbound hitem fun v hv => h v (.inl hv)
      have hrest :=
        itemTokens_alike hw hbound hitems (fun v hv => h v (.inr hv)) (position + 1) number
      refine Alike.bind_same fun progress => ?_
      split
      · exact hrest
      · refine Alike.bind_same fun _ => ?_
        refine Alike.bind hfirst fun _ _ ht => ?_
        exact Alike.bind hrest fun _ _ hts => .pure (.cons ht hts)

end

/-- Writers that agree on what is shown give the same tokens. -/
theorem tokens_congr {pieces : List Piece} (hw : w.Agree w')
    (h : ∀ v ∈ displayedIn pieces, w.AgreeOn w' v) :
    SqlComposer.tokens w pieces = SqlComposer.tokens w' pieces := by
  refine Alike.eq fun before => ?_
  have hpieces : List.Forall₂ (Piece.Matches Eq w.dialect.asDialect.countsAreBound) pieces pieces :=
    pieces_refl Eq.refl pieces
  rcases tokens_alike hw rfl hpieces h before with ⟨_, _, after, hx, hy, ht⟩ | hfault
  · exact .inl ⟨_, _, after, hx, hy, Token.eq_of_matches ht⟩
  · exact .inr hfault

end Tokens

end SqlComposer
