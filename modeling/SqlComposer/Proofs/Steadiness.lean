import SqlComposer.Proofs.BoundValues
import SqlComposer.Proofs.Completeness

/-!
# Steady computations

What is written depends on what has happened before in one way only: items that have been taken from
a stream are gone.
-/

namespace SqlComposer

/-! ## Progress -/

/-- The same items are left in the given streams. -/
def Progress.Agree (reads : Nat → Prop) (before before' : Progress) : Prop :=
  ∀ number, reads number → before.takenFrom number = before'.takenFrom number

theorem Progress.takenFrom_take (p : Progress) (stream count number : Nat) :
    (p.take stream count).takenFrom number =
      if number = stream then count else p.takenFrom number := by
  unfold takenFrom take
  rw [List.lookup_cons]
  by_cases h : number = stream
  · rw [if_pos h, beq_iff_eq.mpr h]
    rfl
  · rw [if_neg h, beq_eq_false_iff_ne.mpr h]

namespace Writing

variable {α β : Type} {reads : Nat → Prop}

/-- What a computation comes to, without what happens on the way. -/
def outcome (x : Writing α) (before : Progress) : Except Fault α :=
  match x.run before with
  | .ok a _ => .ok a
  | .error fault _ => .error fault

/-- What has happened when a computation ends, with a result or without. -/
def finish (x : Writing α) (before : Progress) : Progress :=
  match x.run before with
  | .ok _ after => after
  | .error _ after => after

theorem outcome_bind (x : Writing α) (f : α → Writing β) (before : Progress) :
    (x >>= f).outcome before =
      match x.outcome before with
      | .ok a => (f a).outcome (x.finish before)
      | .error fault => .error fault := by
  unfold outcome finish
  rw [bind_run]
  cases x.run before <;> rfl

theorem finish_bind (x : Writing α) (f : α → Writing β) (before : Progress) :
    (x >>= f).finish before =
      match x.outcome before with
      | .ok a => (f a).finish (x.finish before)
      | .error _ => x.finish before := by
  unfold outcome finish
  rw [bind_run]
  cases x.run before <;> rfl

/-- What a computation comes to, and what it leaves in the given streams, depends only on what is
left in them before. -/
def Steady (reads : Nat → Prop) (x : Writing α) : Prop :=
  ∀ before before', before.Agree reads before' →
    x.outcome before = x.outcome before' ∧ (x.finish before).Agree reads (x.finish before')

theorem Steady.pure (a : α) : Steady reads (pure a) :=
  fun _ _ h => ⟨rfl, h⟩

theorem Steady.throw (fault : Fault) : Steady reads (throw fault : Writing α) :=
  fun _ _ h => ⟨rfl, h⟩

theorem Steady.addLine (logger message : String) : Steady reads (Writing.addLine logger message) :=
  fun _ _ h => ⟨rfl, h⟩

theorem Steady.take (stream count : Nat) :
    Steady reads (modify (·.take stream count) : Writing Unit) := by
  refine fun before before' h => ⟨rfl, fun number hreads => ?_⟩
  show (before.take stream count).takenFrom number = (before'.take stream count).takenFrom number
  rw [Progress.takenFrom_take, Progress.takenFrom_take, h number hreads]

theorem Steady.get {next : Progress → Writing α}
    (hsame : ∀ before before', before.Agree reads before' → next before = next before')
    (hnext : ∀ before, Steady reads (next before)) : Steady reads (get >>= next) := by
  intro before before' h
  rw [outcome_bind, outcome_bind, finish_bind, finish_bind]
  show (next before).outcome before = (next before').outcome before' ∧
    ((next before).finish before).Agree reads ((next before').finish before')
  rw [hsame before before' h]
  exact hnext before' before before' h

theorem Steady.bind {x : Writing α} {f : α → Writing β} (hx : Steady reads x)
    (hf : ∀ a, Steady reads (f a)) : Steady reads (x >>= f) := by
  intro before before' h
  obtain ⟨houtcome, hfinish⟩ := hx before before' h
  rw [outcome_bind, outcome_bind, finish_bind, finish_bind, houtcome]
  cases x.outcome before' with
  | ok a => exact hf a _ _ hfinish
  | error fault => exact ⟨rfl, hfinish⟩

theorem Steady.mapM {f : α → Writing β} (h : ∀ a, Steady reads (f a)) (as : List α) :
    Steady reads (as.mapM f) := by
  induction as with
  | nil => exact .pure []
  | cons a as ih =>
      rw [List.mapM_cons]
      exact (h a).bind fun _ => ih.bind fun _ => .pure _

end Writing

open Writing

/-! ## Values -/

/-- Statements look the same at any time. -/
structure StatementTexts.Steady (reads : Nat → Prop) (texts : StatementTexts Writing) : Prop where
  shown : ∀ inside r, Writing.Steady reads (texts.shown inside r)
  written : ∀ inside r, Writing.Steady reads (texts.written inside r)

section Showing

variable {reads : Nat → Prop}

theorem steady_shownOption {α : Type} {shown : α → Writing String}
    (h : ∀ a, Writing.Steady reads (shown a)) (a : Option α) :
    Writing.Steady reads (shownOption shown a) := by
  cases a with
  | none => exact .pure _
  | some a => exact h a

theorem steady_shownOnce {inside : List Serial} {serial : Serial} {met : String}
    {shown : List Serial → Writing String} (h : ∀ inside, Writing.Steady reads (shown inside)) :
    Writing.Steady reads (shownOnce inside serial met shown) := by
  unfold shownOnce
  split
  · exact h inside
  · split
    · exact .pure met
    · exact h (serial :: inside)

variable {texts : StatementTexts Writing}

theorem steady_textOr (ht : texts.Steady reads) {inside : List Serial} {shown : Writing String}
    (h : Writing.Steady reads shown) (v : Value) :
    Writing.Steady reads (v.textOr texts inside shown) := by
  unfold Value.textOr
  split
  · exact .pure _
  · split
    · exact ht.written inside _
    · exact h

mutual

theorem Value.steady_shown (ht : texts.Steady reads) (v : Value) (inside : List Serial) :
    Writing.Steady reads (v.shown texts inside) := by
  cases v with
  | null | bool b | int n serial | float decimal serial | text s serial | keyword word
  | bytes octets serial | stream items number | registry number =>
      simp only [Value.shown]
      exact .pure _
  | list items serial | tuple items serial =>
      simp only [Value.shown]
      exact steady_shownOnce fun inside =>
        (Value.steady_shownAll ht items inside).bind fun _ => .pure _
  | set items serial =>
      simp only [Value.shown]
      split
      · exact .pure _
      · exact steady_shownOnce fun inside =>
          (Value.steady_shownAll ht items inside).bind fun _ => .pure _
  | map entries serial =>
      simp only [Value.shown]
      exact steady_shownOnce fun inside =>
        (Value.steady_shownEntries ht entries inside).bind fun _ => .pure _
  | condition c =>
      simp only [Value.shown]
      exact c.steady_shown ht inside
  | statement r =>
      simp only [Value.shown]
      exact ht.shown inside r
  | dialect d serial =>
      simp only [Value.shown]
      exact steady_shownOnce fun inside => d.steady_shown ht inside
  | rendered text values dialect serial listSerial =>
      simp only [Value.shown]
      refine steady_shownOnce fun inside => Steady.bind ?_ fun _ => .pure _
      exact steady_shownOnce fun inside =>
        (Value.steady_shownAll ht values inside).bind fun _ => .pure _
  | joinSpec kind table on serial =>
      simp only [Value.shown]
      exact steady_shownOnce fun inside => (kind.steady_shown ht inside).bind fun _ =>
        (table.steady_shown ht inside).bind fun _ =>
          (on.steady_shown ht inside).bind fun _ => .pure _
  | problem p serial =>
      simp only [Value.shown]
      exact p.steady_shown ht inside

theorem Value.steady_shownAll (ht : texts.Steady reads) : (vs : List Value) →
    (inside : List Serial) → Writing.Steady reads (Value.shownAll texts inside vs)
  | [], _ => .pure []
  | v :: vs, inside => by
      simp only [Value.shownAll]
      exact (v.steady_shown ht inside).bind fun _ =>
        (Value.steady_shownAll ht vs inside).bind fun _ => .pure _

theorem Value.steady_shownEntries (ht : texts.Steady reads) : (entries : List (Value × Value)) →
    (inside : List Serial) → Writing.Steady reads (Value.shownEntries texts inside entries)
  | [], _ => .pure []
  | (key, value) :: entries, inside => by
      simp only [Value.shownEntries]
      exact (key.steady_shown ht inside).bind fun _ => (value.steady_shown ht inside).bind fun _ =>
        (Value.steady_shownEntries ht entries inside).bind fun _ => .pure _

theorem Dialect.steady_shown (ht : texts.Steady reads) : (d : Dialect) → (inside : List Serial) →
    Writing.Steady reads (d.shown texts inside)
  | ⟨style, opening, closing, bindsCounts, name⟩, inside => by
      simp only [Dialect.shown]
      exact (style.steady_shown ht inside).bind fun _ =>
        (opening.steady_shown ht inside).bind fun _ =>
          (closing.steady_shown ht inside).bind fun _ =>
            (bindsCounts.steady_shown ht inside).bind fun _ =>
              (name.steady_shown ht inside).bind fun _ => .pure _

theorem Problem.steady_shown (ht : texts.Steady reads) : (p : Problem) → (inside : List Serial) →
    Writing.Steady reads (p.shown texts inside)
  | ⟨kind, remarks, detail⟩, inside => by
      simp only [Problem.shown]
      split
      · exact (steady_textOr ht (detail.steady_shown ht inside) detail).bind fun _ => .pure _
      · exact .pure _

theorem Raw.steady_shown (ht : texts.Steady reads) : (fragment : Raw) → (inside : List Serial) →
    Writing.Steady reads (fragment.shown texts inside)
  | ⟨text, values, serial⟩, inside => by
      simp only [Raw.shown]
      exact steady_shownOnce fun inside => (values.steady_shown ht inside).bind fun _ => .pure _

theorem Condition.steady_shown (ht : texts.Steady reads) (c : Condition) (inside : List Serial) :
    Writing.Steady reads (c.shown texts inside) := by
  cases c with
  | comparison first second third serial | between first second third serial
  | pattern first second third serial =>
      simp only [Condition.shown]
      exact steady_shownOnce fun inside => (first.steady_shown ht inside).bind fun _ =>
        (second.steady_shown ht inside).bind fun _ =>
          (third.steady_shown ht inside).bind fun _ => .pure _
  | isNull first second serial | membership first second serial | existence first second serial =>
      simp only [Condition.shown]
      exact steady_shownOnce fun inside => (first.steady_shown ht inside).bind fun _ =>
        (second.steady_shown ht inside).bind fun _ => .pure _
  | logical op operands serial =>
      simp only [Condition.shown]
      exact steady_shownOnce fun inside => (operands.steady_shown ht inside).bind fun _ => .pure _
  | negation inner serial =>
      simp only [Condition.shown]
      exact steady_shownOnce fun inside => (inner.steady_shown ht inside).bind fun _ => .pure _
  | raw fragment =>
      simp only [Condition.shown]
      exact fragment.steady_shown ht inside
  | unspecified serial =>
      simp only [Condition.shown]
      exact .pure _

end

/-! ## Statements -/

variable (ht : texts.Steady reads) (inside : List Serial)
include ht

theorem steady_shownColumns (columns : List Column) :
    Writing.Steady reads (shownColumns texts inside columns) := by
  refine Steady.bind (Steady.mapM (fun column => ?_) columns) fun _ => .pure _
  cases column with
  | named name => exact .pure _
  | raw fragment => exact fragment.steady_shown ht inside
  | subselect id => exact ht.shown inside _

theorem Source.steady_shown (source : Source) :
    Writing.Steady reads (source.shown texts inside) := by
  cases source with
  | table name => exact .pure _
  | subselect id => exact ht.shown inside _

theorem Join.steady_shown (join : Join) : Writing.Steady reads (join.shown texts inside) := by
  refine Steady.bind ?_ fun _ => .pure _
  cases join.terms with
  | pairs columns => exact .pure _
  | condition c => exact c.steady_shown ht inside

theorem Row.steady_shown (row : Row) : Writing.Steady reads (Row.shown texts inside row) :=
  (Steady.mapM (fun entry => (entry.2.steady_shown ht inside).bind fun _ => .pure _) row).bind
    fun _ => .pure _

theorem steady_shownCondition (clause : Option Condition) :
    Writing.Steady reads (shownCondition texts inside clause) :=
  steady_shownOption (fun c => c.steady_shown ht inside) clause

theorem steady_shownReturning (returning : Option (List Column)) :
    Writing.Steady reads (shownReturning texts inside returning) :=
  steady_shownOption (steady_shownColumns ht inside) returning

theorem Select.steady_shown (s : Select) : Writing.Steady reads (s.shown texts inside) :=
  (s.dialect.steady_shown ht inside).bind fun _ =>
  (steady_shownColumns ht inside s.columns).bind fun _ =>
  (s.distinct.steady_shown ht inside).bind fun _ =>
  (steady_shownOption (Source.steady_shown ht inside) s.source).bind fun _ =>
  (Steady.mapM (Join.steady_shown ht inside) s.joins).bind fun _ =>
  (steady_shownCondition ht inside s.rows).bind fun _ =>
  (steady_shownColumns ht inside s.grouping).bind fun _ =>
  (steady_shownCondition ht inside s.groups).bind fun _ =>
  (steady_shownColumns ht inside s.order).bind fun _ =>
  (s.forUpdate.steady_shown ht inside).bind fun _ => .pure _

theorem Insert.steady_shown (s : Insert) : Writing.Steady reads (s.shown texts inside) :=
  (s.dialect.steady_shown ht inside).bind fun _ =>
  (Steady.mapM (Row.steady_shown ht inside) s.rows).bind fun _ =>
  (steady_shownOption (fun _ => ht.shown inside _) s.source).bind fun _ =>
  (steady_shownReturning ht inside s.returning).bind fun _ => .pure _

theorem Update.steady_shown (s : Update) : Writing.Steady reads (s.shown texts inside) :=
  (s.dialect.steady_shown ht inside).bind fun _ =>
  (Row.steady_shown ht inside s.assignments).bind fun _ =>
  (steady_shownCondition ht inside s.rows).bind fun _ =>
  (steady_shownReturning ht inside s.returning).bind fun _ => .pure _

theorem Delete.steady_shown (s : Delete) : Writing.Steady reads (s.shown texts inside) :=
  (s.dialect.steady_shown ht inside).bind fun _ =>
  (steady_shownCondition ht inside s.rows).bind fun _ =>
  (steady_shownReturning ht inside s.returning).bind fun _ => .pure _

theorem Store.steady_shownWith (st : Store) (r : StatementRef) :
    Writing.Steady reads (st.shownWith texts inside r) := by
  cases r with
  | bare id => exact ((st.bare id).steady_shown ht inside).bind fun _ => .pure _
  | select id => exact (st.select id).steady_shown ht inside
  | insert id => exact (st.insert id).steady_shown ht inside
  | update id => exact (st.update id).steady_shown ht inside
  | delete id => exact (st.delete id).steady_shown ht inside

end Showing

/-! ## Streams -/

mutual

/-- The streams that items are taken from when a piece is written. -/
def Piece.streams : Piece → List Nat
  | .streamed number items => number :: streamsInItems items
  | .unnamed _ behind => streamsIn behind
  | .lateIdentifier _ behind => streamsIn behind
  | _ => []

def streamsIn : List Piece → List Nat
  | [] => []
  | piece :: pieces => piece.streams ++ streamsIn pieces

def streamsInItems : List (List Piece) → List Nat
  | [] => []
  | item :: items => streamsIn item ++ streamsInItems items

end

theorem streamsIn_append (front back : List Piece) :
    streamsIn (front ++ back) = streamsIn front ++ streamsIn back := by
  induction front with
  | nil => rfl
  | cons piece pieces ih => simp only [List.cons_append, streamsIn, ih, List.append_assoc]

/-! ## Pieces -/

/-- A writer makes texts of values that are the same at any time. -/
structure Writer.Steady (reads : Nat → Prop) (w : Writer) : Prop where
  display : ∀ v, Writing.Steady reads (w.display v)
  shown : ∀ v, Writing.Steady reads (w.shown v)

section Tokens

variable {reads : Nat → Prop} {w : Writer}

theorem Writer.steady_dialectFor (w : Writer) (part : String) :
    Writing.Steady reads (w.dialectFor part) := by
  unfold dialectFor
  split
  · exact .pure _
  · exact .throw _

theorem Writer.steady_token (w : Writer) (v : Value) : Writing.Steady reads (w.token v) := by
  have hbinding : Writing.Steady reads w.binding := by
    refine (w.steady_dialectFor _).bind fun d => ?_
    split
    · exact .pure _
    · exact .throw _
  exact hbinding.bind fun _ => .pure _

theorem Message.steady_text {shown : Value → Writing String}
    (h : ∀ v, Writing.Steady reads (shown v)) :
    (message : Message) → Writing.Steady reads (message.text shown)
  | [] => .pure ""
  | .words _ :: parts => (Message.steady_text h parts).bind fun _ => .pure _
  | .quoted v :: parts => (h v).bind fun _ => (Message.steady_text h parts).bind fun _ => .pure _

theorem steady_refuse {α : Type} {shown : Value → Writing String}
    (h : ∀ v, Writing.Steady reads (shown v)) (cause : ClauseError) :
    Writing.Steady reads (Writing.refuse shown cause : Writing α) := by
  unfold Writing.refuse
  split
  · exact .throw _
  · exact (Message.steady_text h _).bind fun _ => .throw _

variable (hw : w.Steady reads)
include hw

theorem Writer.steady_spelled (d : Dialect) (parts : List Identifier.NamePart) :
    Writing.Steady reads (w.spelled d parts) := by
  unfold spelled
  split
  · exact .pure _
  · refine (Steady.mapM (fun p => ?_) parts).bind fun _ => .pure _
    cases p with
    | copied text => exact .pure _
    | quoted name =>
        simp only [part]
        split
        · refine (hw.display _).bind fun _ => ?_
          split
          · exact .pure _
          · exact .throw _
        · exact .pure _

theorem Writer.steady_name (parts : Dialect → List Identifier.NamePart) :
    Writing.Steady reads (w.name parts) :=
  (w.steady_dialectFor _).bind fun d => steady_spelled hw d _

omit hw in
mutual

theorem Piece.steady_tokens (hw : w.Steady reads) : (piece : Piece) →
    (∀ number ∈ piece.streams, reads number) → Writing.Steady reads (piece.tokens w)
  | .word _, _ | .copied _, _ | .subselect _, _ => by
      simp only [Piece.tokens]
      exact .pure _
  | .identifier _, _ | .reference _, _ | .ordering _, _ => by
      simp only [Piece.tokens]
      exact (Writer.steady_name hw _).bind fun _ => .pure _
  | .quoted _, _ => by
      simp only [Piece.tokens]
      exact ((w.steady_dialectFor _).bind fun d => Writer.steady_spelled hw d _).bind fun _ =>
        .pure _
  | .value v, _ => by
      simp only [Piece.tokens]
      exact (w.steady_token v).bind fun _ => .pure _
  | .count n, _ => by
      simp only [Piece.tokens]
      refine (w.steady_dialectFor _).bind fun _ => ?_
      split
      · exact (w.steady_token _).bind fun _ => .pure _
      · exact .pure _
  | .display v, _ => by
      simp only [Piece.tokens]
      exact (hw.display v).bind fun _ => .pure _
  | .streamed number items, h => by
      simp only [Piece.tokens]
      exact (steady_itemTokens hw (h number (List.mem_cons_self ..)) 0 items fun inner hinner =>
        h inner (List.mem_cons_of_mem _ hinner)).bind fun _ => .pure _
  | .unnamed column behind, h => by
      simp only [Piece.tokens]
      refine (w.steady_dialectFor _).bind fun _ => ?_
      split
      · exact Steady.bind (.throw _) fun _ =>
          (steady_tokens hw behind h).bind fun _ => (hw.display column).bind fun _ => .pure _
      · exact (steady_tokens hw behind h).bind fun _ => (hw.display column).bind fun _ => .pure _
  | .lateIdentifier _ behind, h => by
      simp only [Piece.tokens]
      exact (steady_tokens hw behind h).bind fun _ =>
        (Writer.steady_name hw _).bind fun _ => .pure _
  | .refused cause, _ => by
      simp only [Piece.tokens]
      exact steady_refuse hw.shown cause

theorem steady_tokens (hw : w.Steady reads) : (pieces : List Piece) →
    (∀ number ∈ streamsIn pieces, reads number) → Writing.Steady reads (tokens w pieces)
  | [], _ => by
      simp only [tokens]
      exact .pure _
  | piece :: pieces, h => by
      simp only [streamsIn, List.mem_append] at h
      simp only [tokens]
      exact (Piece.steady_tokens hw piece fun number hfirst => h number (.inl hfirst)).bind fun _ =>
        (steady_tokens hw pieces fun number hrest => h number (.inr hrest)).bind fun _ => .pure _

theorem steady_itemTokens (hw : w.Steady reads) {number : Nat} (hreads : reads number)
    (position : Nat) : (items : List (List Piece)) →
    (∀ inner ∈ streamsInItems items, reads inner) →
      Writing.Steady reads (itemTokens w number position items)
  | [], _ => by
      simp only [itemTokens]
      exact .pure _
  | item :: items, h => by
      simp only [streamsInItems, List.mem_append] at h
      have hrest := steady_itemTokens hw hreads (position + 1) items fun inner hinner =>
        h inner (.inr hinner)
      simp only [itemTokens]
      refine Steady.get (fun before before' hagree => by rw [hagree number hreads]) fun before => ?_
      split
      · exact hrest
      · exact (Steady.take _ _).bind fun _ =>
          (steady_tokens hw item fun inner hinner => h inner (.inl hinner)).bind fun _ =>
            hrest.bind fun _ => .pure _

end

end Tokens

/-! ## Rendering -/

namespace Store

/-- However statements are nested in each other as texts, they come out the same at any time. -/
def Nested.Steady (reads : Nat → Prop) (nested : Nested) : Prop :=
  ∀ around r, Writing.Steady reads (nested around r)

variable {st : Store}

theorem steady_shownInside {written : Surroundings → StatementRef → Writing String}
    (hwritten : ∀ around r, Writing.Steady reads (written around r)) (nesting : List StatementRef)
    (inside : List Serial) (r : StatementRef) :
    Writing.Steady reads (st.shownInside written nesting inside r) := by
  rw [shownInside]
  split
  · exact .pure _
  · split
    · have htexts : StatementTexts.Steady reads
          ⟨fun inside inner => st.shownInside written (r :: nesting) inside inner,
            fun inside inner => written ⟨r :: nesting, inside⟩ inner⟩ :=
        ⟨fun inside inner => steady_shownInside hwritten (r :: nesting) inside inner,
          fun _ inner => hwritten _ inner⟩
      exact steady_shownWith htexts inside st r
    · exact steady_shownWith ⟨fun _ _ => .pure _, fun _ _ => .pure _⟩ inside st r
termination_by st.unshown nesting
decreasing_by exact unshown_lt ‹_› ‹_›

theorem steady_writer {nested : Nested} (h : nested.Steady reads) (around : Surroundings)
    (dialect : Value) : (st.writer nested around dialect).Steady reads := by
  have htexts : (st.statementTexts nested around).Steady reads :=
    ⟨steady_shownInside h _, fun _ r => h _ r⟩
  exact ⟨fun v => steady_textOr htexts (v.steady_shown htexts _) v,
    fun v => v.steady_shown htexts _⟩

/-- The streams that items are taken from when a statement is written by itself. -/
def streams (st : Store) (r : StatementRef) : List Nat :=
  streamsIn (st.pieces (st.layout r))

/-- Whether items are taken from a stream when statements are written. -/
def Reads (st : Store) (number : Nat) : Prop :=
  ∃ r, number ∈ st.streams r

theorem steady_renderWith {nested : Nested} (h : nested.Steady st.Reads) (around : Surroundings)
    (inUse asked : Value) (r : StatementRef) :
    Writing.Steady st.Reads (st.renderWith nested around inUse asked r) := by
  rw [renderWith_eq]
  exact (steady_tokens (steady_writer h around _) _ fun _ hnumber => ⟨r, hnumber⟩).bind fun _ =>
    (Steady.addLine _ _).bind fun _ => .pure _

theorem steady_textWithin (inUse : Value) (depth : Nat) :
    Nested.Steady st.Reads (st.textWithin inUse depth) := by
  induction depth with
  | zero => exact fun _ _ => .throw _
  | succ depth ih =>
      exact fun around r => (steady_renderWith ih around inUse .null r).bind fun _ => .pure _

/-- What a rendering comes to depends only on what is left in the streams that statements read. -/
theorem steady_render (inUse asked : Value) (r : StatementRef) :
    Writing.Steady st.Reads (st.render inUse asked r) :=
  steady_renderWith (steady_textWithin inUse deepest) {} inUse asked r

end Store

/-! ## Sound statements -/

theorem piecewise_streamsIn : Piecewise (streamsIn · = []) where
  nil := rfl
  append hfront hback := by
    rw [streamsIn_append, hfront, hback]
    rfl
  single piece h := by
    cases piece with
    | streamed | unnamed | lateIdentifier => cases h
    | _ => rfl
  late name behind h := by
    rw [streamsIn, Piece.streams, h]
    rfl

theorem piecewise_isStreamless : Piecewise (allPass Piece.isStreamless · = true) where
  nil := rfl
  append hfront hback := by
    rw [allPass_append, hfront, hback]
    rfl
  single piece h := by
    cases piece with
    | streamed | unnamed | lateIdentifier => cases h
    | _ => rfl
  late name behind h := by
    rw [allPass, Piece.passes, h]
    rfl

/-- No stream is left in conditions that have been checked. -/
theorem Store.streams_of_isSound {st : Store} (hsound : st.isSound) (r : StatementRef) :
    st.streams r = [] := by
  refine Store.pieces_of_isSound hsound piecewise_streamsIn rfl fun h => ?_
  rcases Store.pieces_of_shortfall h with hpieces | ⟨table, hpieces⟩
  · rw [hpieces]
    rfl
  · rw [hpieces]
    rfl

/-- No column is looked up in a stream then. -/
theorem Store.isStreamless_of_isSound {st : Store} (hsound : st.isSound) (r : StatementRef) :
    st.isStreamless r := by
  refine Store.pieces_of_isSound hsound piecewise_isStreamless rfl fun h => ?_
  rcases Store.pieces_of_shortfall h with hpieces | ⟨table, hpieces⟩
  · rw [hpieces]
    rfl
  · rw [hpieces]
    rfl

end SqlComposer
