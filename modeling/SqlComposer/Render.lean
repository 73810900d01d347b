import SqlComposer.Display
import SqlComposer.Writer.Statement

/-!
# Rendering

Which dialect a statement is written in, and the result: its text and the values that the
placeholders in it stand for. A statement may also be written inside another one as a plain text,
where something else is expected; it then has a dialect, numbers and a line in the log of its own.
-/

namespace SqlComposer

/-- What is written behind values that are bound already, and the values that are bound then. -/
def Binding.rendered (write : Binding String) (dialect : Value) (bound : List Value) :
    Writing Rendered := do
  let (text, values) ← write.run bound
  return { text, values, dialect }

namespace Store

/-! ## Values as texts -/

/-- How a statement becomes a text where other things are being shown. -/
abbrev Nested := Surroundings → StatementRef → Writing String

/-- How statements look, with `nested` to write them. -/
def statementTexts (st : Store) (nested : Nested) (around : Surroundings) :
    StatementTexts Writing where
  shown := st.shownInside nested around.statements
  written := fun inside r => nested ⟨around.statements, inside⟩ r

def shown (st : Store) (nested : Nested) (around : Surroundings) (v : Value) : Writing String :=
  v.shown (st.statementTexts nested around) around.serials

def display (st : Store) (nested : Nested) (around : Surroundings) (v : Value) : Writing String :=
  v.display (st.statementTexts nested around) around.serials

/-- How pieces are written in a dialect. -/
def writer (st : Store) (nested : Nested) (around : Surroundings) (dialect : Value) : Writer where
  dialect := dialect
  display := st.display nested around
  shown := st.shown nested around

/-! ## Statements -/

/-- The dialect for a statement: the one asked for, else the one that the statement is tied to, else
the one in use. -/
def activeDialect (st : Store) (inUse asked : Value) (r : StatementRef) : Value :=
  asked.orElse ((st.dialectOf r).orElse inUse)

/-- What the log says about a statement that has been written. -/
def renderMessage (r : StatementRef) (rendered : Rendered) : String :=
  "Rendered " ++ r.kindName ++ " with " ++ toString rendered.values.length ++ " parameter(s)"

/-- A statement as it is written, with `nested` to write those inside it that become texts. -/
def renderWith (st : Store) (nested : Nested) (around : Surroundings) (inUse asked : Value)
    (r : StatementRef) : Writing Rendered := do
  let dialect := st.activeDialect inUse asked r
  let rendered ← (st.writeStatement (st.writer nested around dialect) r).rendered dialect []
  Writing.addLine renderLogger (renderMessage r rendered)
  return rendered

/-- How deep statements may be nested inside each other as texts. -/
def deepest : Nat := 150

/-- A statement as a text, inside of statements that leave the given depth for it. -/
def textWithin (st : Store) (inUse : Value) : Nat → Nested
  | 0, _, _ => throw (.misuse "statements are nested too deeply")
  | depth + 1, around, r => do
    return (← st.renderWith (st.textWithin inUse depth) around inUse .null r).text

def text (st : Store) (inUse : Value) : Nested :=
  st.textWithin inUse deepest

def render (st : Store) (inUse asked : Value) (r : StatementRef) : Writing Rendered :=
  st.renderWith (st.text inUse) {} inUse asked r

/-! ## Parts of statements -/

/-- A value in the place of a condition, as it is written behind values that are bound before. -/
def renderCondition (st : Store) (inUse dialect bound condition : Value) : Writing Rendered :=
  let w := st.writer (st.text inUse) {} dialect
  let write : Binding String := do
    w.bindAll bound
    condition.writeCondition w (st.writeSelect w [])
  write.rendered dialect []

end Store

/-- What surrounds a part: the values bound in front of it, and the SELECTs that it stands in. -/
structure Context where
  bound : List Value := []
  nesting : List SelectId := []

/-- A part as it is written in a context; `write` writes it, given how SELECTs are written there. -/
def Store.renderIn (st : Store) (inUse dialect : Value) (context : Context)
    (write : Writer → (SelectId → Binding String) → Binding String) : Writing Rendered :=
  let w := st.writer (st.text inUse) {} dialect
  (write w (st.writeSelect w context.nesting)).rendered dialect context.bound

/-- What is written inside of something else. -/
inductive Part where
  | select (id : SelectId)
  | condition (c : Condition)

def Part.write (w : Writer) (sub : SelectId → Binding String) : Part → Binding String
  | .select id => sub id
  | .condition c => c.write w sub

def Store.renderInside (st : Store) (inUse dialect : Value) (context : Context) (part : Part) :
    Writing Rendered :=
  st.renderIn inUse dialect context fun w sub => part.write w sub

end SqlComposer
