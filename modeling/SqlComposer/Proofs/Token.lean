import SqlComposer.Proofs.Piece
import SqlComposer.Writer

/-!
# Tokens

Pieces come to tokens under a dialect: text, and values that placeholders are put for. The numbers
of the placeholders are left open. Here a placeholder has the position of its value as its number;
that binding the values one by one comes to the same is shown in `SqlComposer.Proofs.Numbering`.
-/

namespace SqlComposer

/-- A part of a statement as it is written: text, or a value that a placeholder is put for. -/
inductive Token where
  | text (s : String)
  | bound (v : Value)

/-! ## Tokens of pieces -/

/-- The token of a value that is bound. -/
def Writer.token (w : Writer) (v : Value) : Writing Token := do
  let _ ← w.binding
  return .bound v

/-- The tokens of what is written item by item, with commas between them. -/
def commaSeparated (items : List (List Token)) : List Token :=
  [Token.text ", "].intercalate items

mutual

def Piece.tokens (w : Writer) : Piece → Writing (List Token)
  | .word text => return [.text text]
  | .copied text => return [.text text]
  | .identifier name => do return [.text (← w.identifier name)]
  | .reference name => do return [.text (← w.reference name)]
  | .ordering name => do return [.text (← w.ordering name)]
  | .quoted name => do return [.text (← w.quoted name)]
  | .value v => do return [← w.token v]
  | .count n => do
    let d ← w.dialectFor "parameterize_limits"
    if d.countsAreBound then return [← w.token (.int n 0)] else return [.text (toString n)]
  | .display v => do return [.text (← w.display v)]
  | .subselect _ => return []
  | .streamed number items => do return commaSeparated (← itemTokens w number 0 items)
  | .unnamed column behind => do
    let d ← w.dialectFor "quote_char"
    if d.isQuoting then throw (.misuse "a column that is no text")
    let behind ← tokens w behind
    return .text (← w.display column) :: behind
  | .lateIdentifier name behind => do
    let behind ← tokens w behind
    return .text (← w.identifier name) :: behind
  | .refused cause => Writing.refuse w.shown cause

def tokens (w : Writer) : List Piece → Writing (List Token)
  | [] => return []
  | piece :: pieces => do
    let first ← piece.tokens w
    let rest ← tokens w pieces
    return first ++ rest

/-- The tokens of the items that are left in a stream, from the item at the given position on. An
item is taken before it is written, and more may be taken while it is. -/
def itemTokens (w : Writer) (number position : Nat) :
    List (List Piece) → Writing (List (List Token))
  | [] => return []
  | item :: items => do
    if position < (← get).takenFrom number then itemTokens w number (position + 1) items
    else
      modify (·.take number (position + 1))
      let first ← tokens w item
      let rest ← itemTokens w number (position + 1) items
      return first :: rest

end

/-! ## Numbered text -/

namespace Token

/-- The text of tokens behind as many values that are bound already. -/
def textFrom (d : Dialect) : Nat → List Token → String
  | _, [] => ""
  | count, .text s :: tokens => s ++ textFrom d count tokens
  | count, .bound _ :: tokens => d.placeholder (count + 1) ++ textFrom d (count + 1) tokens

def value? : Token → Option Value
  | text _ => none
  | bound v => some v

def values (tokens : List Token) : List Value :=
  tokens.filterMap value?

end Token

/-- The dialect that a value is. Anything else stands for the defaults. -/
def Value.asDialect : Value → Dialect
  | .dialect d _ => d
  | _ => .standard

/-- Tokens written down behind values that are bound already. -/
def Rendered.ofTokens (dialect : Value) (bound : List Value) (tokens : List Token) : Rendered where
  text := Token.textFrom dialect.asDialect bound.length tokens
  values := bound ++ Token.values tokens
  dialect := dialect

end SqlComposer
