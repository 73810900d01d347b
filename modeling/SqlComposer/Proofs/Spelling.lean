import SqlComposer.Proofs.Splitting
import SqlComposer.Proofs.Token

/-!
# Spelling of names

A name is written as parts, some of them between quotes. Without the quotes the parts make up the
name again, apart from the blanks around an alias and the direction of an ordering.
-/

namespace SqlComposer

/-- What holds of all characters in a list, checked one by one. There are too many characters to
decide it for all of them. -/
theorem forall_of_all {cs : List Char} {P : Char → Prop} [DecidablePred P]
    (h : cs.all fun c => P c) : ∀ c ∈ cs, P c :=
  fun c hc => of_decide_eq_true (List.all_eq_true.mp h c hc)

def Name.isPlain : Name → Bool
  | .plain _ => true
  | .keyword _ => false

namespace Identifier

/-! ## Parts without quotes -/

/-- A part of a name without the quotes that may be put around it. -/
def NamePart.unquoted : NamePart → String
  | .copied text => text
  | .quoted name => name.text

def unquoted (parts : List NamePart) : String :=
  String.join (parts.map NamePart.unquoted)

@[simp] theorem unquoted_nil : unquoted [] = "" :=
  String.join_nil

@[simp] theorem unquoted_cons (part : NamePart) (parts : List NamePart) :
    unquoted (part :: parts) = part.unquoted ++ unquoted parts :=
  String.join_cons

@[simp] theorem unquoted_append (front back : List NamePart) :
    unquoted (front ++ back) = unquoted front ++ unquoted back := by
  rw [unquoted, List.map_append, String.join_append]
  rfl

theorem unquoted_segmentPart (segment : List Char) :
    (segmentPart segment).unquoted = String.ofList segment := by
  unfold segmentPart
  split
  · rename_i hstar
    rw [hstar]
    rfl
  · rfl

theorem unquoted_intersperse : (segments : List (List Char)) →
    unquoted ((segments.map segmentPart).intersperse (.copied ".")) =
      String.ofList (['.'].intercalate segments)
  | [] => rfl
  | [segment] => by simp [unquoted_segmentPart]
  | segment :: next :: segments => by
      have hrest := unquoted_intersperse (next :: segments)
      simp only [List.map_cons, List.intersperse, unquoted_cons, List.intercalate_cons_cons]
        at hrest ⊢
      rw [hrest, unquoted_segmentPart, String.ofList_append, String.ofList_append,
        String.append_assoc]
      rfl

theorem unquoted_pathParts (cs : List Char) : unquoted (pathParts cs) = String.ofList cs := by
  rw [pathParts, unquoted_intersperse, segments, Text.intercalate_splitAll]

/-! ## Names -/

/-- A path with its alias, with single blanks between them and AS in capitals. -/
def Aliased.spelled (found : Aliased) : String :=
  String.ofList found.path ++ (if found.hasAs then " AS " else " ") ++ String.ofList found.name

def Ordered.spelled (ordered : Ordered) : String :=
  String.ofList ordered.expression ++ ordered.suffix

end Identifier

namespace Dialect

open Identifier

variable (d : Dialect)

theorem unquoted_identifierParts (text : String) :
    unquoted (d.identifierParts (.plain text)) = text := by
  unfold identifierParts
  split
  · exact (unquoted_pathParts _).trans String.ofList_toList
  · simp [NamePart.unquoted, Name.display]

theorem unquoted_referenceParts (text : String) :
    unquoted (d.referenceParts (.plain text)) =
      match if d.isQuoting then aliased? text.toList else none with
      | some found => found.spelled
      | none => text := by
  unfold referenceParts
  simp only [Name.text]
  cases if d.isQuoting then aliased? text.toList else none with
  | some found =>
      simp [unquoted_identifierParts, NamePart.unquoted, Name.text, Aliased.spelled,
        String.append_assoc]
  | none => exact d.unquoted_identifierParts text

theorem unquoted_orderingParts (text : String) :
    unquoted (d.orderingParts (.plain text)) =
      match ordered? text.toList with
      | some found => found.spelled
      | none => unquoted (d.referenceParts (.plain text)) := by
  unfold orderingParts
  simp only [Name.text]
  cases ordered? text.toList with
  | some found => simp [unquoted_identifierParts, NamePart.unquoted, Ordered.spelled]
  | none => rfl

theorem spelled_append (front back : List NamePart) :
    d.spelled (front ++ back) = d.spelled front ++ d.spelled back := by
  rw [spelled, List.map_append, String.join_append]
  rfl

theorem spelled_copied (text : String) : d.spelled [.copied text] = text := by
  rw [spelled, List.map_singleton, String.join_cons, String.join_nil, String.append_empty]
  rfl

end Dialect

/-! ## Writers -/

namespace Writer

variable {w : Writer} {d : Dialect} {serial : Serial}

theorem spelled_of_plainQuotes (w : Writer) (hd : d.hasPlainQuotes)
    (parts : List Identifier.NamePart) : w.spelled d parts = pure (d.spelled parts) := by
  rw [spelled, if_pos hd]

theorem dialectFor_of_dialect (hw : w.dialect = .dialect d serial) (part : String) :
    w.dialectFor part = pure d := by
  rw [dialectFor, hw]

theorem name_of_plainQuotes (hw : w.dialect = .dialect d serial) (hd : d.hasPlainQuotes)
    (parts : Dialect → List Identifier.NamePart) :
    w.name parts = pure (d.spelled (parts d)) := by
  simp only [name, dialectFor_of_dialect hw, pure_bind, w.spelled_of_plainQuotes hd]

theorem identifier_of_plainQuotes (hw : w.dialect = .dialect d serial) (hd : d.hasPlainQuotes)
    (name : Name) : w.identifier name = pure (d.identifier name) :=
  name_of_plainQuotes hw hd (·.identifierParts name)

theorem reference_of_plainQuotes (hw : w.dialect = .dialect d serial) (hd : d.hasPlainQuotes)
    (name : Name) : w.reference name = pure (d.reference name) :=
  name_of_plainQuotes hw hd (·.referenceParts name)

theorem ordering_of_plainQuotes (hw : w.dialect = .dialect d serial) (hd : d.hasPlainQuotes)
    (name : Name) : w.ordering name = pure (d.ordering name) :=
  name_of_plainQuotes hw hd (·.orderingParts name)

theorem quoted_of_plainQuotes (hw : w.dialect = .dialect d serial) (hd : d.hasPlainQuotes)
    (name : Name) : w.quoted name = pure (d.spelled [.quoted name]) := by
  simp only [quoted, dialectFor_of_dialect hw, pure_bind, w.spelled_of_plainQuotes hd]

end Writer

/-! ## Pieces -/

namespace Piece

variable {w : Writer} {d : Dialect} {serial : Serial}

theorem tokens_identifier (hw : w.dialect = .dialect d serial) (hd : d.hasPlainQuotes)
    (name : Name) : (Piece.identifier name).tokens w = pure [.text (d.identifier name)] := by
  rw [tokens, Writer.identifier_of_plainQuotes hw hd, pure_bind]

theorem tokens_reference (hw : w.dialect = .dialect d serial) (hd : d.hasPlainQuotes)
    (name : Name) : (Piece.reference name).tokens w = pure [.text (d.reference name)] := by
  rw [tokens, Writer.reference_of_plainQuotes hw hd, pure_bind]

theorem tokens_ordering (hw : w.dialect = .dialect d serial) (hd : d.hasPlainQuotes)
    (name : Name) : (Piece.ordering name).tokens w = pure [.text (d.ordering name)] := by
  rw [tokens, Writer.ordering_of_plainQuotes hw hd, pure_bind]

theorem tokens_quoted (hw : w.dialect = .dialect d serial) (hd : d.hasPlainQuotes)
    (name : Name) : (Piece.quoted name).tokens w = pure [.text (d.spelled [.quoted name])] := by
  rw [tokens, Writer.quoted_of_plainQuotes hw hd, pure_bind]

end Piece

end SqlComposer
