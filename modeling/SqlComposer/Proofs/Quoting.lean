import SqlComposer.Proofs.Leaves
import SqlComposer.Proofs.Spelling
import SqlComposer.Proofs.Trees

/-!
# Quotes around names

Two dialects that differ in that one of them puts names between quotes and the other one does not
write a statement alike: quotes are added, and nothing else changes.
-/

namespace SqlComposer

open Identifier

/-! ## Texts without quotes -/

section Texts

/-- A text without the two quotes in it. -/
def withoutQuotes (opening closing : Char) (s : String) : String :=
  String.ofList (s.toList.filter fun c => c ≠ opening ∧ c ≠ closing)

/-- Neither quote is in a text. -/
structure HasNoQuotes (opening closing : Char) (s : String) : Prop where
  opening : opening ∉ s.toList
  closing : closing ∉ s.toList

variable {opening closing : Char}

theorem withoutQuotes_append (s t : String) :
    withoutQuotes opening closing (s ++ t) =
      withoutQuotes opening closing s ++ withoutQuotes opening closing t := by
  simp only [withoutQuotes, String.toList_append, List.filter_append, String.ofList_append]

theorem HasNoQuotes.withoutQuotes_eq {s : String} (h : HasNoQuotes opening closing s) :
    withoutQuotes opening closing s = s := by
  have hall : ∀ c ∈ s.toList, decide (c ≠ opening ∧ c ≠ closing) := by
    intro c hc
    refine decide_eq_true ⟨?_, ?_⟩
    · rintro rfl
      exact h.opening hc
    · rintro rfl
      exact h.closing hc
  rw [withoutQuotes, List.filter_eq_self.mpr hall, String.ofList_toList]

theorem hasNoQuotes_append {s t : String} :
    HasNoQuotes opening closing (s ++ t) ↔
      HasNoQuotes opening closing s ∧ HasNoQuotes opening closing t := by
  constructor
  · rintro ⟨ho, hc⟩
    rw [String.toList_append, List.mem_append, not_or] at ho hc
    exact ⟨⟨ho.1, hc.1⟩, ⟨ho.2, hc.2⟩⟩
  · rintro ⟨⟨ho, hc⟩, ⟨ho', hc'⟩⟩
    constructor <;> rw [String.toList_append, List.mem_append, not_or]
    · exact ⟨ho, ho'⟩
    · exact ⟨hc, hc'⟩

theorem Text.double_of_not_mem {c : Char} {s : String} (h : c ∉ s.toList) :
    Text.double (String.singleton c) s = s := by
  have hfrom : ∀ cs : List Char, c ∉ cs → Text.doubleFrom [c] 0 cs = cs := by
    intro cs hcs
    induction cs with
    | nil => rfl
    | cons x cs ih =>
        rw [List.mem_cons, not_or] at hcs
        simp [Text.doubleFrom, List.isPrefixOf, hcs.1, ih hcs.2]
  rw [Text.double]
  split
  · rfl
  · rw [String.toList_singleton, hfrom _ h, String.ofList_toList]

theorem HasNoQuotes.withoutQuotes_enclosed {s : String} (h : HasNoQuotes opening closing s) :
    withoutQuotes opening closing
      (Dialect.enclosed (String.singleton opening) (.plain (String.singleton closing)) s) = s := by
  have hopening : withoutQuotes opening closing (String.singleton opening) = "" := by
    simp [withoutQuotes]
  have hclosing : withoutQuotes opening closing (String.singleton closing) = "" := by
    simp [withoutQuotes]
  rw [Dialect.enclosed, Name.text, Name.display, Text.double_of_not_mem h.closing,
    withoutQuotes_append, withoutQuotes_append, hopening, hclosing, h.withoutQuotes_eq,
    String.empty_append, String.append_empty]

end Texts

/-! ## Names -/

namespace Identifier

/-- Whether a name that is read as a path with an alias has single blanks between them, AS in
capitals and nothing behind the alias. -/
def isEvenlySpaced (text : String) : Bool :=
  match aliased? text.toList with
  | some found => found.spelled = text
  | none => true

end Identifier

namespace Dialect

/-- The dialect that differs in having no quotes. -/
def unquoted (d : Dialect) : Dialect :=
  { d with opening := .null, closing := .null }

/-- A dialect puts names between two quotes that are characters. -/
structure QuotesWith (d : Dialect) (opening closing : Char) : Prop where
  opening : d.opening.name? = some (.plain (String.singleton opening))
  closing : d.closingQuote.name? = some (.plain (String.singleton closing))

namespace QuotesWith

variable {d : Dialect} {opening closing : Char}

theorem isQuoting (h : d.QuotesWith opening closing) : d.isQuoting := by
  have hopening := h.opening
  unfold Dialect.isQuoting
  split
  · rename_i hnull
    rw [hnull] at hopening
    cases hopening
  · rfl

theorem hasPlainQuotes (h : d.QuotesWith opening closing) : d.hasPlainQuotes := by
  rw [Dialect.hasPlainQuotes, h.opening, h.closing]
  exact Bool.or_true _

theorem quote (h : d.QuotesWith opening closing) (segment : Name) :
    d.quote segment =
      .plain (enclosed (String.singleton opening) (.plain (String.singleton closing))
        segment.text) := by
  rw [Dialect.quote, if_pos h.isQuoting, enclose, h.opening, h.closing]
  rfl

theorem withoutQuotes_spelled (h : d.QuotesWith opening closing) (parts : List NamePart)
    (hparts : HasNoQuotes opening closing (Identifier.unquoted parts)) :
    withoutQuotes opening closing (d.spelled parts) = Identifier.unquoted parts := by
  induction parts with
  | nil => rfl
  | cons part parts ih =>
      rw [unquoted_cons, hasNoQuotes_append] at hparts
      have hpart : withoutQuotes opening closing (d.partText part) = part.unquoted := by
        cases part with
        | copied text => exact hparts.1.withoutQuotes_eq
        | quoted name =>
            rw [partText, h.quote]
            exact hparts.1.withoutQuotes_enclosed
      rw [spelled, List.map_cons, String.join_cons, withoutQuotes_append, unquoted_cons, hpart]
      exact congrArg (part.unquoted ++ ·) (ih hparts.2)

end QuotesWith

theorem QuotesWith.withoutQuotes_eq {d : Dialect} {opening closing : Char}
    (h : d.QuotesWith opening closing) {parts : List NamePart} {text : String}
    (hparts : Identifier.unquoted parts = text) (htext : HasNoQuotes opening closing text) :
    withoutQuotes opening closing (d.spelled parts) = text := by
  subst hparts
  exact h.withoutQuotes_spelled parts htext

/-! ### Names without quotes -/

variable (d : Dialect)

theorem spelled_unquoted_ordering (text : String) :
    d.unquoted.spelled (d.unquoted.orderingParts (.plain text)) =
      match ordered? text.toList with
      | some found => found.spelled
      | none => text := by
  unfold orderingParts
  simp only [Name.text]
  cases ordered? text.toList with
  | some found =>
      simp [identifierParts, isQuoting, unquoted, spelled, partText, Ordered.spelled, Name.display]
  | none => exact d.unquoted.spelled_copied text

end Dialect

/-! ## Tokens -/

/-- A token with quotes and the same one without them. Their texts differ in the quotes only,
provided that `regular` holds. -/
inductive Token.Unquotes (opening closing : Char) (regular : Prop) : Token → Token → Prop
  | bound (v : Value) : Token.Unquotes opening closing regular (.bound v) (.bound v)
  | text {s t : String} :
      (regular → HasNoQuotes opening closing t → withoutQuotes opening closing s = t) →
        Token.Unquotes opening closing regular (.text s) (.text t)

namespace Piece

/-- Whether the names in a piece are plain texts, and evenly spaced where they are read with an
alias. -/
def isRegular : Piece → Bool
  | .identifier name | .quoted name => name.isPlain
  | .reference name => name.isPlain && isEvenlySpaced name.text
  | .ordering name =>
    name.isPlain && ((ordered? name.text.toList).isSome || isEvenlySpaced name.text)
  | _ => true

/-- Whether a piece is no column other than a name. -/
def isNamed : Piece → Bool
  | .unnamed _ _ => false
  | _ => true

section Names

variable {d : Dialect} {text : String}

theorem unquoted_reference (h : isEvenlySpaced text) :
    Identifier.unquoted (d.referenceParts (.plain text)) = text := by
  rw [d.unquoted_referenceParts]
  split
  · rename_i found hfound
    have haliased : aliased? text.toList = some found := by
      by_cases hquoting : d.isQuoting
      · rwa [if_pos hquoting] at hfound
      · rw [if_neg hquoting] at hfound
        cases hfound
    unfold isEvenlySpaced at h
    rw [haliased] at h
    exact of_decide_eq_true h
  · rfl

theorem unquoted_ordering
    (h : (ordered? text.toList).isSome || isEvenlySpaced text) :
    Identifier.unquoted (d.orderingParts (.plain text)) =
      d.unquoted.spelled (d.unquoted.orderingParts (.plain text)) := by
  rw [d.unquoted_orderingParts, d.spelled_unquoted_ordering]
  cases hordered : ordered? text.toList with
  | some found => rfl
  | none =>
      rw [hordered] at h
      exact unquoted_reference h

end Names

section Writers

open Writing

variable {d : Dialect} {opening closing : Char} {regular : Prop} {serial : Serial}
  {display shown : Value → Writing String}

/-- Each leaf is written with quotes as it is without them, but for the quotes. -/
theorem pairedBy_unquoted (h : d.QuotesWith opening closing) {leaf : Piece}
    (hnamed : leaf.isNamed) (hregular : regular → leaf.isRegular) :
    leaf.PairedBy (fun _ => Token.Unquotes opening closing regular)
      ⟨.dialect d serial, display, shown⟩ ⟨.dialect d.unquoted serial, display, shown⟩ := by
  let w (d : Dialect) : Writer := ⟨.dialect d serial, display, shown⟩
  let Unquotes : List Token → List Token → Prop :=
    OneEach (Token.Unquotes opening closing regular)
  have htext (text : String) : Unquotes [.text text] [.text text] :=
    .intro (.text fun _ htext => htext.withoutQuotes_eq)
  have hspelled {parts parts' : List NamePart}
      (hparts : regular → Identifier.unquoted parts = d.unquoted.spelled parts') :
      Unquotes [.text (d.spelled parts)] [.text (d.unquoted.spelled parts')] :=
    .intro (.text fun hr htext => h.withoutQuotes_eq (hparts hr) htext)
  have hname {parts : Dialect → List NamePart}
      (hparts : regular → Identifier.unquoted (parts d) =
        d.unquoted.spelled (parts d.unquoted)) :
      Alike Unquotes (do return [.text (← (w d).name parts)])
        (do return [.text (← (w d.unquoted).name parts)]) := by
    rw [Writer.name_of_plainQuotes rfl h.hasPlainQuotes, Writer.name_of_plainQuotes rfl rfl]
    exact .pure (hspelled hparts)
  have htoken (v : Value) :
      Alike Unquotes (do return [← (w d).token v]) (do return [← (w d.unquoted).token v]) := by
    show Alike Unquotes (((if d.style?.isSome then pure _ else throw _) >>= _) >>= _)
      (((if d.style?.isSome then pure _ else throw _) >>= _) >>= _)
    split
    · exact .pure (.intro (.bound v))
    · exact .throw _
  -- Nothing is said about the texts of names that are not plain, for they are not regular.
  cases leaf with
  | word text | copied text => exact fun _ => .pure (htext text)
  | identifier name =>
      refine fun _ => hname fun hr => ?_
      cases name with
      | plain text =>
          exact (d.unquoted_identifierParts text).trans (d.unquoted.spelled_copied text).symm
      | keyword word => cases hregular hr
  | reference name =>
      refine fun _ => hname fun hr => ?_
      cases name with
      | plain text =>
          exact (unquoted_reference (hregular hr)).trans (d.unquoted.spelled_copied text).symm
      | keyword word => cases hregular hr
  | ordering name =>
      refine fun _ => hname fun hr => ?_
      cases name with
      | plain text => exact unquoted_ordering (hregular hr)
      | keyword word => cases hregular hr
  | quoted name =>
      intro _
      rw [Piece.tokens_quoted rfl h.hasPlainQuotes, Piece.tokens_quoted rfl rfl]
      refine .pure (hspelled fun hr => ?_)
      cases name with
      | plain text => rfl
      | keyword word => cases hregular hr
  | value v => exact fun _ => htoken v
  | count n =>
      intro _
      show Alike Unquotes (if d.countsAreBound then _ else _) (if d.countsAreBound then _ else _)
      split
      · exact htoken _
      · exact .pure (htext _)
  | display v => exact fun _ => .bind_same fun text => .pure (htext text)
  | refused cause => exact fun _ => refuse_alike fun _ _ => rfl
  | unnamed column behind => cases hnamed
  | subselect | streamed | lateIdentifier => exact nofun

end Writers

end Piece

section Texts

variable {d : Dialect} {opening closing : Char} {regular : Prop} {leaves : List Piece}
  {ts ts' : List Token}

theorem Paired.values_unquoted
    (h : Paired (fun _ => Token.Unquotes opening closing regular) leaves ts ts') :
    Token.values ts = Token.values ts' := by
  induction h with
  | nil => rfl
  | cons ht _ ih =>
      cases ht with
      | bound v => exact congrArg (v :: ·) ih
      | text _ => exact ih

theorem Paired.text_unquoted (hregular : regular)
    (h : Paired (fun _ => Token.Unquotes opening closing regular) leaves ts ts') (count : Nat)
    (htext : HasNoQuotes opening closing (Token.textFrom d.unquoted count ts')) :
    withoutQuotes opening closing (Token.textFrom d count ts) =
      Token.textFrom d.unquoted count ts' := by
  induction h generalizing count with
  | nil => rfl
  | cons ht _ ih =>
      cases ht with
      | bound v =>
          rw [Token.textFrom, hasNoQuotes_append] at htext
          rw [Token.textFrom, withoutQuotes_append, ih _ htext.2]
          exact congrArg (· ++ _) htext.1.withoutQuotes_eq
      | text hs =>
          rw [Token.textFrom, hasNoQuotes_append] at htext
          rw [Token.textFrom, withoutQuotes_append, ih _ htext.2, hs hregular htext.1]
          rfl

end Texts

/-! ## Columns that are no names -/

mutual

theorem Piece.mem_displayed_of_unnamed {column : Value} {behind : List Piece} :
    (piece : Piece) → .unnamed column behind ∈ piece.leaves → column ∈ piece.displayed
  | .unnamed other inner, h => by
      obtain hfirst | hinner := List.mem_cons.mp h
      · cases hfirst
        exact List.mem_cons_self ..
      · exact List.mem_cons_of_mem _ (mem_displayedIn_of_unnamed inner hinner)
  | .lateIdentifier name inner, h => by
      obtain hfirst | hinner := List.mem_cons.mp h
      · cases hfirst
      · exact mem_displayedIn_of_unnamed inner hinner
  | .streamed _ items, h => mem_displayedInItems_of_unnamed items h
  | .word _, h | .copied _, h | .identifier _, h | .reference _, h | .ordering _, h | .quoted _, h
  | .value _, h | .count _, h | .display _, h | .refused _, h => nomatch List.mem_singleton.mp h

theorem mem_displayedIn_of_unnamed {column : Value} {behind : List Piece} :
    (pieces : List Piece) → .unnamed column behind ∈ leavesIn pieces → column ∈ displayedIn pieces
  | piece :: pieces, h => by
      obtain hfirst | hrest := List.mem_append.mp h
      · exact List.mem_append_left _ (piece.mem_displayed_of_unnamed hfirst)
      · exact List.mem_append_right _ (mem_displayedIn_of_unnamed pieces hrest)

theorem mem_displayedInItems_of_unnamed {column : Value} {behind : List Piece} :
    (items : List (List Piece)) → .unnamed column behind ∈ leavesInItems items →
      column ∈ displayedInItems items
  | item :: items, h => by
      obtain hfirst | hrest := List.mem_append.mp h
      · exact List.mem_append_left _ (mem_displayedIn_of_unnamed item hfirst)
      · exact List.mem_append_right _ (mem_displayedInItems_of_unnamed items hrest)

end

/-! ## Statements -/

namespace Store

/-- The leaves of a statement, with those of all subselects in their places. -/
def leaves (st : Store) (r : StatementRef) : List Piece :=
  leavesIn (st.pieces (st.layout r))

/-- In a statement that is made by calls with made conditions, all columns are names. -/
theorem isNamed_of_isSound {st : Store} (hsound : st.isSound) (r : StatementRef) :
    ∀ leaf ∈ st.leaves r, leaf.isNamed := by
  intro leaf hleaf
  cases leaf with
  | unnamed column behind =>
      have hdisplayed := mem_displayedIn_of_unnamed _ hleaf
      rw [displayedIn_pieces hsound r] at hdisplayed
      cases hdisplayed
  | _ => rfl

/-- A statement whose columns are names, as in every sound one (`isNamed_of_isSound`), is refused
for the same reason with and without quotes, or binds the same values. If no quotes are in the text
without them, all names are plain and aliases are evenly spaced, deleting the quotes gives that
text. -/
theorem render_unquoted {st : Store} {inUse : Value} {d : Dialect} {opening closing : Char}
    {serial : Serial} {r : StatementRef} {before : Progress}
    (hquotes : d.QuotesWith opening closing) (hnamed : ∀ leaf ∈ st.leaves r, leaf.isNamed) :
    (∃ text text' values after,
      (st.render inUse (.dialect d serial) r).run before =
          .ok ⟨text, values, .dialect d serial⟩ after ∧
        (st.render inUse (.dialect d.unquoted serial) r).run before =
          .ok ⟨text', values, .dialect d.unquoted serial⟩ after ∧
        (opening ∉ text'.toList → closing ∉ text'.toList → (∀ leaf ∈ st.leaves r, leaf.isRegular) →
          withoutQuotes opening closing text = text')) ∨
      ∃ fault after,
        (st.render inUse (.dialect d serial) r).run before = .error fault after ∧
          (st.render inUse (.dialect d.unquoted serial) r).run before = .error fault after := by
  have hpairedBy (leaf : Piece) (hleaf : leaf ∈ st.leaves r) :
      leaf.PairedBy (fun _ => Token.Unquotes opening closing (∀ leaf ∈ st.leaves r, leaf.isRegular))
        (st.writer (st.text inUse) {} (.dialect d serial))
        (st.writer (st.text inUse) {} (.dialect d.unquoted serial)) :=
    Piece.pairedBy_unquoted hquotes (hnamed leaf hleaf) fun hregular => hregular leaf hleaf
  rcases tokens_paired (.text fun _ htext => htext.withoutQuotes_eq) (st.pieces (st.layout r))
    hpairedBy before with
    ⟨ts, ts', after, hquoted, hbare, leaves, -, hpaired⟩ | ⟨fault, after, hquoted, hbare⟩
  · have hquoted := render_ok hquoted
    simp only [Rendered.ofTokens, Progress.addRendered, renderMessage, hpaired.values_unquoted]
      at hquoted
    refine .inl ⟨_, _, _, _, hquoted, render_ok hbare, ?_⟩
    intro hopening hclosing hregular
    exact hpaired.text_unquoted hregular 0 ⟨hopening, hclosing⟩
  · exact .inr ⟨fault, after, render_error hquoted, render_error hbare⟩

/-- A SELECT with paths, aliases and a direction. -/
def aliasedSelect : Store where
  selects :=
    [{ columns := [.named (.plain "u.id"), .named (.plain "u.name AS n")]
       source := some (.table (.plain "users u"))
       rows := some (.comparison (.ofText "=") (.ofText "u.age") (.int 3 0) 0)
       order := [.named (.plain "u.id desc nulls last")] }]

theorem render_unquoted_aliased :
    let d := { Dialect.standard with opening := .ofText "\"", closing := .ofText "\"" }
    let r := StatementRef.select ⟨0⟩
    d.QuotesWith '"' '"' ∧ (∀ leaf ∈ aliasedSelect.leaves r, leaf.isNamed) ∧
      ∃ text text' values after,
        (aliasedSelect.render .null (.dialect d 0) r).run {} =
            .ok ⟨text, values, .dialect d 0⟩ after ∧
          (aliasedSelect.render .null (.dialect d.unquoted 0) r).run {} =
            .ok ⟨text', values, .dialect d.unquoted 0⟩ after ∧
          withoutQuotes '"' '"' text = text' := by
  intro d r
  have hquotes : d.QuotesWith '"' '"' := ⟨rfl, rfl⟩
  have hnamed : ∀ leaf ∈ aliasedSelect.leaves r, leaf.isNamed := isNamed_of_isSound rfl r
  have hregular : ∀ leaf ∈ aliasedSelect.leaves r, leaf.isRegular := by decide +kernel
  have hgives : (aliasedSelect.render .null (.dialect d.unquoted 0) r).gives {}
      fun rendered => '"' ∉ rendered.text.toList := by
    decide +kernel
  obtain ⟨rendered, _, hok, hfree⟩ := Writing.ok_of_gives hgives
  have hno : '"' ∉ rendered.text.toList := of_decide_eq_true hfree
  refine ⟨hquotes, hnamed, ?_⟩
  rcases render_unquoted hquotes hnamed with
    ⟨text, text', values, after, hquoted, hbare, htext⟩ | ⟨fault, after, -, hbare⟩
  · cases hok.symm.trans hbare
    exact ⟨text, _, values, _, hquoted, hbare, htext hno hno hregular⟩
  · cases hok.symm.trans hbare

end Store

end SqlComposer
