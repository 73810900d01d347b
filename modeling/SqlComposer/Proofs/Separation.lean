import SqlComposer.Proofs.Marks
import SqlComposer.Proofs.Placeholders
import SqlComposer.Proofs.Placement

/-!
# What stands between placeholders

Between the placeholders of a statement stand words of the language and texts of the caller. If the
latter have no mark and no fragment begins with a digit, then nothing that is written has a mark
outside of a placeholder or goes on with the digits of one.
-/

namespace SqlComposer

/-! ## Texts of the caller -/

/-- A text in a statement that comes from the caller. -/
inductive Supplied where
  | name (name : Name)
  /-- What two sides are compared with. -/
  | operator (text : String)
  /-- What a raw fragment says up to its first marker, between two markers, or behind the last. -/
  | fragment (text : String)
  /-- The text that something else comes to in the place of a column or an operator. -/
  | shown (v : Value)

mutual

/-- The texts of the caller in a piece. Text that is copied behind the blank after a column is an
operator, and any other is a part of a fragment. -/
def Piece.supplied (before : Front) : Piece → List Supplied
  | .copied text => if before = .blank then [.operator text] else [.fragment text]
  | .identifier name | .reference name | .ordering name | .quoted name => [.name name]
  | .display v => [.shown v]
  | .streamed _ items => suppliedInItems items
  | .unnamed column behind => .shown column :: suppliedIn .any behind
  | .lateIdentifier name behind => .name name :: suppliedIn .any behind
  | _ => []

def suppliedIn (before : Front) : List Piece → List Supplied
  | [] => []
  | piece :: pieces => piece.supplied before ++ suppliedIn (piece.front before) pieces

def suppliedInItems : List (List Piece) → List Supplied
  | [] => []
  | item :: items => suppliedIn .any item ++ suppliedInItems items

end

namespace Supplied

def isFragment : Supplied → Bool
  | fragment _ => true
  | _ => false

/-- Whether a text of the caller, as the writer shows it, is without a mark. -/
def Lacks (w : Writer) (mark : Char) : Supplied → Prop
  | name n => SqlComposer.Lacks mark n.text
  | operator text | fragment text => SqlComposer.Lacks mark text
  | shown v => ∀ before text after, (w.display v).run before = .ok text after →
      SqlComposer.Lacks mark text

/-- Whether a text of the caller is a fragment that begins with a digit. -/
def BeginsWithDigit (digits : Char → Bool) : Supplied → Prop
  | fragment text => text.toList.head?.any digits
  | _ => False

end Supplied

/-! ## Tokens behind one another -/

namespace Token

/-- Whether tokens end with a placeholder, if they begin behind one or not. -/
def endGlued : Bool → List Token → Bool
  | glued, [] => glued
  | glued, .text s :: tokens => endGlued (glued && s.isEmpty) tokens
  | _, .bound _ :: tokens => endGlued true tokens

/-- Whether no text has the mark, and none that goes on behind a placeholder begins with a digit. -/
def Separate (mark : Char) (digits : Char → Bool) : Bool → List Token → Prop
  | _, [] => True
  | glued, .text s :: tokens =>
    (Lacks mark s ∧ (glued → ¬ s.toList.head?.any digits)) ∧
      Separate mark digits (glued && s.isEmpty) tokens
  | _, .bound _ :: tokens => Separate mark digits true tokens

variable {mark : Char} {digits : Char → Bool}

theorem endGlued_append {glued : Bool} {front back : List Token} :
    endGlued glued (front ++ back) = endGlued (endGlued glued front) back := by
  induction front generalizing glued with
  | nil => rfl
  | cons token front ih => cases token <;> exact ih

theorem separate_append {glued : Bool} {front back : List Token} :
    Separate mark digits glued (front ++ back) ↔
      Separate mark digits glued front ∧ Separate mark digits (endGlued glued front) back := by
  induction front generalizing glued with
  | nil => exact ⟨fun h => ⟨trivial, h⟩, fun h => h.2⟩
  | cons token front ih =>
      cases token with
      | text s => exact (and_congr_right fun _ => ih).trans and_assoc.symm
      | bound v => exact ih

theorem Separate.anywhere : {glued other : Bool} → {tokens : List Token} → (other → glued) →
    Separate mark digits glued tokens → Separate mark digits other tokens
  | _, _, [], _, _ => trivial
  | glued, other, .text s :: tokens, h, ⟨⟨hmark, hdigit⟩, hrest⟩ => by
      refine ⟨⟨hmark, fun ho => hdigit (h ho)⟩, hrest.anywhere ?_⟩
      simp only [Bool.and_eq_true]
      exact And.imp_left h
  | _, _, .bound _ :: _, _, hrest => hrest

theorem separate_commaSeparated (hmark : mark ∈ marks)
    (hwords : ∀ c ∈ wordCharacters, digits c = false) : {items : List (List Token)} →
    (∀ item ∈ items, Separate mark digits true item) →
      Separate mark digits false (commaSeparated items)
  | [], _ => trivial
  | [item], h => by
      have hitem : Separate mark digits false item :=
        (h item (List.mem_singleton.mpr rfl)).anywhere nofun
      simpa [commaSeparated] using hitem
  | item :: next :: items, h => by
      have hrest := separate_commaSeparated hmark hwords fun item hitem =>
        h item (List.mem_cons_of_mem _ hitem)
      have hcomma : Lacks mark ", " := lacks_of_marks hmark (by decide)
      have hdigit : digits ',' = false := hwords ',' (by decide)
      have hitem : Separate mark digits false item :=
        (h item (List.mem_cons_self ..)).anywhere nofun
      rw [commaSeparated, List.intercalate_cons_cons, separate_append, separate_append]
      refine ⟨⟨hitem, ⟨hcomma, fun _ => by simp [hdigit]⟩, trivial⟩, hrest.anywhere ?_⟩
      simp [endGlued_append, endGlued]

end Token

/-! ## Pieces that are written -/

def Front.isGlued : Front → Bool
  | .any => true
  | _ => false

theorem Front.not_isGlued {front : Front} (h : front.isWord) : front.isGlued = false := by
  cases front with
  | any | column => cases h
  | _ => rfl

section Pieces

variable {w : Writer} {d : Dialect} {serial : Serial} {mark : Char} {digits : Char → Bool}

/-- Whether a text of the caller leaves the placeholders alone. -/
def Supplied.IsHarmless (w : Writer) (mark : Char) (digits : Char → Bool) (s : Supplied) : Prop :=
  s.Lacks w mark ∧ ¬ s.BeginsWithDigit digits

/-- Whether a text of the caller is seen to be harmless, without showing anything. -/
def Supplied.isSeenHarmless (mark : Char) (digits : Char → Bool) : Supplied → Bool
  | .name n => mark ∉ n.text.toList
  | .operator text => mark ∉ text.toList
  | .fragment text => mark ∉ text.toList && !text.toList.head?.any digits
  | .shown _ => false

theorem Supplied.isHarmless_of_seen (w : Writer) {s : Supplied}
    (h : s.isSeenHarmless mark digits) : s.IsHarmless w mark digits := by
  cases s with
  | name n =>
      have hlacks : SqlComposer.Lacks mark n.text := of_decide_eq_true h
      exact ⟨hlacks, id⟩
  | operator text =>
      have hlacks : SqlComposer.Lacks mark text := of_decide_eq_true h
      exact ⟨hlacks, id⟩
  | fragment text =>
      rw [isSeenHarmless, Bool.and_eq_true, Bool.not_eq_true'] at h
      have hlacks : SqlComposer.Lacks mark text := of_decide_eq_true h.1
      exact ⟨hlacks, Bool.eq_false_iff.mp h.2⟩
  | shown v => cases h

/-- The tokens of a piece that is written where the given front is. -/
def Separates (mark : Char) (digits : Char → Bool) (before after : Front) (written : List Token) :
    Prop :=
  Token.Separate mark digits before.isGlued written ∧
    (Token.endGlued before.isGlued written → after.isGlued)

theorem separates_name {before after : Front} {text : String} (hbefore : before.isWord)
    (h : Lacks mark text) : Separates mark digits before after [.text text] := by
  have hglued := Front.not_isGlued hbefore
  rw [Separates, hglued]
  exact ⟨⟨⟨h, nofun⟩, trivial⟩, nofun⟩

theorem separates_word {before after : Front} {text : String} (hmark : mark ∈ marks)
    (hwords : ∀ c ∈ wordCharacters, digits c = false) (h : isWordOfLanguage text) :
    Separates mark digits before after [.text text] := by
  obtain ⟨hnonempty, hall⟩ := Bool.and_eq_true_iff.mp h
  have hcharacters (c : Char) (hc : c ∈ text.toList) : c ∈ wordCharacters :=
    of_decide_eq_true (List.all_eq_true.mp hall c hc)
  have hlacks : Lacks mark text := by
    intro hmem
    have hword : ∀ mark ∈ marks, mark ∉ wordCharacters := forall_of_all (by decide)
    exact hword mark hmark (hcharacters mark hmem)
  have hdigit : ¬ text.toList.head?.any digits := by
    cases hhead : text.toList.head? with
    | none => simp
    | some c => simp [hwords c (hcharacters c (List.mem_of_mem_head? hhead))]
  refine ⟨⟨⟨hlacks, fun _ => hdigit⟩, trivial⟩, ?_⟩
  have hempty : text.isEmpty = false := by simpa using hnonempty
  simp [Token.endGlued, hempty]

/-- A quote as a text of the caller: a name, or what something else comes to. -/
def Supplied.ofQuote (quote : Value) : Supplied :=
  match quote.name? with
  | some text => .name text
  | none => .shown quote

/-- The quotes of a dialect, if it has any. -/
def Dialect.quotes (d : Dialect) : List Supplied :=
  if d.isQuoting then [.ofQuote d.opening, .ofQuote d.closingQuote] else []

/-- A writer whose dialect has quotes without the mark, and digits that are in no word of the
language. -/
structure Writer.Scans (w : Writer) (mark : Char) (digits : Char → Bool) : Prop where
  dialect : ∃ d serial, w.dialect = .dialect d serial ∧ ∀ quote ∈ d.quotes, quote.Lacks w mark
  mark : mark ∈ marks
  words : ∀ c ∈ wordCharacters, digits c = false

section Names

variable {started ended : Progress} (hmark : mark ∈ marks)
  (hquotes : ∀ quote ∈ d.quotes, quote.Lacks w mark)
include hquotes

theorem Dialect.lacks_quoteNames : ∀ quote ∈ d.quoteNames, Lacks mark quote.text := by
  intro name hname
  rw [Dialect.quoteNames] at hname
  split at hname
  · next hquoting =>
      rw [Dialect.quotes, if_pos hquoting] at hquotes
      obtain ⟨quote, hquote, hsome⟩ := List.mem_filterMap.mp hname
      have hlacks : (Supplied.ofQuote quote).Lacks w mark :=
        hquotes _ (List.mem_map_of_mem (f := Supplied.ofQuote) hquote)
      rwa [Supplied.ofQuote, hsome] at hlacks
  · cases hname

include hmark

theorem Writer.lacks_part (hplain : ¬ d.hasPlainQuotes) {part : Identifier.NamePart}
    {text : String} (h : Lacks mark part.unquoted)
    (hrun : (w.part d part).run started = .ok text ended) : Lacks mark text := by
  cases part with
  | copied copied =>
      cases hrun
      exact h
  | quoted name =>
      rw [Writer.part] at hrun
      split at hrun
      · next hquoting =>
          have hnames := d.lacks_quoteNames hquotes
          rw [Dialect.quotes, if_pos hquoting] at hquotes
          obtain ⟨opening, middle, hopening, hrun⟩ := Writing.bind_ok hrun
          split at hrun
          · next closing hclosing =>
              have hnone : d.opening.name? = none := by
                simpa [Dialect.hasPlainQuotes, hquoting, hclosing] using hplain
              have hopeningLacks : (Supplied.ofQuote d.opening).Lacks w mark :=
                hquotes _ (List.mem_cons_self ..)
              rw [Supplied.ofQuote, hnone] at hopeningLacks
              cases hrun
              have hclosingLacks : Lacks mark closing.text :=
                hnames closing (by simp [Dialect.quoteNames, hquoting, hclosing])
              simp only [Dialect.enclosed, lacks_append]
              exact ⟨⟨hopeningLacks _ _ _ hopening, Text.lacks_double hclosingLacks h⟩,
                Name.lacks_display hmark hclosingLacks⟩
          · cases hrun
      · cases hrun
        exact Name.lacks_display hmark h

theorem Writer.lacks_parts (hplain : ¬ d.hasPlainQuotes) {parts : List Identifier.NamePart}
    {texts : List String} (h : Lacks mark (Identifier.unquoted parts))
    (hrun : (parts.mapM (w.part d)).run started = .ok texts ended) :
    Lacks mark (String.join texts) := by
  induction parts generalizing started texts with
  | nil =>
      cases hrun
      exact h
  | cons part parts ih =>
      rw [Identifier.unquoted_cons, lacks_append] at h
      rw [List.mapM_cons] at hrun
      obtain ⟨text, middle, htext, hrun⟩ := Writing.bind_ok hrun
      obtain ⟨rest, last, hrest, hrun⟩ := Writing.bind_ok hrun
      cases hrun
      rw [String.join_cons, lacks_append]
      exact ⟨w.lacks_part hmark hquotes hplain h.1 htext, ih h.2 hrest⟩

theorem Writer.lacks_spelled {parts : List Identifier.NamePart} {text : String}
    (h : Lacks mark (Identifier.unquoted parts))
    (hrun : (w.spelled d parts).run started = .ok text ended) : Lacks mark text := by
  rw [Writer.spelled] at hrun
  split at hrun
  · cases hrun
    exact d.lacks_spelled hmark (d.lacks_quoteNames hquotes) h
  · next hplain =>
      obtain ⟨texts, middle, htexts, hrun⟩ := Writing.bind_ok hrun
      cases hrun
      exact w.lacks_parts hmark hquotes hplain h htexts

end Names

theorem Writer.Scans.name (h : w.Scans mark digits) {before after : Front}
    {started ended : Progress} {text : String} {parts : Dialect → List Identifier.NamePart}
    (hbefore : before.isWord) (hparts : ∀ d, Lacks mark (Identifier.unquoted (parts d)))
    (hrun : (w.name parts).run started = .ok text ended) :
    Separates mark digits before after [.text text] := by
  obtain ⟨d, serial, hw, hquotes⟩ := h.dialect
  rw [Writer.name, Writer.dialectFor_of_dialect hw, pure_bind] at hrun
  exact separates_name hbefore (w.lacks_spelled h.mark hquotes (hparts d) hrun)

theorem separates_token {before after : Front}
    {started ended : Progress} {v : Value} {token : Token}
    (hrun : (w.token v).run started = .ok token ended) (hafter : after.isGlued) :
    Separates mark digits before after [token] := by
  obtain ⟨d, middle, -, hrun⟩ := Writing.bind_ok hrun
  cases hrun
  exact ⟨trivial, fun _ => hafter⟩

theorem lacks_number (hmark : mark ∈ marks) (n : Nat) : Lacks mark (toString n) := by
  intro hmem
  have hdigit : ∀ mark ∈ marks, ¬ mark.isDigit := forall_of_all (by decide)
  exact hdigit mark hmark (isDigit_of_mem_number hmem)

mutual

/-- What is written for a placed piece neither has the mark nor goes on with the digits of a
placeholder. -/
theorem Piece.separates_tokens (h : w.Scans mark digits) :
    (piece : Piece) → {before : Front} → {started ended : Progress} → {written : List Token} →
      piece.isPlaced before → (∀ s ∈ piece.supplied before, s.IsHarmless w mark digits) →
        (piece.tokens w).run started = .ok written ended →
          Separates mark digits before (piece.front before) written
  | .word text, _, _, _, _, hplaced, _, hrun => by
      cases hrun
      exact separates_word h.mark h.words hplaced
  | .copied text, before, _, _, _, _, hsupplied, hrun => by
      cases hrun
      by_cases hblank : before = .blank
      · subst hblank
        exact separates_name rfl (hsupplied _ (List.mem_singleton.mpr rfl)).1
      · have hfragment : Supplied.fragment text ∈ (Piece.copied text).supplied before := by
          rw [Piece.supplied, if_neg hblank]
          exact List.mem_singleton.mpr rfl
        obtain ⟨hlacks, hdigit⟩ := hsupplied _ hfragment
        exact ⟨⟨⟨hlacks, fun _ => hdigit⟩, trivial⟩, fun _ => rfl⟩
  | .identifier name, _, _, _, _, hplaced, hsupplied, hrun => by
      obtain ⟨text, middle, htext, hrun⟩ := Writing.bind_ok hrun
      cases hrun
      have hname := (hsupplied _ (List.mem_singleton.mpr rfl)).1
      exact h.name hplaced (fun d => d.lacks_identifierParts h.mark hname) htext
  | .reference name, _, _, _, _, hplaced, hsupplied, hrun => by
      obtain ⟨text, middle, htext, hrun⟩ := Writing.bind_ok hrun
      cases hrun
      have hname := (hsupplied _ (List.mem_singleton.mpr rfl)).1
      exact h.name hplaced (fun d => d.lacks_referenceParts h.mark hname) htext
  | .ordering name, _, _, _, _, hplaced, hsupplied, hrun => by
      obtain ⟨text, middle, htext, hrun⟩ := Writing.bind_ok hrun
      cases hrun
      have hname := (hsupplied _ (List.mem_singleton.mpr rfl)).1
      exact h.name hplaced (fun d => d.lacks_orderingParts h.mark hname) htext
  | .quoted name, _, _, _, _, hplaced, hsupplied, hrun => by
      obtain ⟨d, serial, hw, hquotes⟩ := h.dialect
      obtain ⟨text, middle, htext, hrun⟩ := Writing.bind_ok hrun
      cases hrun
      rw [Writer.quoted, Writer.dialectFor_of_dialect hw, pure_bind] at htext
      have hname : Lacks mark name.text := (hsupplied _ (List.mem_singleton.mpr rfl)).1
      have hparts : Lacks mark (Identifier.unquoted [.quoted name]) := by
        simpa [Identifier.NamePart.unquoted] using hname
      exact separates_name hplaced (w.lacks_spelled h.mark hquotes hparts htext)
  | .value v, _, _, _, _, _, _, hrun => by
      obtain ⟨token, middle, htoken, hrun⟩ := Writing.bind_ok hrun
      cases hrun
      exact separates_token htoken rfl
  | .count n, _, _, _, _, hplaced, _, hrun => by
      obtain ⟨d, middle, hd, hrun⟩ := Writing.bind_ok hrun
      split at hrun
      · obtain ⟨token, last, htoken, hrun⟩ := Writing.bind_ok hrun
        cases hrun
        exact separates_token htoken rfl
      · cases hrun
        exact separates_name hplaced (lacks_number h.mark n)
  | .display v, _, _, _, _, hplaced, hsupplied, hrun => by
      obtain ⟨text, middle, htext, hrun⟩ := Writing.bind_ok hrun
      cases hrun
      exact separates_name hplaced ((hsupplied _ (List.mem_singleton.mpr rfl)).1 _ _ _ htext)
  | .subselect id, _, _, _, _, _, _, hrun => by
      cases hrun
      exact ⟨trivial, fun _ => rfl⟩
  | .streamed number items, before, _, _, _, hplaced, hsupplied, hrun => by
      rw [Piece.isPlaced, Bool.and_eq_true] at hplaced
      obtain ⟨parts, middle, hparts, hrun⟩ := Writing.bind_ok hrun
      cases hrun
      have hitems := separate_itemTokens h number 0 items hplaced.2 hsupplied hparts
      rw [Separates, Front.not_isGlued hplaced.1]
      exact ⟨Token.separate_commaSeparated h.mark h.words hitems, fun _ => rfl⟩
  | .unnamed column behind, before, _, _, _, hplaced, hsupplied, hrun => by
      rw [Piece.isPlaced, Bool.and_eq_true] at hplaced
      obtain ⟨d, middle, -, hrun⟩ := Writing.bind_ok hrun
      split at hrun
      · -- With quotes, a column that is no text is not written at all.
        obtain ⟨_, _, hthrow, -⟩ := Writing.bind_ok hrun
        cases hthrow
      · obtain ⟨rest, last, hrest, hrun⟩ := Writing.bind_ok hrun
        obtain ⟨text, latest, htext, hrun⟩ := Writing.bind_ok hrun
        cases hrun
        have hcolumn := (hsupplied _ (List.mem_cons_self ..)).1 _ _ _ htext
        have hbehind := separate_tokens h behind hplaced.2
          (fun s hs => hsupplied s (List.mem_cons_of_mem _ hs)) hrest
        rw [Separates, Front.not_isGlued hplaced.1]
        refine ⟨⟨⟨hcolumn, nofun⟩, hbehind.anywhere fun _ => rfl⟩, ?_⟩
        cases behind with
        | nil =>
            cases hrest
            exact nofun
        | cons piece pieces => exact fun _ => rfl
  | .lateIdentifier name behind, before, _, _, _, hplaced, hsupplied, hrun => by
      rw [Piece.isPlaced, Bool.and_eq_true] at hplaced
      obtain ⟨rest, middle, hrest, hrun⟩ := Writing.bind_ok hrun
      obtain ⟨text, last, htext, hrun⟩ := Writing.bind_ok hrun
      cases hrun
      have hname := (hsupplied _ (List.mem_cons_self ..)).1
      -- The name is written last, but its token stands in front.
      have hfront : Separates mark digits before .any [.text text] :=
        h.name hplaced.1 (fun d => d.lacks_identifierParts h.mark hname) htext
      have hbehind := separate_tokens h behind hplaced.2
        (fun s hs => hsupplied s (List.mem_cons_of_mem _ hs)) hrest
      refine ⟨?_, fun _ => rfl⟩
      rw [← List.singleton_append]
      exact Token.separate_append.mpr ⟨hfront.1, hbehind.anywhere fun _ => rfl⟩
  | .refused cause, _, started, _, _, _, _, hrun => by
      obtain ⟨fault, last, hfault⟩ := Writing.refuse_run w.shown cause started
      cases hrun.symm.trans hfault

theorem separate_tokens (h : w.Scans mark digits) :
    (pieces : List Piece) → {before : Front} → {started ended : Progress} →
      {written : List Token} → arePlaced before pieces →
      (∀ s ∈ suppliedIn before pieces, s.IsHarmless w mark digits) →
        (tokens w pieces).run started = .ok written ended →
          Token.Separate mark digits before.isGlued written
  | [], _, _, _, _, _, _, hrun => by
      cases hrun
      trivial
  | piece :: pieces, before, _, _, _, hplaced, hsupplied, hrun => by
      rw [arePlaced, Bool.and_eq_true] at hplaced
      obtain ⟨first, middle, hfirst, hrun⟩ := Writing.bind_ok hrun
      obtain ⟨rest, last, hrest, hrun⟩ := Writing.bind_ok hrun
      cases hrun
      simp only [suppliedIn, List.mem_append] at hsupplied
      have hpiece := piece.separates_tokens h hplaced.1 (fun s hs => hsupplied s (.inl hs)) hfirst
      have hpieces := separate_tokens h pieces hplaced.2 (fun s hs => hsupplied s (.inr hs)) hrest
      exact Token.separate_append.mpr ⟨hpiece.1, hpieces.anywhere hpiece.2⟩

theorem separate_itemTokens (h : w.Scans mark digits) (number position : Nat) :
    (items : List (List Piece)) → {started ended : Progress} → {written : List (List Token)} →
      arePlacedItems items → (∀ s ∈ suppliedInItems items, s.IsHarmless w mark digits) →
        (itemTokens w number position items).run started = .ok written ended →
          ∀ item ∈ written, Token.Separate mark digits true item
  | [], _, _, _, _, _, hrun => by
      cases hrun
      exact nofun
  | item :: items, _, _, _, hplaced, hsupplied, hrun => by
      rw [arePlacedItems, Bool.and_eq_true] at hplaced
      simp only [suppliedInItems, List.mem_append] at hsupplied
      have hitems (position : Nat) {started ended : Progress} {written : List (List Token)}
          (hrun : (itemTokens w number position items).run started = .ok written ended) :
          ∀ item ∈ written, Token.Separate mark digits true item :=
        separate_itemTokens h number position items hplaced.2 (fun s hs => hsupplied s (.inr hs))
          hrun
      obtain ⟨progress, _, -, hrun⟩ := Writing.bind_ok hrun
      split at hrun
      · exact hitems _ hrun
      · obtain ⟨_, _, -, hrun⟩ := Writing.bind_ok hrun
        obtain ⟨first, middle, hfirst, hrun⟩ := Writing.bind_ok hrun
        obtain ⟨rest, last, hrest, hrun⟩ := Writing.bind_ok hrun
        cases hrun
        have hitem := separate_tokens h item hplaced.1 (fun s hs => hsupplied s (.inl hs)) hfirst
        rintro part (_ | ⟨_, hpart⟩)
        · exact hitem
        · exact hitems _ hrest part hpart

end

end Pieces

end SqlComposer
