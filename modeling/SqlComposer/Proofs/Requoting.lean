import SqlComposer.Proofs.Aliases
import SqlComposer.Proofs.Marks
import SqlComposer.Proofs.QuotePairs

/-!
# Names are quoted once

What is quoted starts with a quote, which nothing starts with that quotes are put around, and ends
in a quote or a star, which no direction ends in. So what is written for a name is written as it is
when it is taken for a name again. The words of a direction are in capitals then, with single blanks
in front of them, and are read as the same direction.
-/

namespace SqlComposer

/-! ## First characters -/

theorem Text.isAlphanumeric_of_isAlphanum {c : Char} (h : c.isAlphanum) : isAlphanumeric c := by
  have hblocks : ∀ block ∈ [(0x30, 0x39), (0x41, 0x5a), (0x61, 0x7a)],
      block ∈ alphanumericBlocks := by
    decide
  have hcode := Identifier.code_of_isAlphanum h
  refine List.any_eq_true.mpr ?_
  rcases hcode with hcode | hcode | hcode
  · exact ⟨_, hblocks (0x30, 0x39) (by decide), by simpa using hcode⟩
  · exact ⟨_, hblocks (0x41, 0x5a) (by decide), by simpa using hcode⟩
  · exact ⟨_, hblocks (0x61, 0x7a) (by decide), by simpa using hcode⟩

theorem IsPunctuation.not_isStart {c : Char} (h : IsPunctuation c) :
    Identifier.isStart c = false := by
  rw [Identifier.isStart, Bool.or_eq_false_iff, decide_eq_false_iff_not]
  refine ⟨?_, h.notUnderscore⟩
  rw [← Bool.not_eq_true]
  intro halpha
  have halphanumeric : Text.isAlphanumeric c :=
    Text.isAlphanumeric_of_isAlphanum (by simp [Char.isAlphanum, halpha])
  rw [h.notAlphanumeric] at halphanumeric
  cases halphanumeric

namespace Identifier

variable {segments : List (List Char)} {starred : Bool} {cs : List Char}

theorem IsDotted.head? (h : IsDotted segments starred cs) :
    ∃ c, cs.head? = some c ∧ isStart c := by
  obtain ⟨segment, rest, rfl⟩ := List.exists_cons_of_ne_nil h.nonempty
  have hbare := h.bare segment List.mem_cons_self
  cases segment with
  | nil => cases hbare
  | cons c segment =>
      refine ⟨c, ?_, (Bool.and_eq_true_iff.mp hbare).1⟩
      rw [h.joined, List.cons_append]
      cases rest ++ starSegment starred with
      | nil => rfl
      | cons next rest => rfl

theorem head?_of_withoutLineEnd {c : Char} (h : (withoutLineEnd cs).head? = some c) :
    cs.head? = some c := by
  rcases withoutLineEnd_cases cs with heq | heq
  · rwa [heq] at h
  · rw [heq, List.head?_append, h]
    rfl

theorem head?_of_isQuotable (h : isQuotable cs) : ∃ c, cs.head? = some c ∧ isStart c := by
  obtain ⟨segments, starred, hdotted⟩ := isQuotable_iff.mp h
  obtain ⟨c, hc, hstart⟩ := hdotted.head?
  exact ⟨c, head?_of_withoutLineEnd hc, hstart⟩

theorem head?_of_aliased? {found : Aliased} (h : aliased? cs = some found) :
    ∃ c, cs.head? = some c ∧ isStart c := by
  obtain ⟨a, ha, hchars, -⟩ := AliasSpelling.exists_of_aliased? h
  obtain ⟨c, hc, hstart⟩ := ha.dotted.head?
  refine ⟨c, head?_of_withoutLineEnd ?_, hstart⟩
  rw [← hchars, AliasSpelling.chars, List.head?_append, hc]
  rfl

end Identifier

namespace Dialect

open Identifier

/-! ## Texts between quotes -/

/-- Quotes or other characters that belong to no word stand at both ends. -/
structure IsEnclosed (text : String) : Prop where
  head : ∃ c, IsPunctuation c ∧ text.toList.head? = some c
  last : ∃ c, IsPunctuation c ∧ text.toList.getLast? = some c

variable {d : Dialect} {text : String}

theorem IsEnclosed.not_start (h : IsEnclosed text) :
    ¬ ∃ start, text.toList.head? = some start ∧ isStart start := by
  rintro ⟨start, hstart, hisStart⟩
  obtain ⟨c, hc, hhead⟩ := h.head
  rw [hhead] at hstart
  obtain rfl := Option.some.inj hstart
  rw [hc.not_isStart] at hisStart
  cases hisStart

/-- What stands between quotes is no name to put quotes around. -/
theorem IsEnclosed.identifier (h : IsEnclosed text) : d.identifier (.plain text) = text := by
  refine identifier_copied (Bool.and_eq_false_imp.mpr fun _ => ?_)
  rw [← Bool.not_eq_true]
  exact fun hquotable => h.not_start (head?_of_isQuotable hquotable)

theorem IsEnclosed.reference (h : IsEnclosed text) : d.reference (.plain text) = text := by
  have hnone : aliased? text.toList = none := by
    rw [Option.eq_none_iff_forall_ne_some]
    exact fun found haliased => h.not_start (head?_of_aliased? haliased)
  rw [reference_of_not_aliased hnone, h.identifier]

theorem IsEnclosed.ordered? (h : IsEnclosed text) : ordered? text.toList = none := by
  obtain ⟨c, hc, hlast⟩ := h.last
  rw [Option.eq_none_iff_forall_ne_some]
  intro found hordered
  obtain ⟨expression, o, hordered, -⟩ := exists_of_ordered? hordered
  obtain ⟨c', hc', hlast'⟩ := hordered.getLast?
  rw [hlast] at hlast'
  obtain rfl := Option.some.inj hlast'
  have hword : ['\n', 'C', 'c', 'T', 't'].all fun c => Text.isBlank c ∨ Text.isAlphanumeric c := by
    decide +kernel
  rcases forall_of_all hword c hc' with h | h
  · rw [hc.notBlank] at h
    cases h
  · rw [hc.notAlphanumeric] at h
    cases h

theorem lacks_of_notBlank {b : Char} (hb : Text.isBlank b)
    (h : text.toList.all fun c => Text.isBlank c = false) : Lacks b text := by
  intro hmem
  rw [forall_of_all h b hmem] at hb
  cases hb

theorem IsEnclosed.append {front back : String} (hfront : IsEnclosed front)
    (hback : IsEnclosed back) (middle : String) : IsEnclosed (front ++ middle ++ back) := by
  obtain ⟨first, hfirst, hhead⟩ := hfront.head
  obtain ⟨last, hlast, htail⟩ := hback.last
  exact ⟨⟨first, hfirst, by simp [hhead]⟩, ⟨last, hlast, by simp [htail]⟩⟩

/-! ## Quoted names -/

theorem dotted_cons (d : Dialect) (first next : List Char) (rest : List (List Char))
    (starred : Bool) :
    d.dotted (first :: next :: rest) starred =
      d.quotedSegment first ++ "." ++ d.dotted (next :: rest) starred := by
  rw [dotted, dotted, List.map_cons, List.map_cons, List.cons_append, List.cons_append,
    String.intercalate_cons_cons]

theorem dotted_singleton (d : Dialect) (segment : List Char) (starred : Bool) :
    d.dotted [segment] starred = d.quotedSegment segment ++ if starred then ".*" else "" := by
  cases starred with
  | false => simp [dotted]
  | true => simp [dotted, String.intercalate_cons_cons, String.append_assoc]

section Quotes

variable {c : Char} (hquotes : AreQuotes c d.opening d.closing)
include hquotes

theorem isEnclosed_quotedSegment (segment : List Char) : IsEnclosed (d.quotedSegment segment) := by
  have htext := hquotes.toList_quote (.plain (String.ofList segment))
  refine ⟨⟨c, hquotes.punctuation, ?_⟩, ⟨_, hquotes.closingPunctuation, ?_⟩⟩
  · rw [quotedSegment, htext]
    rfl
  · rw [quotedSegment, htext, ← List.cons_append, List.getLast?_concat]

theorem isEnclosed_dotted (starred : Bool) : {segments : List (List Char)} → segments ≠ [] →
    IsEnclosed (d.dotted segments starred)
  | [], hne => absurd rfl hne
  | [segment], _ => by
      have hsegment := isEnclosed_quotedSegment hquotes segment
      rw [dotted_singleton]
      cases starred with
      | false => simpa using hsegment
      | true =>
          refine ⟨?_, ⟨'*', isPunctuation_iff.mpr (by decide +kernel), by simp⟩⟩
          obtain ⟨first, hfirst, hhead⟩ := hsegment.head
          exact ⟨first, hfirst, by simp [hhead]⟩
  | first :: next :: rest, _ => by
      rw [dotted_cons]
      exact (isEnclosed_quotedSegment hquotes first).append
        (isEnclosed_dotted starred (List.cons_ne_nil next rest)) "."

theorem lacks_quotedSegment {b : Char} (hb : Text.isBlank b) {segment : List Char}
    (h : b ∉ segment) : Lacks b (d.quotedSegment segment) := by
  have hquote {quote : Char} (hquote : IsPunctuation quote) : Lacks b (String.singleton quote) := by
    intro hmem
    rw [String.toList_singleton, List.mem_singleton] at hmem
    rw [hmem, hquote.notBlank] at hb
    cases hb
  have hclosing := hquote hquotes.closingPunctuation
  rw [quotedSegment, hquotes.quotesWith.quote, Name.text, enclosed, lacks_append, lacks_append]
  exact ⟨⟨hquote hquotes.punctuation, Text.lacks_double hclosing (lacks_ofList.mpr h)⟩, hclosing⟩

theorem lacks_dotted {b : Char} (hb : Text.isBlank b) (starred : Bool) :
    {segments : List (List Char)} → segments ≠ [] → (∀ segment ∈ segments, b ∉ segment) →
      Lacks b (d.dotted segments starred)
  | [], hne, _ => absurd rfl hne
  | [segment], _, h => by
      rw [dotted_singleton, lacks_append]
      refine ⟨lacks_quotedSegment hquotes hb (h segment List.mem_cons_self), ?_⟩
      split
      · exact lacks_of_notBlank hb (by decide)
      · exact lacks_of_notBlank hb (by decide)
  | first :: next :: rest, _, h => by
      rw [List.forall_mem_cons] at h
      rw [dotted_cons, lacks_append, lacks_append]
      exact ⟨⟨lacks_quotedSegment hquotes hb h.1, lacks_of_notBlank hb (by decide)⟩,
        lacks_dotted hb starred (List.cons_ne_nil next rest) h.2⟩

end Quotes

/-! ## Written names -/

theorem exists_dotted (hquoting : d.isQuoting) {s : String} (h : isQuotable s.toList) :
    ∃ segments starred, segments ≠ [] ∧ d.identifier (.plain s) = d.dotted segments starred := by
  obtain ⟨segments, starred, hdotted⟩ := isQuotable_iff.mp h
  rcases withoutLineEnd_cases s.toList with heq | heq
  · rw [heq] at hdotted
    exact ⟨segments, starred, hdotted.nonempty, identifier_of_isDotted hquoting hdotted⟩
  · have hne : segments ++ starSegment starred ≠ [] := by simp [hdotted.nonempty]
    obtain ⟨front, last, hlast⟩ := (List.eq_nil_or_concat _).resolve_left hne
    refine ⟨front ++ [last ++ ['\n']], false, by simp, ?_⟩
    exact identifier_of_lineEnd hquoting hdotted heq (by simpa using hlast)

theorem HasQuotePair.areQuotes (hd : d.HasQuotePair) (hquoting : d.isQuoting) :
    ∃ c, AreQuotes c d.opening d.closing := by
  rcases hd with ⟨hopening, -⟩ | hquotes
  · rw [isQuoting, hopening] at hquoting
    cases hquoting
  · exact hquotes

theorem HasQuotePair.hasPlainQuotes (hd : d.HasQuotePair) : d.hasPlainQuotes := by
  by_cases hquoting : d.isQuoting
  · obtain ⟨c, hquotes⟩ := hd.areQuotes hquoting
    exact hquotes.quotesWith.hasPlainQuotes
  · simp [Dialect.hasPlainQuotes, hquoting]

section Pairs

variable (hd : d.HasQuotePair) (s : String)
include hd

theorem HasQuotePair.identifier_cases :
    d.identifier (.plain s) = s ∨ IsEnclosed (d.identifier (.plain s)) := by
  by_cases h : d.isQuoting && isQuotable s.toList
  · obtain ⟨hquoting, hquotable⟩ := Bool.and_eq_true_iff.mp h
    obtain ⟨c, hquotes⟩ := hd.areQuotes hquoting
    obtain ⟨segments, starred, hne, htext⟩ := exists_dotted hquoting hquotable
    rw [htext]
    exact .inr (isEnclosed_dotted hquotes starred hne)
  · exact .inl (identifier_copied (by simpa using h))

theorem HasQuotePair.lacks_identifier (hline : '\n' ∉ s.toList)
    (hne : d.identifier (.plain s) ≠ s) {b : Char} (hb : Text.isBlank b) :
    Lacks b (d.identifier (.plain s)) := by
  by_cases h : d.isQuoting && isQuotable s.toList
  · obtain ⟨hquoting, hquotable⟩ := Bool.and_eq_true_iff.mp h
    obtain ⟨segments, starred, hdotted⟩ := isQuotable_iff.mp hquotable
    rw [withoutLineEnd_of_not_mem hline] at hdotted
    obtain ⟨c, hquotes⟩ := hd.areQuotes hquoting
    rw [identifier_of_isDotted hquoting hdotted]
    refine lacks_dotted hquotes hb starred hdotted.nonempty fun segment hsegment hmem => ?_
    have hfollower := isFollower_of_isBare (hdotted.bare segment hsegment) hmem
    rw [notBlank_of_isFollower hfollower] at hb
    cases hb
  · exact absurd (identifier_copied (by simpa using h)) hne

theorem HasQuotePair.reference_cases :
    d.reference (.plain s) = s ∨ IsEnclosed (d.reference (.plain s)) := by
  by_cases haliased : d.isQuoting ∧ (aliased? s.toList).isSome
  · obtain ⟨hquoting, haliased⟩ := haliased
    obtain ⟨found, haliased⟩ := Option.isSome_iff_exists.mp haliased
    obtain ⟨a, ha, -, rfl⟩ := AliasSpelling.exists_of_aliased? haliased
    obtain ⟨c, hquotes⟩ := hd.areQuotes hquoting
    rw [reference_of_aliased hquoting ha haliased]
    exact .inr ((isEnclosed_dotted hquotes false ha.nonempty).append
      (isEnclosed_quotedSegment hquotes _) _)
  · have hnone : (if d.isQuoting then aliased? s.toList else none) = none := by
      split
      · rename_i hquoting
        simpa [hquoting] using haliased
      · rfl
    have hsame : d.reference (.plain s) = d.identifier (.plain s) := by
      rw [reference, referenceParts, Name.text, hnone]
      rfl
    rw [hsame]
    exact hd.identifier_cases s

/-! ## Names again -/

theorem HasQuotePair.identifier_again :
    d.identifier (.plain (d.identifier (.plain s))) = d.identifier (.plain s) := by
  rcases hd.identifier_cases s with h | h
  · rw [h, h]
  · exact h.identifier

theorem HasQuotePair.reference_again :
    d.reference (.plain (d.reference (.plain s))) = d.reference (.plain s) := by
  rcases hd.reference_cases s with h | h
  · rw [h, h]
  · exact h.reference

theorem HasQuotePair.isOrdered_again {s : String} {expression : List Char} {o : Direction}
    (h : IsOrdered expression o s.toList) :
    IsOrdered (d.identifier (.plain (String.ofList expression))).toList o.capitals
      (d.ordering (.plain s)).toList := by
  have hsplit : (d.ordering (.plain s)).toList =
      (d.identifier (.plain (String.ofList expression))).toList ++ (o.capitals.chars ++ []) := by
    rw [ordering_of_isOrdered h, String.toList_append, String.toList_ofList, List.append_nil]
  have hline : '\n' ∉ (String.ofList expression).toList := String.toList_ofList ▸ h.oneLine
  by_cases hsame : d.identifier (.plain (String.ofList expression)) = String.ofList expression
  · rw [hsame, String.toList_ofList] at hsplit ⊢
    exact ⟨h.valid.capitals, ⟨[], rfl, hsplit⟩, h.nonempty, h.oneLine, h.shortest⟩
  · have hlacks {b : Char} (hb : Text.isBlank b) := hd.lacks_identifier _ hline hsame hb
    have henclosed := (hd.identifier_cases _).resolve_left hsame
    -- Between quotes nothing is blank, so no direction is found there.
    refine ⟨h.valid.capitals, ⟨[], rfl, hsplit⟩, ?_, hlacks (by decide), ?_⟩
    · obtain ⟨c, -, hc⟩ := henclosed.head
      exact List.ne_nil_of_mem (List.mem_of_mem_head? hc)
    · intro front b _ hfront
      rw [← Bool.not_eq_true]
      exact fun hb => hlacks hb (by simp [hfront])

theorem HasQuotePair.ordering_again :
    d.ordering (.plain (d.ordering (.plain s))) = d.ordering (.plain s) := by
  cases hordered : ordered? s.toList with
  | some found =>
      obtain ⟨expression, o, h, -⟩ := exists_of_ordered? hordered
      rw [ordering_of_isOrdered (hd.isOrdered_again h), String.ofList_toList, hd.identifier_again,
        h.valid.capitals_capitals, ← ordering_of_isOrdered h]
  | none =>
      rw [ordering_of_not_ordered hordered]
      rcases hd.reference_cases s with h | h
      · rw [h, ordering_of_not_ordered hordered, h]
      · rw [ordering_of_not_ordered h.ordered?, h.reference]

end Pairs

end Dialect

/-- In every dialect that setting options leads to, what is written for a plain name is written as
it is when it is given as a name in the same place again: as an identifier, as an entry of a list of
expressions or a table, and as an item to order by. -/
theorem names_quoted_once {databases : Databases} {d : Dialect} (hd : d.Reachable databases)
    {w : Writer} {serial : Serial} (hw : w.dialect = .dialect d serial) (s : String) :
    (∀ place ∈ [(w.identifier, d.identifier), (w.reference, d.reference),
        (w.ordering, d.ordering)],
      place.1 (.plain s) = pure (place.2 (.plain s)) ∧
        place.1 (.plain (place.2 (.plain s))) = pure (place.2 (.plain s))) ∧
    ∀ place ∈ [(Piece.identifier, d.identifier), (Piece.reference, d.reference),
        (Piece.ordering, d.ordering)],
      (place.1 (.plain s)).tokens w = pure [.text (place.2 (.plain s))] ∧
        (place.1 (.plain (place.2 (.plain s)))).tokens w =
          pure [.text (place.2 (.plain s))] := by
  have hpair := hd.hasQuotePair
  have hplain := hpair.hasPlainQuotes
  simp only [List.forall_mem_cons, Writer.identifier_of_plainQuotes hw hplain,
    Writer.reference_of_plainQuotes hw hplain, Writer.ordering_of_plainQuotes hw hplain,
    Piece.tokens_identifier hw hplain, Piece.tokens_reference hw hplain,
    Piece.tokens_ordering hw hplain, hpair.identifier_again, hpair.reference_again,
    hpair.ordering_again, true_and]
  exact ⟨nofun, nofun⟩

theorem names_quoted_once_brackets :
    let d := Dialect.ofQuotes "tsql" ("[", "]")
    let w : Writer := ⟨.dialect d 0, fun _ => pure "", fun _ => pure ""⟩
    d.Reachable .known ∧
      (w.ordering (.plain "u.id\tdeſc  nulls last\n") = pure "[u].[id] DESC NULLS LAST" ∧
        w.ordering (.plain "[u].[id] DESC NULLS LAST") = pure "[u].[id] DESC NULLS LAST") ∧
      (Piece.ordering (.plain "u.id\tdeſc  nulls last\n")).tokens w =
        pure [.text "[u].[id] DESC NULLS LAST"] ∧
      (Piece.ordering (.plain "[u].[id] DESC NULLS LAST")).tokens w =
        pure [.text "[u].[id] DESC NULLS LAST"] := by
  intro d w
  have hnamed : Dialect.ofDatabase .known (.ofText "tsql") = .ok d := rfl
  have hd : d.Reachable .known := .ofDatabase hnamed
  have htext : d.ordering (.plain "u.id\tdeſc  nulls last\n") = "[u].[id] DESC NULLS LAST" := by
    decide +kernel
  obtain ⟨hwritten, htokens⟩ := names_quoted_once hd (w := w) rfl "u.id\tdeſc  nulls last\n"
  have hordering := hwritten (w.ordering, d.ordering) (by simp)
  have hpieces := htokens (Piece.ordering, d.ordering) (by simp)
  simp only [htext] at hordering hpieces
  exact ⟨hd, hordering, hpieces⟩

end SqlComposer
