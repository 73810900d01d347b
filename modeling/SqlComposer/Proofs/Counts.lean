import SqlComposer.Proofs.Leaves
import SqlComposer.Proofs.Placeholders

/-!
# Counts among the values or in the text

Some dialects bind the counts of LIMIT and OFFSET like other values, and the others write them into
the text. A statement has one outline for both: the placeholders that are left are numbered anew,
and nothing else changes.
-/

namespace SqlComposer

/-! ## Outlines -/

/-- What may stand in a gap of a statement: a value, which is always bound, or a count. -/
inductive Gap where
  | value (v : Value)
  | count (n : Nat)

namespace Gap

/-- What is bound for the gap if counts are bound. -/
def bound : Gap → Value
  | value v => v
  | count n => .int n 0

/-- What is bound for the gap if counts are not bound. -/
def value? : Gap → Option Value
  | value v => some v
  | count _ => none

end Gap

/-- A text with gaps for values and for counts, each with the literal text behind it. -/
structure Outline where
  opening : String
  gaps : List (Gap × String)

namespace Outline

/-- The outline with every count bound. -/
def bound (outline : Outline) : Template where
  opening := outline.opening
  gaps := outline.gaps.map fun (gap, literal) => (gap.bound, literal)

/-- Gaps behind some literal text, with every count as a part of the literal around it. -/
def inlinedFrom (opening : String) : List (Gap × String) → Template
  | [] => ⟨opening, []⟩
  | (.value v, literal) :: gaps =>
    let rest := inlinedFrom literal gaps
    ⟨opening, (v, rest.opening) :: rest.gaps⟩
  | (.count n, literal) :: gaps => inlinedFrom (opening ++ toString n ++ literal) gaps

/-- The outline with every count written into the text. -/
def inlined (outline : Outline) : Template :=
  inlinedFrom outline.opening outline.gaps

/-- The outline as it is in dialects that bind counts, or in those that do not. -/
def template (outline : Outline) (countsAreBound : Bool) : Template :=
  if countsAreBound then outline.bound else outline.inlined

theorem values_bound (outline : Outline) :
    outline.bound.values = outline.gaps.map fun gap => gap.1.bound :=
  List.map_map

theorem values_inlinedFrom : (opening : String) → (gaps : List (Gap × String)) →
    (inlinedFrom opening gaps).values = gaps.filterMap fun gap => gap.1.value?
  | _, [] => rfl
  | _, (.value v, literal) :: gaps => congrArg (v :: ·) (values_inlinedFrom literal gaps)
  | opening, (.count n, literal) :: gaps =>
      values_inlinedFrom (opening ++ toString n ++ literal) gaps

theorem values_inlined (outline : Outline) :
    outline.inlined.values = outline.gaps.filterMap fun gap => gap.1.value? :=
  values_inlinedFrom outline.opening outline.gaps

end Outline

/-! ## Entries -/

/-- A part of a statement of which it is open whether counts are bound: text, or a gap. -/
inductive Entry where
  | text (s : String)
  | gap (g : Gap)

namespace Entry

def gap? : Entry → Option Gap
  | text _ => none
  | gap g => some g

/-- The token that an entry is in dialects that bind counts, or in those that do not. -/
def token (countsAreBound : Bool) : Entry → Token
  | text s => .text s
  | gap (.value v) => .bound v
  | gap (.count n) => if countsAreBound then .bound (.int n 0) else .text (toString n)

end Entry

namespace Outline

/-- The outline of entries behind some literal text. -/
def ofEntries : String → List Entry → Outline
  | opening, [] => ⟨opening, []⟩
  | opening, .text s :: entries => ofEntries (opening ++ s) entries
  | opening, .gap g :: entries =>
    let rest := ofEntries "" entries
    ⟨opening, (g, rest.opening) :: rest.gaps⟩

theorem gaps_ofEntries : (opening : String) → (entries : List Entry) →
    (ofEntries opening entries).gaps.map Prod.fst = entries.filterMap Entry.gap?
  | _, [] => rfl
  | opening, .text s :: entries => gaps_ofEntries (opening ++ s) entries
  | _, .gap g :: entries => congrArg (g :: ·) (gaps_ofEntries "" entries)

theorem ofEntries_append : (front opening : String) → (entries : List Entry) →
    ofEntries (front ++ opening) entries =
      ⟨front ++ (ofEntries opening entries).opening, (ofEntries opening entries).gaps⟩
  | _, _, [] => rfl
  | front, opening, .text s :: entries => by
      rw [ofEntries, String.append_assoc, ofEntries_append front (opening ++ s) entries, ofEntries]
  | _, _, .gap _ :: _ => rfl

theorem bound_ofEntries : (opening : String) → (entries : List Entry) →
    (ofEntries opening entries).bound = .ofTokens opening (entries.map (Entry.token true))
  | _, [] => rfl
  | opening, .text s :: entries => bound_ofEntries (opening ++ s) entries
  | opening, .gap g :: entries => by
      have hrest := bound_ofEntries "" entries
      cases g with
      | value | count =>
          simp only [List.map_cons, Entry.token, if_true, Template.ofTokens, ← hrest]
          rfl

theorem inlined_ofEntries : (opening : String) → (entries : List Entry) →
    (ofEntries opening entries).inlined = .ofTokens opening (entries.map (Entry.token false))
  | _, [] => rfl
  | opening, .text s :: entries => inlined_ofEntries (opening ++ s) entries
  | opening, .gap (.value v) :: entries => by
      have hrest := inlined_ofEntries "" entries
      simp only [List.map_cons, Entry.token, Template.ofTokens, ← hrest]
      rfl
  | opening, .gap (.count n) :: entries => by
      -- The count joins the literals on both of its sides.
      have hrest := inlined_ofEntries (opening ++ toString n ++ "") entries
      rw [ofEntries_append, String.append_empty] at hrest
      exact hrest

theorem template_ofEntries (countsAreBound : Bool) (entries : List Entry) :
    (ofEntries "" entries).template countsAreBound =
      .ofTokens "" (entries.map (Entry.token countsAreBound)) := by
  cases countsAreBound with
  | true => exact bound_ofEntries "" entries
  | false => exact inlined_ofEntries "" entries

end Outline

/-! ## Leaves -/

/-- The gap that a leaf is written as, if it is no text. -/
def Piece.gap? : Piece → Option Gap
  | .value v => some (.value v)
  | .count n => some (.count n)
  | _ => none

/-- The tokens are one entry for the leaf, in a dialect that binds counts or not and in another. -/
def Piece.SameEntry (counts counts' : Bool) (leaf : Piece) (t t' : Token) : Prop :=
  ∃ entry : Entry, entry.gap? = leaf.gap? ∧ t = entry.token counts ∧ t' = entry.token counts'

theorem Piece.SameEntry.text {leaf : Piece} (hleaf : leaf.gap? = none) (counts counts' : Bool)
    (s : String) : leaf.SameEntry counts counts' (.text s) (.text s) :=
  ⟨.text s, hleaf.symm, rfl, rfl⟩

theorem Paired.entries {counts counts' : Bool} {leaves : List Piece} {ts ts' : List Token}
    (h : Paired (Piece.SameEntry counts counts') leaves ts ts') :
    ∃ entries : List Entry, entries.filterMap Entry.gap? = leaves.filterMap Piece.gap? ∧
      ts = entries.map (Entry.token counts) ∧ ts' = entries.map (Entry.token counts') := by
  induction h with
  | nil => exact ⟨[], rfl, rfl, rfl⟩
  | cons hleaf _ ih =>
      obtain ⟨entry, hgap, rfl, rfl⟩ := hleaf
      obtain ⟨entries, hgaps, rfl, rfl⟩ := ih
      refine ⟨entry :: entries, ?_, rfl, rfl⟩
      rw [List.filterMap_cons, List.filterMap_cons, hgap, hgaps]

section Writers

open Writing

variable (style : PlaceholderStyle) (opening closing name : Value) (serial : Serial)

/-- A dialect that has the given switch for counts. -/
def Dialect.counting (bindsCounts : Value) : Dialect where
  style := .keyword (.placeholderStyle style)
  opening := opening
  closing := closing
  bindsCounts := bindsCounts
  name := name

variable {style opening closing name serial} {display shown : Value → Writing String}

theorem Piece.pairedBy_counting (b b' : Value) (leaf : Piece) :
    leaf.PairedBy (Piece.SameEntry b.isTruthy b'.isTruthy)
      ⟨.dialect (.counting style opening closing name b) serial, display, shown⟩
      ⟨.dialect (.counting style opening closing name b') serial, display, shown⟩ := by
  let w (b : Value) : Writer :=
    ⟨.dialect (.counting style opening closing name b) serial, display, shown⟩
  have htext {leaf : Piece} (hleaf : leaf.gap? = none) (x : Writing String) :
      Alike (OneEach (leaf.SameEntry b.isTruthy b'.isTruthy))
        (do return [.text (← x)]) (do return [.text (← x)]) :=
    .bind_same fun s => .pure (.intro (.text hleaf _ _ s))
  have hname {leaf : Piece} (hleaf : leaf.gap? = none) {parts : Dialect → List Identifier.NamePart}
      (hparts : parts (.counting style opening closing name b) =
        parts (.counting style opening closing name b')) :
      Alike (OneEach (leaf.SameEntry b.isTruthy b'.isTruthy))
        (do return [.text (← (w b).name parts)]) (do return [.text (← (w b').name parts)]) := by
    have hsame : (w b).name parts = (w b').name parts :=
      congrArg ((w b').spelled (.counting style opening closing name b')) hparts
    rw [hsame]
    exact htext hleaf ((w b').name parts)
  have hcount (n : Nat) (b : Value) :
      (Piece.count n).tokens (w b) = pure [Entry.token b.isTruthy (.gap (.count n))] := by
    show (if b.isTruthy then return [.bound (.int n 0)] else return [.text (toString n)] :
      Writing (List Token)) = _
    cases b.isTruthy <;> rfl
  cases leaf with
  | word s | copied s => exact fun _ => .pure (.intro (.text rfl _ _ s))
  | identifier name | reference name | ordering name => exact fun _ => hname rfl rfl
  | quoted name => exact fun _ => htext rfl ((w b).spelled _ [.quoted name])
  | value v => exact fun _ => .pure (.intro ⟨.gap (.value v), rfl, rfl, rfl⟩)
  | count n =>
      intro _
      rw [hcount n b, hcount n b']
      exact .pure (.intro ⟨.gap (.count n), rfl, rfl, rfl⟩)
  | display v => exact fun _ => htext rfl (display v)
  | refused cause => exact fun _ => refuse_alike fun _ _ => rfl
  | unnamed column behind =>
      exact ⟨.pure rfl, .self (display column) fun s => .text rfl _ _ s⟩
  | subselect | streamed | lateIdentifier => exact nofun

/-- Whether counts are bound is all that the tokens depend on. -/
theorem tokens_counting (b : Value) (pieces : List Piece) :
    tokens ⟨.dialect (.counting style opening closing name b) serial, display, shown⟩ pieces =
      tokens ⟨.dialect (.counting style opening closing name (.bool b.isTruthy)) serial, display,
        shown⟩ pieces := by
  refine Alike.eq fun before => ?_
  rcases tokens_paired (.text rfl _ _ ", ") pieces
    (fun leaf _ => Piece.pairedBy_counting b (.bool b.isTruthy) leaf) before with
    ⟨ts, ts', after, hx, hy, leaves, -, hpaired⟩ | hfault
  · obtain ⟨entries, -, rfl, rfl⟩ := hpaired.entries
    exact .inl ⟨_, _, after, hx, hy, rfl⟩
  · exact .inr hfault

end Writers

/-! ## Statements -/

/-- In two dialects that differ only in whether they bind counts, a statement is refused for the
same reason, or it has one outline with a gap for each value and each count. Where counts are not
bound, their numerals stand in the text, and the other values and placeholders follow each other as
ever. -/
theorem render_counting (st : Store) (inUse opening closing name : Value)
    (style : PlaceholderStyle) (serial : Serial) (r : StatementRef) (before : Progress) :
    let given := fun bindsCounts : Value =>
      Value.dialect (.counting style opening closing name bindsCounts) serial
    (∃ (outline : Outline) (leaves : List Piece) (after : Progress),
      Spreads (st.pieces (st.layout r)) leaves ∧
      outline.gaps.map Prod.fst = leaves.filterMap Piece.gap? ∧
      outline.bound.values = outline.gaps.map (fun gap => gap.1.bound) ∧
      outline.inlined.values = outline.gaps.filterMap (fun gap => gap.1.value?) ∧
      ∀ bindsCounts : Value,
        let template := outline.template bindsCounts.isTruthy
        let rendered : Rendered := ⟨template.text style, template.values, given bindsCounts⟩
        (st.render inUse (given bindsCounts) r).run before =
          .ok rendered (after.addRendered r rendered)) ∨
      ∃ fault after, ∀ bindsCounts : Value,
        (st.render inUse (given bindsCounts) r).run before = .error fault after := by
  intro given
  let written (b : Value) : Writing (List Token) :=
    tokens (st.writer (st.text inUse) {} (given b)) (st.pieces (st.layout r))
  have hsame (b : Value) : written b = written (.bool b.isTruthy) := tokens_counting b _
  rcases tokens_paired (.text rfl _ _ ", ") (st.pieces (st.layout r))
    (fun leaf _ => Piece.pairedBy_counting (.bool true) (.bool false) leaf) before with
    ⟨ts, ts', after, hbound, hinlined, leaves, hspreads, hpaired⟩ | ⟨fault, after, hbound, hinlined⟩
  · obtain ⟨entries, hgaps, rfl, rfl⟩ := hpaired.entries
    have hrun : ∀ counts : Bool, (written (.bool counts)).run before =
        .ok (entries.map (Entry.token counts)) after
      | true => hbound
      | false => hinlined
    let outline := Outline.ofEntries "" entries
    refine .inl ⟨outline, leaves, after, hspreads, ?_, outline.values_bound,
      outline.values_inlined, fun b => ?_⟩
    · rw [Outline.gaps_ofEntries, hgaps]
    · have hrendered : Rendered.ofTokens (given b) [] (entries.map (Entry.token b.isTruthy)) =
          ⟨(outline.template b.isTruthy).text style, (outline.template b.isTruthy).values,
            given b⟩ := by
        have hstyle : (given b).asDialect.style? = some style := rfl
        have htext := Template.filled_ofTokens hstyle "" 0
          (entries.map (Entry.token b.isTruthy))
        rw [String.empty_append] at htext
        rw [Outline.template_ofEntries, Template.text, ← htext, Template.values_ofTokens]
        rfl
      have hwritten := (congrArg (EStateM.run · before) (hsame b)).trans (hrun b.isTruthy)
      have hrender := Store.render_ok hwritten
      rwa [hrendered] at hrender
  · have hrun : ∀ counts : Bool, (written (.bool counts)).run before = .error fault after
      | true => hbound
      | false => hinlined
    refine .inr ⟨fault, after, fun b => ?_⟩
    exact Store.render_error ((congrArg (EStateM.run · before) (hsame b)).trans (hrun b.isTruthy))

end SqlComposer
