import Mathlib.Data.List.Flatten
import SqlComposer.Proofs.Changes
import SqlComposer.Proofs.Placement
import SqlComposer.Proofs.Places
import SqlComposer.Proofs.Spelling

/-!
# Fragments inside of fragments

The values of a raw fragment may be raw fragments again. Such a fragment is the same as one without
fragments inside: the text of each inner one is put in the place of its marker, and its values in
its place among the values. Wherever it stands, it is written as the same text with the same values:
its own text, with what each value is written as in the place of its marker.
-/

namespace SqlComposer

/-! ## Texts with markers -/

/-- The text has as many markers as there are things to put in their places. -/
inductive Fits {α : Type} : List Char → List α → Prop
  | nil : Fits [] []
  | marker {cs : List Char} {as : List α} (a : α) : Fits cs as → Fits ('?' :: cs) (a :: as)
  | other {c : Char} {cs : List Char} {as : List α} : c ≠ '?' → Fits cs as → Fits (c :: cs) as

namespace Fits

variable {α β : Type} {cs cs' : List Char} {as as' : List α}

theorem count_eq (h : Fits cs as) : cs.count '?' = as.length := by
  induction h with
  | nil => rfl
  | marker a _ ih => rw [List.count_cons_self, ih, List.length_cons]
  | other hc _ ih => rw [List.count_cons_of_ne hc, ih]

theorem of_count_eq (h : cs.count '?' = as.length) : Fits cs as := by
  induction cs generalizing as with
  | nil =>
      obtain rfl := List.eq_nil_of_length_eq_zero h.symm
      exact .nil
  | cons c cs ih =>
      by_cases hc : c = '?'
      · subst hc
        rw [List.count_cons_self] at h
        obtain ⟨a, as, rfl⟩ := List.exists_cons_of_length_eq_add_one h.symm
        exact .marker a (ih (Nat.succ.inj h))
      · rw [List.count_cons_of_ne hc] at h
        exact .other hc (ih h)

theorem map (h : Fits cs as) (f : α → β) : Fits cs (as.map f) := by
  induction h with
  | nil => exact .nil
  | marker a _ ih => exact .marker (f a) ih
  | other hc _ ih => exact .other hc ih

theorem append (h : Fits cs as) (h' : Fits cs' as') : Fits (cs ++ cs') (as ++ as') := by
  induction h with
  | nil => exact h'
  | marker a _ ih => exact .marker a ih
  | other hc _ ih => exact .other hc ih

end Fits

/-- Puts a text in the place of each marker, from left to right. -/
def Text.substitute : List Char → List (List Char) → List Char
  | [], _ => []
  | c :: cs, texts =>
    if c = '?' then texts.head?.getD [] ++ substitute cs texts.tail else c :: substitute cs texts

@[simp] theorem Text.substitute_marker (cs text : List Char) (texts : List (List Char)) :
    substitute ('?' :: cs) (text :: texts) = text ++ substitute cs texts := rfl

theorem Text.substitute_other {c : Char} (hc : c ≠ '?') (cs : List Char)
    (texts : List (List Char)) : substitute (c :: cs) texts = c :: substitute cs texts :=
  if_neg hc

/-! ## Flattening -/

/-- A text with markers, and the values for them. -/
structure Marked where
  text : List Char
  values : List Value

/-- Puts a marked text in the place of each marker, and its values in its place among the values. -/
def Marked.splice (cs : List Char) (parts : List Marked) : Marked where
  text := Text.substitute cs (parts.map Marked.text)
  values := parts.flatMap Marked.values

mutual

/-- What is put in the place of the marker for a value: the marker itself, unless the value is a raw
fragment. -/
def Value.flat : Value → Marked
  | .condition (.raw fragment) => fragment.flat
  | v => ⟨['?'], [v]⟩

def Value.flats : List Value → List Marked
  | [] => []
  | v :: vs => v.flat :: Value.flats vs

def Value.keyFlats : List (Value × Value) → List Marked
  | [] => []
  | (key, _) :: entries => key.flat :: Value.keyFlats entries

def Value.memberFlats : Value → List Marked
  | .list items _ => Value.flats items
  | .tuple items _ => Value.flats items
  | .set items _ => Value.flats items
  | .map entries _ => Value.keyFlats entries
  | .stream items _ => Value.flats items
  | v => (v.members?.getD []).map fun member => ⟨['?'], [member]⟩

/-- The text and the values of a fragment with those of the fragments inside in their places. -/
def Raw.flat : Raw → Marked
  | ⟨text, values, _⟩ => .splice text.text.toList values.memberFlats

end

/-- The fragment without fragments inside. -/
def Raw.flattened (fragment : Raw) : Raw where
  text := .plain (String.ofList fragment.flat.text)
  values := .tuple fragment.flat.values 0
  serial := 0

theorem Value.flats_eq (vs : List Value) : Value.flats vs = vs.map Value.flat := by
  induction vs with
  | nil => rfl
  | cons v vs ih => rw [Value.flats, ih, List.map_cons]

theorem Value.keyFlats_eq (entries : List (Value × Value)) :
    Value.keyFlats entries = (entries.map Prod.fst).map Value.flat := by
  induction entries with
  | nil => rfl
  | cons entry entries ih => rw [Value.keyFlats, ih, List.map_cons, List.map_cons]

theorem Value.memberFlats_eq (v : Value) : v.memberFlats = v.members.map Value.flat := by
  cases v with
  | list items _ | tuple items _ | set items _ | stream items _ => exact Value.flats_eq items
  | map entries _ => exact Value.keyFlats_eq entries
  | text s _ | keyword word =>
      simp [Value.memberFlats, Value.members, Value.members?, Value.ofCharacters, Value.ofText,
        Value.flat]
  | bytes octets _ =>
      simp [Value.memberFlats, Value.members, Value.members?, Value.ofOctets, Value.flat]
  | _ => rfl

theorem Value.eq_of_raw? {v : Value} {fragment : Raw} (h : v.raw? = some fragment) :
    v = .condition (.raw fragment) := by
  unfold Value.raw? at h
  split at h
  · rw [Option.some.inj h]
  · cases h

theorem Value.flat_of_not_raw {v : Value} (h : v.raw? = none) : v.flat = ⟨['?'], [v]⟩ := by
  unfold Value.flat
  split
  · cases h
  · rfl

theorem Value.flat_cases (v : Value) :
    v.raw? = none ∧ v.flat = ⟨['?'], [v]⟩ ∨ ∃ inner, v.raw? = some inner ∧ v.flat = inner.flat := by
  cases h : v.raw? with
  | none => exact .inl ⟨rfl, flat_of_not_raw h⟩
  | some inner =>
      obtain rfl := eq_of_raw? h
      exact .inr ⟨inner, rfl, rfl⟩

theorem Raw.flat_eq (fragment : Raw) :
    fragment.flat = .splice fragment.text.text.toList (fragment.values.members.map Value.flat) := by
  cases fragment
  rw [Raw.flat, Value.memberFlats_eq]

/-! ### Fragments that are checked -/

/-- A fragment that passes the check of a raw fragment, as do all fragments inside. -/
inductive Raw.Checked : Raw → Prop
  | mk {fragment : Raw} :
      assemble (.ofName fragment.text) fragment.values = .ok { fragment with serial := 0 } →
      (∀ v ∈ fragment.values.members, ∀ inner, v.raw? = some inner → inner.Checked) →
      Raw.Checked fragment

theorem Value.length_members {v : Value} {count : Nat} (h : v.size? = some count) :
    v.members.length = count := by
  have hsize : v.size? = v.members?.map List.length ∨ v.size? = none := by
    cases v <;> first | exact .inl rfl | exact .inr rfl
  rcases hsize with hsize | hsize
  · rw [hsize] at h
    obtain ⟨members, hmembers, rfl⟩ := Option.map_eq_some_iff.mp h
    rw [Value.members, hmembers]
    rfl
  · cases hsize.symm.trans h

theorem Raw.fits_of_assemble {fragment : Raw} {text values : Value}
    (h : assemble text values = .ok { fragment with serial := 0 }) :
    Fits fragment.text.text.toList fragment.values.members := by
  obtain ⟨name, hsize, hfragment⟩ := assemble_ok h
  cases hfragment
  exact .of_count_eq (Value.length_members hsize).symm

theorem Value.members_collected {v members : Value} (h : v.collected? = some members) :
    members.members = v.members := by
  unfold collected? at h
  split at h
  · rw [Option.some.inj h]
  · cases h
  · cases h
  · cases h
  · obtain ⟨all, hall, rfl⟩ := Option.map_eq_some_iff.mp h
    rw [Value.members, Value.members, hall]
    rfl

theorem Raw.Checked.of_make {text values : Value} {fragment : Raw}
    (h : make text values = .ok fragment)
    (hinner : ∀ v ∈ values.members, ∀ inner, v.raw? = some inner → inner.Checked) :
    fragment.Checked := by
  unfold make at h
  split at h
  · rename_i members hmembers
    rw [← Value.members_collected hmembers] at hinner
    obtain ⟨name, hsize, rfl⟩ := assemble_ok h
    exact .mk (assemble_of_size? hsize) hinner
  · cases h

theorem Marked.fits_splice {cs : List Char} {parts : List Marked} (h : Fits cs parts)
    (hparts : ∀ part ∈ parts, Fits part.text part.values) :
    Fits (splice cs parts).text (splice cs parts).values := by
  simp only [splice]
  induction h with
  | nil => exact .nil
  | @marker cs parts part _ ih =>
      have hrest := ih fun part hpart => hparts part (List.mem_cons_of_mem _ hpart)
      exact (hparts part List.mem_cons_self).append hrest
  | other hc _ ih =>
      rw [Text.substitute_other hc]
      exact .other hc (ih hparts)

theorem Value.fits_flat {v : Value}
    (h : ∀ inner, v.raw? = some inner → Fits inner.flat.text inner.flat.values) :
    Fits v.flat.text v.flat.values := by
  rcases v.flat_cases with ⟨-, hflat⟩ | ⟨inner, hinner, hflat⟩
  · rw [hflat]
    exact .marker v .nil
  · rw [hflat]
    exact h inner hinner

theorem Raw.Checked.fits_flat {fragment : Raw} (h : fragment.Checked) :
    Fits fragment.flat.text fragment.flat.values := by
  induction h with
  | @mk fragment hmade _ ih =>
      rw [flat_eq]
      refine Marked.fits_splice ((fits_of_assemble hmade).map _) fun part hpart => ?_
      obtain ⟨v, hv, rfl⟩ := List.mem_map.mp hpart
      exact Value.fits_flat fun inner hinner => ih v hv inner hinner

theorem Raw.Checked.not_raw_flat {fragment : Raw} (h : fragment.Checked) :
    ∀ v ∈ fragment.flat.values, v.raw? = none := by
  induction h with
  | @mk fragment hmade _ ih =>
      rw [flat_eq]
      intro value hvalue
      obtain ⟨part, hpart, hvalue⟩ := List.mem_flatMap.mp hvalue
      obtain ⟨v, hv, rfl⟩ := List.mem_map.mp hpart
      rcases v.flat_cases with ⟨hown, hflat⟩ | ⟨inner, hinner, hflat⟩
      · rw [hflat] at hvalue
        obtain rfl := List.mem_singleton.mp hvalue
        exact hown
      · rw [hflat] at hvalue
        exact ih v hv inner hinner value hvalue

theorem Raw.Checked.make_flattened {fragment : Raw} (h : fragment.Checked) :
    make (.ofName fragment.flattened.text) fragment.flattened.values = .ok fragment.flattened := by
  have hcount : markerCount (String.ofList fragment.flat.text) = fragment.flat.values.length := by
    rw [markerCount, String.toList_ofList]
    exact h.fits_flat.count_eq
  exact if_pos hcount

/-! ### Texts character by character -/

/-- The characters of a text, with the next of the layouts in the place of each marker. -/
def spread : List Char → List (List Piece) → List Piece
  | [], _ => []
  | c :: cs, layouts =>
    if c = '?' then layouts.head?.getD [] ++ spread cs layouts.tail
    else .copied (String.singleton c) :: spread cs layouts

theorem spread_marker (cs : List Char) (layout : List Piece) (layouts : List (List Piece)) :
    spread ('?' :: cs) (layout :: layouts) = layout ++ spread cs layouts := rfl

theorem spread_other {c : Char} (hc : c ≠ '?') (cs : List Char) (layouts : List (List Piece)) :
    spread (c :: cs) layouts = .copied (String.singleton c) :: spread cs layouts :=
  if_neg hc

theorem spread_append {cs : List Char} {layouts : List (List Piece)} (h : Fits cs layouts)
    (cs' : List Char) (layouts' : List (List Piece)) :
    spread (cs ++ cs') (layouts ++ layouts') = spread cs layouts ++ spread cs' layouts' := by
  induction h with
  | nil => rfl
  | marker layout _ ih =>
      rw [List.cons_append, List.cons_append, spread_marker, spread_marker, ih, List.append_assoc]
  | other hc _ ih =>
      rw [List.cons_append, spread_other hc, spread_other hc, ih, List.cons_append]

theorem spread_writtenSame {cs : List Char} {vs : List Value} (h : Fits cs vs)
    {f g : Value → List Piece} (hsame : ∀ v ∈ vs, WrittenSame (f v) (g v)) :
    WrittenSame (spread cs (vs.map f)) (spread cs (vs.map g)) := by
  induction h with
  | nil => exact .refl _
  | @marker cs vs v _ ih =>
      have hrest := ih fun value hvalue => hsame value (List.mem_cons_of_mem _ hvalue)
      exact (hsame v List.mem_cons_self).append hrest
  | other hc _ ih =>
      rw [spread_other hc, spread_other hc]
      exact .cons _ (ih hsame)

theorem interleave_behind (parts : List String) (layouts : List (List Piece)) :
    ∃ behind, ∀ part, interleave (part :: parts) layouts = .copied part :: behind := by
  cases parts with
  | nil => exact ⟨[], fun _ => rfl⟩
  | cons next parts =>
      cases layouts with
      | nil => exact ⟨[], fun _ => rfl⟩
      | cons layout layouts => exact ⟨_, fun _ => rfl⟩

/-- Cutting a text at its markers is the same as going through its characters. -/
theorem interleave_writtenSame {cs : List Char} {layouts : List (List Piece)}
    (h : Fits cs layouts) :
    WrittenSame (interleave ((Text.splitAll (· == '?') cs).map String.ofList) layouts)
      (spread cs layouts) := by
  induction h with
  | nil => exact .copied_empty
  | @marker cs layouts layout _ ih =>
      exact WrittenSame.append .copied_empty (.append (.refl layout) ih)
  | @other c cs layouts hc _ ih =>
      -- The character belongs to the first part, which is cut in two behind it.
      obtain ⟨first, rest, hrest, hsplit⟩ :=
        Text.splitAll_other (p := (· == '?')) (beq_false_of_ne hc) cs
      obtain ⟨behind, hbehind⟩ := interleave_behind (rest.map String.ofList) layouts
      rw [hrest, List.map_cons, hbehind] at ih
      rw [hsplit, List.map_cons, hbehind, spread_other hc]
      have hcut := WrittenSame.copied_append (String.singleton c) (String.ofList first)
      rw [← String.ofList_cons] at hcut
      exact (hcut.append (.refl behind)).trans (.cons _ ih)

/-! ### Flattened fragments -/

def Marked.layout (part : Marked) : List Piece :=
  spread part.text (part.values.map Value.layout)

theorem Marked.layout_splice {cs : List Char} {parts : List Marked} (h : Fits cs parts)
    (hparts : ∀ part ∈ parts, Fits part.text part.values) :
    (splice cs parts).layout = spread cs (parts.map Marked.layout) := by
  simp only [layout, splice]
  induction h with
  | nil => rfl
  | @marker cs parts part _ ih =>
      have hrest := ih fun other hother => hparts other (List.mem_cons_of_mem _ hother)
      have hfirst := (hparts part List.mem_cons_self).map Value.layout
      rw [List.map_cons, Text.substitute_marker, List.flatMap_cons, List.map_append,
        spread_append hfirst, hrest]
      rfl
  | other hc _ ih =>
      rw [Text.substitute_other hc, spread_other hc, spread_other hc, ih hparts]

theorem Raw.layout_eq (fragment : Raw) :
    fragment.layout = interleave fragment.fragments (fragment.values.members.map Value.layout) := by
  cases fragment
  rw [Raw.layout, Value.memberLayouts_eq]

theorem Raw.layout_writtenSame {fragment : Raw}
    (h : Fits fragment.text.text.toList fragment.values.members) :
    WrittenSame fragment.layout
      (spread fragment.text.text.toList (fragment.values.members.map Value.layout)) := by
  rw [layout_eq]
  exact interleave_writtenSame (h.map Value.layout)

theorem Raw.Checked.flat_writtenSame {fragment : Raw} (h : fragment.Checked) :
    WrittenSame fragment.layout fragment.flat.layout := by
  induction h with
  | @mk fragment hmade hinner ih =>
      -- The values are flattened by induction; putting them in their places is an equation then.
      have hfits := fits_of_assemble hmade
      have hvalues : ∀ v ∈ fragment.values.members, WrittenSame v.layout v.flat.layout := by
        intro v hv
        rcases v.flat_cases with ⟨-, hflat⟩ | ⟨inner, hraw, hflat⟩
        · have hlayout : Marked.layout ⟨['?'], [v]⟩ = v.layout := List.append_nil _
          rw [hflat, hlayout]
          exact .refl _
        · rw [hflat, Value.eq_of_raw? hraw]
          exact ih v hv inner hraw
      have hparts : ∀ part ∈ fragment.values.members.map Value.flat,
          Fits part.text part.values := by
        intro part hpart
        obtain ⟨v, hv, rfl⟩ := List.mem_map.mp hpart
        exact Value.fits_flat fun inner hraw => (hinner v hv inner hraw).fits_flat
      have hspread := spread_writtenSame hfits hvalues
      rw [flat_eq, Marked.layout_splice (hfits.map _) hparts, List.map_map]
      exact WrittenSame.trans (layout_writtenSame hfits) hspread

theorem Raw.Checked.flattened_writtenSame {fragment : Raw} (h : fragment.Checked) :
    WrittenSame fragment.layout fragment.flattened.layout := by
  have hflattened : WrittenSame fragment.flattened.layout fragment.flat.layout := by
    have htext : fragment.flattened.text.text.toList = fragment.flat.text := String.toList_ofList
    rw [Marked.layout, ← htext]
    exact layout_writtenSame (htext ▸ h.fits_flat)
  exact h.flat_writtenSame.trans hflattened.symm

/-! ## Nothing is dropped -/

namespace Text

variable {cs : List Char} {texts : List (List Char)}

theorem infix_substitute (h : Fits cs texts) {text : List Char} (htext : text ∈ texts) :
    text <:+: substitute cs texts := by
  induction h with
  | nil => cases htext
  | @marker cs texts first _ ih =>
      rw [substitute_marker]
      rcases List.mem_cons.mp htext with rfl | htext
      · exact (List.prefix_append ..).isInfix
      · exact (ih htext).trans (List.suffix_append ..).isInfix
  | other hc _ ih =>
      rw [substitute_other hc]
      exact (ih htext).trans (List.suffix_cons ..).isInfix

theorem free_prefix_substitute (h : Fits cs texts) {front : List Char} (hfree : '?' ∉ front)
    (hfront : front <+: cs) : front <+: substitute cs texts := by
  induction h generalizing front with
  | nil => exact hfront
  | marker text _ _ =>
      cases front with
      | nil => exact List.nil_prefix
      | cons c front =>
          obtain ⟨rfl, -⟩ := List.cons_prefix_cons.mp hfront
          exact absurd List.mem_cons_self hfree
  | other hc _ ih =>
      rw [substitute_other hc]
      cases front with
      | nil => exact List.nil_prefix
      | cons c front =>
          obtain ⟨rfl, hrest⟩ := List.cons_prefix_cons.mp hfront
          exact (List.prefix_cons_inj c).mpr (ih (List.not_mem_of_not_mem_cons hfree) hrest)

theorem free_infix_substitute (h : Fits cs texts) {part : List Char} (hfree : '?' ∉ part)
    (hpart : part <:+: cs) : part <:+: substitute cs texts := by
  induction h with
  | nil => exact hpart
  | @marker cs texts text hrest ih =>
      rcases List.infix_cons_iff.mp hpart with hfront | hpart
      · exact (free_prefix_substitute (.marker text hrest) hfree hfront).isInfix
      · exact (ih hpart).trans (List.suffix_append ..).isInfix
  | other hc hrest ih =>
      rcases List.infix_cons_iff.mp hpart with hfront | hpart
      · exact (free_prefix_substitute (.other hc hrest) hfree hfront).isInfix
      · rw [substitute_other hc]
        exact (ih hpart).trans (List.suffix_cons ..).isInfix

theorem infix_intercalate (separator : List Char) {part : List Char} :
    {parts : List (List Char)} → part ∈ parts → part <:+: separator.intercalate parts
  | [_], h => by
      obtain rfl := List.mem_singleton.mp h
      simp only [List.intercalate_singleton, List.infix_rfl]
  | first :: next :: parts, h => by
      rw [List.intercalate_cons_cons]
      rcases List.mem_cons.mp h with rfl | h
      · rw [List.append_assoc]
        exact (List.prefix_append ..).isInfix
      · exact (infix_intercalate separator h).trans (List.suffix_append ..).isInfix

end Text

/-- A fragment stands inside of itself, and inside of those that have it among their values. -/
inductive Raw.Contains : Raw → Raw → Prop
  | self (fragment : Raw) : Contains fragment fragment
  | inside {fragment next inner : Raw} {v : Value} : v ∈ fragment.values.members →
      v.raw? = some next → Contains next inner → Contains fragment inner

namespace Raw

variable {fragment inner : Raw}

theorem Checked.fits (h : fragment.Checked) :
    Fits fragment.text.text.toList fragment.values.members := by
  cases h with
  | mk hmade _ => exact fits_of_assemble hmade

theorem Checked.next (h : fragment.Checked) {v : Value} (hv : v ∈ fragment.values.members)
    (hinner : v.raw? = some inner) : inner.Checked := by
  cases h with
  | mk _ hnext => exact hnext v hv inner hinner

theorem Checked.of_contains (h : fragment.Checked) (hinner : fragment.Contains inner) :
    inner.Checked := by
  induction hinner with
  | self => exact h
  | inside hv hnext _ ih => exact ih (h.next hv hnext)

theorem Contains.flat_inside (hinner : fragment.Contains inner) (h : fragment.Checked) :
    inner.flat.text <:+: fragment.flat.text ∧ inner.flat.values <:+: fragment.flat.values := by
  induction hinner with
  | self => exact ⟨List.infix_rfl, List.infix_rfl⟩
  | @inside fragment next inner v hv hnext _ ih =>
      obtain ⟨htext, hvalues⟩ := ih (h.next hv hnext)
      have hflat : next.flat ∈ fragment.values.members.map Value.flat := by
        refine List.mem_map.mpr ⟨v, hv, ?_⟩
        rw [Value.eq_of_raw? hnext]
        rfl
      rw [flat_eq fragment]
      constructor
      · have hfits := (h.fits.map Value.flat).map Marked.text
        exact htext.trans (Text.infix_substitute hfits (List.mem_map_of_mem hflat))
      · exact hvalues.trans (List.infix_of_mem_flatten (List.mem_map_of_mem hflat))

theorem part_infix_flat (h : fragment.Checked) {part : String} (hpart : part ∈ fragment.fragments) :
    part.toList <:+: fragment.flat.text := by
  have hown : part.toList <:+: fragment.text.text.toList := by
    obtain ⟨cs, hcs, rfl⟩ := List.mem_map.mp hpart
    rw [String.toList_ofList, ← Text.intercalate_splitAll '?' fragment.text.text.toList]
    exact Text.infix_intercalate _ hcs
  rw [flat_eq]
  have hfits := (h.fits.map Value.flat).map Marked.text
  exact Text.free_infix_substitute hfits (fragments_free fragment part hpart) hown

theorem sublist_flat (fragment : Raw) :
    (fragment.values.members.filter (·.raw?.isNone)).Sublist fragment.flat.values := by
  rw [flat_eq]
  show List.Sublist _ (List.flatMap Marked.values (List.map Value.flat _))
  generalize fragment.values.members = members
  induction members with
  | nil => exact .slnil
  | cons v members ih =>
      rw [List.map_cons, List.flatMap_cons]
      rcases v.flat_cases with ⟨hown, hflat⟩ | ⟨inner, hinner, hflat⟩
      · rw [List.filter_cons_of_pos (by rw [hown]; rfl), hflat]
        exact ih.cons_cons v
      · rw [List.filter_cons_of_neg (by rw [hinner]; exact Bool.false_ne_true)]
        exact ih.trans (List.sublist_append_right ..)

end Raw

/-! ## Values one behind the other -/

/-- The texts of values that are written one behind the other, and what is bound by then. -/
structure Series where
  texts : List (List Char)
  bound : List Value

/-- A text with those of a series in the places of its markers. -/
def Series.putInto (series : Series) (cs : List Char) (dialect : Value) : Rendered where
  text := String.ofList (Text.substitute cs series.texts)
  values := series.bound
  dialect := dialect

namespace Store

/-- A value as it is written in a context. -/
def renderValue (st : Store) (inUse dialect : Value) (context : Context) (v : Value) :
    Writing Rendered :=
  st.renderIn inUse dialect context fun w sub => v.write w sub

theorem renderValue_eq (st : Store) (inUse dialect : Value) (context : Context) (v : Value) :
    st.renderValue inUse dialect context v = st.renderPieces inUse dialect context v.layout :=
  st.renderIn_eq (fun _ _ => v.write_eq) inUse dialect context

/-- Values written one behind the other, each of them in the context that those in front leave. -/
def renderInTurn (st : Store) (inUse dialect : Value) (context : Context) :
    List Value → Writing Series
  | [] => return ⟨[], context.bound⟩
  | v :: vs => do
    let first ← st.renderValue inUse dialect context v
    let rest ← st.renderInTurn inUse dialect { context with bound := first.values } vs
    return { rest with texts := first.text.toList :: rest.texts }

variable {st : Store} {inUse dialect : Value} {context : Context}

theorem renderPieces_spread {cs : List Char} {vs : List Value} (h : Fits cs vs)
    (context : Context) :
    st.renderPieces inUse dialect context (spread cs (vs.map Value.layout)) = do
      let series ← st.renderInTurn inUse dialect context vs
      return series.putInto cs dialect := by
  induction h generalizing context with
  | nil =>
      have hnone : Rendered.ofTokens dialect context.bound [] = ⟨"", context.bound, dialect⟩ := by
        rw [Rendered.ofTokens, Token.values, List.filterMap_nil, List.append_nil]
        rfl
      exact congrArg (pure : Rendered → Writing Rendered) hnone
  | @marker cs vs v _ ih =>
      rw [List.map_cons, spread_marker, renderPieces_append, renderInTurn, renderValue_eq]
      simp only [ih, bind_assoc, pure_bind, Series.putInto, Text.substitute_marker,
        String.ofList_append, String.ofList_toList]
  | @other c cs vs hc _ ih =>
      rw [spread_other hc, renderPieces_copied, ih]
      simp only [bind_assoc, pure_bind, Series.putInto, Text.substitute_other hc,
        String.ofList_cons]

theorem sublist_renderValue {v : Value} {before after : Progress} {rendered : Rendered}
    (h : (st.renderValue inUse dialect context v).run before = .ok rendered after) :
    (context.bound ++ [v].filter Value.isData).Sublist rendered.values := by
  rw [renderValue_eq] at h
  obtain ⟨written, middle, hwritten, h⟩ := Writing.bind_ok h
  cases h
  refine List.Sublist.append_left ?_ context.bound
  cases hdata : v.isData with
  | false =>
      rw [List.filter_cons_of_neg (by rw [hdata]; exact Bool.false_ne_true)]
      exact List.nil_sublist _
  | true =>
      have hpieces : unfolded (st.selectPieces context.nesting) [.value v] = [.value v] := rfl
      rw [Value.layout_of_isData hdata, hpieces] at hwritten
      rw [Writer.values_value hwritten]
      exact List.filter_sublist

theorem renderInTurn_ok {vs : List Value} {before after : Progress} {series : Series}
    (h : (st.renderInTurn inUse dialect context vs).run before = .ok series after) :
    series.texts.length = vs.length ∧
      (context.bound ++ vs.filter Value.isData).Sublist series.bound := by
  induction vs generalizing context before series with
  | nil =>
      cases h
      exact ⟨rfl, by rw [List.filter_nil, List.append_nil]⟩
  | cons v vs ih =>
      obtain ⟨first, middle, hfirst, h⟩ := Writing.bind_ok h
      obtain ⟨rest, last, hrest, h⟩ := Writing.bind_ok h
      cases h
      obtain ⟨hlength, hbound⟩ := ih hrest
      refine ⟨congrArg Nat.succ hlength, List.Sublist.trans ?_ hbound⟩
      rw [← List.singleton_append, List.filter_append, ← List.append_assoc]
      exact (sublist_renderValue hfirst).append_right _

end Store

/-! ## Fragments that are written the same -/

/-- What a fragment may be used as. -/
inductive Raw.Use where
  | condition
  | column
  | ordering
  | value

def Raw.layoutAs (fragment : Raw) : Use → List Piece
  | .condition => (Condition.raw fragment).layout
  | .column => (Column.raw fragment).layout
  | .ordering => (Column.raw fragment).orderLayout
  | .value => (Value.condition (.raw fragment)).layout

theorem Raw.layoutAs_eq (fragment : Raw) (use : Use) : fragment.layoutAs use = fragment.layout := by
  cases use <;> rfl

def Raw.writeAs (fragment : Raw) (w : Writer) (sub : SelectId → Binding String) :
    Use → Binding String
  | .condition => (Condition.raw fragment).write w sub
  | .column => (Column.raw fragment).write w sub
  | .ordering => (Column.raw fragment).writeOrder w sub
  | .value => (Value.condition (.raw fragment)).write w sub

theorem Store.renderIn_writeAs (st : Store) (inUse dialect : Value) (context : Context)
    (use : Raw.Use) (fragment : Raw) :
    (st.renderIn inUse dialect context fun w sub => fragment.writeAs w sub use) =
      st.renderPieces inUse dialect context (fragment.layoutAs use) := by
  refine st.renderIn_eq (fun w sub => ?_) inUse dialect context
  cases use with
  | condition => exact Condition.write_eq (.raw fragment)
  | column => exact Column.write_eq (.raw fragment)
  | ordering => exact Column.writeOrder_eq (.raw fragment)
  | value => exact Value.write_eq (.condition (.raw fragment))

section Rendering

variable {fragment inner : Raw} {st : Store} {inUse dialect : Value} {context : Context}

theorem Raw.Checked.renderPieces_eq (h : fragment.Checked) :
    st.renderPieces inUse dialect context fragment.layout = do
      let series ← st.renderInTurn inUse dialect context fragment.flat.values
      return series.putInto fragment.flat.text dialect := by
  rw [h.flat_writtenSame.renderPieces_eq]
  exact Store.renderPieces_spread h.fits_flat context

/-- Of no fragment inside of a written one, a part of the text or a value is dropped. Its values
stand behind those that are bound before. -/
theorem Raw.Contains.kept (hinner : fragment.Contains inner) (h : fragment.Checked)
    {before after : Progress} {rendered : Rendered}
    (hrun : (st.renderPieces inUse dialect context fragment.layout).run before =
      .ok rendered after) :
    (∀ part ∈ inner.fragments, part.toList <:+: rendered.text.toList) ∧
      (context.bound ++ inner.values.members.filter Value.isData).Sublist rendered.values := by
  rw [h.renderPieces_eq] at hrun
  obtain ⟨series, middle, hseries, hrun⟩ := Writing.bind_ok hrun
  cases hrun
  obtain ⟨hlength, hbound⟩ := Store.renderInTurn_ok hseries
  obtain ⟨htext, hvalues⟩ := hinner.flat_inside h
  constructor
  · intro part hpart
    have hfits : Fits fragment.flat.text series.texts :=
      .of_count_eq (h.fits_flat.count_eq.trans hlength.symm)
    rw [Series.putInto, String.toList_ofList]
    refine Text.free_infix_substitute hfits (inner.fragments_free part hpart) ?_
    exact (part_infix_flat (h.of_contains hinner) hpart).trans htext
  · have hown (v : Value) : (v.isData && v.raw?.isNone) = v.isData := by
      rw [Value.isData, Bool.and_right_comm, Bool.and_self]
    have hdata : (inner.values.members.filter Value.isData).Sublist
        (fragment.flat.values.filter Value.isData) := by
      have hkept := (inner.sublist_flat.trans hvalues.sublist).filter Value.isData
      simpa only [List.filter_filter, hown] using hkept
    exact (hdata.append_left context.bound).trans hbound

end Rendering

/-- A raw fragment whose inner fragments all pass the check, to any depth, is as good as the one
with their texts and values in their places: that one passes the check, has no fragments inside, and
is written as the same text with the same values, or refused with the same fault, in any context,
dialect and place. No part of a text and no value is dropped. -/
theorem render_flattened {fragment : Raw} (h : fragment.Checked) :
    Raw.make (.ofName fragment.flattened.text) fragment.flattened.values =
        .ok fragment.flattened ∧
      (∀ v ∈ fragment.flattened.values.members, v.raw? = none) ∧
      (∀ (st : Store) (inUse dialect : Value) (context : Context) (use : Raw.Use),
        let render := st.renderPieces inUse dialect context
        (∀ fragment : Raw,
          (st.renderIn inUse dialect context fun w sub => fragment.writeAs w sub use) =
            render (fragment.layoutAs use)) ∧
        (∀ place : Place, render (place.filled (fragment.layoutAs use)) =
            render (place.filled (fragment.flattened.layoutAs use))) ∧
          render (fragment.layoutAs use) = do
            let series ← st.renderInTurn inUse dialect context fragment.flattened.values.members
            return series.putInto fragment.flattened.text.text.toList dialect) ∧
      ∀ inner, fragment.Contains inner →
        inner.flat.text <:+: fragment.flattened.text.text.toList ∧
          inner.flat.values <:+: fragment.flattened.values.members ∧
          (inner.values.members.filter (·.raw?.isNone)).Sublist
            fragment.flattened.values.members ∧
          ∀ (st : Store) (inUse dialect : Value) (context : Context) (use : Raw.Use)
            (before after : Progress) (rendered : Rendered),
            (st.renderPieces inUse dialect context (fragment.layoutAs use)).run before =
              .ok rendered after →
            (∀ part ∈ inner.fragments, part.toList <:+: rendered.text.toList) ∧
              (context.bound ++ inner.values.members.filter Value.isData).Sublist
                rendered.values := by
  have htext : fragment.flattened.text.text.toList = fragment.flat.text := String.toList_ofList
  refine ⟨h.make_flattened, h.not_raw_flat, ?_, fun inner hinner => ?_⟩
  · intro st inUse dialect context use render
    refine ⟨st.renderIn_writeAs inUse dialect context use, fun place => ?_, ?_⟩
    · rw [fragment.layoutAs_eq, fragment.flattened.layoutAs_eq]
      exact (h.flattened_writtenSame.filled place).renderPieces_eq st inUse dialect context
    · rw [fragment.layoutAs_eq, htext]
      exact h.renderPieces_eq
  · obtain ⟨htexts, hvalues⟩ := hinner.flat_inside h
    rw [htext]
    refine ⟨htexts, hvalues, inner.sublist_flat.trans hvalues.sublist, ?_⟩
    intro st inUse dialect context use before after rendered hrun
    rw [fragment.layoutAs_eq] at hrun
    exact hinner.kept h hrun

/-- A call around a fragment that has one itself, beside other values. -/
def nestedFragment : Raw :=
  let column : Value := .condition (.raw ⟨.plain "y", .tuple [] 0, 0⟩)
  let inside : Value := .condition (.raw ⟨.plain "max(?, ?)", .tuple [.int 1 0, column] 0, 0⟩)
  ⟨.plain "f(?, ?)", .tuple [inside, .int 2 0] 0, 0⟩

theorem render_flattened_nested :
    let dialect := Value.dialect .standard 0
    let place := Place.between [.word "WHERE "] [] .here
    let render := fun fragment => ({} : Store).renderPieces .null dialect { bound := [.int 7 0] }
      (place.filled (Condition.raw fragment).layout)
    nestedFragment.Checked ∧ nestedFragment.flattened.text = .plain "f(max(?, y), ?)" ∧
      render nestedFragment = render nestedFragment.flattened ∧
      (render nestedFragment).gives {} fun rendered =>
        rendered.text = "WHERE f(max($2, y), $3)" ∧ rendered.values.length = 3 := by
  intro dialect place render
  have hcolumn : Raw.Checked ⟨.plain "y", .tuple [] 0, 0⟩ :=
    .of_make (show Raw.make (.ofText "y") (.list [] 0) = _ from rfl) fun v hv => nomatch hv
  have hinside : Raw.Checked ⟨.plain "max(?, ?)",
      .tuple [.int 1 0, .condition (.raw ⟨.plain "y", .tuple [] 0, 0⟩)] 0, 0⟩ := by
    refine .mk rfl ?_
    simpa [Value.members, Value.members?, Value.raw?] using hcolumn
  have hchecked : nestedFragment.Checked := by
    refine .mk rfl ?_
    simpa [nestedFragment, Value.members, Value.members?, Value.raw?] using hinside
  obtain ⟨-, -, hrender, -⟩ := render_flattened hchecked
  refine ⟨hchecked, by decide +kernel, ?_, by decide +kernel⟩
  exact (hrender {} .null dialect { bound := [.int 7 0] } .condition).2.1 place

end SqlComposer
