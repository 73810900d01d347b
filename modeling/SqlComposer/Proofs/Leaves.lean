import SqlComposer.Proofs.WrittenAlike

/-!
# Leaves

Pieces stand inside of other pieces, and some of them are written before what stands in front of
them. In the text they come one after the other: each leaf is written as one token, and the leaves
of a list of pieces are in the order of their tokens.
-/

namespace SqlComposer

/-! ## Leaves of pieces -/

mutual

/-- The leaves of a piece, with all items of its streams. A column that is no name is a leaf without
what stands behind it. -/
def Piece.leaves : Piece → List Piece
  | .subselect _ => []
  | .streamed _ items => leavesInItems items
  | .unnamed column behind => .unnamed column [] :: leavesIn behind
  | .lateIdentifier name behind => .identifier name :: leavesIn behind
  | piece => [piece]

def leavesIn : List Piece → List Piece
  | [] => []
  | piece :: pieces => piece.leaves ++ leavesIn pieces

def leavesInItems : List (List Piece) → List Piece
  | [] => []
  | item :: items => leavesIn item ++ leavesInItems items

end

/-- Whether a piece is a leaf of itself, and its only one. -/
def Piece.isLeaf : Piece → Bool
  | .subselect _ | .streamed _ _ | .unnamed _ _ | .lateIdentifier _ _ => false
  | _ => true

mutual

/-- A piece is written as the given leaves. -/
inductive Piece.Spreads : Piece → List Piece → Prop
  | leaf {piece : Piece} : piece.isLeaf → Piece.Spreads piece [piece]
  | subselect (id : SelectId) : Piece.Spreads (.subselect id) []
  | streamed (number : Nat) {items parts : List (List Piece)} : ItemsSpread items parts →
      Piece.Spreads (.streamed number items) (Piece.joined ", " parts)
  | unnamed (column : Value) {behind leaves : List Piece} : Spreads behind leaves →
      Piece.Spreads (.unnamed column behind) (.unnamed column [] :: leaves)
  | lateIdentifier (name : Name) {behind leaves : List Piece} : Spreads behind leaves →
      Piece.Spreads (.lateIdentifier name behind) (.identifier name :: leaves)

/-- Pieces are written as the given leaves. -/
inductive Spreads : List Piece → List Piece → Prop
  | nil : Spreads [] []
  | cons {piece : Piece} {pieces first rest : List Piece} : piece.Spreads first →
      Spreads pieces rest → Spreads (piece :: pieces) (first ++ rest)

/-- Some of the items of a stream are written, each as the given leaves. -/
inductive ItemsSpread : List (List Piece) → List (List Piece) → Prop
  | nil : ItemsSpread [] []
  | gone {item : List Piece} {items parts : List (List Piece)} : ItemsSpread items parts →
      ItemsSpread (item :: items) parts
  | left {item part : List Piece} {items parts : List (List Piece)} : Spreads item part →
      ItemsSpread items parts → ItemsSpread (item :: items) (part :: parts)

end

/-! ## Tokens of leaves -/

/-- One token on each side, and the two belong together. -/
inductive OneEach (related : Token → Token → Prop) : List Token → List Token → Prop
  | intro {t t' : Token} : related t t' → OneEach related [t] [t']

section Leaves

variable (related : Piece → Token → Token → Prop)

/-- Two sequences of tokens for the same leaves, which belong together token by token. -/
inductive Paired : List Piece → List Token → List Token → Prop
  | nil : Paired [] [] []
  | cons {leaf : Piece} {leaves : List Piece} {t t' : Token} {ts ts' : List Token} :
      related leaf t t' → Paired leaves ts ts' → Paired (leaf :: leaves) (t :: ts) (t' :: ts')

variable {related}

theorem Paired.single {leaf : Piece} {t t' : Token} (h : related leaf t t') :
    Paired related [leaf] [t] [t'] :=
  .cons h .nil

theorem Paired.append {leaves more : List Piece} {ts ts' us us' : List Token}
    (h : Paired related leaves ts ts') (hmore : Paired related more us us') :
    Paired related (leaves ++ more) (ts ++ us) (ts' ++ us') := by
  induction h with
  | nil => exact hmore
  | cons hleaf _ ih => exact .cons hleaf ih

/-- Three sequences of parts that belong together part by part. -/
inductive AllPaired (related : Piece → Token → Token → Prop) :
    List (List Piece) → List (List Token) → List (List Token) → Prop
  | nil : AllPaired related [] [] []
  | cons {part : List Piece} {parts : List (List Piece)} {ts ts' : List Token}
      {tss tss' : List (List Token)} : Paired related part ts ts' →
      AllPaired related parts tss tss' → AllPaired related (part :: parts) (ts :: tss) (ts' :: tss')

theorem AllPaired.commaSeparated (hcomma : related (.word ", ") (.text ", ") (.text ", ")) :
    {parts : List (List Piece)} → {tss tss' : List (List Token)} →
    AllPaired related parts tss tss' →
      Paired related (Piece.joined ", " parts) (SqlComposer.commaSeparated tss)
        (SqlComposer.commaSeparated tss')
  | _, _, _, .nil => .nil
  | _, _, _, .cons h .nil => by
      simpa only [Piece.joined, SqlComposer.commaSeparated, List.intercalate_singleton] using h
  | _, _, _, .cons h (.cons hnext hs) => by
      have hrest := AllPaired.commaSeparated hcomma (.cons hnext hs)
      simp only [Piece.joined, SqlComposer.commaSeparated, List.intercalate_cons_cons] at hrest ⊢
      exact (h.append (.single hcomma)).append hrest

open Writing

/-- Two writers come to the same fault for a leaf, or each to one token, and the tokens belong
together. -/
def Piece.PairedBy (related : Piece → Token → Token → Prop) (w w' : Writer) : Piece → Prop
  | .unnamed column _ =>
    Alike (fun d d' => d.isQuoting = d'.isQuoting) (w.dialectFor "quote_char")
        (w'.dialectFor "quote_char") ∧
      Alike (fun s s' => related (.unnamed column []) (.text s) (.text s')) (w.display column)
        (w'.display column)
  | leaf =>
    leaf.isLeaf → Alike (OneEach (related leaf)) (leaf.tokens w) (leaf.tokens w')

variable {w w' : Writer}

theorem Piece.spreads_leaf {leaf : Piece} (hleaf : leaf.isLeaf) (h : leaf.PairedBy related w w') :
    Alike (fun ts ts' => ∃ leaves, leaf.Spreads leaves ∧ Paired related leaves ts ts')
      (leaf.tokens w) (leaf.tokens w') := by
  have hone : Alike (OneEach (related leaf)) (leaf.tokens w) (leaf.tokens w') := by
    cases leaf with
    | unnamed => cases hleaf
    | _ => exact h hleaf
  intro before
  rcases hone before with ⟨_, _, after, hx, hy, ⟨ht⟩⟩ | hfault
  · exact .inl ⟨_, _, after, hx, hy, [leaf], .leaf hleaf, .single ht⟩
  · exact .inr hfault

mutual

/-- A piece comes to tokens that belong together leaf by leaf, if each leaf does. -/
theorem Piece.tokens_paired (hcomma : related (.word ", ") (.text ", ") (.text ", ")) :
    (piece : Piece) → (∀ leaf ∈ piece.leaves, leaf.PairedBy related w w') →
      Alike (fun ts ts' => ∃ leaves, piece.Spreads leaves ∧ Paired related leaves ts ts')
        (piece.tokens w) (piece.tokens w')
  | .subselect id, _ => .pure ⟨[], .subselect id, .nil⟩
  | .streamed number items, h => by
      refine Alike.bind (itemTokens_paired hcomma number 0 items h) ?_
      rintro _ _ ⟨parts, hspread, hparts⟩
      exact .pure ⟨_, .streamed number hspread, hparts.commaSeparated hcomma⟩
  | .unnamed column behind, h => by
      obtain ⟨hquoting, hdisplay⟩ := h _ (List.mem_cons_self ..)
      have hbehind := tokens_paired hcomma behind fun leaf hleaf =>
        h leaf (List.mem_cons_of_mem _ hleaf)
      refine Alike.bind hquoting fun d d' hd => ?_
      rw [hd]
      split
      · exact .bind (R := fun _ _ => False) (.throw _) fun _ _ h => h.elim
      · refine Alike.bind hbehind ?_
        rintro _ _ ⟨leaves, hspread, hleaves⟩
        exact Alike.bind hdisplay fun _ _ hs =>
          .pure ⟨_, .unnamed column hspread, .cons hs hleaves⟩
  | .lateIdentifier name behind, h => by
      have hbehind := tokens_paired hcomma behind fun leaf hleaf =>
        h leaf (List.mem_cons_of_mem _ hleaf)
      have hname : Alike _ ((Piece.identifier name).tokens w) ((Piece.identifier name).tokens w') :=
        h _ (List.mem_cons_self ..) rfl
      -- The name stands in front, so it is put there once it has been written.
      have hfront (w : Writer) : (Piece.lateIdentifier name behind).tokens w = do
          let rest ← tokens w behind
          let first ← (Piece.identifier name).tokens w
          return first ++ rest := by
        simp only [Piece.tokens, bind_assoc, pure_bind, List.cons_append, List.nil_append]
      rw [hfront, hfront]
      refine Alike.bind hbehind ?_
      rintro _ _ ⟨leaves, hspread, hleaves⟩
      refine Alike.bind hname ?_
      rintro _ _ ⟨ht⟩
      exact .pure ⟨_, .lateIdentifier name hspread, .cons ht hleaves⟩
  | .word _, h | .copied _, h | .identifier _, h | .reference _, h | .ordering _, h | .quoted _, h
  | .value _, h | .count _, h | .display _, h | .refused _, h =>
      Piece.spreads_leaf rfl (h _ (List.mem_cons_self ..))

theorem tokens_paired (hcomma : related (.word ", ") (.text ", ") (.text ", ")) :
    (pieces : List Piece) → (∀ leaf ∈ leavesIn pieces, leaf.PairedBy related w w') →
      Alike (fun ts ts' => ∃ leaves, Spreads pieces leaves ∧ Paired related leaves ts ts')
        (tokens w pieces) (tokens w' pieces)
  | [], _ => .pure ⟨[], .nil, .nil⟩
  | piece :: pieces, h => by
      have hpiece := piece.tokens_paired hcomma fun leaf hleaf =>
        h leaf (List.mem_append_left _ hleaf)
      have hpieces := tokens_paired hcomma pieces fun leaf hleaf =>
        h leaf (List.mem_append_right _ hleaf)
      refine Alike.bind hpiece ?_
      rintro _ _ ⟨first, hfirst, hts⟩
      refine Alike.bind hpieces ?_
      rintro _ _ ⟨rest, hrest, hus⟩
      exact .pure ⟨first ++ rest, .cons hfirst hrest, hts.append hus⟩

theorem itemTokens_paired (hcomma : related (.word ", ") (.text ", ") (.text ", "))
    (number position : Nat) : (items : List (List Piece)) →
    (∀ leaf ∈ leavesInItems items, leaf.PairedBy related w w') →
      Alike (fun tss tss' => ∃ parts, ItemsSpread items parts ∧ AllPaired related parts tss tss')
        (itemTokens w number position items) (itemTokens w' number position items)
  | [], _ => .pure ⟨[], .nil, .nil⟩
  | item :: items, h => by
      have hitem := tokens_paired hcomma item fun leaf hleaf =>
        h leaf (List.mem_append_left _ hleaf)
      have hitems := itemTokens_paired hcomma number (position + 1) items fun leaf hleaf =>
        h leaf (List.mem_append_right _ hleaf)
      refine Alike.bind_same fun progress => ?_
      split
      · intro before
        rcases hitems before with ⟨_, _, after, hx, hy, parts, hspread, hparts⟩ | hfault
        · exact .inl ⟨_, _, after, hx, hy, parts, .gone hspread, hparts⟩
        · exact .inr hfault
      · refine Alike.bind_same fun _ => ?_
        refine Alike.bind hitem ?_
        rintro _ _ ⟨part, hpart, hts⟩
        refine Alike.bind hitems ?_
        rintro _ _ ⟨parts, hspread, hparts⟩
        exact .pure ⟨part :: parts, .left hpart hspread, .cons hts hparts⟩

end

end Leaves

end SqlComposer
