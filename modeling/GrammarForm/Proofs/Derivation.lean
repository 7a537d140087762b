import GrammarForm.Proofs.Rendering
import Mathlib.Data.List.Forall2

/-!
# Derivation trees

A derivation tree of a grammar has a symbol at each node.  A symbol that stands for a kind of
value is a leaf with a text of that kind; any other symbol is a node with one of its alternatives,
and below it the trees of the symbols of that alternative that are no keywords.  A node of a form
shows a derivation tree if something is selected in each of its choices.

## Main definitions

* `Derivation`, `Derivation.text` : derivation trees and their texts.
* `Derivation.ValidFor` : the derivation trees of a grammar.
* `Derivation.depth`, `Derivation.subtrees` : the depth of the deepest node, and the subtrees.
* `Node.derivation?`, `Node.Shows` : the derivation tree that a node of a form shows.
* `Node.IsComplete` : a node that is a step of a derivation.

## Main results

* `Node.exists_shows_of_isComplete` : a step of a derivation shows a derivation tree if the nodes
  below do.
-/

namespace GrammarForm

/-- A tree of symbols. -/
inductive Derivation where
  /-- A value. -/
  | leaf (symbol text : String)
  /-- A symbol with the index of one of its alternatives, and the trees of the symbols of that
  alternative that are no keywords. -/
  | choice (symbol : String) (index : Nat) (parts : List Derivation)

namespace Derivation

/-- Induction over trees, from the parts of a node to the node. -/
@[elab_as_elim, induction_eliminator]
theorem induct {motive : Derivation → Prop} (leaf : ∀ symbol text, motive (leaf symbol text))
    (choice : ∀ symbol index parts, (∀ t ∈ parts, motive t) → motive (choice symbol index parts)) :
    ∀ t, motive t
  | .leaf s text => leaf s text
  | .choice s i parts => choice s i parts fun t _ => induct leaf choice t

/-- The symbol at the root. -/
def symbol : Derivation → String
  | leaf s _ => s
  | choice s _ _ => s

mutual

/-- The text of a tree: its values and the keywords of its alternatives, separated by blanks. -/
def text (g : Grammar) : Derivation → String
  | leaf _ s => s
  | choice s i parts =>
    match (g.alternatives (g.startSymbol s))[i]? with
    | some p => " ".intercalate (p.words (textsOf g parts))
    | none => ""

/-- The texts of several trees. -/
def textsOf (g : Grammar) : List Derivation → List String
  | [] => []
  | t :: rest => t.text g :: textsOf g rest

end

mutual

/-- The depth of the deepest node, the root being at depth zero. -/
def depth : Derivation → Nat
  | leaf _ _ => 0
  | choice _ _ parts => depthBelow parts

/-- The depth of the deepest node below a node with several parts. -/
def depthBelow : List Derivation → Nat
  | [] => 0
  | t :: rest => max (t.depth + 1) (depthBelow rest)

end

mutual

/-- The subtrees of a tree, the tree itself first. -/
def subtrees : Derivation → List Derivation
  | leaf s text => [leaf s text]
  | choice s i parts => choice s i parts :: subtreesBelow parts

/-- The subtrees of several trees. -/
def subtreesBelow : List Derivation → List Derivation
  | [] => []
  | t :: rest => t.subtrees ++ subtreesBelow rest

end

/-- A tree is a derivation tree of a grammar: its values are accepted by their kinds, and the
symbols below a node are those of its alternative that are no keywords. -/
inductive ValidFor (g : Grammar) : Derivation → Prop
  | leaf {s text : String} {kind : ValueKind}
      (hkind : ValueKind.ofPlaceholder? (g.startSymbol s) = some kind)
      (haccepts : kind.accepts text = true) : ValidFor g (.leaf s text)
  | choice {s : String} {i : Nat} {p : Production} {parts : List Derivation}
      (hp : (g.alternatives (g.startSymbol s))[i]? = some p)
      (hsymbols : parts.map symbol = p.slotNames)
      (hparts : ∀ t ∈ parts, ValidFor g t) : ValidFor g (.choice s i parts)

theorem textsOf_eq_map (g : Grammar) : (ts : List Derivation) → textsOf g ts = ts.map (text g)
  | [] => rfl
  | t :: rest => by rw [textsOf, textsOf_eq_map g rest, List.map_cons]

theorem text_choice {g : Grammar} {s : String} {i : Nat} {p : Production}
    {parts : List Derivation} (hp : (g.alternatives (g.startSymbol s))[i]? = some p) :
    (choice s i parts).text g = " ".intercalate (p.words (parts.map (text g))) := by
  rw [text, hp, textsOf_eq_map]

/-- A choice is a derivation tree if its parts are and stand for the slots of its alternative. -/
theorem ValidFor.choice_of_slotNames {g : Grammar} {s : String} {i : Nat}
    {parts : List Derivation}
    (hslots : ((g.alternatives (g.startSymbol s))[i]?).map Production.slotNames =
      some (parts.map symbol))
    (hparts : ∀ t ∈ parts, ValidFor g t) : ValidFor g (.choice s i parts) := by
  obtain ⟨p, hp, hsymbols⟩ := Option.map_eq_some_iff.mp hslots
  exact .choice hp hsymbols.symm hparts

theorem subtreesBelow_eq_flatMap :
    (ts : List Derivation) → subtreesBelow ts = ts.flatMap subtrees
  | [] => rfl
  | t :: rest => by rw [subtreesBelow, subtreesBelow_eq_flatMap rest, List.flatMap_cons]

theorem subtrees_choice (s : String) (i : Nat) (parts : List Derivation) :
    (choice s i parts).subtrees = choice s i parts :: parts.flatMap subtrees := by
  rw [subtrees, subtreesBelow_eq_flatMap]

theorem depth_lt_of_mem {s : String} {i : Nat} {t : Derivation} :
    {parts : List Derivation} → t ∈ parts → t.depth < (choice s i parts).depth
  | u :: rest, h => by
    rw [depth, depthBelow]
    rcases List.mem_cons.mp h with rfl | h
    · omega
    · have hrest := depth_lt_of_mem (s := s) (i := i) h
      rw [depth] at hrest
      omega

end Derivation

/-! ### Lists in step -/

section InStep

variable {α β : Type} {R : α → β → Prop} {l : List α} {l' : List β}

theorem forall₂_of_getElem? (hlength : l.length = l'.length)
    (h : ∀ (i : Nat) (x : α) (y : β), l[i]? = some x → l'[i]? = some y → R x y) :
    List.Forall₂ R l l' :=
  List.forall₂_of_length_eq_of_get hlength fun i hi hi' =>
    h i _ _ (List.getElem?_eq_getElem hi) (List.getElem?_eq_getElem hi')

theorem rel_of_getElem? (h : List.Forall₂ R l l') {i : Nat} {x : α} {y : β}
    (hx : l[i]? = some x) (hy : l'[i]? = some y) : R x y := by
  obtain ⟨hi, rfl⟩ := List.getElem?_eq_some_iff.mp hx
  obtain ⟨hi', rfl⟩ := List.getElem?_eq_some_iff.mp hy
  exact h.get hi hi'

theorem exists_rel_of_mem (h : List.Forall₂ R l l') {y : β} (hy : y ∈ l') : ∃ x ∈ l, R x y := by
  obtain ⟨i, hi, rfl⟩ := List.mem_iff_getElem.mp hy
  have hi' : i < l.length := h.length_eq ▸ hi
  exact ⟨l[i], List.getElem_mem hi', h.get hi' hi⟩

theorem exists_forall₂ : {l : List α} → (∀ x ∈ l, ∃ y, R x y) → ∃ l', List.Forall₂ R l l'
  | [], _ => ⟨[], .nil⟩
  | x :: l, h => by
    obtain ⟨y, hy⟩ := h x (List.mem_cons_self ..)
    obtain ⟨l', hl'⟩ := exists_forall₂ fun z hz => h z (List.mem_cons_of_mem x hz)
    exact ⟨y :: l', .cons hy hl'⟩

theorem map_eq_map_of_forall₂ {γ : Type} {f : α → γ} {f' : β → γ}
    (h : List.Forall₂ (fun x y => f x = f' y) l l') : l.map f = l'.map f' := by
  induction h with
  | nil => rfl
  | cons hxy _ ih => rw [List.map_cons, List.map_cons, hxy, ih]

theorem forall_mem_iff_of_forall₂ {P : α → Prop} {Q : β → Prop} (h : List.Forall₂ R l l')
    (hiff : ∀ x ∈ l, ∀ y, R x y → (P x ↔ Q y)) : (∀ x ∈ l, P x) ↔ ∀ y ∈ l', Q y := by
  induction h with
  | nil => simp
  | cons hxy _ ih =>
    rw [List.forall_mem_cons, List.forall_mem_cons, hiff _ (List.mem_cons_self ..) _ hxy,
      ih fun x hx => hiff x (List.mem_cons_of_mem _ hx)]

theorem forall₂_set {S : α → α → Prop} (hrefl : ∀ z, S z z) {i : Nat} {x y : α}
    (hx : l[i]? = some x) (h : S x y) : List.Forall₂ S l (l.set i y) := by
  refine forall₂_of_getElem? List.length_set.symm fun j z w hz hw => ?_
  rw [List.getElem?_set] at hw
  split at hw
  next hij =>
    subst hij
    rw [if_pos (List.getElem?_eq_some_iff.mp hx).1] at hw
    cases hx.symm.trans hz
    cases hw
    exact h
  next =>
    cases hz.symm.trans hw
    exact hrefl z

end InStep

/-! ### The tree that a node shows -/

namespace Node

mutual

/-- The derivation tree that a node shows; none if nothing is selected in one of its choices. -/
def derivation? : Node → Option Derivation
  | ⟨_, symbol, _, _, _, widget, children, _, _, _⟩ =>
    match widget with
    | some (.text value _ _) => some (.leaf symbol value)
    | some (.choice _ (some i) _ _) => (derivationsOf? children).map (.choice symbol i)
    | _ => none

/-- The derivation trees that several nodes show. -/
def derivationsOf? : List Node → Option (List Derivation)
  | [] => some []
  | n :: rest => n.derivation?.bind fun t => (derivationsOf? rest).map (t :: ·)

end

theorem derivation?_text {n : Node} {value : String} {kind : ValueKind} {valid : Bool}
    (h : n.widget = some (.text value kind valid)) :
    n.derivation? = some (.leaf n.symbol value) := by
  cases n
  cases h
  rfl

theorem derivation?_choice {n : Node} {offers : List Offer} {i : Nat} {tip : String} {off : Bool}
    (h : n.widget = some (.choice offers (some i) tip off)) :
    n.derivation? = (derivationsOf? n.children).map (.choice n.symbol i) := by
  cases n
  cases h
  rfl

/-- Several nodes show trees exactly if each of them does. -/
theorem derivationsOf?_eq_some_iff {ns : List Node} : {ts : List Derivation} →
    (derivationsOf? ns = some ts ↔ List.Forall₂ (fun n t => n.derivation? = some t) ns ts) := by
  induction ns with
  | nil =>
    intro ts
    rw [derivationsOf?, Option.some.injEq, List.forall₂_nil_left_iff]
    exact eq_comm
  | cons n rest ih =>
    intro ts
    rw [derivationsOf?, Option.bind_eq_some_iff, List.forall₂_cons_left_iff]
    refine exists_congr fun t => ?_
    simp only [Option.map_eq_some_iff, ih]
    constructor
    · rintro ⟨ht, ts', hts, rfl⟩
      exact ⟨ts', ht, hts, rfl⟩
    · rintro ⟨ts', ht, hts, rfl⟩
      exact ⟨ht, ts', hts, rfl⟩

/-- A node that shows a choice has the index selected, and its children show the parts. -/
theorem of_derivation?_eq_choice {n : Node} {s : String} {i : Nat} {parts : List Derivation}
    (h : n.derivation? = some (.choice s i parts)) :
    n.symbol = s ∧ (∃ offers tip off, n.widget = some (.choice offers (some i) tip off)) ∧
      derivationsOf? n.children = some parts := by
  obtain ⟨key, symbol, path, tooltip, showLabel, widget, children, text, valid, issue⟩ := n
  rcases widget with _ | ⟨value, kind, ok⟩ | ⟨offers, _ | j, tip, off⟩
  · exact nomatch h
  · exact nomatch h
  · exact nomatch h
  · rw [derivation?_choice rfl] at h
    obtain ⟨parts', hparts, heq⟩ := Option.map_eq_some_iff.mp h
    cases heq
    exact ⟨rfl, ⟨offers, tip, off, rfl⟩, hparts⟩

/-- **Each part of a shown tree is shown** by a node below. -/
theorem exists_mem_nodes_of_mem_subtrees {t u : Derivation} : ∀ {n : Node},
    n.derivation? = some t → u ∈ t.subtrees → ∃ m ∈ n.nodes, m.derivation? = some u := by
  induction t with
  | leaf s text =>
    intro n h hu
    cases List.mem_singleton.mp hu
    exact ⟨n, n.self_mem_nodes, h⟩
  | choice s i parts ih =>
    intro n h hu
    rw [Derivation.subtrees_choice] at hu
    rcases List.mem_cons.mp hu with rfl | hu
    · exact ⟨n, n.self_mem_nodes, h⟩
    · obtain ⟨t, ht, hu⟩ := List.mem_flatMap.mp hu
      have hparts := derivationsOf?_eq_some_iff.mp (of_derivation?_eq_choice h).2.2
      obtain ⟨c, hc, hct⟩ := exists_rel_of_mem hparts ht
      obtain ⟨m, hm, hmu⟩ := ih t ht hct hu
      rw [nodes_eq]
      exact ⟨m, List.mem_cons_of_mem _ (List.mem_flatMap_of_mem hc hm), hmu⟩

/-- A node shows a derivation tree of a grammar: it has its tree, its symbol and its text. -/
structure Shows (g : Grammar) (n : Node) (t : Derivation) : Prop where
  tree : n.derivation? = some t
  symbol : t.symbol = n.symbol
  valid : t.ValidFor g
  text : t.text g = n.text

/-- A node is a step of a derivation: a leaf with a text that its kind accepts, or a choice with
a selected alternative, whose children stand for the symbols of the alternative that are no
keywords, and whose text has their texts in place of these symbols. -/
def IsComplete (g : Grammar) (n : Node) : Prop :=
  match ValueKind.ofPlaceholder? (g.startSymbol n.symbol) with
  | some kind =>
    n.widget = some (.text n.text kind true) ∧ kind.accepts n.text = true ∧ n.children = []
  | none =>
    ∃ offers i tip off p, n.widget = some (.choice offers (some i) tip off) ∧
      (g.alternatives (g.startSymbol n.symbol))[i]? = some p ∧
      n.children.map (·.symbol) = p.slotNames ∧
      n.text = " ".intercalate (p.words (n.children.map (·.text)))

/-- Nodes that show trees one by one show them together. -/
theorem forall₂_shows {g : Grammar} {ns : List Node} {ts : List Derivation}
    (h : List.Forall₂ (Shows g) ns ts) :
    derivationsOf? ns = some ts ∧ ts.map Derivation.symbol = ns.map (·.symbol) ∧
      ts.map (Derivation.text g) = ns.map (·.text) ∧ ∀ t ∈ ts, t.ValidFor g := by
  refine ⟨derivationsOf?_eq_some_iff.mpr (h.imp fun _ _ hn => hn.tree),
    (map_eq_map_of_forall₂ (h.imp fun _ _ hn => hn.symbol.symm)).symm,
    (map_eq_map_of_forall₂ (h.imp fun _ _ hn => hn.text.symm)).symm, ?_⟩
  exact (forall_mem_iff_of_forall₂ h fun _ _ _ hn => iff_of_true trivial hn.valid).mp
    fun _ _ => trivial

/-- **A step of a derivation shows a derivation tree** if the nodes below do. -/
theorem exists_shows_of_isComplete {g : Grammar} {n : Node} (h : n.IsComplete g)
    (hchildren : ∀ c ∈ n.children, ∃ t, c.Shows g t) : ∃ t, n.Shows g t := by
  rw [IsComplete] at h
  split at h
  next kind hkind =>
    obtain ⟨hwidget, haccepts, -⟩ := h
    exact ⟨.leaf n.symbol n.text, derivation?_text hwidget, rfl, .leaf hkind haccepts, rfl⟩
  next =>
    obtain ⟨offers, i, tip, off, p, hwidget, hp, hsymbols, htext⟩ := h
    obtain ⟨parts, hparts⟩ := exists_forall₂ hchildren
    obtain ⟨htrees, hpartSymbols, htexts, hvalid⟩ := forall₂_shows hparts
    refine ⟨.choice n.symbol i parts, ?_, rfl, .choice hp (hpartSymbols.trans hsymbols) hvalid, ?_⟩
    · rw [derivation?_choice hwidget, htrees, Option.map_some]
    · rw [Derivation.text_choice hp, htexts, htext]

end Node

end GrammarForm
