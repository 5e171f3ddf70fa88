import Mathlib.Data.List.Lex
import SignedRest.Xml.Node

/-! Searching a tree by name. The address of a node says which child to enter at each level, and a
document has its nodes in the order of their addresses: an element stands before what is in it, and
all of one child before the next. A search gives the first node of its name in that order. -/
namespace SignedRest.Xml.Node

/-- What holds of a node whenever it holds of its children holds of all. -/
@[elab_as_elim]
theorem induct {p : Node → Prop}
    (step : ∀ root : Node, (∀ child ∈ root.children, p child) → p root) (root : Node) : p root :=
  Node.rec (motive_1 := p) (motive_2 := fun nodes => ∀ n ∈ nodes, p n)
    (fun _ _ _ _ inside => step _ inside) (by simp)
    (fun _ _ first others => List.forall_mem_cons.mpr ⟨first, others⟩) root

mutual

/-- A node, and then what is in it. -/
def preorder : Node → List Node
  | element n attrs content children => element n attrs content children :: preorderIn children

def preorderIn : List Node → List Node
  | [] => []
  | child :: rest => preorder child ++ preorderIn rest

end

def at? (root : Node) : List Nat → Option Node
  | [] => some root
  | i :: rest => root.children[i]?.bind fun child => child.at? rest

theorem at?_cons_eq_some_iff {root m : Node} {i : Nat} {rest : List Nat} :
    root.at? (i :: rest) = some m ↔
      ∃ child, root.children[i]? = some child ∧ child.at? rest = some m := by
  simp [at?, Option.bind_eq_some_iff]

theorem preorderIn_eq (nodes : List Node) : preorderIn nodes = nodes.flatMap preorder := by
  induction nodes with
  | nil => simp [preorderIn]
  | cons n nodes ih => simp [preorderIn, ih]

theorem preorder_eq (root : Node) : preorder root = root :: root.children.flatMap preorder := by
  cases root
  simp [preorder, preorderIn_eq]

theorem mem_preorder_iff {m root : Node} :
    m ∈ preorder root ↔ ∃ address, root.at? address = some m := by
  induction root using induct with
  | step root ih =>
    simp only [preorder_eq root, List.mem_cons, List.mem_flatMap]
    constructor
    · rintro (rfl | ⟨child, mem, inside⟩)
      · exact ⟨[], rfl⟩
      · obtain ⟨address, found⟩ := (ih child mem).mp inside
        obtain ⟨i, place⟩ := List.getElem?_of_mem mem
        exact ⟨i :: address, at?_cons_eq_some_iff.mpr ⟨child, place, found⟩⟩
    · rintro ⟨address, found⟩
      cases address with
      | nil => exact .inl (Option.some.inj found).symm
      | cons i rest =>
        obtain ⟨child, place, found⟩ := at?_cons_eq_some_iff.mp found
        have mem := List.mem_of_getElem? place
        exact .inr ⟨child, mem, (ih child mem).mpr ⟨rest, found⟩⟩

theorem findIn?_eq (name : String) (nodes : List Node) :
    findIn? name nodes = nodes.findSome? (find? name) := by
  induction nodes with
  | nil => simp [findIn?]
  | cons n nodes ih => cases h : find? name n <;> simp [findIn?, h, ih]

theorem find?_eq (name : String) (root : Node) :
    find? name root =
      if root.name = name then some root else root.children.findSome? (find? name) := by
  cases root with
  | element n attrs content children =>
    rw [find?, findIn?_eq]
    rfl

theorem find?_self {name : String} {root : Node} (named : root.name = name) :
    find? name root = some root := by
  simp [find?_eq, named]

/-- What a search finds in the children is what it finds in the first of them that has it. -/
theorem find?_split {name : String} {root child : Node} {before after : List Node}
    (split : root.children = before ++ child :: after) (other : root.name ≠ name)
    (missed : ∀ n ∈ before, find? name n = none) (hit : find? name child ≠ none) :
    find? name root = find? name child := by
  have unfound : before.findSome? (find? name) = none := List.findSome?_eq_none_iff.mpr missed
  obtain ⟨found, hit⟩ := Option.ne_none_iff_exists'.mp hit
  simp [find?_eq name root, other, split, List.findSome?_append, unfound, hit]

theorem find?_eq_head? (name : String) (root : Node) :
    find? name root = ((preorder root).filter (·.name = name)).head? := by
  induction root using induct with
  | step root ih =>
    rw [find?_eq, preorder_eq, List.head?_filter]
    by_cases named : root.name = name
    · simp [named]
    · simp only [named, if_false, decide_false, Bool.false_eq_true, not_false_eq_true,
        List.find?_cons_of_neg, List.find?_flatMap]
      have inside : ∀ child ∈ root.children,
          find? name child = (preorder child).find? (·.name = name) := by
        intro child mem
        rw [ih child mem, List.head?_filter]
      generalize root.children = children at inside
      induction children with
      | nil => rfl
      | cons child rest more => simp_all [List.findSome?_cons]

theorem find?_eq_none_iff {name : String} {root : Node} :
    find? name root = none ↔ ∀ address m, root.at? address = some m → m.name ≠ name := by
  simp only [find?_eq_head?, List.head?_eq_none_iff, List.filter_eq_nil_iff, mem_preorder_iff,
    decide_eq_true_eq, forall_exists_index]
  exact forall_comm

/-- A node of a name, before which no other has it. -/
structure FirstAt (name : String) (root : Node) (address : List Nat) (found : Node) : Prop where
  here : root.at? address = some found
  named : found.name = name
  first : ∀ earlier m, earlier < address → root.at? earlier = some m → m.name ≠ name

theorem FirstAt.unique {name : String} {root m n : Node} {a b : List Nat}
    (h : FirstAt name root a m) (h' : FirstAt name root b n) : m = n := by
  rcases lt_trichotomy a b with less | same | more
  · exact absurd h.named (h'.first a m less h.here)
  · have here := h.here
    rw [same, h'.here] at here
    exact (Option.some.inj here).symm
  · exact absurd h'.named (h.first b n more h'.here)

theorem exists_firstAt {name : String} {root found : Node} (h : find? name root = some found) :
    ∃ address, FirstAt name root address found := by
  induction root using induct with
  | step root ih =>
    by_cases named : root.name = name
    · rw [find?_self named] at h
      cases h
      exact ⟨[], rfl, named, fun earlier m less => absurd less (List.not_lt_nil earlier)⟩
    · rw [find?_eq, if_neg named, List.findSome?_eq_some_iff] at h
      obtain ⟨before, child, after, split, hit, missed⟩ := h
      obtain ⟨address, here, own, first⟩ := ih child (by simp [split]) hit
      have place : root.children[before.length]? = some child := by simp [split]
      refine ⟨before.length :: address, at?_cons_eq_some_iff.mpr ⟨child, place, here⟩, own, ?_⟩
      intro earlier m sooner there
      -- an earlier address is the root's, one in an earlier child, or an earlier one in this child
      cases earlier with
      | nil =>
        cases there
        exact named
      | cons i rest =>
        obtain ⟨child', place', there⟩ := at?_cons_eq_some_iff.mp there
        rcases List.cons_lt_cons_iff.mp sooner with less | ⟨rfl, less⟩
        · have mem : child' ∈ before := by
            rw [split, List.getElem?_append_left less] at place'
            exact List.mem_of_getElem? place'
          exact find?_eq_none_iff.mp (missed child' mem) rest m there
        · rw [place] at place'
          cases place'
          exact first rest m less there

theorem find?_eq_some_iff {name : String} {root found : Node} :
    find? name root = some found ↔ ∃ address, FirstAt name root address found := by
  refine ⟨exists_firstAt, ?_⟩
  rintro ⟨address, h⟩
  cases searched : find? name root with
  | none => exact absurd h.named (find?_eq_none_iff.mp searched address found h.here)
  | some m =>
    obtain ⟨_, first⟩ := exists_firstAt searched
    rw [first.unique h]

/-- A search gives the first node of its name, and none only where there is none. What it finds in
one child comes before all that is in later ones, however deep it stands; and the node that it
finds is what it finds from there. -/
theorem find?_first (name : String) (root : Node) :
    find? name root = ((preorder root).filter (·.name = name)).head? ∧
    (∀ found, find? name root = some found ↔ ∃ address, FirstAt name root address found) ∧
    (find? name root = none ↔ ∀ address m, root.at? address = some m → m.name ≠ name) ∧
    (∀ before child after, root.children = before ++ child :: after → root.name ≠ name →
      (∀ n ∈ before, find? name n = none) → find? name child ≠ none →
        find? name root = find? name child) ∧
    ∀ found, find? name root = some found → find? name found = some found := by
  refine ⟨find?_eq_head? name root, fun _ => find?_eq_some_iff, find?_eq_none_iff, ?_, ?_⟩
  · intro before child after split other missed hit
    exact find?_split split other missed hit
  · intro found h
    obtain ⟨_, first⟩ := exists_firstAt h
    exact find?_self first.named

def deepItem : Node := .element "item" [("id", "1")] none []
def highItem : Node := .element "item" [("id", "2")] none []

def itemTree : Node :=
  .element "rsp" [] none
    [.element "user" [] none [.element "name" [] (some "Bees") [], deepItem], highItem]

theorem itemTree_first :
    itemTree.at? [0, 1] = some deepItem ∧ itemTree.at? [1] = some highItem ∧
      find? "item" itemTree = some deepItem ∧ find? "item" deepItem = some deepItem ∧
      ∃ address, FirstAt "item" itemTree address deepItem := by
  obtain ⟨-, first, -, prefers, again⟩ := find?_first "item" itemTree
  have hit : find? "item" itemTree = some deepItem :=
    prefers [] _ [highItem] rfl (by decide) (by simp) (by simp [find?, findIn?, deepItem])
  exact ⟨rfl, rfl, hit, again deepItem hit, (first deepItem).mp hit⟩

end SignedRest.Xml.Node
