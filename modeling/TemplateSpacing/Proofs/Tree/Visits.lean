import TemplateSpacing.Proofs.Tree.Traversal

/-! # Walks by recursion

A walk by recursion whose visits see a node with what is below it is a run of the walk with a stack: it
makes the same calls and leaves the same tree.  So what it has visited at the end are the nodes of the
tree that it leaves, in order.
-/

set_option autoImplicit false

namespace TemplateSpacing.Tree

open Node (walkOrder walkOrderAll)

namespace Node

mutual

/-- The labels of a tree with those of the nodes above them: a node before everything below it, and what
is below it from the first to the last. -/
def family (parent : Option Label) : Node → List (Label × Option Label)
  | ⟨label, kids⟩ => (label, parent) :: familyAll (some label) kids

def familyAll (parent : Option Label) : List Node → List (Label × Option Label)
  | [] => []
  | kid :: rest => family parent kid ++ familyAll parent rest

end

theorem familyAll_eq (parent : Option Label) (kids : List Node) :
    familyAll parent kids = kids.flatMap (family parent) := by
  induction kids with
  | nil => rfl
  | cons kid rest ih => rw [familyAll, ih, List.flatMap_cons]

theorem length_family (parent : Option Label) (node : Node) :
    (node.family parent).length = node.size := by
  induction node using Node.induction generalizing parent with
  | step label kids below =>
      have all : (familyAll (some label) kids).length = sizeAll kids := by
        induction kids with
        | nil => rfl
        | cons kid rest ih =>
            rw [familyAll, List.length_append, below kid List.mem_cons_self, sizeAll,
              ih fun kid member => below kid (List.mem_cons_of_mem _ member)]
      rw [family, List.length_cons, all, size]

/-- What nodes become is no deeper than a node with what they become below it allows. -/
theorem depth_le_of_map {become : Node → Node} {label : Label} {kids : List Node} {fuel : Nat}
    (enough : (Node.mk label (kids.map become)).depth ≤ fuel + 1) {kid : Node} (member : kid ∈ kids) :
    (become kid).depth ≤ fuel := by
  rw [Node.depth, Nat.add_le_add_iff_right] at enough
  exact Nat.le_trans (depth_le_depthOfKids (List.mem_map_of_mem member)) enough

end Node

def Visit.visitor (visit : Visit) : Visitor Unit := fun _ tree position parent =>
  ((), tree.modifyAt
    (fun node => (visit ((parent.bind fun above => tree.at? above).map Node.label) node).state) position)

section WalkAll

variable {step : Node → Outcome Walked} {nodes : List Node}

/-- Walks one after the other that have come to their ends. -/
theorem walkAll_of_done (done : (walkAll step nodes).fault = none) :
    (∀ node ∈ nodes, (step node).fault = none) ∧
      (walkAll step nodes).state.nodes = nodes.map (fun node => (step node).state.node) ∧
      (walkAll step nodes).state.visited = nodes.flatMap fun node => (step node).state.visited := by
  induction nodes with
  | nil => exact ⟨nofun, rfl, rfl⟩
  | cons node rest ih =>
      rw [walkAll] at done
      cases own : (step node).fault with
      | some fault =>
          simp only [own, Outcome.map] at done
          cases done
      | none =>
          simp only [own] at done
          obtain ⟨all, made, visited⟩ := ih done
          refine ⟨List.forall_mem_cons.mpr ⟨own, all⟩, ?_, ?_⟩
          · simp only [walkAll, own, made, List.map_cons]
          · simp only [walkAll, own, visited, List.flatMap_cons]

end WalkAll

/-- What a walk with fuel left does at a node, if it comes to its end. -/
theorem walk_of_done {visit : Visit} {fuel : Nat} {parent : Option Label} {node : Node}
    (done : (walk visit (fuel + 1) parent node).fault = none) :
    ∃ label kids, (visit parent node).state = ⟨label, kids⟩ ∧ label.kind.isKnown = true ∧
      (∀ kid ∈ kids, (walk visit fuel (some label) kid).fault = none) ∧
      (walk visit (fuel + 1) parent node).state.node =
        ⟨label, kids.map fun kid => (walk visit fuel (some label) kid).state.node⟩ ∧
      (walk visit (fuel + 1) parent node).state.visited =
        (label, parent) :: kids.flatMap fun kid => (walk visit fuel (some label) kid).state.visited := by
  cases made : (visit parent node).state with
  | mk label kids =>
      rw [walk] at done ⊢
      cases own : (visit parent node).fault with
      | some fault =>
          simp only [own] at done
          cases done
      | none =>
          cases known : label.kind.isKnown with
          | false =>
              simp [own, made, known] at done
          | true =>
              simp only [own, made, known, if_true] at done ⊢
              obtain ⟨all, nodes, visited⟩ := walkAll_of_done done
              exact ⟨label, kids, rfl, known, all, by rw [nodes], by rw [visited]⟩

/-- What a walk has visited, when it comes to its end with fuel enough for the tree that it leaves. -/
theorem visited_walk {visit : Visit} {fuel : Nat} {parent : Option Label} {node : Node}
    (done : (walk visit fuel parent node).fault = none)
    (enough : (walk visit fuel parent node).state.node.depth ≤ fuel) :
    (walk visit fuel parent node).state.visited =
      (walk visit fuel parent node).state.node.family parent := by
  induction fuel generalizing parent node with
  | zero =>
      cases node with
      | mk label kids => simp [walk, Outcome.done, Node.depth] at enough
  | succ fuel ih =>
      obtain ⟨label, kids, _, _, all, made, visited⟩ := walk_of_done done
      rw [made] at enough
      rw [made, visited, Node.family, Node.familyAll_eq, List.flatMap_map]
      congr 1
      apply List.flatMap_congr
      intro kid member
      exact ih (all kid member) (Node.depth_le_of_map enough member)

/-! ## Runs -/

section Runs

variable {visit : Visit}

/-- The walk with a stack comes past an entry of the stack: it leaves another node there, and has made
the calls that visit that node and everything below it. -/
def Passes (visit : Visit) (tree made : Node) (entry : Position × Option Position) : Prop :=
  ∀ rest calls, ∃ count, Walking.rounds visit.visitor count ⟨(), tree, entry :: rest, calls⟩ =
    .ok ⟨(), tree.plant entry.1 made, rest, calls ++ walkOrder entry.1 entry.2 made⟩

/-- Nodes side by side are passed one after the other. -/
theorem rounds_siblings (visit : Visit) {position : Position} (label : Label) {tree : Node}
    (become : Node → Node)
    (present : ∃ node, tree.at? position = some node) (front kids : List Node)
    (each : ∀ kid ∈ kids, ∀ (whole : Node) (place : Nat) (top : Node),
      whole.at? (position ++ [place]) = some kid → whole.at? position = some top → top.label = label →
        Passes visit whole (become kid) (position ++ [place], some position))
    (rest calls : List (Position × Option Position)) :
    ∃ count, Walking.rounds visit.visitor count
        ⟨(), tree.plant position ⟨label, front ++ kids⟩,
          Walking.seats position front.length kids.length ++ rest, calls⟩ =
      .ok ⟨(), tree.plant position ⟨label, front ++ kids.map become⟩, rest,
        calls ++ walkOrderAll position front.length (kids.map become)⟩ := by
  induction kids generalizing front calls with
  | nil =>
      refine ⟨0, ?_⟩
      simp [Walking.rounds, Walking.seats, Node.walkOrderAll]
  | cons kid later ih =>
      obtain ⟨old, found⟩ := present
      have top : (tree.plant position ⟨label, front ++ kid :: later⟩).at? position =
          some ⟨label, front ++ kid :: later⟩ := by
        rw [Node.plant, Node.at?_modifyAt, found]
        rfl
      have here : (tree.plant position ⟨label, front ++ kid :: later⟩).at?
          (position ++ [front.length]) = some kid := by
        rw [Node.at?_append, top, Option.bind_some, Node.at?]
        simp [Node.at?]
      obtain ⟨first, goes⟩ := each kid List.mem_cons_self _ front.length _ here top rfl
        (Walking.seats position (front.length + 1) later.length ++ rest) calls
      obtain ⟨last, ends⟩ := ih (front ++ [become kid])
        (fun kid member => each kid (List.mem_cons_of_mem _ member))
        (calls ++ walkOrder (position ++ [front.length]) (some position) (become kid))
      simp only [Node.plant_below] at goes
      rw [List.append_assoc, List.length_append, List.length_singleton, List.cons_append,
        List.nil_append] at ends
      refine ⟨first + last, ?_⟩
      rw [Walking.seats, List.length_cons, List.range'_succ, List.map_cons, List.cons_append]
      refine (Walking.rounds_add goes ends).trans ?_
      simp only [List.map_cons, Node.walkOrderAll, List.append_assoc, List.cons_append,
        List.nil_append]

/-- A walk that comes to its end, with fuel enough for the tree that it leaves, is a run of the walk with a
stack. -/
theorem passes_walk {fuel : Nat} {parent : Option Label} {node : Node}
    (done : (walk visit fuel parent node).fault = none)
    (enough : (walk visit fuel parent node).state.node.depth ≤ fuel) {tree : Node}
    {entry : Position × Option Position} (found : tree.at? entry.1 = some node)
    (named : (entry.2.bind fun above => tree.at? above).map Node.label = parent) :
    Passes visit tree (walk visit fuel parent node).state.node entry := by
  induction fuel generalizing parent node tree entry with
  | zero =>
      cases node with
      | mk label kids => simp [walk, Outcome.done, Node.depth] at enough
  | succ fuel ih =>
      obtain ⟨label, kids, state, known, all, made, _⟩ := walk_of_done done
      rw [made] at enough
      intro rest calls
      have called : visit.visitor () tree entry.1 entry.2 = ((), tree.plant entry.1 ⟨label, kids⟩) := by
        rw [Visit.visitor, named, Node.modifyAt_eq_plant found, state]
      have here : (tree.plant entry.1 ⟨label, kids⟩).at? entry.1 = some ⟨label, kids⟩ := by
        rw [Node.plant, Node.at?_modifyAt, found]
        rfl
      have first : Walking.rounds visit.visitor 1 ⟨(), tree, entry :: rest, calls⟩ =
          .ok ⟨(), tree.plant entry.1 ⟨label, kids⟩, Walking.seats entry.1 0 kids.length ++ rest,
            calls ++ [entry]⟩ := by
        simp only [Walking.rounds, Walking.round, called, here, Node.walkedKids, known, if_true]
        rfl
      obtain ⟨count, others⟩ := rounds_siblings visit label
        (fun kid => (walk visit fuel (some label) kid).state.node) ⟨node, found⟩ [] kids
        (fun kid member whole place top inWhole above same =>
          ih (all kid member) (Node.depth_le_of_map enough member) inWhole
            (by simp only [Option.bind_some, above, Option.map_some, same]))
        rest (calls ++ [entry])
      refine ⟨1 + count, (Walking.rounds_add first others).trans ?_⟩
      rw [made, Node.walkOrder_eq]
      simp only [List.nil_append, List.length_nil, List.append_assoc, List.cons_append]

/-- A walk through a whole tree that comes to its end, with fuel enough for the tree that it leaves, makes
the calls of the walk with a stack and leaves the same tree; what it has visited are the nodes of that
tree in order. -/
theorem exists_rounds_walk (visit : Visit) (fuel : Nat) (tree : Node)
    (done : (walk visit fuel none tree).fault = none)
    (enough : (walk visit fuel none tree).state.node.depth ≤ fuel) :
    (∃ count, Walking.rounds visit.visitor count (.start () tree) =
        .ok ⟨(), (walk visit fuel none tree).state.node, [],
          (walk visit fuel none tree).state.node.preOrder⟩) ∧
      (walk visit fuel none tree).state.visited =
        (walk visit fuel none tree).state.node.family none := by
  refine ⟨?_, visited_walk done enough⟩
  have passes : Passes visit tree (walk visit fuel none tree).state.node ([], none) :=
    passes_walk done enough rfl rfl
  exact passes [] []

end Runs

end TemplateSpacing.Tree
