import Mathlib.Data.List.Infix
import TemplateSpacing.Proofs.Tree.View
import TemplateSpacing.Tree.Position

/-! # Looking up and changing what is at a position

The positions of a tree in the order of a walk are all different, and a change at a position changes
that order only at the position and below it.
-/

set_option autoImplicit false

namespace TemplateSpacing

/-- An item at an index has items in front of it and behind it. -/
theorem exists_split_of_getElem? {α : Type} {items : List α} {index : Nat} {item : α}
    (here : items[index]? = some item) :
    ∃ front back, items = front ++ item :: back ∧ front.length = index := by
  induction items generalizing index with
  | nil => cases here
  | cons first rest ih =>
      cases index with
      | zero =>
          obtain rfl := Option.some.inj here
          exact ⟨[], rest, rfl, rfl⟩
      | succ index =>
          obtain ⟨front, back, rfl, rfl⟩ := ih here
          exact ⟨first :: front, back, rfl, rfl⟩

theorem getElem?_length_append {α : Type} (front : List α) (item : α) (back : List α) :
    (front ++ item :: back)[front.length]? = some item := by
  rw [List.getElem?_append_right (Nat.le_refl _), Nat.sub_self, List.getElem?_cons_zero]

theorem modify_length_append {α : Type} (front : List α) (item : α) (back : List α) (f : α → α) :
    (front ++ item :: back).modify front.length f = front ++ f item :: back := by
  induction front with
  | nil => rfl
  | cons first rest ih =>
      rw [List.cons_append, List.length_cons, List.modify_succ_cons, ih, List.cons_append]

end TemplateSpacing

namespace TemplateSpacing.Tree

namespace Node

def plant (position : Position) (tree node : Node) : Node :=
  modifyAt (fun _ => node) position tree

section Change

variable {position : Position} {tree : Node}

theorem at?_append (first rest : Position) (tree : Node) :
    at? (first ++ rest) tree = (at? first tree).bind (at? rest) := by
  induction first generalizing tree with
  | nil => rfl
  | cons index first ih =>
      rw [List.cons_append, at?, at?, Option.bind_assoc]
      exact congrArg _ (funext ih)

theorem modifyAt_append (change : Node → Node) (first rest : Position) (tree : Node) :
    modifyAt change (first ++ rest) tree = modifyAt (modifyAt change rest) first tree := by
  induction first generalizing tree with
  | nil => rfl
  | cons index first ih =>
      rw [List.cons_append, modifyAt, modifyAt]
      exact congrArg (fun changed => Node.mk tree.label (tree.kids.modify index changed)) (funext ih)

theorem modifyAt_modifyAt (change next : Node → Node) (position : Position) (tree : Node) :
    modifyAt next position (modifyAt change position tree) =
      modifyAt (fun node => next (change node)) position tree := by
  induction position generalizing tree with
  | nil => rfl
  | cons index rest ih =>
      rw [modifyAt, modifyAt, modifyAt, List.modify_modify_eq]
      exact congrArg (fun changed => Node.mk tree.label (tree.kids.modify index changed)) (funext ih)

theorem modifyAt_same (position : Position) (tree : Node) : modifyAt id position tree = tree := by
  induction position generalizing tree with
  | nil => rfl
  | cons index rest ih =>
      have same : modifyAt id rest = id := funext ih
      cases tree with
      | mk label kids => rw [modifyAt, same, List.modify_id]

theorem at?_modifyAt (change : Node → Node) (position : Position) (tree : Node) :
    (tree.modifyAt change position).at? position = (tree.at? position).map change := by
  induction position generalizing tree with
  | nil => rfl
  | cons index rest ih =>
      rw [modifyAt, at?, at?, List.getElem?_modify_eq]
      cases tree.kids[index]? with
      | none => rfl
      | some kid => exact ih kid

/-- A change does not reach the positions that are neither above nor below. -/
theorem at?_modifyAt_of_apart {position other : Position} (notBelow : ¬position <+: other)
    (notAbove : ¬other <+: position) (change : Node → Node) (tree : Node) :
    (tree.modifyAt change position).at? other = tree.at? other := by
  induction position generalizing other tree with
  | nil => exact (notBelow (List.nil_prefix)).elim
  | cons index rest ih =>
      cases other with
      | nil => exact (notAbove (List.nil_prefix)).elim
      | cons place later =>
          rw [modifyAt, at?, at?]
          by_cases same : index = place
          · subst same
            rw [List.getElem?_modify_eq]
            cases tree.kids[index]? with
            | none => rfl
            | some kid =>
                exact ih (fun prefixed => notBelow (List.cons_prefix_cons.mpr ⟨rfl, prefixed⟩))
                  (fun prefixed => notAbove (List.cons_prefix_cons.mpr ⟨rfl, prefixed⟩)) kid
          · simp only [List.getElem?_modify_ne _ _ same]

theorem at?_mapLabels (f : Label → Label) (position : Position) (tree : Node) :
    (tree.mapLabels f).at? position = (tree.at? position).map (mapLabels f) := by
  induction position generalizing tree with
  | nil => rfl
  | cons index rest ih =>
      rw [at?, at?, mapLabels_kids, List.getElem?_map]
      cases tree.kids[index]? with
      | none => rfl
      | some kid => exact ih kid

/-- A position that is there leads into one of the nodes below a node, with others in front of it and
behind it. -/
theorem exists_of_at?_cons {index : Nat} {rest : Position} {node : Node}
    (found : tree.at? (index :: rest) = some node) :
    ∃ label front kid back, tree = ⟨label, front ++ kid :: back⟩ ∧ front.length = index ∧
      kid.at? rest = some node := by
  obtain ⟨kid, here, deeper⟩ := Option.bind_eq_some_iff.mp found
  obtain ⟨front, back, split, place⟩ := exists_split_of_getElem? here
  cases tree with
  | mk label kids => exact ⟨label, front, kid, back, congrArg (Node.mk label) split, place, deeper⟩

theorem modifyAt_cons (change : Node → Node) (rest : Position) (label : Label) (front : List Node)
    (kid : Node) (back : List Node) :
    modifyAt change (front.length :: rest) ⟨label, front ++ kid :: back⟩ =
      ⟨label, front ++ kid.modifyAt change rest :: back⟩ := by
  rw [modifyAt, modify_length_append]

/-- A change at a position plants what it makes of the node there. -/
theorem modifyAt_eq_plant {node : Node} (found : tree.at? position = some node) (change : Node → Node) :
    tree.modifyAt change position = tree.plant position (change node) := by
  induction position generalizing tree with
  | nil =>
      obtain rfl := Option.some.inj found
      rfl
  | cons index rest ih =>
      obtain ⟨label, front, kid, back, rfl, rfl, deeper⟩ := exists_of_at?_cons found
      rw [plant, modifyAt_cons, modifyAt_cons, ih deeper, plant]

theorem Everywhere.at? {law : Node → Prop} {node : Node} (all : tree.Everywhere law)
    (found : tree.at? position = some node) : node.Everywhere law := by
  induction position generalizing tree with
  | nil =>
      obtain rfl := Option.some.inj found
      exact all
  | cons index rest ih =>
      obtain ⟨label, front, kid, back, rfl, rfl, deeper⟩ := exists_of_at?_cons found
      exact ih (all.kid (List.mem_append_right _ List.mem_cons_self)) deeper

theorem hang_plant (label : Label) (below kids : List Node) :
    (tree.plant position ⟨label, below⟩).hang position kids = tree.plant position ⟨label, kids⟩ :=
  modifyAt_modifyAt _ _ position tree

/-- What is planted right below a planted node. -/
theorem plant_below (label : Label) (front back : List Node) (old node : Node) :
    (tree.plant position ⟨label, front ++ old :: back⟩).plant (position ++ [front.length]) node =
      tree.plant position ⟨label, front ++ node :: back⟩ := by
  rw [plant, modifyAt_append, plant, modifyAt_modifyAt, plant]
  exact congrArg (fun change => modifyAt change position tree)
    (funext fun _ => modifyAt_cons _ [] label front old back)

end Change

/-! ## The order of a walk -/

mutual

def size : Node → Nat
  | ⟨_, kids⟩ => sizeAll kids + 1

def sizeAll : List Node → Nat
  | [] => 0
  | kid :: rest => size kid + sizeAll rest

end

mutual

/-- The positions in a tree that stands at a position, each with the position of the node above it: a
node before everything below it, and what is below it from the first to the last. -/
def walkOrder (position : Position) (parent : Option Position) :
    Node → List (Position × Option Position)
  | ⟨_, kids⟩ => (position, parent) :: walkOrderAll position 0 kids

def walkOrderAll (parent : Position) (index : Nat) : List Node → List (Position × Option Position)
  | [] => []
  | kid :: rest =>
    walkOrder (parent ++ [index]) (some parent) kid ++ walkOrderAll parent (index + 1) rest

end

def preOrder (tree : Node) : List (Position × Option Position) :=
  walkOrder [] none tree

section Order

variable {position : Position} {parent : Option Position} {index : Nat}

theorem walkOrder_eq (position : Position) (parent : Option Position) (node : Node) :
    walkOrder position parent node = (position, parent) :: walkOrderAll position 0 node.kids := by
  cases node with
  | mk label kids => rw [walkOrder]

theorem walkOrderAll_append (parent : Position) (index : Nat) (front back : List Node) :
    walkOrderAll parent index (front ++ back) =
      walkOrderAll parent index front ++ walkOrderAll parent (index + front.length) back := by
  induction front generalizing index with
  | nil => rfl
  | cons kid rest ih =>
      rw [List.cons_append, walkOrderAll, walkOrderAll, ih, List.append_assoc, List.length_cons,
        Nat.add_right_comm, Nat.add_assoc]

theorem length_walkOrder (node : Node) : (walkOrder position parent node).length = node.size := by
  induction node using Node.induction generalizing position parent with
  | step label kids below =>
      have all : ∀ index, (walkOrderAll position index kids).length = sizeAll kids := by
        intro index
        induction kids generalizing index with
        | nil => rfl
        | cons kid rest ih =>
            rw [walkOrderAll, List.length_append, below kid List.mem_cons_self, sizeAll]
            rw [ih fun kid member => below kid (List.mem_cons_of_mem _ member)]
      rw [walkOrder, List.length_cons, all, size]

theorem length_preOrder (tree : Node) : tree.preOrder.length = tree.size :=
  length_walkOrder tree

/-- Labels have no part in the order. -/
theorem walkOrder_mapLabels (f : Label → Label) (node : Node) :
    walkOrder position parent (node.mapLabels f) = walkOrder position parent node := by
  induction node using Node.induction generalizing position parent with
  | step label kids below =>
      have all : ∀ index, walkOrderAll position index (kids.map (mapLabels f)) =
          walkOrderAll position index kids := by
        intro index
        induction kids generalizing index with
        | nil => rfl
        | cons kid rest ih =>
            rw [List.map_cons, walkOrderAll, walkOrderAll, below kid List.mem_cons_self,
              ih fun kid member => below kid (List.mem_cons_of_mem _ member)]
      rw [mapLabels_mk, walkOrder, walkOrder, all]

theorem size_mapLabels (f : Label → Label) (node : Node) : (node.mapLabels f).size = node.size := by
  rw [← length_preOrder, preOrder, walkOrder_mapLabels, ← preOrder, length_preOrder]

theorem prefix_of_mem_walkOrderAll {kids : List Node}
    (each : ∀ kid ∈ kids, ∀ position parent, ∀ entry ∈ walkOrder position parent kid,
      position <+: entry.1) {entry : Position × Option Position}
    (member : entry ∈ walkOrderAll position index kids) :
    ∃ place, index ≤ place ∧ position ++ [place] <+: entry.1 := by
  induction kids generalizing index with
  | nil => cases member
  | cons kid rest ih =>
      rw [walkOrderAll, List.mem_append] at member
      rcases member with here | later
      · exact ⟨index, Nat.le_refl _, each kid List.mem_cons_self _ _ entry here⟩
      · obtain ⟨place, after, above⟩ := ih (fun kid member => each kid (List.mem_cons_of_mem _ member))
          later
        exact ⟨place, Nat.le_of_succ_le after, above⟩

theorem prefix_of_mem_walkOrder (node : Node) :
    ∀ position parent, ∀ entry ∈ walkOrder position parent node, position <+: entry.1 := by
  induction node using Node.induction with
  | step label kids below =>
      intro position parent entry member
      rw [walkOrder] at member
      rcases List.mem_cons.mp member with rfl | inside
      · exact List.prefix_rfl
      · obtain ⟨place, _, above⟩ := prefix_of_mem_walkOrderAll below inside
        exact (List.prefix_append position [place]).trans above

theorem eq_of_prefix_append {position other : Position} {place index : Nat}
    (first : position ++ [place] <+: other) (second : position ++ [index] <+: other) : place = index := by
  obtain ⟨rest, rfl⟩ := first
  obtain ⟨later, same⟩ := second
  simp only [List.append_assoc, List.append_cancel_left_eq, List.cons_append, List.nil_append,
    List.cons.injEq] at same
  exact same.1.symm

/-- No position comes twice. -/
theorem nodup_walkOrder (node : Node) :
    ∀ position parent, ((walkOrder position parent node).map Prod.fst).Nodup := by
  induction node using Node.induction with
  | step label kids below =>
      intro position parent
      have all : ∀ index, ((walkOrderAll position index kids).map Prod.fst).Nodup := by
        intro index
        induction kids generalizing index with
        | nil => exact List.nodup_nil
        | cons kid rest ih =>
            rw [walkOrderAll, List.map_append, List.nodup_append]
            refine ⟨below kid List.mem_cons_self _ _,
              ih (fun kid member => below kid (List.mem_cons_of_mem _ member)) _, ?_⟩
            rintro first inFirst second inRest rfl
            obtain ⟨entry, here, rfl⟩ := List.mem_map.mp inFirst
            obtain ⟨twin, there, same⟩ := List.mem_map.mp inRest
            obtain ⟨place, after, above⟩ := prefix_of_mem_walkOrderAll
              (fun kid _ => prefix_of_mem_walkOrder kid) there
            rw [same] at above
            have := eq_of_prefix_append above (prefix_of_mem_walkOrder kid _ _ entry here)
            omega
      rw [walkOrder, List.map_cons, List.nodup_cons]
      refine ⟨?_, all 0⟩
      intro inside
      obtain ⟨entry, member, same⟩ := List.mem_map.mp inside
      obtain ⟨place, _, above⟩ := prefix_of_mem_walkOrderAll
        (fun kid _ => prefix_of_mem_walkOrder kid) member
      rw [same] at above
      have longer := above.length_le
      rw [List.length_append, List.length_singleton] at longer
      exact Nat.not_succ_le_self _ longer

def above (base : Position) (top : Option Position) (position : Position) : Option Position :=
  if position = [] then top else some (base ++ position.dropLast)

/-- A change at a position leaves the order in front of the position and behind it as it was. -/
theorem exists_walkOrder_modifyAt {tree old : Node} {position : Position}
    (found : tree.at? position = some old) (base : Position) (top : Option Position) :
    ∃ front back, ∀ change, walkOrder base top (modifyAt change position tree) =
      front ++ walkOrder (base ++ position) (above base top position) (change old) ++ back := by
  induction position generalizing tree base top with
  | nil =>
      obtain rfl := Option.some.inj found
      refine ⟨[], [], fun change => ?_⟩
      rw [modifyAt, above, if_pos rfl]
      simp
  | cons index rest ih =>
      obtain ⟨label, before, kid, after, rfl, rfl, deeper⟩ := exists_of_at?_cons found
      obtain ⟨front, back, all⟩ := ih deeper (base ++ [before.length]) (some base)
      have parent : above (base ++ [before.length]) (some base) rest =
          above base top (before.length :: rest) := by
        cases rest with
        | nil => simp [above]
        | cons next rest => simp [above, List.dropLast]
      refine ⟨(base, top) :: walkOrderAll base 0 before ++ front,
        back ++ walkOrderAll base (before.length + 1) after, fun change => ?_⟩
      rw [modifyAt_cons, walkOrder, walkOrderAll_append, walkOrderAll, Nat.zero_add, all, parent]
      simp only [List.append_assoc, List.cons_append, List.nil_append]

/-- Every position of a tree comes in its order. -/
theorem mem_walkOrder {tree node : Node} {position : Position} (found : tree.at? position = some node)
    (base : Position) (top : Option Position) :
    base ++ position ∈ (walkOrder base top tree).map Prod.fst := by
  obtain ⟨front, back, all⟩ := exists_walkOrder_modifyAt found base top
  have whole := all id
  rw [modifyAt_same] at whole
  rw [whole, id, walkOrder_eq (base ++ position)]
  simp

end Order

end Node

end TemplateSpacing.Tree
