import TemplateSpacing.Proofs.Tree.Positions
import TemplateSpacing.Tree.Edit

/-! # Finding nodes and finding them again

Turns lead to a node at a position, and a node is told from others that look the same by where it stands.
An operation on the node that turns lead to changes the tree there only, so the same turns lead to what the
operation made of the node.  The index of a node among the children of another one is the place at which it
stands there; a node that stands elsewhere has none.
-/

set_option autoImplicit false

namespace TemplateSpacing.Tree

namespace Found

/-- Both are one node: they stand at the same place. -/
def Is (one other : Found) : Prop :=
  ∃ position, one.position = some position ∧ other.position = some position

def kid? (parent : Found) (index : Nat) : Option Found :=
  parent.node.kids[index]?.map fun kid => ⟨parent.position.map (· ++ [index]), kid⟩

theorem kid?_eq_some {parent child : Found} {index : Nat} (here : parent.kid? index = some child) :
    parent.node.kids[index]? = some child.node ∧
      child.position = parent.position.map (· ++ [index]) := by
  obtain ⟨kid, there, rfl⟩ := Option.map_eq_some_iff.mp here
  exact ⟨there, rfl⟩

end Found

namespace Node

/-! ## One turn -/

theorem positionOf?_of_lt {length index : Nat} (inside : index < length) :
    positionOf? length index = some index := by
  have notNegative : ¬(index : Int) < 0 := by omega
  rw [positionOf?, if_neg notNegative, if_pos (by simp [inside])]
  rfl

/-- The place that a turn leads to below a node with a label and so many nodes below it. -/
def turned (label : Label) (count : Nat) : Turn → Except Fault (Option Nat)
  | .child index =>
    if label.kind.isContainer then
      match positionOf? count index with
      | none => .error .noSuchChild
      | some position => .ok (some position)
    else .error .missingPart
  | .body slot =>
    match label.kind with
    | .block _ _ _ => .ok (label.kind.slots.findIdx? (· = slot))
    | _ => .error .missingPart

theorem turn_eq (node : Node) (turn : Turn) :
    node.turn turn = (turned node.label node.kids.length turn).map fun position =>
      (position, (position.bind (node.kids[·]?)).getD nothing) := by
  cases turn with
  | child index =>
      cases container : node.label.kind.isContainer with
      | false => simp only [Node.turn, children, turned, container, Bool.false_eq_true, if_false]; rfl
      | true =>
          simp only [Node.turn, children, turned, container, if_true, List.getD_eq_getElem?_getD]
          cases positionOf? node.kids.length index <;> rfl
  | body slot =>
      cases kind : node.label.kind with
      | block path hasProgram hasInverse =>
          simp only [Node.turn, turned, kind, bodyPosition?, List.getD_eq_getElem?_getD]
          cases (Kind.block path hasProgram hasInverse).slots.findIdx? (· = slot) <;> rfl
      | _ => simp only [Node.turn, turned, kind]; rfl

/-- A turn leads to one of the nodes below, or to the object in the place of a missing body. -/
theorem kid_or_nothing_of_turn {node next : Node} {turn : Turn} {position : Option Nat}
    (led : node.turn turn = .ok (position, next)) :
    (∃ index, position = some index ∧ node.kids[index]? = some next) ∨ next = nothing := by
  rw [turn_eq] at led
  obtain ⟨place, _, same⟩ := ok_of_map led
  cases same
  cases position with
  | none => exact .inr rfl
  | some index =>
      cases here : node.kids[index]? with
      | none => exact .inr (by rw [Option.bind_some, here]; rfl)
      | some kid => exact .inl ⟨index, rfl, by rw [Option.bind_some, here]; rfl⟩

/-- A turn to a place below a node leads to whatever stands there. -/
theorem turn_of_place {label : Label} {front back : List Node} {old next : Node} {turn : Turn}
    (led : Node.turn ⟨label, front ++ old :: back⟩ turn = .ok (some front.length, next)) :
    next = old ∧ ∀ new, Node.turn ⟨label, front ++ new :: back⟩ turn = .ok (some front.length, new) := by
  rw [turn_eq] at led
  obtain ⟨place, here, same⟩ := ok_of_map led
  obtain rfl : place = some front.length := congrArg Prod.fst same
  refine ⟨?_, fun new => ?_⟩
  · have held := congrArg Prod.snd same
    rw [Option.bind_some, getElem?_length_append] at held
    exact held.symm
  · have count : (front ++ new :: back).length = (front ++ old :: back).length := by
      simp only [List.length_append, List.length_cons]
    rw [turn_eq, count, here, Except.map, Option.bind_some, getElem?_length_append]
    rfl

/-! ## Turns from the top -/

section Find

variable {tree : Node} {turns : List Turn} {found : Found}

theorem at?_nothing {position : Position} {node : Node} (there : nothing.at? position = some node) :
    node = nothing := by
  cases position with
  | nil => exact (Option.some.inj there).symm
  | cons index rest => cases there

/-- A node with notes that turns lead to stands somewhere in the tree. -/
theorem at?_of_find (led : find turns tree = .ok found)
    (hasNotes : found.node.label.kind.hasNotes = true) :
    ∃ position, found.position = some position ∧ tree.at? position = some found.node := by
  -- What stands in the place of a missing body has no notes, and nothing below it has any.
  induction turns generalizing tree found with
  | nil =>
      cases led
      exact ⟨[], rfl, rfl⟩
  | cons first rest ih =>
      rw [find] at led
      split at led
      · cases led
      · next position next turned =>
          obtain ⟨below, deeper, rfl⟩ := ok_of_map led
          obtain ⟨later, stands, there⟩ := ih deeper hasNotes
          rcases kid_or_nothing_of_turn turned with ⟨index, rfl, here⟩ | rfl
          · refine ⟨index :: later, ?_, ?_⟩
            · rw [Option.bind_some, stands, Option.map_some]
            · rw [at?, here, Option.bind_some, there]
          · rw [at?_nothing there] at hasNotes
            cases hasNotes

theorem find_kid (led : find turns tree = .ok found)
    (container : found.node.label.kind.isContainer = true) {index : Nat} {child : Found}
    (here : found.kid? index = some child) :
    find (turns ++ [.child index]) tree = .ok child := by
  induction turns generalizing tree found child with
  | nil =>
      cases led
      obtain ⟨there, stands⟩ := Found.kid?_eq_some here
      have inside := (List.getElem?_eq_some_iff.mp there).1
      rw [List.nil_append, find, turn_eq, turned, if_pos container, positionOf?_of_lt inside]
      simp only [Except.map, Option.bind_some, there, Option.getD_some, find]
      cases child with
      | mk position node => exact congrArg (fun at' => Except.ok (Found.mk at' node)) stands.symm
  | cons first rest ih =>
      rw [find] at led
      split at led
      · cases led
      · next position next turned =>
          obtain ⟨below, deeper, rfl⟩ := ok_of_map led
          obtain ⟨there, stands⟩ := Found.kid?_eq_some here
          have lower : below.kid? index = some ⟨below.position.map (· ++ [index]), child.node⟩ := by
            rw [Found.kid?, there, Option.map_some]
          rw [List.cons_append, find, turned]
          simp only [ih deeper container lower, Except.map]
          cases child with
          | mk place node =>
              refine congrArg (fun at' => Except.ok (Found.mk at' node)) ?_
              refine Eq.trans ?_ stands.symm
              cases position <;> cases below.position <;> rfl

/-! ## Edits -/

theorem updateAt_eq (operation : Node → Outcome Node) {position : Position} {node : Node}
    (there : tree.at? position = some node) :
    updateAt operation position tree = (operation node).map (tree.plant position) := by
  induction position generalizing tree with
  | nil =>
      obtain rfl := Option.some.inj there
      rfl
  | cons index rest ih =>
      obtain ⟨label, front, kid, back, rfl, rfl, deeper⟩ := exists_of_at?_cons there
      have set : ∀ other, (front ++ kid :: back).set front.length other = front ++ other :: back := by
        intro other
        rw [List.set_append_right _ _ (Nat.le_refl _), Nat.sub_self, List.set_cons_zero]
      simp only [updateAt, getElem?_length_append, ih deeper, Outcome.map, plant, modifyAt_cons, set]

theorem find_plant (led : find turns tree = .ok found) {position : Position} {old : Node}
    (stands : found.position = some position) (there : tree.at? position = some old) (node : Node) :
    find turns (tree.plant position node) = .ok ⟨some position, node⟩ := by
  induction turns generalizing tree found position with
  | nil =>
      cases led
      obtain rfl := Option.some.inj stands
      rfl
  | cons first rest ih =>
      rw [find] at led
      split at led
      · cases led
      · next place next turned =>
          obtain ⟨below, deeper, rfl⟩ := ok_of_map led
          obtain ⟨index, rfl, onward⟩ := Option.bind_eq_some_iff.mp stands
          obtain ⟨later, standsBelow, rfl⟩ := Option.map_eq_some_iff.mp onward
          obtain ⟨label, front, kid, back, rfl, rfl, thereBelow⟩ := exists_of_at?_cons there
          obtain ⟨rfl, other⟩ := turn_of_place turned
          have lower := ih deeper standsBelow thereBelow
          rw [plant] at lower
          rw [plant, modifyAt_cons, find, other]
          simp only [lower]
          rfl

/-- After an edit the same turns lead to what the operation made of the node. -/
theorem find_edit (led : find turns tree = .ok found)
    (hasNotes : found.node.label.kind.hasNotes = true) (operation : Node → Outcome Node) :
    (edit turns operation tree).fault = (operation found.node).fault ∧
      find turns (edit turns operation tree).state =
        .ok ⟨found.position, (operation found.node).state⟩ := by
  obtain ⟨position, stands, there⟩ := at?_of_find led hasNotes
  have edited : edit turns operation tree = (operation found.node).map (tree.plant position) := by
    simp only [edit, led, stands, updateAt_eq operation there]
  rw [edited, stands]
  exact ⟨rfl, find_plant led stands there _⟩

end Find

/-! ## The index of a node among the children of another one -/

section ChildIndex

variable {parent child : Found}

theorem isShared_of_hasNotes {kind : Kind} (hasNotes : kind.hasNotes = true) : kind.isShared = false := by
  cases kind with
  | bodyLabel _ => cases hasNotes
  | foreign _ => cases hasNotes
  | _ => rfl

theorem childIndex_eq (container : parent.node.label.kind.isContainer = true)
    (hasNotes : child.node.label.kind.hasNotes = true) :
    childIndex child parent = (standingIndex? child parent parent.node.kids.length).elim
      (.error (.notAChild child.node.label.kind.className)) .ok := by
  simp only [childIndex, children, container, if_true, isShared_of_hasNotes hasNotes, Bool.false_eq_true,
    if_false]
  cases standingIndex? child parent parent.node.kids.length <;> rfl

theorem standingIndex?_eq_some {count index : Nat}
    (stands : standingIndex? child parent count = some index) :
    index < count ∧ ∃ position, parent.position = some position ∧
      child.position = some (position ++ [index]) := by
  obtain ⟨position, here, rest⟩ := Option.bind_eq_some_iff.mp stands
  obtain ⟨last, ends, found⟩ := Option.bind_eq_some_iff.mp rest
  simp only [Bool.and_eq_true, decide_eq_true_eq, Option.ite_none_right_eq_some,
    Option.some.injEq] at found
  obtain ⟨⟨above, inside⟩, rfl⟩ := found
  refine ⟨inside, position.dropLast, above.symm, ?_⟩
  rw [here, List.dropLast_append_getLast? last ends]

theorem childIndex_kid {position : Position} (stands : parent.position = some position)
    (container : parent.node.label.kind.isContainer = true)
    (hasNotes : child.node.label.kind.hasNotes = true) {index : Nat}
    (here : parent.kid? index = some child) : childIndex child parent = .ok index := by
  obtain ⟨there, childStands⟩ := Found.kid?_eq_some here
  have inside := (List.getElem?_eq_some_iff.mp there).1
  have found : standingIndex? child parent parent.node.kids.length = some index := by
    rw [stands] at childStands
    simp [standingIndex?, childStands, stands, inside]
  rw [childIndex_eq container hasNotes, found, Option.elim_some]

/-- A node that is none of the children has no index among them, whatever it looks like. -/
theorem childIndex_stranger (container : parent.node.label.kind.isContainer = true)
    (hasNotes : child.node.label.kind.hasNotes = true)
    (elsewhere : ∀ index kid, parent.kid? index = some kid → ¬child.Is kid) :
    childIndex child parent = .error (.notAChild child.node.label.kind.className) := by
  rw [childIndex_eq container hasNotes]
  cases stands : standingIndex? child parent parent.node.kids.length with
  | none => rfl
  | some index =>
      obtain ⟨inside, position, above, here⟩ := standingIndex?_eq_some stands
      have kid : parent.kid? index =
          some ⟨some (position ++ [index]), parent.node.kids[index]⟩ := by
        simp only [Found.kid?, List.getElem?_eq_getElem inside, above, Option.map_some]
      exact (elsewhere index _ kid ⟨position ++ [index], here, rfl⟩).elim

end ChildIndex

end Node

end TemplateSpacing.Tree
