import TemplateSpacing.Tree.Basic
import TemplateSpacing.Tree.Fault

/-! # Edits by hand

Nodes are found by turns from the top of a tree: the child at an index, counted from the end when it
is negative, or a body of a block.  A body that is not there is found as an object that is no node.
-/

set_option autoImplicit false

namespace TemplateSpacing.Tree

inductive Turn
  | child (index : Int)
  | body (slot : Slot)
deriving DecidableEq, Repr

/-- A node that was found, with its position: the position of every node on the way among the nodes
below the one before.  An object in the place of a missing body has no position. -/
structure Found where
  position : Option (List Nat)
  node : Node

/-- The position of an item of a list; a negative index counts from the end. -/
def positionOf? (length : Nat) (index : Int) : Option Nat :=
  let position := if index < 0 then index + length else index
  if 0 ≤ position && position < length then some position.toNat else none

/-- The position at which something is put into a list: an index out of range means an end. -/
def insertionAt (length : Nat) (index : Int) : Nat :=
  let position := if index < 0 then index + length else index
  min position.toNat length

namespace Node

def children (node : Node) : Except Fault (List Node) :=
  if node.label.kind.isContainer then .ok node.kids else .error .missingPart

def walkedKids (node : Node) : Except Fault (List Node) :=
  if node.label.kind.isKnown then .ok node.kids
  else .error (.unknownType node.label.kind.className)

def bodyPosition? (node : Node) (slot : Slot) : Option Nat :=
  node.label.kind.slots.findIdx? (· = slot)

def turn (node : Node) : Turn → Except Fault (Option Nat × Node)
  | .child index =>
    match node.children with
    | .error fault => .error fault
    | .ok kids =>
      match positionOf? kids.length index with
      | none => .error .noSuchChild
      | some position => .ok (some position, kids.getD position (nothing))
  | .body slot =>
    match node.label.kind with
    | .block _ _ _ =>
      match node.bodyPosition? slot with
      | none => .ok (none, nothing)
      | some position => .ok (some position, node.kids.getD position (nothing))
    | _ => .error .missingPart

def find : List Turn → Node → Except Fault Found
  | [], node => .ok ⟨some [], node⟩
  | first :: rest, node =>
    match node.turn first with
    | .error fault => .error fault
    | .ok (position, next) =>
      (find rest next).map fun found =>
        ⟨position.bind fun p => found.position.map (p :: ·), found.node⟩

def updateAt (operation : Node → Outcome Node) : List Nat → Node → Outcome Node
  | [], node => operation node
  | position :: rest, node =>
    match node.kids[position]? with
    | none => .failed node .noSuchChild
    | some kid =>
      (updateAt operation rest kid).map fun changed =>
        ⟨node.label, node.kids.set position changed⟩

def edit (turns : List Turn) (operation : Node → Outcome Node) (node : Node) : Outcome Node :=
  match find turns node with
  | .error fault => .failed node fault
  | .ok found =>
    match found.position with
    | some position => updateAt operation position node
    | none => (operation found.node).map fun _ => node

/-- The index of a node among the children of the node one turn above it, if that is the given one. -/
def standingIndex? (child parent : Found) (count : Nat) : Option Nat := do
  let position ← child.position
  let index ← position.getLast?
  if some position.dropLast = parent.position && index < count then some index else none

/-- The position of a node among the children of another one: the first one of its kind if they are
all the same object, and the place where it stands otherwise. -/
def childIndex (child parent : Found) : Except Fault Nat :=
  match parent.node.children with
  | .error fault => .error fault
  | .ok kids =>
    let kind := child.node.label.kind
    let index? :=
      if kind.isShared then
        kids.findIdx? fun kid => kid.label.kind.isShared && kid.label.kind.className = kind.className
      else standingIndex? child parent kids.length
    match index? with
    | some index => .ok index
    | none => .error (.notAChild kind.className)

/-! ## Operations on one node -/

def withKids (node : Node) (kids : List Node) : Node := ⟨node.label, kids⟩

def relabelChildren (operation : Label → List Label → Outcome (Label × List (Option Label)))
    (node : Node) : Outcome Node :=
  match node.children with
  | .error fault => .failed node fault
  | .ok kids =>
    (operation node.label (kids.map Node.label)).map fun (label, labels) =>
      ⟨label, relabel kids labels⟩

def insertChild (index : Int) (child : Node) (node : Node) : Outcome Node :=
  match node.children with
  | .error fault => .failed node fault
  | .ok kids =>
    let position := insertionAt kids.length index
    .done (node.withKids (kids.take position ++ child :: kids.drop position))

def removeChild (index : Int) (node : Node) : Except Fault (Node × Node) :=
  match node.children with
  | .error fault => .error fault
  | .ok kids =>
    match positionOf? kids.length index with
    | none => .error .noSuchChild
    | some position =>
      match kids[position]? with
      | none => .error .noSuchChild
      | some child => .ok (child, node.withKids (kids.eraseIdx position))

def setPart (change : Kind → Kind) (node : Node) : Outcome Node :=
  if node.label.kind.hasNotes then
    .done ⟨{ node.label with kind := change node.label.kind }, node.kids⟩
  else .failed node .missingPart

def setChars (chars : String) : Node → Outcome Node :=
  setPart fun kind => if kind.isText then .text chars else kind

def setTag (tag : String) : Node → Outcome Node :=
  setPart fun kind =>
    match kind with
    | .element _ attributes => .element tag attributes
    | _ => kind

def setNote (note : Note) (value : Option Value) (node : Node) : Outcome Node :=
  if node.label.kind.hasNotes then .done ⟨node.label.note note value, node.kids⟩
  else .failed node .missingPart

def setBody (slot : Slot) (body : Option Node) (node : Node) : Outcome Node :=
  match node.label.kind with
  | .block path _ _ =>
    let bodies := fun (s : Slot) => if s = slot then body else node.body? s
    let kind := Kind.block path (bodies .program).isSome (bodies .inverse).isSome
    .done ⟨{ node.label with kind := kind }, (bodies .program).toList ++ (bodies .inverse).toList⟩
  | _ => if node.label.kind.hasNotes then .done node else .failed node .missingPart

end Node

end TemplateSpacing.Tree
