import TemplateSpacing.Tree.Basic
import TemplateSpacing.Tree.Fault

/-! # Documents from trees

A node is written as its type, the fields of its kind, its extra fields and its notes, in that order.
Objects of unknown kinds cannot be written; the labels of all children are checked before anything
below one of them, and the last child is completed first.
-/

set_option autoImplicit false

namespace TemplateSpacing.Tree

def bodyFields (slots : List Slot) (bodies : List Value) : Entries Value :=
  [Slot.program, Slot.inverse].map fun slot =>
    (slot.name, ((slots.zip bodies).lookup slot).getD .null)

def kindFields (kind : Kind) (below : List Value) : Entries Value :=
  match kind with
  | .root _ => [("body", .list below)]
  | .element tag attributes =>
    [("tag", .text tag), ("attributes", .list attributes), ("children", .list below)]
  | .text chars => [("chars", .text chars)]
  | .mustache path => [("path", path)]
  | .block path _ _ => ("path", path) :: bodyFields kind.slots below
  | .comment value => [("value", .text value)]
  | .mustacheComment value => [("value", .text value)]
  | .bare => []
  | .bodyLabel _ => []
  | .foreign _ => []

def written (label : Label) (below : List Value) : Value :=
  .table (("type", .text label.kind.typeKey) :: kindFields label.kind below ++ label.extras ++
    label.notes.entries)

def checkKind (kind : Kind) : Except Fault Unit :=
  if kind.isKnown then .ok () else .error (.unknownType kind.className)

def checkKinds : List Node → Except Fault Unit
  | [] => .ok ()
  | node :: rest =>
    match checkKind node.label.kind with
    | .error fault => .error fault
    | .ok () => checkKinds rest

mutual

def encodeChecked : Node → Except Fault Value
  | ⟨label, kids⟩ =>
    match checkKinds kids with
    | .error fault => .error fault
    | .ok () => (encodeAll kids).map (written label)

/-- The documents of nodes whose kinds have been checked; the last one is completed first. -/
def encodeAll : List Node → Except Fault (List Value)
  | [] => .ok []
  | node :: rest =>
    match encodeAll rest with
    | .error fault => .error fault
    | .ok values => (encodeChecked node).map (· :: values)

end

def encode (node : Node) : Except Fault Value :=
  match checkKind node.label.kind with
  | .error fault => .error fault
  | .ok () => encodeChecked node

end TemplateSpacing.Tree
