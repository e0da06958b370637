import TemplateSpacing.Tree.Basic

/-! # Positions in a tree

A node of a tree has a position: the way down to it, one index among the nodes below for each step.
-/

set_option autoImplicit false

namespace TemplateSpacing.Tree

abbrev Position := List Nat

namespace Node

def at? : Position → Node → Option Node
  | [], node => some node
  | index :: rest, node => node.kids[index]?.bind (at? rest)

/-- The tree with the node at a position changed; a position that is not there changes nothing. -/
def modifyAt (change : Node → Node) : Position → Node → Node
  | [], node => change node
  | index :: rest, node => ⟨node.label, node.kids.modify index (modifyAt change rest)⟩

def hang (position : Position) (kids : List Node) (tree : Node) : Node :=
  modifyAt (fun node => ⟨node.label, kids⟩) position tree

end Node

end TemplateSpacing.Tree
