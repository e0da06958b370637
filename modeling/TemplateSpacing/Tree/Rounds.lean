import TemplateSpacing.Tree.Edit
import TemplateSpacing.Tree.Position

/-! # Walks with a stack

A walk through a tree that its visitor changes: a stack holds the positions of the nodes still to come, and
the nodes below a node are read, and put on the stack, after the visitor has been called on it.
-/

set_option autoImplicit false

namespace TemplateSpacing.Tree

/-- What is done with what is remembered and the whole tree, when it is called on the node at a position
with the position of the node above. -/
abbrev Visitor (σ : Type) := σ → Node → Position → Option Position → σ × Node

/-- A walk under way: the stack of the nodes still to come, the next one first, and the calls so far. -/
structure Walking (σ : Type) where
  memory : σ
  tree : Node
  pending : List (Position × Option Position)
  calls : List (Position × Option Position)

namespace Walking

variable {σ : Type}

def start (memory : σ) (tree : Node) : Walking σ :=
  ⟨memory, tree, [([], none)], []⟩

def seats (parent : Position) (index count : Nat) : List (Position × Option Position) :=
  (List.range' index count).map fun place => (parent ++ [place], some parent)

/-- One round of the walk: the next node is taken off the stack, the visitor is called on it, and the
nodes that are then below it come next. -/
def round (visitor : Visitor σ) (walking : Walking σ) : Except Fault (Walking σ) :=
  match walking.pending with
  | [] => .ok walking
  | (position, parent) :: rest =>
    let (memory, tree) := visitor walking.memory walking.tree position parent
    match tree.at? position with
    | none => .error .noSuchChild
    | some node =>
      node.walkedKids.map fun kids =>
        ⟨memory, tree, seats position 0 kids.length ++ rest, walking.calls ++ [(position, parent)]⟩

def rounds (visitor : Visitor σ) : Nat → Walking σ → Except Fault (Walking σ)
  | 0, walking => .ok walking
  | count + 1, walking =>
    match walking.round visitor with
    | .error fault => .error fault
    | .ok next => rounds visitor count next

end Walking

end TemplateSpacing.Tree
