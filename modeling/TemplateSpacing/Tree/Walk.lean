import TemplateSpacing.Tree.Basic
import TemplateSpacing.Tree.Fault

/-! # Walks

A walk visits the nodes of a tree, parents before children and children in order.  A visit may change
the node that it is called on and replace the nodes below it; the walk goes on with the nodes that
are there afterwards.  It stops at the first fault and at objects of unknown kinds, and what it has
changed until then stays changed.
-/

set_option autoImplicit false

namespace TemplateSpacing.Tree

abbrev Visit := Option Label → Node → Outcome Node

structure Walked where
  node : Node
  visited : List (Label × Option Label)

structure WalkedAll where
  nodes : List Node
  visited : List (Label × Option Label)

/-- Walks through trees one after the other; the trees after a fault stay as they are. -/
def walkAll (walk : Node → Outcome Walked) : List Node → Outcome WalkedAll
  | [] => .done ⟨[], []⟩
  | node :: rest =>
    let first := walk node
    match first.fault with
    | some _ => first.map fun w => ⟨w.node :: rest, w.visited⟩
    | none =>
      let others := walkAll walk rest
      ⟨⟨first.state.node :: others.state.nodes, first.state.visited ++ others.state.visited⟩,
        first.log ++ others.log, others.fault⟩

/-- Walks through a tree whose depth is at most the fuel, now and after every visit. -/
def walk (visit : Visit) : Nat → Option Label → Node → Outcome Walked
  | 0, _, node => .done ⟨node, []⟩
  | fuel + 1, parent, node =>
    let here := visit parent node
    let label := here.state.label
    match here.fault with
    | some fault => ⟨⟨here.state, []⟩, here.log, some fault⟩
    | none =>
      if label.kind.isKnown then
        let below := walkAll (walk visit fuel (some label)) here.state.kids
        ⟨⟨⟨label, below.state.nodes⟩, (label, parent) :: below.state.visited⟩,
          here.log ++ below.log, below.fault⟩
      else ⟨⟨here.state, []⟩, here.log, some (.unknownType label.kind.className)⟩

def traverse (visit : Visit) (node : Node) : Outcome Walked :=
  walk visit node.depth none node

def idle : Visit := fun _ node => .done node

/-! ## Visits that see labels alone -/

/-- What is done to the label of a node and the labels below it; a label that is left out stands for
a node that is removed. -/
abbrev LabelVisit := Bool → Label → List Label → Outcome (Label × List (Option Label))

/-- The visit of a node that changes labels and removes nodes.  The flag says whether the node is
the top one. -/
def ofLabels (visit : LabelVisit) : Visit := fun parent node =>
  (visit parent.isNone node.label (node.kids.map Node.label)).map fun (label, labels) =>
    ⟨label, Node.relabel node.kids labels⟩

end TemplateSpacing.Tree
