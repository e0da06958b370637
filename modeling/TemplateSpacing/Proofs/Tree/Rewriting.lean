import TemplateSpacing.Proofs.Tree.Shape
import TemplateSpacing.Tree.Walk

/-! # Passes as rewriting

A rule says what a pass makes of the label of a node and of the labels below it.  Rewriting applies
the rule to a node and then to the nodes that are below it afterwards.  A walk whose visits follow a
rule and never fail rewrites the tree, so every fact about a pass can be shown by induction along the
rewriting.
-/

set_option autoImplicit false

namespace TemplateSpacing.Tree

/-- What a pass makes of the label of a node and of the labels below it; the flag says whether the
node is the top one. -/
abbrev Rule := Bool → Label → List Label → Label × List (Option Label)

namespace Node

/-- A node right after a rule has been applied to it, but to nothing below it. -/
def visited (rule : Rule) (top : Bool) (node : Node) : Node :=
  ⟨(rule top node.label node.kidLabels).1,
    relabel node.kids (rule top node.label node.kidLabels).2⟩

mutual

def rewriteUnder (rule : Rule) (top : Bool) (label : Label) : Node → Node
  | ⟨_, kids⟩ =>
    ⟨(rule top label (kids.map Node.label)).1,
      rewriteAll rule (rule top label (kids.map Node.label)).2 kids⟩

/-- Nodes under labels, rewritten; those without a label are removed. -/
def rewriteAll (rule : Rule) : List (Option Label) → List Node → List Node
  | some label :: labels, kid :: kids =>
    rewriteUnder rule false label kid :: rewriteAll rule labels kids
  | none :: labels, _ :: kids => rewriteAll rule labels kids
  | _, _ => []

end

def rewrite (rule : Rule) (top : Bool) (node : Node) : Node :=
  rewriteUnder rule top node.label node

theorem rewriteUnder_eq (rule : Rule) (top : Bool) (label : Label) (node : Node) :
    rewriteUnder rule top label node = rewrite rule top ⟨label, node.kids⟩ := by
  cases node with
  | mk _ kids => simp only [rewrite, rewriteUnder]

theorem rewriteAll_eq (rule : Rule) (kids : List Node) (labels : List (Option Label)) :
    rewriteAll rule labels kids = (relabel kids labels).map (rewrite rule false) := by
  induction kids generalizing labels with
  | nil => cases labels <;> simp [rewriteAll]
  | cons kid kids ih =>
      match labels with
      | [] => simp [rewriteAll, relabel]
      | none :: labels => simp [rewriteAll, ih]
      | some label :: labels => simp [rewriteAll, rewriteUnder_eq, ih]

theorem rewrite_eq (rule : Rule) (top : Bool) (node : Node) :
    node.rewrite rule top =
      ⟨(node.visited rule top).label, (node.visited rule top).kids.map (rewrite rule false)⟩ := by
  cases node with
  | mk label kids => simp only [rewrite, rewriteUnder, rewriteAll_eq, visited, kidLabels]

theorem rewrite_label (rule : Rule) (top : Bool) (node : Node) :
    (node.rewrite rule top).label = (node.visited rule top).label := by
  rw [rewrite_eq]

theorem rewrite_kids (rule : Rule) (top : Bool) (node : Node) :
    (node.rewrite rule top).kids = (node.visited rule top).kids.map (rewrite rule false) := by
  rw [rewrite_eq]

/-- What is below a node after its visit was below it before, under another label. -/
theorem kids_of_mem_visited {rule : Rule} {top : Bool} {node made : Node}
    (member : made ∈ (node.visited rule top).kids) :
    ∃ kid ∈ node.kids, made.kids = kid.kids := by
  obtain ⟨kid, label, inZip, rfl⟩ := mem_relabel member
  exact ⟨kid, (List.of_mem_zip inZip).1, rfl⟩

theorem label_of_mem_visited {rule : Rule} {top : Bool} {node made : Node}
    (member : made ∈ (node.visited rule top).kids) :
    some made.label ∈ (rule top node.label node.kidLabels).2 := by
  obtain ⟨kid, label, inZip, rfl⟩ := mem_relabel member
  exact (List.of_mem_zip inZip).2

/-- A visit that removes nothing. -/
theorem visited_of_keeping {rule : Rule} {top : Bool} {node : Node} {label : Label} {below : List Label}
    (made : rule top node.label node.kidLabels = (label, below.map some))
    (count : below.length = node.kids.length) :
    (node.visited rule top).label = label ∧ (node.visited rule top).kidLabels = below := by
  rw [visited, made]
  refine ⟨rfl, ?_⟩
  rw [kidLabels, map_label_relabel ((List.length_map _).trans count), List.filterMap_map]
  exact List.filterMap_some

/-- What passes from the nodes below a visited node to the node holds of all nodes. -/
theorem visitInduction (rule : Rule) {motive : Bool → Node → Prop}
    (step : ∀ top node, (∀ kid ∈ (node.visited rule top).kids, motive false kid) → motive top node)
    (top : Bool) (node : Node) : motive top node := by
  have all : ∀ label kids, ∀ top, motive top ⟨label, kids⟩ := by
    intro label kids
    induction label, kids using Node.inductionAnyLabel with
    | step label kids below =>
        intro top
        apply step
        rintro ⟨made, madeKids⟩ member
        obtain ⟨kid, inKids, rfl⟩ := kids_of_mem_visited member
        exact below kid inKids made false
  cases node with
  | mk label kids => exact all label kids top

theorem depth_eq (node : Node) : node.depth = depthOfKids node.kids + 1 := by
  cases node with
  | mk label kids => rw [depth]

/-- A visit never makes a tree deeper. -/
theorem depth_of_mem_visited {rule : Rule} {top : Bool} {node made : Node}
    (member : made ∈ (node.visited rule top).kids) : made.depth < node.depth := by
  obtain ⟨original, inKids, sameKids⟩ := kids_of_mem_visited member
  have shallow := depth_le_depthOfKids inKids
  rw [depth_eq, sameKids, ← depth_eq, depth_eq node]
  omega

theorem depth_rewrite_le (rule : Rule) (top : Bool) (node : Node) :
    (node.rewrite rule top).depth ≤ node.depth := by
  induction top, node using visitInduction rule with
  | step top node below =>
      have each : ∀ kids : List Node, (∀ kid ∈ kids, kid.depth < node.depth) →
          depthOfKids kids < node.depth := by
        intro kids shallow
        induction kids with
        | nil => rw [depth_eq, depthOfKids]; omega
        | cons kid rest ih =>
            obtain ⟨first, others⟩ := List.forall_mem_cons.mp shallow
            exact Nat.max_lt.mpr ⟨first, ih others⟩
      rw [rewrite_eq, depth]
      apply each
      intro made member
      obtain ⟨kid, inVisited, rfl⟩ := List.mem_map.mp member
      exact Nat.lt_of_le_of_lt (below kid inVisited) (depth_of_mem_visited inVisited)

end Node

namespace Node

theorem Everywhere.of_rewrite {rule : Rule} (Ready : Bool → Node → Prop) {law : Node → Prop}
    (here : ∀ top node, Ready top node → law (node.rewrite rule top))
    (stays : ∀ top node, Ready top node → ∀ kid ∈ (node.visited rule top).kids, Ready false kid)
    (top : Bool) (node : Node) (ready : Ready top node) : Everywhere law (node.rewrite rule top) := by
  induction top, node using visitInduction rule with
  | step top node below =>
      refine .intro (here top node ready) ?_
      intro made member
      rw [rewrite_kids] at member
      obtain ⟨kid, inKids, rfl⟩ := List.mem_map.mp member
      exact below kid inKids (stays top node ready kid inKids)

/-- A law of labels that a rule keeps holds of all labels of the rewritten tree. -/
theorem Everywhere.of_labels {rule : Rule} {law : Label → Prop}
    (each : ∀ top label below, (law label → law (rule top label below).1) ∧
      List.Forall₂ (fun old made => ∀ new, made = some new → law old → law new) below
        (rule top label below).2)
    (top : Bool) {node : Node} (all : node.Everywhere fun node => law node.label) :
    (node.rewrite rule top).Everywhere fun node => law node.label := by
  refine Everywhere.of_rewrite (fun _ node => node.Everywhere fun node => law node.label) ?_ ?_ top
    node all
  · intro top node all
    rw [rewrite_label]
    exact (each top node.label node.kidLabels).1 all.here
  · intro top node all made member
    obtain ⟨kid, label, inZip, rfl⟩ := mem_relabel member
    have pairs := (each top node.label node.kidLabels).2
    rw [kidLabels, List.forall₂_map_left_iff] at pairs
    have below := all.kid (List.of_mem_zip inZip).1
    exact .intro (List.forall₂_zip pairs inZip label rfl below.here) fun kid member =>
      below.kid member

/-- A rule that finds nothing to change leaves the tree as it is. -/
theorem rewrite_of_fixed {rule : Rule} (Ready : Bool → Node → Prop)
    (fixed : ∀ top node, Ready top node → node.visited rule top = node)
    (stays : ∀ top node, Ready top node → ∀ kid ∈ node.kids, Ready false kid)
    (top : Bool) (node : Node) (ready : Ready top node) : node.rewrite rule top = node := by
  induction top, node using visitInduction rule with
  | step top node below =>
      have same := fixed top node ready
      rw [same] at below
      have kids : node.kids.map (rewrite rule false) = node.kids := by
        rw [List.map_congr_left fun kid member => below kid member (stays top node ready kid member)]
        exact List.map_id' _
      rw [rewrite_eq, same, kids]
      cases node with
      | mk label kids => rfl

end Node

/-! ## Rules that keep kinds -/

def Kind.Alike (old new : Kind) : Prop :=
  new = old ∨ (old.isText = true ∧ new.isText = true)

/-- A rule that keeps the kinds of nodes but for the characters of texts, and removes nodes from
containers alone. -/
structure Tame (rule : Rule) : Prop where
  own : ∀ top label below, (rule top label below).1.kind = label.kind
  kids : ∀ top label below, List.Forall₂ (fun old made =>
    (made = none ∧ label.kind.isContainer = true) ∨ ∃ new, made = some new ∧ Kind.Alike old.kind new.kind)
    below (rule top label below).2

/-- A rule that removes nothing and keeps all kinds. -/
theorem Tame.of_kinds {rule : Rule}
    (each : ∀ top label below, (rule top label below).1.kind = label.kind ∧
      List.Forall₂ (fun old made => ∃ new, made = some new ∧ new.kind = old.kind) below
        (rule top label below).2) : Tame rule where
  own := fun top label below => (each top label below).1
  kids := by
    intro top label below
    refine (each top label below).2.imp ?_
    rintro old made ⟨new, rfl, same⟩
    exact .inr ⟨new, rfl, .inl same⟩

namespace Node

theorem isRoot_of_alike {old new : Kind} (alike : Kind.Alike old new) : new.isRoot = old.isRoot := by
  rcases alike with rfl | ⟨oldText, newText⟩
  · rfl
  · rw [isRoot_of_isText oldText, isRoot_of_isText newText]

theorem WellFormed.underLabel {kid : Node} {label : Label} (formed : kid.WellFormed)
    (alike : Kind.Alike kid.label.kind label.kind) : WellFormed ⟨label, kid.kids⟩ := by
  refine .intro ?_ fun below member => formed.kid member
  rcases alike with same | ⟨oldText, newText⟩
  · simpa only [kidLabels, same] using Everywhere.here formed
  · have none := formed.kids_of_isTextLike (isTextLike_of_isText oldText)
    rw [none]
    generalize label.kind = kind at newText
    cases kind with
    | text _ => rfl
    | _ => cases newText

section Tame

variable {rule : Rule} {top : Bool} {node : Node}

/-- The nodes below a visited node stand for nodes that were below it before. -/
theorem alike_of_mem_visited (tame : Tame rule) {made : Node}
    (member : made ∈ (node.visited rule top).kids) :
    ∃ kid ∈ node.kids, made.kids = kid.kids ∧ Kind.Alike kid.label.kind made.label.kind := by
  obtain ⟨kid, label, inZip, rfl⟩ := mem_relabel member
  have pairs := tame.kids top node.label node.kidLabels
  rw [kidLabels, List.forall₂_map_left_iff] at pairs
  rcases List.forall₂_zip pairs inZip with ⟨removed, _⟩ | ⟨new, same, alike⟩
  · cases removed
  · cases same
    exact ⟨kid, (List.of_mem_zip inZip).1, rfl, alike⟩

theorem WellFormed.visitedKid (tame : Tame rule) (formed : node.WellFormed) {made : Node}
    (member : made ∈ (node.visited rule top).kids) : made.WellFormed := by
  obtain ⟨kid, inKids, sameKids, alike⟩ := alike_of_mem_visited tame member
  cases made with
  | mk label _ =>
      cases sameKids
      exact (formed.kid inKids).underLabel alike

/-- Only containers lose nodes. -/
theorem length_visited_kids (tame : Tame rule) (top : Bool) (node : Node) (closed : node.label.kind.isContainer = false) :
    (node.visited rule top).kids.length = node.kids.length := by
  have pairs := tame.kids top node.label node.kidLabels
  simp only [visited]
  generalize (rule top node.label node.kidLabels).2 = labels at pairs
  rw [kidLabels, List.forall₂_map_left_iff] at pairs
  generalize node.kids = kids at pairs
  induction pairs with
  | nil => rfl
  | cons first _ ih =>
      rcases first with ⟨_, isContainer⟩ | ⟨new, rfl, _⟩
      · rw [closed] at isContainer
        cases isContainer
      · simp only [relabel_some, List.length_cons, ih]

/-- Rewriting by a rule that keeps kinds leaves a well-formed tree well formed. -/
theorem WellFormed.rewrite (tame : Tame rule) (formed : node.WellFormed) :
    (node.rewrite rule top).WellFormed := by
  refine Everywhere.of_rewrite (fun _ node => node.WellFormed) ?_
    (fun _ _ formed _ member => formed.visitedKid tame member) top node formed
  intro top node formed
  have fit := Everywhere.here formed
  have ownKind : (node.visited rule top).label.kind = node.label.kind := tame.own _ _ _
  have lengths := length_visited_kids tame top node
  have kidKinds : ∀ kind ∈ (node.rewrite rule top).kidLabels.map Label.kind,
      ∃ kid ∈ node.kids, Kind.Alike kid.label.kind kind := by
    intro kind member
    simp only [kidLabels, rewrite_kids, List.map_map, List.mem_map, Function.comp_apply] at member
    obtain ⟨made, inMade, rfl⟩ := member
    obtain ⟨kid, inKids, _, alike⟩ := alike_of_mem_visited tame inMade
    refine ⟨kid, inKids, ?_⟩
    rw [rewrite_label]
    exact (tame.own false made.label made.kidLabels).symm ▸ alike
  have count : ((node.rewrite rule top).kidLabels.map Label.kind).length =
      (node.visited rule top).kids.length := by
    simp [kidLabels, rewrite_kids]
  rw [rewrite_label, ownKind]
  generalize (node.rewrite rule top).kidLabels.map Label.kind = kinds at kidKinds count
  cases kind : node.label.kind with
  | root _ => trivial
  | element _ _ => trivial
  | block path hasProgram hasInverse =>
      rw [kind] at fit
      refine ⟨?_, ?_⟩
      · rw [count, lengths (by rw [kind]; rfl), ← fit.1]
        simp [kidLabels]
      · intro made member
        obtain ⟨kid, inKids, alike⟩ := kidKinds made member
        rw [isRoot_of_alike alike]
        exact fit.2 _ (List.mem_map_of_mem (List.mem_map_of_mem inKids))
  | bare => rw [kind] at fit; exact fit.elim
  | bodyLabel _ => rw [kind] at fit; exact fit.elim
  | foreign _ => rw [kind] at fit; exact fit.elim
  | _ =>
      rw [kind] at fit
      have leaf : node.kids = [] := by simpa [fits, kidLabels] using fit
      rw [lengths (by rw [kind]; rfl), leaf] at count
      exact List.length_eq_zero_iff.mp count

end Tame

end Node

/-! ## Walks that follow a rule -/

/-- Visits that follow a rule and never fail on nodes that are ready for them. -/
structure Follows (visit : Visit) (rule : Rule) (Ready : Bool → Node → Prop) : Prop where
  visits : ∀ parent node, Ready parent.isNone node →
    (visit parent node).fault = none ∧ (visit parent node).state = node.visited rule parent.isNone
  known : ∀ top node, Ready top node → (node.visited rule top).label.kind.isKnown = true
  stays : ∀ top node, Ready top node → ∀ kid ∈ (node.visited rule top).kids, Ready false kid

theorem walkAll_of_all (step : Node → Outcome Walked) (made : Node → Node) (nodes : List Node)
    (each : ∀ node ∈ nodes, (step node).fault = none ∧ (step node).state.node = made node) :
    (walkAll step nodes).fault = none ∧ (walkAll step nodes).state.nodes = nodes.map made := by
  induction nodes with
  | nil => exact ⟨rfl, rfl⟩
  | cons first rest ih =>
      obtain ⟨firstDone, firstMade⟩ := each first List.mem_cons_self
      obtain ⟨restDone, restMade⟩ := ih fun node member => each node (List.mem_cons_of_mem _ member)
      simp only [walkAll, firstDone]
      exact ⟨restDone, by rw [firstMade, restMade, List.map_cons]⟩

namespace Follows

variable {visit : Visit} {rule : Rule} {Ready : Bool → Node → Prop}

/-- Visits that see labels alone follow a rule if they do so on labels. -/
theorem ofLabels {visit : LabelVisit} (tame : Tame rule)
    (formed : ∀ top node, Ready top node → node.WellFormed)
    (visits : ∀ top node, Ready top node →
      (visit top node.label node.kidLabels).fault = none ∧
        (visit top node.label node.kidLabels).state = rule top node.label node.kidLabels)
    (stays : ∀ top node, Ready top node → ∀ kid ∈ (node.visited rule top).kids, Ready false kid) :
    Follows (ofLabels visit) rule Ready where
  visits := by
    intro parent node ready
    obtain ⟨done, state⟩ := visits parent.isNone node ready
    refine ⟨done, ?_⟩
    rw [Node.visited, ← state]
    rfl
  known := by
    intro top node ready
    rw [Node.visited, tame.own]
    exact (formed top node ready).isKnown
  stays := stays

/-- The depth of a tree is fuel enough. -/
theorem walk (follows : Follows visit rule Ready) (fuel : Nat) (parent : Option Label) (node : Node)
    (enough : node.depth ≤ fuel) (ready : Ready parent.isNone node) :
    (walk visit fuel parent node).fault = none ∧
      (walk visit fuel parent node).state.node = node.rewrite rule parent.isNone := by
  -- A visit never makes the tree deeper, so what is left of the fuel is enough for what is below.
  induction fuel generalizing parent node with
  | zero =>
      cases node with
      | mk label kids =>
          simp only [Node.depth] at enough
          omega
  | succ fuel ih =>
      obtain ⟨done, state⟩ := follows.visits parent node ready
      have known := follows.known parent.isNone node ready
      have below := walkAll_of_all
        (Tree.walk visit fuel (some (node.visited rule parent.isNone).label))
        (Node.rewrite rule false) (node.visited rule parent.isNone).kids (by
          intro kid member
          have shallow := Node.depth_of_mem_visited member
          exact ih _ kid (by omega) (follows.stays _ node ready kid member))
      simp only [Tree.walk, done, state, known, if_true]
      exact ⟨below.1, by rw [below.2, Node.rewrite_eq]⟩

theorem traverse (follows : Follows visit rule Ready) (node : Node) (ready : Ready true node) :
    (traverse visit node).fault = none ∧
      (traverse visit node).state.node = node.rewrite rule true :=
  follows.walk node.depth none node (Nat.le_refl _) ready

end Follows

end TemplateSpacing.Tree
