import TemplateSpacing.Proofs.Basic
import TemplateSpacing.Tree.Basic

/-! # The shape of trees

Induction over trees, properties that hold at every node of a tree, and the trees that templates are:
nodes of the known kinds, with roots as the bodies of blocks and nothing below the kinds that hold
nothing.  A tree under new labels has the depth it had.
-/

set_option autoImplicit false

namespace TemplateSpacing.Tree

namespace Node

/-- What passes from the nodes below a node to the node holds of all nodes. -/
theorem induction {motive : Node → Prop}
    (step : ∀ label kids, (∀ kid ∈ kids, motive kid) → motive ⟨label, kids⟩) (node : Node) :
    motive node := by
  refine Node.rec (motive_1 := motive) (motive_2 := fun kids => ∀ kid ∈ kids, motive kid)
    ?_ ?_ ?_ node
  · exact step
  · intro kid member
    cases member
  · intro first rest firstHolds restHolds kid member
    rcases List.mem_cons.mp member with rfl | member
    · exact firstHolds
    · exact restHolds kid member

/-- The same for properties that have to hold under any label: a pass changes the label of a node
before it comes to the node. -/
theorem inductionAnyLabel {motive : Label → List Node → Prop}
    (step : ∀ label kids, (∀ kid ∈ kids, ∀ label, motive label kid.kids) → motive label kids)
    (label : Label) (kids : List Node) : motive label kids := by
  have all : ∀ node : Node, ∀ label, motive label node.kids := by
    intro node
    induction node using Node.induction with
    | step _ kids below =>
        intro label
        exact step label kids below
  exact all ⟨label, kids⟩ label

/-! ## Properties of all nodes -/

/-- A property that holds of a node and of all nodes below it. -/
inductive Everywhere (law : Node → Prop) : Node → Prop
  | intro {node : Node} (here : law node) (below : ∀ kid ∈ node.kids, Everywhere law kid) :
      Everywhere law node

namespace Everywhere

variable {law other : Node → Prop} {node : Node}

theorem here (all : Everywhere law node) : law node := by
  cases all with
  | intro here _ => exact here

theorem kid (all : Everywhere law node) {kid : Node} (member : kid ∈ node.kids) :
    Everywhere law kid := by
  cases all with
  | intro _ below => exact below kid member

theorem iff_below : Everywhere law node ↔ law node ∧ ∀ kid ∈ node.kids, Everywhere law kid :=
  ⟨fun all => ⟨all.here, fun _ => all.kid⟩, fun ⟨here, below⟩ => .intro here below⟩

theorem imp (implies : ∀ node, law node → other node) (all : Everywhere law node) :
    Everywhere other node := by
  induction all with
  | intro here _ ih => exact .intro (implies _ here) ih

theorem and (all : Everywhere law node) (others : Everywhere other node) :
    Everywhere (fun node => law node ∧ other node) node := by
  induction all with
  | intro here _ ih =>
      exact .intro ⟨here, others.here⟩ fun kid member => ih kid member (others.kid member)

end Everywhere

/-! ## Parts of a tree -/

inductive Within (part : Node) : Node → Prop
  | here : Within part part
  | deeper {node kid : Node} (member : kid ∈ node.kids) (within : Within part kid) :
      Within part node

theorem Everywhere.within {law : Node → Prop} {node part : Node} (all : Everywhere law node)
    (within : Within part node) : law part := by
  induction within with
  | here => exact all.here
  | deeper member _ ih => exact ih (all.kid member)

theorem everywhere_iff {law : Node → Prop} {node : Node} :
    Everywhere law node ↔ ∀ part, Within part node → law part := by
  refine ⟨fun all _ => all.within, fun each => ?_⟩
  induction node using Node.induction with
  | step label kids below =>
      refine .intro (each _ .here) fun kid member => below kid member ?_
      exact fun part within => each part (.deeper member within)

mutual

def passes (check : Node → Bool) : Node → Bool
  | ⟨label, kids⟩ => check ⟨label, kids⟩ && passAll check kids

def passAll (check : Node → Bool) : List Node → Bool
  | [] => true
  | kid :: kids => passes check kid && passAll check kids

end

theorem passAll_eq (check : Node → Bool) (kids : List Node) :
    passAll check kids = kids.all (passes check) := by
  induction kids with
  | nil => rfl
  | cons kid kids ih => rw [passAll, ih, List.all_cons]

theorem passes_iff (law : Node → Prop) [DecidablePred law] (node : Node) :
    passes (fun node => decide (law node)) node = true ↔ Everywhere law node := by
  induction node using Node.induction with
  | step label kids below =>
      rw [passes, passAll_eq, Bool.and_eq_true, decide_eq_true_eq, List.all_eq_true]
      constructor
      · rintro ⟨here, all⟩
        exact .intro here fun kid member => (below kid member).mp (all kid member)
      · intro all
        exact ⟨all.here, fun kid member => (below kid member).mpr (all.kid member)⟩

instance (law : Node → Prop) [DecidablePred law] : DecidablePred (Everywhere law) :=
  fun node => decidable_of_iff _ (passes_iff law node)

/-! ## Well-formed trees -/

/-- Whether a node holds what its kind has room for: any children in a container, the bodies in a block,
and nothing in other nodes and in objects that are no nodes. -/
def HandBuilt (node : Node) : Prop :=
  node.Everywhere fun node =>
    node.label.kind.isContainer = true ∨ node.kids.length = node.label.kind.slots.length

instance : DecidablePred HandBuilt :=
  fun node => inferInstanceAs (Decidable (Everywhere _ node))

def kidLabels (node : Node) : List Label :=
  node.kids.map Node.label

/-- Whether a node of a kind may stand on nodes of some kinds. -/
def fits : Kind → List Kind → Prop
  | .root _, _ => True
  | .element _ _, _ => True
  | .block path hasProgram hasInverse, kinds =>
    kinds.length = (Kind.block path hasProgram hasInverse).slots.length ∧
      ∀ kind ∈ kinds, kind.isRoot = true
  | .text _, kinds => kinds = []
  | .mustache _, kinds => kinds = []
  | .comment _, kinds => kinds = []
  | .mustacheComment _, kinds => kinds = []
  | .bare, _ => False
  | .bodyLabel _, _ => False
  | .foreign _, _ => False

def WellFormed (node : Node) : Prop :=
  node.Everywhere fun node => fits node.label.kind (node.kidLabels.map Label.kind)

instance (kind : Kind) (kinds : List Kind) : Decidable (fits kind kinds) :=
  match kind with
  | .root _ => .isTrue trivial
  | .element _ _ => .isTrue trivial
  | .block _ _ _ => inferInstanceAs (Decidable (_ ∧ _))
  | .text _ => decidable_of_iff _ List.isEmpty_iff
  | .mustache _ => decidable_of_iff _ List.isEmpty_iff
  | .comment _ => decidable_of_iff _ List.isEmpty_iff
  | .mustacheComment _ => decidable_of_iff _ List.isEmpty_iff
  | .bare => .isFalse id
  | .bodyLabel _ => .isFalse id
  | .foreign _ => .isFalse id

instance : DecidablePred WellFormed :=
  fun node => inferInstanceAs (Decidable (Everywhere _ node))

theorem isKnown_of_fits {kind : Kind} {kinds : List Kind} (fit : fits kind kinds) :
    kind.isKnown = true := by
  cases kind with
  | bare => exact fit.elim
  | bodyLabel _ => exact fit.elim
  | foreign _ => exact fit.elim
  | _ => rfl

theorem hasNotes_of_isKnown {kind : Kind} (known : kind.isKnown = true) :
    kind.hasNotes = true := by
  cases kind with
  | bodyLabel _ => cases known
  | foreign _ => cases known
  | _ => rfl

theorem isTextLike_of_isText {kind : Kind} (text : kind.isText = true) : kind.isTextLike = true := by
  cases kind with
  | text _ => rfl
  | _ => cases text

theorem isRoot_of_isText {kind : Kind} (text : kind.isText = true) : kind.isRoot = false := by
  cases kind with
  | text _ => rfl
  | _ => cases text

theorem room_of_fits {kind : Kind} {kinds : List Kind} (fit : fits kind kinds) :
    kind.isContainer = true ∨ kinds.length = kind.slots.length := by
  cases kind with
  | root _ => exact .inl rfl
  | element _ _ => exact .inl rfl
  | block _ _ _ => exact .inr fit.1
  | bare => exact fit.elim
  | bodyLabel _ => exact fit.elim
  | foreign _ => exact fit.elim
  | _ => exact .inr (congrArg List.length fit)

namespace WellFormed

variable {node : Node}

theorem handBuilt (formed : node.WellFormed) : node.HandBuilt := by
  refine Everywhere.imp (fun node fit => ?_) formed
  have room := room_of_fits fit
  rwa [kidLabels, List.length_map, List.length_map] at room

theorem isKnown (formed : node.WellFormed) : node.label.kind.isKnown = true :=
  isKnown_of_fits (Everywhere.here formed)

theorem kid (formed : node.WellFormed) {kid : Node} (member : kid ∈ node.kids) :
    kid.WellFormed :=
  Everywhere.kid formed member

theorem isKnown_kidLabels (formed : node.WellFormed) :
    ∀ label ∈ node.kidLabels, label.kind.isKnown = true := by
  intro label member
  obtain ⟨kid, inKids, rfl⟩ := List.mem_map.mp member
  exact (formed.kid inKids).isKnown

/-- Nothing stands below a node that is neither a container nor a block. -/
theorem kids_of_isTextLike (formed : node.WellFormed) (textLike : node.label.kind.isTextLike = true) :
    node.kids = [] := by
  have fit := Everywhere.here formed
  generalize node.label.kind = kind at fit textLike
  cases kind with
  | text _ => simpa [kidLabels, fits] using fit
  | mustache _ => simpa [kidLabels, fits] using fit
  | _ => cases textLike

/-- What stands below a node that is no container are bodies. -/
theorem isRoot_of_closed (formed : node.WellFormed) (closed : node.label.kind.isContainer = false)
    {kid : Node} (member : kid ∈ node.kids) : kid.label.kind.isRoot = true := by
  have fit := Everywhere.here formed
  generalize node.label.kind = kind at fit closed
  have inKinds : kid.label.kind ∈ node.kidLabels.map Label.kind :=
    List.mem_map_of_mem (List.mem_map_of_mem member)
  cases kind with
  | root _ => cases closed
  | element _ _ => cases closed
  | block _ _ _ => exact fit.2 _ inKinds
  | bare => exact fit.elim
  | bodyLabel _ => exact fit.elim
  | foreign _ => exact fit.elim
  | _ =>
      rw [show node.kidLabels.map Label.kind = [] from fit] at inKinds
      cases inKinds

end WellFormed

/-! ## Trees under new labels -/

theorem depth_le_depthOfKids {kids : List Node} {kid : Node} (member : kid ∈ kids) :
    kid.depth ≤ depthOfKids kids := by
  induction kids with
  | nil => cases member
  | cons first rest ih =>
      simp only [depthOfKids]
      rcases List.mem_cons.mp member with rfl | member
      · omega
      · have := ih member
        omega

section Relabel

variable {kids : List Node}

@[simp] theorem relabel_nil (labels : List (Option Label)) : relabel [] labels = [] := rfl

@[simp] theorem relabel_some (kid : Node) (label : Label) (labels : List (Option Label)) :
    relabel (kid :: kids) (some label :: labels) = ⟨label, kid.kids⟩ :: relabel kids labels := rfl

@[simp] theorem relabel_none (kid : Node) (labels : List (Option Label)) :
    relabel (kid :: kids) (none :: labels) = relabel kids labels := rfl

theorem mem_relabel {labels : List (Option Label)} {made : Node} (member : made ∈ relabel kids labels) :
    ∃ kid label, (kid, some label) ∈ kids.zip labels ∧ made = ⟨label, kid.kids⟩ := by
  rw [relabel, List.mem_filterMap] at member
  obtain ⟨⟨kid, label⟩, inZip, made_eq⟩ := member
  cases label with
  | none => cases made_eq
  | some label => exact ⟨kid, label, inZip, (Option.some.inj made_eq).symm⟩

/-- Labels that stay as they are leave the nodes as they are. -/
theorem relabel_same : relabel kids ((kids.map Node.label).map some) = kids := by
  induction kids with
  | nil => rfl
  | cons first rest ih =>
      cases first with
      | mk label kids => simp only [List.map_cons, relabel_some, ih]

theorem map_label_relabel {labels : List (Option Label)} (count : labels.length = kids.length) :
    (relabel kids labels).map Node.label = labels.filterMap id := by
  induction kids generalizing labels with
  | nil =>
      obtain rfl := List.length_eq_zero_iff.mp count
      rfl
  | cons kid kids ih =>
      cases labels with
      | nil => cases count
      | cons label labels =>
          have rest := ih (Nat.succ.inj count)
          cases label with
          | none => simpa using rest
          | some label => simpa using rest

theorem relabel_removed : relabel kids ((kids.map Node.label).map fun _ => none) = [] := by
  induction kids with
  | nil => rfl
  | cons first rest ih => simpa using ih

end Relabel

end Node

end TemplateSpacing.Tree
