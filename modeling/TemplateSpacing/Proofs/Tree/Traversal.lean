import Mathlib.Data.List.Nodup
import TemplateSpacing.Proofs.Tree.Positions
import TemplateSpacing.Tree.Rounds

/-! # The order of a walk with a stack

The visitor sees the whole tree and remembers what it likes.  As long as it replaces no children but those
of the node that it is called on, the calls so far and what the stack stands for are together the order
of the tree as it is now; so when the stack is empty, the calls are the order of the tree at the end.
-/

set_option autoImplicit false

namespace TemplateSpacing.Tree

/-! ## What children lists make of a tree -/

namespace Kind

def bones : Kind → Kind
  | .text _ => .text ""
  | kind => kind

end Kind

namespace Label

def bones (label : Label) : Label := .ofKind label.kind.bones

end Label

namespace Node

def bones (tree : Node) : Node := tree.mapLabels Label.bones

section Bones

variable {tree other : Node}

theorem fits_bones (kind : Kind) (kinds : List Kind) :
    fits kind.bones (kinds.map Kind.bones) ↔ fits kind kinds := by
  have roots : (∀ kind ∈ kinds.map Kind.bones, kind.isRoot = true) ↔
      ∀ kind ∈ kinds, kind.isRoot = true := by
    have each : ∀ kind : Kind, kind.bones.isRoot = kind.isRoot := by
      intro kind
      cases kind <;> rfl
    simp only [List.forall_mem_map, each]
  cases kind with
  | block path hasProgram hasInverse =>
      simp only [Kind.bones, fits, List.length_map, roots]
  | _ => simp [Kind.bones, fits]

theorem WellFormed.of_bones (same : other.bones = tree.bones) (formed : tree.WellFormed) :
    other.WellFormed := by
  refine Everywhere.of_view (f := Label.bones) ?_ same.symm formed
  intro node twin alike here
  have kinds : ∀ node : Node, (node.mapLabels Label.bones).label.kind = node.label.kind.bones ∧
      (node.mapLabels Label.bones).kidLabels.map Label.kind =
        (node.kidLabels.map Label.kind).map Kind.bones := by
    intro node
    refine ⟨by rw [mapLabels_label]; rfl, ?_⟩
    rw [kidLabels_mapLabels, List.map_map, List.map_map]
    rfl
  rw [← fits_bones, ← (kinds twin).1, ← (kinds twin).2, ← alike, (kinds node).1, (kinds node).2,
    fits_bones]
  exact here

theorem size_of_bones (same : other.bones = tree.bones) : other.size = tree.size := by
  rw [← size_mapLabels Label.bones, ← bones, same, bones, size_mapLabels]

theorem preOrder_of_bones (same : other.bones = tree.bones) : other.preOrder = tree.preOrder := by
  rw [preOrder, ← walkOrder_mapLabels Label.bones, ← bones, same, bones, walkOrder_mapLabels, preOrder]

theorem at?_of_bones (same : other.bones = tree.bones) (position : Position) :
    (other.at? position).map bones = (tree.at? position).map bones := by
  have looks : ∀ tree : Node, (tree.at? position).map bones = tree.bones.at? position :=
    fun tree => (at?_mapLabels Label.bones position tree).symm
  rw [looks, looks, same]

theorem sizeAll_le_of_sublist {kids others : List Node} (fewer : kids.Sublist others) :
    sizeAll kids ≤ sizeAll others := by
  induction fewer with
  | slnil => exact Nat.le_refl _
  | cons kid _ ih =>
      rw [sizeAll]
      omega
  | cons_cons kid _ ih =>
      rw [sizeAll, sizeAll]
      omega

theorem size_hang_le {position : Position} {node : Node} {kids : List Node}
    (found : tree.at? position = some node) (fewer : kids.Sublist node.kids) :
    (tree.hang position kids).size ≤ tree.size := by
  obtain ⟨front, back, all⟩ := exists_walkOrder_modifyAt found [] none
  have less := sizeAll_le_of_sublist fewer
  have whole := congrArg List.length (all id)
  rw [modifyAt_same] at whole
  rw [← length_preOrder, ← length_preOrder, preOrder, preOrder, Node.hang, all, whole]
  cases node with
  | mk label old =>
      simp only [List.length_append, length_walkOrder, id, size] at less ⊢
      omega

/-- One of the nodes below a node may be replaced by one with the same label. -/
theorem WellFormed.replaceKid {label : Label} {front back : List Node} {kid made : Node}
    (formed : WellFormed ⟨label, front ++ kid :: back⟩) (whole : made.WellFormed)
    (same : made.label = kid.label) : WellFormed ⟨label, front ++ made :: back⟩ := by
  refine .intro ?_ ?_
  · have fit := Everywhere.here formed
    simpa only [kidLabels, List.map_append, List.map_cons, same] using fit
  · intro other member
    rcases List.mem_append.mp member with inFront | inRest
    · exact formed.kid (List.mem_append_left _ inFront)
    · rcases List.mem_cons.mp inRest with rfl | inBack
      · exact whole
      · exact formed.kid (List.mem_append_right _ (List.mem_cons_of_mem _ inBack))

theorem hang_label (position : Position) (kids : List Node) (tree : Node) :
    (tree.hang position kids).label = tree.label := by
  cases position <;> rfl

/-- A container may be given any children. -/
theorem WellFormed.hang {position : Position} {node : Node} {kids : List Node} (formed : tree.WellFormed)
    (found : tree.at? position = some node) (container : node.label.kind.isContainer = true)
    (all : ∀ kid ∈ kids, kid.WellFormed) : (tree.hang position kids).WellFormed := by
  induction position generalizing tree with
  | nil =>
      obtain rfl := Option.some.inj found
      refine .intro ?_ all
      cases kind : tree.label.kind with
      | root _ => simp [Node.hang, modifyAt, kind, fits]
      | element _ _ => simp [Node.hang, modifyAt, kind, fits]
      | _ =>
          rw [kind] at container
          cases container
  | cons index rest ih =>
      obtain ⟨label, front, kid, back, rfl, rfl, deeper⟩ := exists_of_at?_cons found
      have own : kid.WellFormed := formed.kid (List.mem_append_right _ List.mem_cons_self)
      rw [Node.hang, modifyAt_cons]
      exact formed.replaceKid (ih own deeper) (hang_label rest kids kid)

end Bones

end Node

open Node (walkOrder walkOrderAll)

/-! ## Rounds -/

namespace Walking

variable {σ : Type}

section Rounds

variable {visitor : Visitor σ} {walking : Walking σ}

theorem rounds_succ {next : Walking σ} (goes : walking.round visitor = .ok next) (count : Nat) :
    rounds visitor (count + 1) walking = rounds visitor count next := by
  rw [rounds, goes]

theorem rounds_add {first last : Nat} {middle after : Walking σ}
    (here : rounds visitor first walking = .ok middle) (there : rounds visitor last middle = .ok after) :
    rounds visitor (first + last) walking = .ok after := by
  induction first generalizing walking with
  | zero =>
      obtain rfl := Except.ok.inj here
      rw [Nat.zero_add]
      exact there
  | succ first ih =>
      rw [rounds] at here
      split at here
      · cases here
      · next next goes =>
          rw [Nat.add_right_comm, rounds_succ goes]
          exact ih here

/-- With an empty stack nothing more is done. -/
theorem rounds_of_empty (empty : walking.pending = []) (count : Nat) :
    rounds visitor count walking = .ok walking := by
  have still : walking.round visitor = .ok walking := by rw [round, empty]
  induction count with
  | zero => rfl
  | succ count ih =>
      rw [rounds_succ still]
      exact ih

end Rounds

end Walking

/-- What a call on a node may do to a tree: it changes notes and characters anywhere, and may give the
node other children if it is a container, such as are allowed in the place of the old ones. -/
inductive Touches (allowed : List Node → List Node → Prop) (position : Position) (before after : Node) :
    Prop
  | labels (same : after.bones = before.bones)
  | children {node : Node} (kids : List Node) (found : before.at? position = some node)
      (container : node.label.kind.isContainer = true) (formed : ∀ kid ∈ kids, kid.WellFormed)
      (instead : allowed node.kids kids) (replaced : after.bones = (before.hang position kids).bones)

/-- Calls that a visitor makes of a walk under way touch no children but those of the node that they are
made on. -/
def Lawful {σ : Type} (allowed : List Node → List Node → Prop) (visitor : Visitor σ)
    (walking : Walking σ) : Prop :=
  ∀ count reached position parent rest, Walking.rounds visitor count walking = .ok reached →
    reached.pending = (position, parent) :: rest →
      Touches allowed position reached.tree
        (visitor reached.memory reached.tree position parent).2

theorem Lawful.after {σ : Type} {allowed : List Node → List Node → Prop} {visitor : Visitor σ}
    {walking next : Walking σ} (lawful : Lawful allowed visitor walking)
    (goes : walking.round visitor = .ok next) : Lawful allowed visitor next := by
  intro count reached position parent rest reaches top
  rw [← Walking.rounds_succ goes] at reaches
  exact lawful (count + 1) reached position parent rest reaches top

section Touches

variable {allowed : List Node → List Node → Prop} {position : Position} {before after : Node}

theorem Touches.exists_change (touches : Touches allowed position before after)
    (formed : before.WellFormed) :
    after.WellFormed ∧ ∃ change, after.bones = (before.modifyAt change position).bones := by
  cases touches with
  | labels same =>
      refine ⟨formed.of_bones same, id, ?_⟩
      rw [Node.modifyAt_same]
      exact same
  | children kids found container all _ replaced =>
      exact ⟨(formed.hang found container all).of_bones replaced, _, replaced⟩

theorem Touches.imp {other : List Node → List Node → Prop}
    (more : ∀ old new, allowed old new → other old new)
    (touches : Touches allowed position before after) : Touches other position before after := by
  cases touches with
  | labels same => exact .labels same
  | children kids found container all instead replaced =>
      exact .children kids found container all (more _ _ instead) replaced

theorem Touches.size_le (touches : Touches (fun old new => new.Sublist old) position before after) :
    after.size ≤ before.size := by
  cases touches with
  | labels same => exact Nat.le_of_eq (Node.size_of_bones same)
  | children kids found _ _ fewer replaced =>
      rw [Node.size_of_bones replaced]
      exact Node.size_hang_le found fewer

end Touches

/-! ## What the stack stands for -/

/-- What an entry on the stack stands for: the order of the tree at its position. -/
def orderAt (tree : Node) (entry : Position × Option Position) : List (Position × Option Position) :=
  ((tree.at? entry.1).map (walkOrder entry.1 entry.2)).getD []

section Order

variable {tree node : Node} {entry : Position × Option Position}

theorem orderAt_eq (found : tree.at? entry.1 = some node) :
    orderAt tree entry = walkOrder entry.1 entry.2 node := by
  rw [orderAt, found]
  rfl

theorem orderAt_of_bones {other : Node} (same : other.bones = tree.bones) :
    orderAt other entry = orderAt tree entry := by
  have looks := Node.at?_of_bones same entry.1
  have blind : ∀ found : Option Node, found.map (walkOrder entry.1 entry.2) =
      (found.map Node.bones).map (walkOrder entry.1 entry.2) := by
    intro found
    rw [Option.map_map]
    exact congrArg (fun order => found.map order)
      (funext fun node => (Node.walkOrder_mapLabels Label.bones node).symm)
  rw [orderAt, orderAt, blind, looks, ← blind]

/-- What stands below a node is what its seats stand for. -/
theorem flatMap_seats {position : Position} {label : Label} (front back : List Node)
    (found : tree.at? position = some ⟨label, front ++ back⟩) :
    (Walking.seats position front.length back.length).flatMap (orderAt tree) =
      walkOrderAll position front.length back := by
  induction back generalizing front with
  | nil => rfl
  | cons kid rest ih =>
      have here : tree.at? (position ++ [front.length]) = some kid := by
        rw [Node.at?_append, found, Option.bind_some, Node.at?]
        simp [Node.at?]
      have later := ih (front ++ [kid]) (by simpa using found)
      rw [List.length_append, List.length_singleton] at later
      rw [Walking.seats, List.length_cons, List.range'_succ, List.map_cons, List.flatMap_cons,
        orderAt_eq here, Node.walkOrderAll, ← later]
      rfl

/-- What stands below a position of a tree comes in the order of the tree at the position. -/
theorem mem_orderAt {position other : Position} {parent : Option Position} {below : Node}
    (found : tree.at? position = some node) (deeper : tree.at? other = some below)
    (under : position <+: other) : other ∈ (walkOrder position parent node).map Prod.fst := by
  obtain ⟨rest, rfl⟩ := under
  rw [Node.at?_append, found] at deeper
  exact Node.mem_walkOrder deeper position parent

end Order

/-- A stack and calls that fit a tree: all on the stack is there, and the calls so far and what the stack
stands for are the order of the tree. -/
structure Divides (tree : Node) (calls pending : List (Position × Option Position)) : Prop where
  present : ∀ entry ∈ pending, ∃ node, tree.at? entry.1 = some node
  order : calls ++ pending.flatMap (orderAt tree) = tree.preOrder

namespace Divides

variable {tree old : Node} {calls rest : List (Position × Option Position)}
  {entry : Position × Option Position}

theorem start (tree : Node) : Divides tree [] [([], none)] where
  present := by
    intro entry member
    rw [List.mem_singleton.mp member]
    exact ⟨tree, rfl⟩
  order := by
    rw [List.nil_append, List.flatMap_cons, List.flatMap_nil, List.append_nil]
    rfl

theorem nodup (divides : Divides tree calls (entry :: rest)) :
    (calls.map Prod.fst ++ ((orderAt tree entry).map Prod.fst ++
      (rest.flatMap (orderAt tree)).map Prod.fst)).Nodup := by
  rw [← List.map_append, ← List.map_append, ← List.flatMap_cons, divides.order]
  exact Node.nodup_walkOrder tree [] none

/-- The next node and those after it on the stack stand side by side, none below another. -/
theorem apart (divides : Divides tree calls (entry :: rest)) {later : Position × Option Position}
    (member : later ∈ rest) : ¬entry.1 <+: later.1 ∧ ¬later.1 <+: entry.1 := by
  obtain ⟨here, found⟩ := divides.present entry List.mem_cons_self
  obtain ⟨there, deeper⟩ := divides.present later (List.mem_cons_of_mem _ member)
  have nodup := (List.nodup_append.mp divides.nodup).2.1
  have disjoint := (List.nodup_append.mp nodup).2.2
  have inRest : ∀ position ∈ (orderAt tree later).map Prod.fst,
      position ∈ (rest.flatMap (orderAt tree)).map Prod.fst := by
    intro position inOrder
    obtain ⟨place, inPlaces, rfl⟩ := List.mem_map.mp inOrder
    exact List.mem_map_of_mem (List.mem_flatMap.mpr ⟨later, member, inPlaces⟩)
  rw [orderAt_eq deeper] at inRest
  rw [orderAt_eq found] at disjoint
  constructor
  · intro under
    exact disjoint _ (mem_orderAt found deeper under) _
      (inRest _ (mem_orderAt deeper deeper List.prefix_rfl)) rfl
  · intro higher
    exact disjoint _ (mem_orderAt found found List.prefix_rfl) _
      (inRest _ (mem_orderAt deeper found higher)) rfl

/-- What a change at the next node leaves in front of it and behind it are the calls so far and what the
rest of the stack stands for. -/
theorem preOrder_modifyAt (divides : Divides tree calls (entry :: rest))
    (found : tree.at? entry.1 = some old) (change : Node → Node) :
    (tree.modifyAt change entry.1).preOrder =
      calls ++ walkOrder entry.1 entry.2 (change old) ++ rest.flatMap (orderAt tree) := by
  obtain ⟨front, back, all⟩ := Node.exists_walkOrder_modifyAt found [] none
  have nodup := divides.nodup
  rw [orderAt_eq found, Node.walkOrder_eq, List.map_cons, List.cons_append, List.nodup_middle,
    List.nodup_cons, ← List.map_append, ← List.map_append] at nodup
  have notMem : ∀ parent, (entry.1, parent) ∉
      calls ++ (walkOrderAll entry.1 0 old.kids ++ rest.flatMap (orderAt tree)) :=
    fun parent member => nodup.1 (List.mem_map.mpr ⟨_, member, rfl⟩)
  have whole := all id
  rw [Node.modifyAt_same, List.nil_append, id, ← Node.preOrder, ← divides.order, List.flatMap_cons,
    orderAt_eq found, Node.walkOrder_eq, Node.walkOrder_eq entry.1, List.append_assoc, List.cons_append,
    List.cons_append, List.append_cons_inj_of_notMem
      (fun member => notMem _ (List.mem_append_left _ member))
      (fun member => notMem _ (List.mem_append_right _ member))] at whole
  obtain ⟨rfl, same, behind⟩ := whole
  rw [Node.preOrder, all change, List.nil_append, ← (Prod.mk.inj same).2, List.append_cancel_left behind]

/-- After a call on the next node and with the nodes below it on the stack, stack and calls fit the tree
again. -/
theorem next (divides : Divides tree calls (entry :: rest)) {after : Node} {change : Node → Node}
    (same : after.bones = (tree.modifyAt change entry.1).bones) :
    ∃ node, after.at? entry.1 = some node ∧
      Divides after (calls ++ [entry]) (Walking.seats entry.1 0 node.kids.length ++ rest) := by
  obtain ⟨old, found⟩ := divides.present entry List.mem_cons_self
  have looks := Node.at?_of_bones same entry.1
  rw [Node.at?_modifyAt, found, Option.map_some, Option.map_some, Option.map_eq_some_iff] at looks
  obtain ⟨node, here, alike⟩ := looks
  have others : ∀ later ∈ rest, (tree.modifyAt change entry.1).at? later.1 = tree.at? later.1 :=
    fun later member => Node.at?_modifyAt_of_apart (divides.apart member).1 (divides.apart member).2 _ _
  have behind : rest.flatMap (orderAt after) = rest.flatMap (orderAt tree) := by
    apply List.flatMap_congr
    intro later member
    rw [orderAt_of_bones same, orderAt, others later member, orderAt]
  refine ⟨node, here, ?_, ?_⟩
  · intro later member
    rcases List.mem_append.mp member with inSeats | inRest
    · obtain ⟨place, inRange, rfl⟩ := List.mem_map.mp inSeats
      rw [List.mem_range'_1, Nat.zero_add] at inRange
      refine ⟨node.kids[place], ?_⟩
      rw [Node.at?_append, here, Option.bind_some, Node.at?, List.getElem?_eq_getElem inRange.2]
      rfl
    · obtain ⟨below, deeper⟩ := divides.present later (List.mem_cons_of_mem _ inRest)
      have seen := Node.at?_of_bones same later.1
      rw [others later inRest, deeper, Option.map_some, Option.map_eq_some_iff] at seen
      exact ⟨seen.choose, seen.choose_spec.1⟩
  · have seats : (Walking.seats entry.1 0 node.kids.length).flatMap (orderAt after) =
        walkOrderAll entry.1 0 node.kids := by
      cases node with
      | mk label kids => exact flatMap_seats [] kids here
    have order : walkOrder entry.1 entry.2 node = walkOrder entry.1 entry.2 (change old) := by
      rw [← Node.walkOrder_mapLabels Label.bones node, ← Node.bones, alike, Node.bones,
        Node.walkOrder_mapLabels]
    rw [List.flatMap_append, seats, behind, Node.preOrder_of_bones same,
      divides.preOrder_modifyAt found, ← order, Node.walkOrder_eq]
    simp only [List.append_assoc, List.cons_append, List.nil_append]

end Divides

/-! ## What a walk comes to -/

structure Walking.Sound {σ : Type} (walking : Walking σ) : Prop where
  formed : walking.tree.WellFormed
  divides : Divides walking.tree walking.calls walking.pending

namespace Walking.Sound

variable {σ : Type} {allowed : List Node → List Node → Prop} {visitor : Visitor σ} {walking : Walking σ}

theorem start {tree : Node} (memory : σ) (formed : tree.WellFormed) :
    (Walking.start memory tree).Sound :=
  ⟨formed, .start tree⟩

/-- A lawful call does not stop the walk. -/
theorem round (sound : walking.Sound) {position : Position} {parent : Option Position}
    {rest : List (Position × Option Position)} (next : walking.pending = (position, parent) :: rest)
    (touches : Touches allowed position walking.tree
      (visitor walking.memory walking.tree position parent).2) :
    ∃ after, walking.round visitor = .ok after ∧ after.Sound ∧
      after.calls = walking.calls ++ [(position, parent)] ∧
      after.tree = (visitor walking.memory walking.tree position parent).2 := by
  obtain ⟨formed, change, same⟩ := touches.exists_change sound.formed
  have divides := sound.divides
  rw [next] at divides
  obtain ⟨node, here, again⟩ := divides.next same
  have known : node.label.kind.isKnown = true :=
    Node.WellFormed.isKnown (Node.Everywhere.at? formed here)
  rw [Walking.round, next]
  simp only [here, Node.walkedKids, known, if_true]
  exact ⟨_, rfl, ⟨formed, again⟩, rfl, rfl⟩

/-- Rounds with lawful calls never stop the walk: each of them makes one call, until the stack is empty.
When no call makes the tree larger, they do not. -/
theorem rounds (sound : walking.Sound) (lawful : Lawful allowed visitor walking) (count : Nat) :
    ∃ last, Walking.rounds visitor count walking = .ok last ∧ last.Sound ∧
      (last.pending = [] ∨ last.calls.length = walking.calls.length + count) ∧
      ((∀ position before after, Touches allowed position before after → after.size ≤ before.size) →
        last.tree.size ≤ walking.tree.size) := by
  induction count generalizing walking with
  | zero => exact ⟨walking, rfl, sound, .inr rfl, fun _ => Nat.le_refl _⟩
  | succ count ih =>
      cases next : walking.pending with
      | nil => exact ⟨walking, rounds_of_empty next _, sound, .inl next, fun _ => Nat.le_refl _⟩
      | cons entry rest =>
          have touches := lawful 0 walking entry.1 entry.2 rest rfl next
          obtain ⟨after, goes, soundAfter, calls, tree⟩ := sound.round next touches
          obtain ⟨last, reaches, soundLast, ends, sizes⟩ := ih soundAfter (lawful.after goes)
          refine ⟨last, (rounds_succ goes count).trans reaches, soundLast, ?_, ?_⟩
          · rw [calls, List.length_append, List.length_singleton] at ends
            exact ends.imp_right fun made => by omega
          · intro smaller
            have own := smaller _ _ _ touches
            rw [← tree] at own
            exact Nat.le_trans (sizes smaller) own

/-- Calls that would be lawful on any well-formed tree are lawful on a walk. -/
theorem lawful (sound : walking.Sound) (each : ∀ memory tree position parent, tree.WellFormed →
      (∃ node, tree.at? position = some node) →
        Touches allowed position tree (visitor memory tree position parent).2) :
    Lawful allowed visitor walking := by
  have next : ∀ {walking : Walking σ}, walking.Sound → ∀ {position parent rest},
      walking.pending = (position, parent) :: rest → Touches allowed position walking.tree
        (visitor walking.memory walking.tree position parent).2 := by
    intro walking sound position parent rest top
    exact each _ _ _ _ sound.formed
      (sound.divides.present (position, parent) (top ▸ List.mem_cons_self))
  intro count reached position parent rest reaches top
  induction count generalizing walking with
  | zero =>
      obtain rfl := Except.ok.inj reaches
      exact next sound top
  | succ count ih =>
      cases pending : walking.pending with
      | nil =>
          rw [rounds_of_empty pending] at reaches
          obtain rfl := Except.ok.inj reaches
          exact next sound top
      | cons entry later =>
          obtain ⟨after, goes, soundAfter, _⟩ := sound.round pending (next sound pending)
          rw [rounds_succ goes] at reaches
          exact ih soundAfter reaches

/-- When the stack is empty, the calls are the order of the tree as it is then. -/
theorem calls_of_empty (sound : walking.Sound) (empty : walking.pending = []) :
    walking.calls = walking.tree.preOrder := by
  have order := sound.divides.order
  rw [empty, List.flatMap_nil, List.append_nil] at order
  exact order

/-- What is on the stack has not been counted among the calls. -/
theorem length_calls_lt (sound : walking.Sound) (more : walking.pending ≠ []) :
    walking.calls.length < walking.tree.size := by
  have order := congrArg List.length sound.divides.order
  cases next : walking.pending with
  | nil => exact (more next).elim
  | cons entry rest =>
      obtain ⟨node, found⟩ := sound.divides.present entry (next ▸ List.mem_cons_self)
      rw [next, Node.length_preOrder, List.flatMap_cons, orderAt_eq found, Node.walkOrder_eq,
        List.cons_append, List.length_append, List.length_cons] at order
      omega

end Walking.Sound

section Walk

variable {σ : Type} {visitor : Visitor σ} {memory : σ} {tree : Node}

/-- A walk whose calls do nothing to children but take some away has come to its end after as many rounds
as the tree had nodes. -/
theorem rounds_filtered (formed : tree.WellFormed)
    (lawful : Lawful (fun old new => new.Sublist old) visitor (.start memory tree)) :
    ∃ last, Walking.rounds visitor tree.size (.start memory tree) = .ok last ∧ last.pending = [] := by
  obtain ⟨last, reaches, sound, ends, sizes⟩ := (Walking.Sound.start memory formed).rounds lawful tree.size
  refine ⟨last, reaches, ?_⟩
  by_contra more
  have fewer := sound.length_calls_lt more
  have smaller := sizes fun _ _ _ touches => touches.size_le
  have made := ends.resolve_left more
  simp only [Walking.start, List.length_nil] at made smaller
  omega

end Walk

end TemplateSpacing.Tree
