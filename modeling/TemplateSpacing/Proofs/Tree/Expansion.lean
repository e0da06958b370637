import TemplateSpacing.Proofs.Tree.Decoded
import TemplateSpacing.Proofs.Tree.Positions
import TemplateSpacing.Tree.Expansion

/-! # The stack and the recursion

What is done with a node on the stack of a document that is decoded, until everything below it is there, is what
the recursion does with it; so the two give one tree, or refuse a document for one value.
-/

set_option autoImplicit false

namespace TemplateSpacing.Tree

open Node (hang)

/-! ## Values with their positions -/

def unlocated {α : Type} (result : Except Refusal α) : Except DecodeError α :=
  result.mapError Refusal.error

def Pending.entry (pending : Pending) : Value × Label := (pending.value, pending.label)

section Below

variable {parent : Position} {fields : Entries Value} {index : Nat}

theorem unlocated_map {α β : Type} (f : α → β) (result : Except Refusal α) :
    unlocated (result.map f) = (unlocated result).map f := by
  cases result <;> rfl

theorem unlocated_children (index : Nat) (items : List Value) :
    (unlocated (readAllAt parent index (items.map fun item => ⟨item, none⟩))).map
      (List.map Pending.entry) = readLabels items := by
  induction items generalizing index with
  | nil => rfl
  | cons item rest ih =>
      rw [List.map_cons, readAllAt, readLabels, ← ih (index + 1), Request.readAt]
      cases readLabel item with
      | error error => rfl
      | ok label =>
          simp only [Request.objection?, Option.bind_none]
          cases readAllAt parent (index + 1) (rest.map fun item => ⟨item, none⟩) <;> rfl

theorem unlocated_bodies (index : Nat) (slots : List Slot) :
    (unlocated (readAllAt parent index (bodyRequests fields slots))).map (List.map Pending.entry) =
      readBodyLabels fields slots := by
  induction slots generalizing index with
  | nil => rfl
  | cons slot rest ih =>
      rw [bodyRequests, List.filterMap_cons, readBodyLabels]
      cases fields.find? slot.name with
      | none => exact ih index
      | some value =>
          cases isNull : value.isNull with
          | true =>
              simp only [Option.filter_some, isNull, Bool.not_true]
              exact ih index
          | false =>
              simp only [Option.filter_some, isNull, Bool.not_false, if_true, Option.map_some,
                Bool.false_eq_true, if_false]
              rw [readAllAt, Request.readAt, ← ih (index + 1), ← bodyRequests]
              cases readLabel value with
              | error error => rfl
              | ok label =>
                  cases isRoot : label.kind.isRoot with
                  | false =>
                      simp only [Request.objection?, Option.bind_some, isRoot, Bool.false_eq_true, if_false]
                      rfl
                  | true =>
                      simp only [Request.objection?, Option.bind_some, isRoot, if_true]
                      cases readAllAt parent (index + 1) (bodyRequests fields rest) <;> rfl

/-- Without positions, what stands below is what the recursion finds there. -/
theorem unlocated_below (pending : Pending) :
    (unlocated pending.below).map (List.map Pending.entry) =
      below pending.label.kind pending.value := by
  obtain ⟨position, value, label⟩ := pending
  simp only [Pending.below]
  cases value with
  | table fields =>
      cases label.kind with
      | root which =>
          simp only [requestsBelow, below]
          cases listField (Kind.root which).typeKey "body" fields with
          | error error => rfl
          | ok items => exact unlocated_children 0 items
      | element tag attributes =>
          simp only [requestsBelow, below]
          cases listField (Kind.element tag attributes).typeKey "children" fields with
          | error error => rfl
          | ok items => exact unlocated_children 0 items
      | block path hasProgram hasInverse => exact unlocated_bodies 0 [.program, .inverse]
      | _ => rfl
  | _ => rfl

theorem position_readAllAt {requests : List Request} {nodes : List Pending}
    (read : readAllAt parent index requests = .ok nodes) {place : Nat} {node : Pending}
    (here : nodes[place]? = some node) : node.position = parent ++ [index + place] := by
  induction requests generalizing index nodes place with
  | nil =>
      obtain rfl := Except.ok.inj read
      cases here
  | cons request rest ih =>
      rw [readAllAt] at read
      split at read
      · cases read
      · next first own =>
          obtain ⟨later, readLater, rfl⟩ := ok_of_map read
          cases place with
          | zero =>
              obtain rfl := Option.some.inj here
              exact (Request.readAt_ok own).1
          | succ place =>
              rw [ih readLater here, Nat.add_right_comm, Nat.add_assoc]

/-- What is read below a node is numbered from its first to its last. -/
theorem position_below {pending : Pending} {nodes : List Pending} (read : pending.below = .ok nodes)
    {place : Nat} {node : Pending} (here : nodes[place]? = some node) :
    node.position = pending.position ++ [place] := by
  rw [Pending.below] at read
  split at read
  · cases read
  · rw [position_readAllAt read here, Nat.zero_add]

theorem below_of_pending {pending : Pending} {nodes : List Pending} (read : pending.below = .ok nodes) :
    below pending.label.kind pending.value = .ok (nodes.map Pending.entry) := by
  rw [← unlocated_below, read]
  rfl

theorem sizeOf_of_pending {pending : Pending} {nodes : List Pending} (read : pending.below = .ok nodes) :
    ∀ node ∈ nodes, sizeOf node.value < sizeOf pending.value := by
  intro node member
  exact sizeOf_of_below (below_of_pending read) node.entry (List.mem_map_of_mem member)

end Below

/-! ## The recursion -/

/-- Expands a pending node: what stands right below it is labelled first, and then expanded from the last
to the first. -/
def Pending.expand (pending : Pending) : Except Refusal Node :=
  match _read : pending.below with
  | .error refusal => .error refusal
  | .ok nodes =>
    let expanded : Except Refusal (List Node) := nodes.attach.foldr (fun ⟨node, _⟩ later =>
      match later with
      | .error refusal => .error refusal
      | .ok kids => node.expand.map (· :: kids)) (.ok [])
    expanded.map fun kids => ⟨pending.label, kids⟩
termination_by sizeOf pending.value
decreasing_by exact sizeOf_of_pending (by assumption) node (by assumption)

def expandNext (node : Pending) (later : Except Refusal (List Node)) : Except Refusal (List Node) :=
  match later with
  | .error refusal => .error refusal
  | .ok kids => node.expand.map (· :: kids)

theorem expand_eq (pending : Pending) :
    pending.expand =
      match pending.below with
      | .error refusal => .error refusal
      | .ok nodes => (nodes.foldr expandNext (.ok [])).map fun kids => ⟨pending.label, kids⟩ := by
  rw [Pending.expand]
  split
  · next refusal read => rw [read]
  · next nodes read =>
      rw [read]
      exact congrArg (Except.map _) (List.foldr_attach (f := expandNext))

def expandDocument (document : Value) : Except Refusal Node :=
  match (Request.mk document none).readAt [] with
  | .error refusal => .error refusal
  | .ok top => top.expand

/-! ## The stack -/

theorem drain_cons (tree : Node) (top : Pending) (stack : List Pending) :
    drain tree (top :: stack) =
      match top.below with
      | .error refusal => .error refusal
      | .ok nodes =>
        drain (hang top.position (nodes.map Pending.leaf) tree) (nodes.reverse ++ stack) := by
  rw [drain]
  split
  · next refusal read => rw [read]
  · next nodes read => rw [read]

/-! ## Both are one -/

/-- What a node that is popped off the stack comes to: the tree is refused, or it grows the whole node
and the stack is as it was below. -/
def Unfolds (pending : Pending) : Prop :=
  ∀ (tree : Node) (stack : List Pending),
    drain (tree.plant pending.position pending.leaf) (pending :: stack) =
    match pending.expand with
    | .error refusal => .error refusal
    | .ok node => drain (tree.plant pending.position node) stack

theorem foldr_expandNext_error (nodes : List Pending) (refusal : Refusal) :
    nodes.foldr expandNext (.error refusal) = .error refusal := by
  induction nodes with
  | nil => rfl
  | cons node rest ih => rw [List.foldr_cons, ih, expandNext]

/-- The same for nodes that stand side by side, the last of which is on top of the stack, while some that
follow them have been done with. -/
theorem drain_siblings (parent : Position) (label : Label) (front : List Pending)
    (unfolds : ∀ node ∈ front, Unfolds node)
    (numbered : ∀ place node, front[place]? = some node → node.position = parent ++ [place])
    (done : List Node) (tree : Node) (stack : List Pending) :
    drain (tree.plant parent ⟨label, front.map Pending.leaf ++ done⟩) (front.reverse ++ stack) =
      match front.foldr expandNext (.ok done) with
      | .error refusal => .error refusal
      | .ok kids => drain (tree.plant parent ⟨label, kids⟩) stack := by
  induction front using List.reverseRecOn generalizing done with
  | nil => rfl
  | append_singleton front last ih =>
      have own := unfolds last (by simp)
      have position : last.position = parent ++ [(front.map Pending.leaf).length] := by
        rw [List.length_map]
        exact numbered _ last (by simp)
      have others := ih (fun node member => unfolds node (List.mem_append_left _ member))
        fun place node here => numbered place node (by
          rw [List.getElem?_append_left (List.getElem?_eq_some_iff.mp here).1]
          exact here)
      -- The tree has the last node in it already, as a leaf; planting it there again changes nothing.
      have planted := own (tree.plant parent ⟨label, front.map Pending.leaf ++ last.leaf :: done⟩)
        (front.reverse ++ stack)
      rw [position, Node.plant_below] at planted
      rw [List.map_append, List.map_cons, List.map_nil, List.append_assoc, List.reverse_concat,
        List.cons_append, List.cons_append, List.nil_append, planted, List.foldr_append,
        List.foldr_cons, List.foldr_nil, expandNext]
      cases last.expand with
      | error refusal =>
          simp only [Except.map, foldr_expandNext_error]
      | ok node =>
          simp only [Node.plant_below]
          exact others (node :: done)

theorem unfolds (pending : Pending) : Unfolds pending := by
  -- What stands below a value is smaller, but no part of it: the recursion is on the size.
  induction smaller : sizeOf pending.value using Nat.strongRecOn generalizing pending with
  | ind size ih =>
      intro tree stack
      rw [drain_cons, expand_eq]
      cases read : pending.below with
      | error refusal => rfl
      | ok nodes =>
          have siblings := drain_siblings pending.position pending.label nodes
            (fun node member => ih _ (smaller ▸ sizeOf_of_pending read node member) node rfl)
            (fun place node here => position_below read here) [] tree stack
          rw [List.append_nil] at siblings
          simp only [Pending.leaf, Node.hang_plant] at siblings ⊢
          rw [siblings]
          cases nodes.foldr expandNext (.ok []) <;> rfl

theorem unlocated_foldr {nodes : List Pending}
    (each : ∀ node ∈ nodes, unlocated node.expand = complete node.value node.label) :
    unlocated (nodes.foldr expandNext (.ok [])) =
      (nodes.map Pending.entry).foldr completeNext (.ok []) := by
  induction nodes with
  | nil => rfl
  | cons node rest ih =>
      have first := each node List.mem_cons_self
      have others := ih fun node member => each node (List.mem_cons_of_mem _ member)
      rw [List.foldr_cons, List.map_cons, List.foldr_cons, ← others]
      cases rest.foldr expandNext (.ok []) with
      | error refusal => rfl
      | ok kids =>
          rw [expandNext, unlocated_map, first]
          rfl

/-- Without positions, a pending node is expanded as the recursion completes it. -/
theorem unlocated_expand (pending : Pending) :
    unlocated pending.expand = complete pending.value pending.label := by
  induction smaller : sizeOf pending.value using Nat.strongRecOn generalizing pending with
  | ind size ih =>
      rw [expand_eq, complete_eq, ← unlocated_below]
      cases read : pending.below with
      | error refusal => rfl
      | ok nodes =>
          have each : ∀ node ∈ nodes, unlocated node.expand = complete node.value node.label :=
            fun node member => ih _ (smaller ▸ sizeOf_of_pending read node member) node rfl
          simp only [unlocated_map, unlocated_foldr each]
          rfl

/-- Decoding with a stack gives the tree that the recursion gives, or refuses the same value for the same
reason; and without positions both say what the decoder says. -/
theorem drainDocument_eq (document : Value) :
    drainDocument document = expandDocument document ∧
      unlocated (drainDocument document) = decode document := by
  have same : drainDocument document = expandDocument document := by
    rw [drainDocument, expandDocument]
    cases read : (Request.mk document none).readAt [] with
    | error refusal => rfl
    | ok top =>
        have whole := unfolds top top.leaf []
        rw [(Request.readAt_ok read).1] at whole
        simp only [Node.plant, Node.modifyAt] at whole
        simp only [whole]
        cases top.expand with
        | error refusal => rfl
        | ok node => simp only [drain]
  refine ⟨same, ?_⟩
  rw [same, expandDocument, decode, Request.readAt]
  cases readLabel document with
  | error error => rfl
  | ok label => exact unlocated_expand ⟨[], document, label⟩

end TemplateSpacing.Tree
