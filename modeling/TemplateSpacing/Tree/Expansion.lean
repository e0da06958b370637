import TemplateSpacing.Tree.Decode
import TemplateSpacing.Tree.Position

/-! # Decoding with a stack

A document can be decoded without recursion: a stack holds the nodes whose labels have been read and whose
contents are still to come, and the tree grows where the top one stands.
-/

set_option autoImplicit false

namespace TemplateSpacing.Tree

open Node (hang)

/-! ## Values with their positions -/

/-- Why a document is refused: the value that is at fault, and where it stands in the tree. -/
structure Refusal where
  position : Position
  value : Value
  error : DecodeError

/-- A node whose label has been read from a value, while nothing below it has. -/
structure Pending where
  position : Position
  value : Value
  label : Label

structure Request where
  value : Value
  slot : Option Slot

def Request.objection? (request : Request) (kind : Kind) : Option DecodeError :=
  request.slot.bind fun slot => if kind.isRoot then none else some (.notABody slot)

def bodyRequests (fields : Entries Value) (slots : List Slot) : List Request :=
  slots.filterMap fun slot =>
    ((fields.find? slot.name).filter fun value => !value.isNull).map fun value => ⟨value, some slot⟩

def requestsBelow (kind : Kind) : Value → Except DecodeError (List Request)
  | .table fields =>
    match kind with
    | .root _ => (listField kind.typeKey "body" fields).map (List.map fun item => ⟨item, none⟩)
    | .element _ _ =>
      (listField kind.typeKey "children" fields).map (List.map fun item => ⟨item, none⟩)
    | .block _ _ _ => .ok (bodyRequests fields [.program, .inverse])
    | _ => .ok []
  | _ => .ok []

def Request.readAt (request : Request) (position : Position) : Except Refusal Pending :=
  match readLabel request.value with
  | .error error => .error ⟨position, request.value, error⟩
  | .ok label =>
    match request.objection? label.kind with
    | some error => .error ⟨position, request.value, error⟩
    | none => .ok ⟨position, request.value, label⟩

def readAllAt (parent : Position) : Nat → List Request → Except Refusal (List Pending)
  | _, [] => .ok []
  | index, request :: rest =>
    match request.readAt (parent ++ [index]) with
    | .error refusal => .error refusal
    | .ok node => (readAllAt parent (index + 1) rest).map (node :: ·)

def Pending.below (pending : Pending) : Except Refusal (List Pending) :=
  match requestsBelow pending.label.kind pending.value with
  | .error error => .error ⟨pending.position, pending.value, error⟩
  | .ok requests => readAllAt pending.position 0 requests

section Below

variable {parent : Position} {fields : Entries Value} {index : Nat}

theorem Request.readAt_ok {request : Request} {position : Position} {pending : Pending}
    (read : request.readAt position = .ok pending) :
    pending.position = position ∧ pending.value = request.value := by
  rw [readAt] at read
  split at read
  · cases read
  · split at read
    · cases read
    · cases read
      exact ⟨rfl, rfl⟩

theorem values_readAllAt {requests : List Request} {nodes : List Pending}
    (read : readAllAt parent index requests = .ok nodes) :
    nodes.map Pending.value = requests.map Request.value := by
  induction requests generalizing index nodes with
  | nil =>
      obtain rfl := Except.ok.inj read
      rfl
  | cons request rest ih =>
      rw [readAllAt] at read
      split at read
      · cases read
      · next node own =>
          cases later : readAllAt parent (index + 1) rest with
          | error refusal =>
              rw [later] at read
              cases read
          | ok others =>
              rw [later] at read
              obtain rfl := Except.ok.inj read
              rw [List.map_cons, List.map_cons, ih later, (Request.readAt_ok own).2]

/-! ## Sizes -/

/-- How much there is to read in some values. -/
noncomputable def bulk : List Value → Nat
  | [] => 0
  | value :: rest => sizeOf value + bulk rest

theorem bulk_append (front back : List Value) : bulk (front ++ back) = bulk front + bulk back := by
  induction front with
  | nil => rw [List.nil_append, bulk, Nat.zero_add]
  | cons value rest ih => rw [List.cons_append, bulk, bulk, ih, Nat.add_assoc]

theorem bulk_reverse (values : List Value) : bulk values.reverse = bulk values := by
  induction values with
  | nil => rfl
  | cons value rest ih =>
      rw [List.reverse_cons, bulk_append, ih, bulk, bulk, bulk, Nat.add_zero, Nat.add_comm]

theorem bulk_lt_sizeOf (items : List Value) : bulk items < sizeOf items := by
  induction items with
  | nil => exact Nat.one_pos
  | cons item rest ih =>
      rw [bulk, List.cons.sizeOf_spec]
      omega

theorem sizeOf_value_pos (value : Value) : 0 < sizeOf value := by
  cases value <;> simp only [Value.null.sizeOf_spec, Value.bool.sizeOf_spec, Value.int.sizeOf_spec,
    Value.double.sizeOf_spec, Value.text.sizeOf_spec, Value.moment.sizeOf_spec, Value.list.sizeOf_spec,
    Value.table.sizeOf_spec] <;> omega

theorem sizeOf_fields_pos (fields : Entries Value) : 0 < sizeOf fields := by
  cases fields with
  | nil => decide
  | cons _ _ =>
      rw [List.cons.sizeOf_spec]
      omega

theorem sizeOf_find?_add {first second : String} (apart : first ≠ second) {value other : Value}
    (here : fields.find? first = some value) (there : fields.find? second = some other) :
    sizeOf value + sizeOf other < sizeOf fields := by
  induction fields with
  | nil => cases here
  | cons entry rest ih =>
      obtain ⟨key, held⟩ := entry
      rw [Entries.find?] at here there
      split at here
      · next isFirst =>
          rw [if_neg (isFirst ▸ apart)] at there
          obtain rfl := Option.some.inj here
          have := sizeOf_find? there
          simp
          omega
      · split at there
        · obtain rfl := Option.some.inj there
          have := sizeOf_find? here
          simp
          omega
        · have := ih here there
          simp
          omega

theorem bulk_listField {typeName field : String} {items : List Value}
    (read : listField typeName field fields = .ok items) : bulk items < sizeOf fields := by
  rw [listField] at read
  split at read
  · obtain rfl := Except.ok.inj read
    exact sizeOf_fields_pos fields
  · next list found =>
      obtain rfl := Except.ok.inj read
      have inFields := sizeOf_find? found
      have items := bulk_lt_sizeOf list
      simp at inFields
      omega
  · cases read

theorem bulk_bodyRequests_le (fields : Entries Value) (slots : List Slot) :
    bulk ((bodyRequests fields slots).map Request.value) ≤
      bulk (slots.filterMap fun slot => fields.find? slot.name) := by
  induction slots with
  | nil => exact Nat.le_refl _
  | cons slot rest ih =>
      rw [bodyRequests, List.filterMap_cons, List.filterMap_cons, ← bodyRequests]
      cases fields.find? slot.name with
      | none => exact ih
      | some value =>
          rw [Option.filter_some]
          cases value.isNull with
          | true => exact Nat.le_trans ih (Nat.le_add_left _ _)
          | false => exact Nat.add_le_add_left ih _

theorem bulk_bodyRequests :
    bulk ((bodyRequests fields [.program, .inverse]).map Request.value) < sizeOf fields := by
  refine Nat.lt_of_le_of_lt (bulk_bodyRequests_le fields [.program, .inverse]) ?_
  rw [List.filterMap_cons, List.filterMap_cons, List.filterMap_nil]
  cases program : fields.find? Slot.program.name with
  | none =>
      cases inverse : fields.find? Slot.inverse.name with
      | none => exact sizeOf_fields_pos fields
      | some body => exact sizeOf_find? inverse
  | some main =>
      cases inverse : fields.find? Slot.inverse.name with
      | none => exact sizeOf_find? program
      | some body => exact sizeOf_find?_add (by decide) program inverse

theorem bulk_listed {typeName field : String} {requests : List Request}
    (read : (listField typeName field fields).map (List.map fun item => ⟨item, none⟩) = .ok requests) :
    bulk (requests.map Request.value) < sizeOf fields := by
  cases list : listField typeName field fields with
  | error error =>
      rw [list] at read
      cases read
  | ok items =>
      rw [list] at read
      obtain rfl := Except.ok.inj read
      have children : (items.map fun item => (⟨item, none⟩ : Request)).map Request.value = items := by
        rw [List.map_map]
        exact List.map_id' items
      rw [children]
      exact bulk_listField list

theorem bulk_requestsBelow {kind : Kind} {value : Value} {requests : List Request}
    (found : requestsBelow kind value = .ok requests) :
    bulk (requests.map Request.value) < sizeOf value := by
  have nothing : requests = [] → bulk (requests.map Request.value) < sizeOf value := by
    rintro rfl
    exact sizeOf_value_pos value
  unfold requestsBelow at found
  split at found
  · next fields =>
      have smaller : sizeOf fields < sizeOf (Value.table fields) := by simp
      split at found
      · exact Nat.lt_trans (bulk_listed found) smaller
      · exact Nat.lt_trans (bulk_listed found) smaller
      · obtain rfl := Except.ok.inj found
        exact Nat.lt_trans bulk_bodyRequests smaller
      · exact nothing (Except.ok.inj found).symm
  · exact nothing (Except.ok.inj found).symm

/-- There is less to read below a node than in its value. -/
theorem bulk_below {pending : Pending} {nodes : List Pending} (read : pending.below = .ok nodes) :
    bulk (nodes.map Pending.value) < sizeOf pending.value := by
  rw [Pending.below] at read
  split at read
  · cases read
  · next requests found =>
      rw [values_readAllAt read]
      exact bulk_requestsBelow found

end Below

/-! ## The stack -/

def Pending.leaf (pending : Pending) : Node := ⟨pending.label, []⟩

/-- Takes the top node off the stack, hangs the nodes that are read below it into the tree, and puts
them on the stack, the last one on top; until the stack is empty. -/
def drain (tree : Node) : List Pending → Except Refusal Node
  | [] => .ok tree
  | top :: stack =>
    match _read : top.below with
    | .error refusal => .error refusal
    | .ok nodes =>
      drain (hang top.position (nodes.map Pending.leaf) tree) (nodes.reverse ++ stack)
termination_by stack => bulk (stack.map Pending.value)
decreasing_by
  have less := bulk_below (by assumption)
  rw [List.map_append, List.map_reverse, bulk_append, bulk_reverse, List.map_cons, bulk]
  exact Nat.add_lt_add_right less _

def drainDocument (document : Value) : Except Refusal Node :=
  match (Request.mk document none).readAt [] with
  | .error refusal => .error refusal
  | .ok top => drain top.leaf [top]

end TemplateSpacing.Tree
