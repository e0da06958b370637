import TemplateSpacing.Tree.Basic

/-! # Trees from documents

A node is an object with a type.  The label of a node is read before anything below it, and the labels
of all its children before anything below one of them; then the children are completed, the last one
first.  So the first fault in that order is the one that is reported.
-/

set_option autoImplicit false

namespace TemplateSpacing.Tree

/-- Why a document is no tree.  Some refusals show the literal of a value, and are lost when it has
none. -/
inductive DecodeError
  | notAnObject (kindName : String)
  | noType (written : String)
  | unknownType (typeName : String)
  | notAString (typeName field written : String)
  | notAList (typeName field : String)
  | notABody (slot : Slot)
  | unwritable (e : Value.LiteralError)
deriving DecidableEq, Repr

def DecodeError.message : DecodeError → String
  | .notAnObject kindName => "Expected a node object, got " ++ kindName
  | .noType written => "Node without a 'type' field: " ++ written
  | .unknownType typeName => "Unknown template node type: " ++ Text.quoted typeName
  | .notAString typeName field written =>
    typeName ++ ": field " ++ Text.quoted field ++ " must be a string, got " ++ written
  | .notAList typeName field => typeName ++ ": field " ++ Text.quoted field ++ " must be a list"
  | .notABody slot =>
    (Kind.block .null true true).typeKey ++ ": field " ++ Text.quoted slot.name ++
      " must be a Block or Program"
  | .unwritable e => e.message

def DecodeError.showing (refuse : String → DecodeError) (value : Value) : DecodeError :=
  match value.literal with
  | .ok written => refuse written
  | .error e => .unwritable e

/-! ## Labels -/

def stringField (typeName field : String) (fields : Entries Value) : Except DecodeError String :=
  match fields.find? field with
  | some (.text s) => .ok s
  | some value => .error (.showing (.notAString typeName field) value)
  | none => .error (.showing (.notAString typeName field) .null)

def listField (typeName field : String) (fields : Entries Value) : Except DecodeError (List Value) :=
  match fields.find? field with
  | none => .ok []
  | some (.list items) => .ok items
  | some _ => .error (.notAList typeName field)

/-- Whether a body of a block is there: it is neither absent nor null. -/
def hasBody (slot : Slot) (fields : Entries Value) : Bool :=
  (fields.find? slot.name).any fun value => !value.isNull

def readKind (typeName : String) (fields : Entries Value) : Except DecodeError Kind :=
  if typeName = (Kind.root .template).typeKey then .ok (.root .template)
  else if typeName = (Kind.root .block).typeKey then .ok (.root .block)
  else if typeName = (Kind.root .program).typeKey then .ok (.root .program)
  else if typeName = (Kind.element "" []).typeKey then do
    let tag ← stringField typeName "tag" fields
    return .element tag (← listField typeName "attributes" fields)
  else if typeName = (Kind.text "").typeKey then
    return .text (← stringField typeName "chars" fields)
  else if typeName = (Kind.mustache .null).typeKey then
    return .mustache ((fields.find? "path").getD .null)
  else if typeName = (Kind.block .null true true).typeKey then
    return .block ((fields.find? "path").getD .null) (hasBody .program fields)
      (hasBody .inverse fields)
  else if typeName = (Kind.comment "").typeKey then
    return .comment (← stringField typeName "value" fields)
  else if typeName = (Kind.mustacheComment "").typeKey then
    return .mustacheComment (← stringField typeName "value" fields)
  else .error (.unknownType typeName)

def ownKeys : Kind → List String
  | .root _ => ["body"]
  | .element _ _ => ["tag", "children", "attributes"]
  | .text _ => ["chars"]
  | .mustache _ => ["path"]
  | .block _ _ _ => ["path", "program", "inverse"]
  | .comment _ => ["value"]
  | .mustacheComment _ => ["value"]
  | .bare => []
  | .bodyLabel _ => []
  | .foreign _ => []

/-- The keys of a node that are not kept as extra fields. -/
def consumedKeys (kind : Kind) : List String :=
  "type" :: ownKeys kind ++ Note.all.map Note.key

def readLabel : Value → Except DecodeError Label
  | .table fields =>
    match Entries.find? "type" fields with
    | some (.text typeName) => do
      let kind ← readKind typeName fields
      return ⟨kind, Notes.ofFields fields, Entries.without (consumedKeys kind) fields⟩
    | _ => .error (.showing .noType (.table fields))
  | value => .error (.notAnObject value.kindName)

/-! ## Nodes -/

def readLabels : List Value → Except DecodeError (List (Value × Label))
  | [] => .ok []
  | item :: rest =>
    match readLabel item with
    | .error e => .error e
    | .ok label => (readLabels rest).map ((item, label) :: ·)

def readBodyLabels (fields : Entries Value) :
    List Slot → Except DecodeError (List (Value × Label))
  | [] => .ok []
  | slot :: rest =>
    match fields.find? slot.name with
    | none => readBodyLabels fields rest
    | some value =>
      if value.isNull then readBodyLabels fields rest
      else
        match readLabel value with
        | .error e => .error e
        | .ok label =>
          if label.kind.isRoot then (readBodyLabels fields rest).map ((value, label) :: ·)
          else .error (.notABody slot)

def below (kind : Kind) : Value → Except DecodeError (List (Value × Label))
  | .table fields =>
    match kind with
    | .root _ =>
      match listField kind.typeKey "body" fields with
      | .error e => .error e
      | .ok items => readLabels items
    | .element _ _ =>
      match listField kind.typeKey "children" fields with
      | .error e => .error e
      | .ok items => readLabels items
    | .block _ _ _ => readBodyLabels fields [.program, .inverse]
    | _ => .ok []
  | _ => .ok []

theorem sizeOf_find? {key : String} {fields : Entries Value} {value : Value}
    (found : fields.find? key = some value) : sizeOf value < sizeOf fields := by
  induction fields with
  | nil => simp [Entries.find?] at found
  | cons entry rest ih =>
    obtain ⟨k, v⟩ := entry
    rw [Entries.find?] at found
    split at found
    · obtain rfl := Option.some.inj found
      simp
      omega
    · have := ih found
      simp
      omega

theorem mem_of_readLabels {items : List Value} {read : List (Value × Label)}
    (ok : readLabels items = .ok read) : ∀ entry ∈ read, entry.1 ∈ items := by
  induction items generalizing read with
  | nil =>
    obtain rfl := Except.ok.inj ok
    simp
  | cons item rest ih =>
    rw [readLabels] at ok
    split at ok
    · cases ok
    · cases later : readLabels rest with
      | error e => rw [later] at ok; cases ok
      | ok others =>
        rw [later] at ok
        obtain rfl := Except.ok.inj ok
        intro entry member
        rcases List.mem_cons.1 member with rfl | member
        · exact List.mem_cons_self
        · exact List.mem_cons_of_mem _ (ih later entry member)

theorem sizeOf_of_readBodyLabels {fields : Entries Value} {slots : List Slot}
    {read : List (Value × Label)} (ok : readBodyLabels fields slots = .ok read) :
    ∀ entry ∈ read, sizeOf entry.1 < sizeOf fields := by
  induction slots generalizing read with
  | nil =>
    obtain rfl := Except.ok.inj ok
    simp
  | cons slot rest ih =>
    rw [readBodyLabels] at ok
    split at ok
    · exact ih ok
    · next value found =>
      split at ok
      · exact ih ok
      · split at ok
        · cases ok
        · split at ok
          · cases later : readBodyLabels fields rest with
            | error e => rw [later] at ok; cases ok
            | ok others =>
              rw [later] at ok
              obtain rfl := Except.ok.inj ok
              intro entry member
              rcases List.mem_cons.1 member with rfl | member
              · exact sizeOf_find? found
              · exact ih later entry member
          · cases ok

theorem sizeOf_of_listField {typeName field : String} {fields : Entries Value} {items : List Value}
    (ok : listField typeName field fields = .ok items) :
    ∀ item ∈ items, sizeOf item < sizeOf fields := by
  rw [listField] at ok
  split at ok
  · obtain rfl := Except.ok.inj ok
    simp
  · next list found =>
    obtain rfl := Except.ok.inj ok
    intro item member
    have inList := List.sizeOf_lt_of_mem member
    have inFields := sizeOf_find? found
    simp at inFields
    omega
  · cases ok

theorem sizeOf_of_below {kind : Kind} {value : Value} {read : List (Value × Label)}
    (ok : below kind value = .ok read) : ∀ entry ∈ read, sizeOf entry.1 < sizeOf value := by
  unfold below at ok
  split at ok
  · next fields =>
    have smaller : sizeOf fields < sizeOf (Value.table fields) := by simp
    split at ok
    · split at ok
      · cases ok
      · next items list =>
        intro entry member
        have := sizeOf_of_listField list entry.1 (mem_of_readLabels ok entry member)
        omega
    · split at ok
      · cases ok
      · next items list =>
        intro entry member
        have := sizeOf_of_listField list entry.1 (mem_of_readLabels ok entry member)
        omega
    · intro entry member
      have := sizeOf_of_readBodyLabels ok entry member
      omega
    · obtain rfl := Except.ok.inj ok
      simp
  · obtain rfl := Except.ok.inj ok
    simp

/-- Completes a node whose label has been read: what stands below it is labelled from the first to
the last and completed from the last to the first. -/
def complete (value : Value) (label : Label) : Except DecodeError Node :=
  match _ok : below label.kind value with
  | .error e => .error e
  | .ok entries =>
    let nodes : Except DecodeError (List Node) := entries.attach.foldr (fun ⟨entry, _⟩ later =>
      match later with
      | .error e => .error e
      | .ok nodes => (complete entry.1 entry.2).map (· :: nodes)) (.ok [])
    nodes.map fun kids => ⟨label, kids⟩
termination_by sizeOf value
decreasing_by exact sizeOf_of_below (by assumption) entry (by assumption)

def decode (value : Value) : Except DecodeError Node :=
  match readLabel value with
  | .error e => .error e
  | .ok label => complete value label

end TemplateSpacing.Tree
