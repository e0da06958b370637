import TemplateSpacing.Proofs.Json.Reader
import TemplateSpacing.Proofs.Tree.Reencoded

/-! # What documents describe

A grammar says which documents describe trees.  A document that describes none is refused for a fault at
one of its places for nodes, and every place for a node is looked at: a document without a fault at any of
them is read.
-/

set_option autoImplicit false

namespace TemplateSpacing.Tree

/-! ## The grammar -/

def nodeTypes : List String :=
  ["Template", "Block", "Program", "ElementNode", "TextNode", "MustacheStatement", "BlockStatement",
    "CommentStatement", "MustacheCommentStatement"]

def bodyTypes : List String := ["Template", "Block", "Program"]

def textKeys : String → List String
  | "ElementNode" => ["tag"]
  | "TextNode" => ["chars"]
  | "CommentStatement" => ["value"]
  | "MustacheCommentStatement" => ["value"]
  | _ => []

def listKeys : String → List String
  | "Template" => ["body"]
  | "Block" => ["body"]
  | "Program" => ["body"]
  | "ElementNode" => ["attributes", "children"]
  | _ => []

def nodeListKeys : String → List String
  | "Template" => ["body"]
  | "Block" => ["body"]
  | "Program" => ["body"]
  | "ElementNode" => ["children"]
  | _ => []

def bodySlots : String → List Slot
  | "BlockStatement" => [.program, .inverse]
  | _ => []

def HasType (type : String) (fields : Entries Value) : Prop :=
  fields.find? "type" = some (.text type)

/-- What stands at a place for a node right below a node of a type.  A body that is null is none. -/
inductive Beneath (type : String) (fields : Entries Value) : Value → Prop
  | item {key : String} {items : List Value} {value : Value} (isKey : key ∈ nodeListKeys type)
      (found : fields.find? key = some (.list items)) (member : value ∈ items) :
      Beneath type fields value
  | body {slot : Slot} {value : Value} (isSlot : slot ∈ bodySlots type)
      (found : fields.find? slot.name = some value) (given : value.isNull = false) :
      Beneath type fields value

/-- Fields that hold what a node of a type has to have, whatever the documents below it are. -/
structure Proper (type : String) (fields : Entries Value) : Prop where
  known : type ∈ nodeTypes
  texts : ∀ key ∈ textKeys type, ∃ text, fields.find? key = some (.text text)
  lists : ∀ key ∈ listKeys type, ∀ value, fields.find? key = some value → ∃ items, value = .list items
  bodies : ∀ slot ∈ bodySlots type, ∀ value, fields.find? slot.name = some value →
    value.isNull = false →
      ∃ bodyFields bodyType, value = .table bodyFields ∧ HasType bodyType bodyFields ∧
        bodyType ∈ bodyTypes

inductive Describes : Value → Prop
  | node {fields : Entries Value} {type : String} (ofType : HasType type fields)
      (proper : Proper type fields) (below : ∀ value, Beneath type fields value → Describes value) :
      Describes (.table fields)

/-! ## Faults -/

inductive NodeIn : Value → Value → Prop
  | whole (document : Value) : NodeIn document document
  | deeper {fields : Entries Value} {type : String} {value part : Value} (ofType : HasType type fields)
      (beneath : Beneath type fields value) (inside : NodeIn value part) :
      NodeIn (.table fields) part

inductive Faulty : Value → DecodeError → Prop
  | notAnObject {value : Value} (other : value.fields? = none) :
      Faulty value (.notAnObject value.kindName)
  | noType {fields : Entries Value} (untyped : ∀ type, ¬HasType type fields) :
      Faulty (.table fields) (.showing .noType (.table fields))
  | unknownType {fields : Entries Value} {type : String} (ofType : HasType type fields)
      (unknown : type ∉ nodeTypes) : Faulty (.table fields) (.unknownType type)
  | notAString {fields : Entries Value} {type key : String} (ofType : HasType type fields)
      (isKey : key ∈ textKeys type) (other : ∀ text, fields.find? key ≠ some (.text text)) :
      Faulty (.table fields) (.showing (.notAString type key) ((fields.find? key).getD .null))
  | notAList {fields : Entries Value} {type key : String} {value : Value}
      (ofType : HasType type fields) (isKey : key ∈ listKeys type)
      (found : fields.find? key = some value) (other : ∀ items, value ≠ .list items) :
      Faulty (.table fields) (.notAList type key)
  | notABody {fields bodyFields : Entries Value} {type bodyType : String} {slot : Slot}
      (ofType : HasType type fields) (isSlot : slot ∈ bodySlots type)
      (found : fields.find? slot.name = some (.table bodyFields))
      (ofBody : HasType bodyType bodyFields) (other : bodyType ∉ bodyTypes) :
      Faulty (.table fields) (.notABody slot)

def DecodeError.isMalformed : DecodeError → Bool
  | .unknownType _ => false
  | .unwritable _ => false
  | _ => true

/-- A refusal that does not show a value says why the value cannot be written. -/
theorem cause_of_showing {refuse : String → DecodeError} {value : Value} {e : DecodeError}
    (refused : e = .showing refuse value) (other : ∀ written, e ≠ refuse written) :
    ∃ cause, e = .unwritable cause ∧ value.literal = .error cause := by
  rw [DecodeError.showing] at refused
  cases literal : value.literal with
  | ok written =>
      rw [literal] at refused
      exact absurd refused (other written)
  | error cause =>
      rw [literal] at refused
      exact ⟨cause, refused, rfl⟩

theorem hasType_unique {fields : Entries Value} {type other : String} (ofType : HasType type fields)
    (ofOther : HasType other fields) : other = type := by
  rw [HasType, ofOther] at ofType
  cases ofType
  rfl

theorem Describes.inside {document part : Value} (described : Describes document)
    (inside : NodeIn document part) : Describes part := by
  induction inside with
  | whole document => exact described
  | deeper ofType beneath _ ih =>
      cases described with
      | node ofNode _ below =>
          obtain rfl := hasType_unique ofType ofNode
          exact ih (below _ beneath)

open Value (Hereditary)

theorem Beneath.inherits {law : Value → Prop} (hereditary : Hereditary law) {type : String}
    {fields : Entries Value} {value : Value} (beneath : Beneath type fields value) (whole : law (.table fields)) :
    law value := by
  cases beneath with
  | item _ found member => exact hereditary.items _ (hereditary.fields _ whole _ (Entries.mem_of_find? found)) _ member
  | body _ found _ => exact hereditary.fields _ whole _ (Entries.mem_of_find? found)

theorem NodeIn.inherits {law : Value → Prop} (hereditary : Hereditary law) {document part : Value}
    (inside : NodeIn document part) (whole : law document) : law part := by
  induction inside with
  | whole _ => exact whole
  | deeper _ beneath _ ih => exact ih (beneath.inherits hereditary whole)

/-- What a refusal shows is in the part that is refused. -/
theorem Faulty.inherits {law : Value → Prop} (hereditary : Hereditary law) (null : law .null) {part : Value}
    {cause : Value.LiteralError} (faulty : Faulty part (.unwritable cause)) (whole : law part) :
    ∃ value, value.literal = .error cause ∧ law value := by
  generalize refused : DecodeError.unwritable cause = e at faulty
  cases faulty with
  | noType _ =>
      obtain ⟨_, same, failed⟩ := cause_of_showing refused fun _ => nofun
      cases same
      exact ⟨_, failed, whole⟩
  | @notAString fields _ key _ _ _ =>
      obtain ⟨_, same, failed⟩ := cause_of_showing refused fun _ => nofun
      cases same
      refine ⟨_, failed, ?_⟩
      cases found : fields.find? key with
      | none => exact null
      | some value => exact hereditary.fields _ whole _ (Entries.mem_of_find? found)
  | _ => cases refused

theorem Faulty.of_unknownType {part : Value} {type : String} (faulty : Faulty part (.unknownType type)) :
    ∃ fields, part = .table fields ∧ HasType type fields ∧ type ∉ nodeTypes := by
  generalize refused : DecodeError.unknownType type = e at faulty
  cases faulty with
  | noType _ =>
      obtain ⟨_, same, _⟩ := cause_of_showing refused fun _ => nofun
      cases same
  | notAString _ _ _ =>
      obtain ⟨_, same, _⟩ := cause_of_showing refused fun _ => nofun
      cases same
  | @unknownType fields _ ofType unknown =>
      cases refused
      exact ⟨fields, rfl, ofType, unknown⟩
  | _ => cases refused

/-- A refusal is lost only when a value in the document cannot be written. -/
theorem exists_cause {document part : Value} {cause : Value.LiteralError} (inside : NodeIn document part)
    (faulty : Faulty part (.unwritable cause)) :
    (cause = .longInteger ∧ document.isShort = false) ∨
      (cause = .tooDeep ∧ Value.deepestNesting < document.levels) := by
  cases cause with
  | longInteger =>
      refine .inl ⟨rfl, Bool.eq_false_iff.mpr fun short => ?_⟩
      have shortPart := inside.inherits Value.hereditary_isShort short
      obtain ⟨value, failed, shortValue⟩ := faulty.inherits Value.hereditary_isShort rfl shortPart
      exact Bool.noConfusion ((Value.isShort_of_literal failed).symm.trans shortValue)
  | tooDeep =>
      refine .inr ⟨rfl, Nat.lt_of_not_le fun shallow => ?_⟩
      have inPart := inside.inherits (Value.hereditary_levels _) shallow
      obtain ⟨value, failed, inValue⟩ := faulty.inherits (Value.hereditary_levels _) (Nat.zero_le _) inPart
      exact Nat.not_le.mpr (Value.levels_of_literal failed) inValue

theorem Describes.not_faulty {document : Value} {e : DecodeError} (described : Describes document) :
    ¬Faulty document e := by
  cases described with
  | @node fields type ofNode proper _ =>
      intro faulty
      cases faulty with
      | notAnObject other => cases other
      | noType untyped => exact untyped type ofNode
      | unknownType ofType unknown =>
          rw [hasType_unique ofNode ofType] at unknown
          exact unknown proper.known
      | notAString ofType isKey other =>
          obtain rfl := hasType_unique ofType ofNode
          obtain ⟨text, found⟩ := proper.texts _ isKey
          exact other text found
      | notAList ofType isKey found other =>
          obtain rfl := hasType_unique ofType ofNode
          obtain ⟨items, isList⟩ := proper.lists _ isKey _ found
          exact other items isList
      | notABody ofType isSlot found ofBody other =>
          obtain rfl := hasType_unique ofType ofNode
          obtain ⟨bodyFields, bodyType, same, named, isBody⟩ := proper.bodies _ isSlot _ found rfl
          cases same
          rw [hasType_unique named ofBody] at other
          exact other isBody

/-! ## Labels -/

section Labels

variable {fields : Entries Value}

theorem stringField_error {type key : String} {e : DecodeError}
    (refused : stringField type key fields = .error e) :
    e = .showing (.notAString type key) ((fields.find? key).getD .null) ∧
      ∀ text, fields.find? key ≠ some (.text text) := by
  unfold stringField at refused
  split at refused
  · cases refused
  · next value other found =>
      cases refused
      rw [found]
      exact ⟨rfl, fun text same => other text (Option.some.inj same)⟩
  · next absent =>
      cases refused
      rw [absent]
      exact ⟨rfl, fun text same => nomatch same⟩

theorem listField_error {type key : String} {e : DecodeError}
    (refused : listField type key fields = .error e) :
    e = .notAList type key ∧
      ∃ value, fields.find? key = some value ∧ ∀ items, value ≠ .list items := by
  unfold listField at refused
  split at refused
  · cases refused
  · cases refused
  · next value other found =>
      cases refused
      exact ⟨rfl, value, found, fun items same => other items (same ▸ rfl)⟩

theorem eq_of_listField {type key : String} {items : List Value} {value : Value}
    (read : listField type key fields = .ok items) (found : fields.find? key = some value) :
    value = .list items := by
  have whole := getD_of_listField read
  rw [found] at whole
  exact whole

structure OwnFields (type : String) (fields : Entries Value) : Prop where
  known : type ∈ nodeTypes
  texts : ∀ key ∈ textKeys type, ∃ text, fields.find? key = some (.text text)
  attributes : type = "ElementNode" → ∀ value, fields.find? "attributes" = some value →
    ∃ items, value = .list items

theorem OwnFields.ofNone {type : String} (known : type ∈ nodeTypes) (none : textKeys type = [])
    (other : type ≠ "ElementNode") : OwnFields type fields := by
  refine ⟨known, ?_, fun element => absurd element other⟩
  rw [none]
  rintro key ⟨⟩

theorem OwnFields.ofText {type key text : String} (known : type ∈ nodeTypes)
    (single : textKeys type = [key]) (other : type ≠ "ElementNode")
    (read : stringField type key fields = .ok text) : OwnFields type fields := by
  refine ⟨known, ?_, fun element => absurd element other⟩
  rw [single]
  intro own member
  obtain rfl := List.mem_singleton.mp member
  exact ⟨text, find?_of_stringField read⟩

theorem ownFields_of_readKind {type : String} {kind : Kind} (read : readKind type fields = .ok kind) :
    OwnFields type fields := by
  unfold readKind at read
  split_ifs at read with template block program element text mustache blockStatement comment mustacheComment
  · subst template
    exact .ofNone (by decide) rfl (by decide)
  · subst block
    exact .ofNone (by decide) rfl (by decide)
  · subst program
    exact .ofNone (by decide) rfl (by decide)
  · subst element
    obtain ⟨tag, readTag, rest⟩ := ok_of_bind read
    obtain ⟨attributes, readAttributes, _⟩ := ok_of_bind rest
    refine ⟨by decide, ?_, fun _ _ found => ⟨attributes, eq_of_listField readAttributes found⟩⟩
    intro key isKey
    obtain rfl : key = "tag" := List.mem_singleton.mp isKey
    exact ⟨tag, find?_of_stringField readTag⟩
  · subst text
    obtain ⟨chars, readChars, _⟩ := ok_of_bind read
    exact .ofText (by decide) rfl (by decide) readChars
  · subst mustache
    exact .ofNone (by decide) rfl (by decide)
  · subst blockStatement
    exact .ofNone (by decide) rfl (by decide)
  · subst comment
    obtain ⟨value, readValue, _⟩ := ok_of_bind read
    exact .ofText (by decide) rfl (by decide) readValue
  · subst mustacheComment
    obtain ⟨value, readValue, _⟩ := ok_of_bind read
    exact .ofText (by decide) rfl (by decide) readValue

theorem faulty_of_stringField {type key : String} {e : DecodeError} (ofType : HasType type fields)
    (isKey : key ∈ textKeys type) (refused : stringField type key fields = .error e) :
    Faulty (.table fields) e := by
  obtain ⟨rfl, other⟩ := stringField_error refused
  exact .notAString ofType isKey other

theorem faulty_of_listField {type key : String} {e : DecodeError} (ofType : HasType type fields)
    (isKey : key ∈ listKeys type) (refused : listField type key fields = .error e) :
    Faulty (.table fields) e := by
  obtain ⟨rfl, value, found, other⟩ := listField_error refused
  exact .notAList ofType isKey found other

theorem faulty_of_readKind {type : String} {e : DecodeError} (ofType : HasType type fields)
    (refused : readKind type fields = .error e) : Faulty (.table fields) e := by
  unfold readKind at refused
  split_ifs at refused with template block program element text mustache blockStatement comment mustacheComment
  · subst element
    rcases error_of_bind refused with tag | ⟨tag, _, rest⟩
    · exact faulty_of_stringField ofType (by decide) tag
    · rcases error_of_bind rest with attributes | ⟨attributes, _, last⟩
      · exact faulty_of_listField ofType (by decide) attributes
      · cases last
  · subst text
    rcases error_of_bind refused with chars | ⟨chars, _, last⟩
    · exact faulty_of_stringField ofType (by decide) chars
    · cases last
  · cases refused
  · cases refused
  · subst comment
    rcases error_of_bind refused with value | ⟨value, _, last⟩
    · exact faulty_of_stringField ofType (by decide) value
    · cases last
  · subst mustacheComment
    rcases error_of_bind refused with value | ⟨value, _, last⟩
    · exact faulty_of_stringField ofType (by decide) value
    · cases last
  · cases refused
    refine .unknownType ofType ?_
    simp only [nodeTypes, List.mem_cons, List.not_mem_nil, or_false, not_or]
    exact ⟨template, block, program, element, text, mustache, blockStatement, comment, mustacheComment⟩

theorem faulty_of_readLabel {value : Value} {e : DecodeError} (refused : readLabel value = .error e) :
    Faulty value e := by
  unfold readLabel at refused
  split at refused
  · next fields =>
      split at refused
      · next type found =>
          rcases error_of_bind refused with kind | ⟨kind, _, last⟩
          · exact faulty_of_readKind found kind
          · cases last
      · next untyped =>
          cases refused
          exact .noType untyped
  · next other =>
      cases refused
      refine .notAnObject ?_
      cases value with
      | table fields => exact absurd rfl (other fields)
      | _ => rfl

structure LabelRead (fields : Entries Value) (label : Label) : Prop where
  readFrom : ReadFrom fields label.kind
  ofType : HasType label.kind.typeKey fields
  own : OwnFields label.kind.typeKey fields

theorem LabelRead.known {label : Label} (labelRead : LabelRead fields label) :
    label.kind.isKnown = true := by
  have readFrom := labelRead.readFrom
  generalize label.kind = kind at readFrom
  cases kind with
  | bare => exact readFrom.elim
  | bodyLabel _ => exact readFrom.elim
  | foreign _ => exact readFrom.elim
  | _ => rfl

theorem labelRead_of_readLabel {value : Value} {label : Label} (read : readLabel value = .ok label) :
    ∃ fields, value = .table fields ∧ LabelRead fields label := by
  unfold readLabel at read
  split at read
  · next fields =>
      split at read
      · next type found =>
          obtain ⟨kind, readKind, last⟩ := ok_of_bind read
          cases last
          obtain rfl := typeKey_of_readKind readKind
          exact ⟨fields, rfl, readKind_ok readKind, found, ownFields_of_readKind readKind⟩
      · cases read
  · cases read

end Labels

/-! ## Below a node -/

section Below

variable {fields : Entries Value} {e : DecodeError}

theorem exists_of_readLabels_error {items : List Value} (refused : readLabels items = .error e) :
    ∃ item ∈ items, readLabel item = .error e := by
  induction items with
  | nil => cases refused
  | cons item rest ih =>
      rw [readLabels] at refused
      split at refused
      · next first =>
          cases refused
          exact ⟨item, List.mem_cons_self, first⟩
      · cases later : readLabels rest with
        | error other =>
            rw [later] at refused
            cases refused
            obtain ⟨found, member, refusedLater⟩ := ih later
            exact ⟨found, List.mem_cons_of_mem _ member, refusedLater⟩
        | ok labels =>
            rw [later] at refused
            cases refused

def RefusedBody (fields : Entries Value) (e : DecodeError) (slot : Slot) : Prop :=
  ∃ value, fields.find? slot.name = some value ∧ value.isNull = false ∧
    (readLabel value = .error e ∨
      ∃ label, readLabel value = .ok label ∧ label.kind.isRoot = false ∧ e = .notABody slot)

theorem exists_of_readBodyLabels_error {slots : List Slot}
    (refused : readBodyLabels fields slots = .error e) : ∃ slot ∈ slots, RefusedBody fields e slot := by
  induction slots with
  | nil => cases refused
  | cons slot rest ih =>
      have later (refused : readBodyLabels fields rest = .error e) :
          ∃ other ∈ slot :: rest, RefusedBody fields e other := by
        obtain ⟨other, member, found⟩ := ih refused
        exact ⟨other, List.mem_cons_of_mem slot member, found⟩
      rw [readBodyLabels] at refused
      split at refused
      · exact later refused
      · next value found =>
          split at refused
          · exact later refused
          · next given =>
              have here : slot ∈ slot :: rest := List.mem_cons_self
              rw [Bool.not_eq_true] at given
              split at refused
              · next own =>
                  cases refused
                  exact ⟨slot, here, value, found, given, .inl own⟩
              · next label own =>
                  split at refused
                  · cases others : readBodyLabels fields rest with
                    | error other =>
                        rw [others] at refused
                        cases refused
                        exact later others
                    | ok labels =>
                        rw [others] at refused
                        cases refused
                  · next notRoot =>
                      cases refused
                      rw [Bool.not_eq_true] at notRoot
                      exact ⟨slot, here, value, found, given, .inr ⟨label, own, notRoot, rfl⟩⟩

theorem isRoot_iff {kind : Kind} (known : kind.isKnown = true) :
    kind.isRoot = true ↔ kind.typeKey ∈ bodyTypes := by
  cases kind with
  | root which => cases which <;> decide
  | bare => cases known
  | bodyLabel _ => cases known
  | foreign _ => cases known
  | _ => simp [Kind.isRoot, Kind.typeKey, bodyTypes]

/-- The items of the only list of documents that a type has are what stands beneath. -/
theorem mem_items_iff {type own key : String} {items : List Value} {value : Value}
    (nodes : nodeListKeys type = [key]) (closed : bodySlots type = [])
    (read : listField own key fields = .ok items) : value ∈ items ↔ Beneath type fields value := by
  constructor
  · intro member
    cases found : fields.find? key with
    | none =>
        have whole := getD_of_listField read
        rw [found] at whole
        cases whole
        cases member
    | some held =>
        rw [eq_of_listField read found] at found
        exact .item (nodes ▸ List.mem_cons_self) found member
  · intro beneath
    cases beneath with
    | item isKey found member =>
        rw [nodes, List.mem_singleton] at isKey
        rw [isKey] at found
        cases eq_of_listField read found
        exact member
    | body isSlot _ _ =>
        rw [closed] at isSlot
        cases isSlot

theorem not_beneath {type : String} {value : Value} (nodes : nodeListKeys type = [])
    (closed : bodySlots type = []) : ¬Beneath type fields value := by
  intro beneath
  cases beneath with
  | item isKey _ _ =>
      rw [nodes] at isKey
      cases isKey
  | body isSlot _ _ =>
      rw [closed] at isSlot
      cases isSlot

theorem mem_bodies_iff {entries : List (Value × Label)} {value : Value}
    (read : readBodyLabels fields [.program, .inverse] = .ok entries) :
    value ∈ entries.map Prod.fst ↔ Beneath "BlockStatement" fields value := by
  rw [fst_of_readBodyLabels read, List.mem_filterMap]
  constructor
  · rintro ⟨slot, isSlot, held⟩
    obtain ⟨found, given⟩ := Option.filter_eq_some_iff.mp held
    rw [Bool.not_eq_true'] at given
    exact .body isSlot found given
  · intro beneath
    cases beneath with
    | item isKey _ _ => cases isKey
    | @body slot _ isSlot found given =>
        exact ⟨slot, isSlot, Option.filter_eq_some_iff.mpr ⟨found, by rw [given]; rfl⟩⟩

/-- The labels that are read below a node are those of what stands beneath. -/
theorem mem_below_iff {kind : Kind} {entries : List (Value × Label)} {value : Value}
    (known : kind.isKnown = true) (read : below kind (.table fields) = .ok entries) :
    value ∈ entries.map Prod.fst ↔ Beneath kind.typeKey fields value := by
  have leaf (nodes : nodeListKeys kind.typeKey = []) (closed : bodySlots kind.typeKey = [])
      (nothing : below kind (.table fields) = .ok []) :
      value ∈ entries.map Prod.fst ↔ Beneath kind.typeKey fields value := by
    cases nothing.symm.trans read
    exact ⟨fun member => absurd member List.not_mem_nil, fun beneath =>
      absurd beneath (not_beneath nodes closed)⟩
  cases kind with
  | root which =>
      rw [below] at read
      split at read
      · cases read
      · next items list =>
          rw [fst_of_readLabels read]
          cases which with
          | template => exact mem_items_iff rfl rfl list
          | block => exact mem_items_iff rfl rfl list
          | program => exact mem_items_iff rfl rfl list
  | element _ _ =>
      rw [below] at read
      split at read
      · cases read
      · next items list =>
          rw [fst_of_readLabels read]
          exact mem_items_iff rfl rfl list
  | block _ _ _ => exact mem_bodies_iff read
  | bare => cases known
  | bodyLabel _ => cases known
  | foreign _ => cases known
  | _ => exact leaf rfl rfl rfl

/-- What is refused below a node is a list, or something that stands beneath. -/
theorem faulty_of_below {kind : Kind} (ofType : HasType kind.typeKey fields)
    (refused : below kind (.table fields) = .error e) :
    Faulty (.table fields) e ∨
      ∃ value, Beneath kind.typeKey fields value ∧ readLabel value = .error e := by
  have ofItems {key : String} {items : List Value} (nodes : nodeListKeys kind.typeKey = [key])
      (closed : bodySlots kind.typeKey = []) (list : listField kind.typeKey key fields = .ok items)
      (refused : readLabels items = .error e) :
      ∃ value, Beneath kind.typeKey fields value ∧ readLabel value = .error e := by
    obtain ⟨item, member, refusedItem⟩ := exists_of_readLabels_error refused
    exact ⟨item, (mem_items_iff nodes closed list).mp member, refusedItem⟩
  cases kind with
  | root which =>
      rw [below] at refused
      split at refused
      · next list =>
          cases refused
          exact .inl (faulty_of_listField ofType (by cases which <;> decide) list)
      · next items list => exact .inr (ofItems (by cases which <;> rfl) (by cases which <;> rfl) list refused)
  | element _ _ =>
      rw [below] at refused
      split at refused
      · next list =>
          cases refused
          exact .inl (faulty_of_listField ofType (List.mem_cons_of_mem _ List.mem_cons_self) list)
      · next items list => exact .inr (ofItems rfl rfl list refused)
  | block _ _ _ =>
      obtain ⟨slot, isSlot, value, found, given, own | ⟨label, own, notRoot, rfl⟩⟩ :=
        exists_of_readBodyLabels_error refused
      · exact .inr ⟨value, .body isSlot found given, own⟩
      · obtain ⟨bodyFields, rfl, labelRead⟩ := labelRead_of_readLabel own
        refine .inl (.notABody ofType isSlot found labelRead.ofType ?_)
        rw [← isRoot_iff labelRead.known, notRoot]
        exact Bool.false_ne_true
  | _ => cases refused

theorem lists_of_below {kind : Kind} {entries : List (Value × Label)} (known : kind.isKnown = true)
    (own : OwnFields kind.typeKey fields) (read : below kind (.table fields) = .ok entries)
    {key : String} (isKey : key ∈ listKeys kind.typeKey) {value : Value}
    (found : fields.find? key = some value) : ∃ items, value = .list items := by
  cases kind with
  | root which =>
      obtain rfl : key = "body" := by cases which <;> exact List.mem_singleton.mp isKey
      rw [below] at read
      split at read
      · cases read
      · next items list => exact ⟨items, eq_of_listField list found⟩
  | element _ _ =>
      rw [below] at read
      split at read
      · cases read
      · next items list =>
          rcases List.mem_cons.mp isKey with rfl | isKey
          · exact own.attributes rfl value found
          · obtain rfl := List.mem_singleton.mp isKey
            exact ⟨items, eq_of_listField list found⟩
  | bare => cases isKey
  | bodyLabel _ => cases known
  | foreign _ => cases known
  | _ => cases isKey

theorem body_of_below {kind : Kind} {entries : List (Value × Label)} (known : kind.isKnown = true)
    (read : below kind (.table fields) = .ok entries) {slot : Slot}
    (isSlot : slot ∈ bodySlots kind.typeKey) {value : Value}
    (found : fields.find? slot.name = some value) (given : value.isNull = false) :
    ∃ bodyFields bodyType, value = .table bodyFields ∧ HasType bodyType bodyFields ∧
      bodyType ∈ bodyTypes := by
  cases kind with
  | block _ _ _ =>
      have beneath : Beneath "BlockStatement" fields value := .body isSlot found given
      obtain ⟨⟨_, label⟩, inEntries, rfl⟩ := List.mem_map.mp ((mem_bodies_iff read).mpr beneath)
      obtain ⟨own, isRoot⟩ := (readBodyLabels_ok read).1 _ inEntries
      obtain ⟨bodyFields, same, labelRead⟩ := labelRead_of_readLabel own
      exact ⟨bodyFields, _, same, labelRead.ofType, (isRoot_iff labelRead.known).mp isRoot⟩
  | root which => cases which <;> cases isSlot
  | bodyLabel _ => cases known
  | foreign _ => cases known
  | _ => cases isSlot

end Below

/-! ## Nodes -/

section Nodes

variable {e : DecodeError}

theorem exists_of_completed_error {entries : List (Value × Label)}
    (refused : entries.foldr completeNext (.ok []) = .error e) :
    ∃ entry ∈ entries, complete entry.1 entry.2 = .error e := by
  induction entries with
  | nil => cases refused
  | cons entry rest ih =>
      simp only [List.foldr_cons, completeNext] at refused
      split at refused
      · next later =>
          cases refused
          obtain ⟨found, member, refusedLater⟩ := ih later
          exact ⟨found, List.mem_cons_of_mem _ member, refusedLater⟩
      · cases own : complete entry.1 entry.2 with
        | error other =>
            rw [own] at refused
            cases refused
            exact ⟨entry, List.mem_cons_self, own⟩
        | ok node =>
            rw [own] at refused
            cases refused

/-- A value that is read as the label of a node is refused for a fault in it or beneath it. -/
theorem exists_fault_of_complete {value : Value} {label : Label} (own : readLabel value = .ok label)
    (refused : complete value label = .error e) : ∃ part, NodeIn value part ∧ Faulty part e := by
  -- What stands below a value is smaller, but no part of it: the recursion is on the size.
  induction smaller : sizeOf value using Nat.strongRecOn generalizing value label with
  | ind size ih =>
      obtain ⟨fields, rfl, labelRead⟩ := labelRead_of_readLabel own
      have ofType := labelRead.ofType
      rw [complete_eq] at refused
      split at refused
      · next readBelow =>
          cases refused
          rcases faulty_of_below ofType readBelow with faulty | ⟨value, beneath, refusedLabel⟩
          · exact ⟨_, .whole _, faulty⟩
          · exact ⟨value, .deeper ofType beneath (.whole value), faulty_of_readLabel refusedLabel⟩
      · next entries readBelow =>
          cases completed : entries.foldr completeNext (.ok []) with
          | ok kids =>
              rw [completed] at refused
              cases refused
          | error other =>
              rw [completed] at refused
              cases refused
              obtain ⟨⟨value, kidLabel⟩, member, refusedKid⟩ := exists_of_completed_error completed
              have beneath := (mem_below_iff labelRead.known readBelow).mp (List.mem_map_of_mem member)
              have less := sizeOf_of_below readBelow _ member
              have readKid := (below_ok labelRead.readFrom readBelow).1 _ member
              obtain ⟨part, inside, faulty⟩ := ih _ (smaller ▸ less) readKid refusedKid rfl
              exact ⟨part, .deeper ofType beneath inside, faulty⟩

theorem describes_of_complete {value : Value} {label : Label} {node : Node}
    (own : readLabel value = .ok label) (read : complete value label = .ok node) :
    Describes value := by
  induction smaller : sizeOf value using Nat.strongRecOn generalizing value label node with
  | ind size ih =>
      obtain ⟨fields, rfl, labelRead⟩ := labelRead_of_readLabel own
      have known := labelRead.known
      rw [complete_eq] at read
      split at read
      · cases read
      · next entries readBelow =>
          obtain ⟨kids, readKids, _⟩ := ok_of_map read
          have pairs : List.Forall₂ (fun kid entry => complete entry.1 entry.2 = .ok kid) kids entries :=
            (forall₂_of_completed readKids).flip
          refine .node labelRead.ofType ⟨labelRead.own.known, labelRead.own.texts, ?_, ?_⟩ ?_
          · intro key isKey value found
            exact lists_of_below known labelRead.own readBelow isKey found
          · intro slot isSlot value found given
            exact body_of_below known readBelow isSlot found given
          · intro value beneath
            obtain ⟨entry, member, rfl⟩ := List.mem_map.mp ((mem_below_iff known readBelow).mpr beneath)
            have less := sizeOf_of_below readBelow entry member
            have readKid := (below_ok labelRead.readFrom readBelow).1 entry member
            obtain ⟨kid, _, completed⟩ := exists_of_forall₂_right pairs member
            exact ih _ (smaller ▸ less) readKid completed rfl

theorem describes_of_decode {document : Value} {tree : Node} (read : decode document = .ok tree) :
    Describes document := by
  unfold decode at read
  split at read
  · cases read
  · next own => exact describes_of_complete own read

theorem exists_fault_of_decode {document : Value} (refused : decode document = .error e) :
    ∃ part, NodeIn document part ∧ Faulty part e := by
  unfold decode at refused
  split at refused
  · next own =>
      cases refused
      exact ⟨document, .whole document, faulty_of_readLabel own⟩
  · next own => exact exists_fault_of_complete own refused

end Nodes

/-- An object has a type among the nodes of a document that nodes do not have. -/
def HasStray (document : Value) (type : String) : Prop :=
  ∃ fields, NodeIn document (.table fields) ∧ HasType type fields ∧ type ∉ nodeTypes

/-- A refusal is about the form of a node, about a stray type, or lost. -/
theorem refusal_cases {document : Value} {e : DecodeError} (refused : decode document = .error e) :
    e.isMalformed = true ∨ (∃ type, e = .unknownType type ∧ HasStray document type) ∨
      (e = .unwritable .longInteger ∧ document.isShort = false) ∨
      (e = .unwritable .tooDeep ∧ Value.deepestNesting < document.levels) := by
  obtain ⟨part, inside, faulty⟩ := exists_fault_of_decode refused
  cases e with
  | unknownType type =>
      obtain ⟨fields, rfl, ofType, unknown⟩ := faulty.of_unknownType
      exact .inr (.inl ⟨type, rfl, fields, inside, ofType, unknown⟩)
  | unwritable cause =>
      rcases exists_cause inside faulty with ⟨rfl, long⟩ | ⟨rfl, deep⟩
      · exact .inr (.inr (.inl ⟨rfl, long⟩))
      · exact .inr (.inr (.inr ⟨rfl, deep⟩))
  | _ => exact .inl rfl

def strayDocument : Value :=
  .table [("type", .text "Template"), ("body", .list [
    .table [("type", .text "TextNode"), ("chars", .text "a")],
    .table [("type", .text "SubExpression"), ("chars", .null)]])]

end TemplateSpacing.Tree
