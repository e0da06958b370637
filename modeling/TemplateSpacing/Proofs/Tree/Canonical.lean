import TemplateSpacing.Proofs.Tree.Reread

/-! # The normal form of documents

A document may give the fields of a node in any order, leave some of them out and hold fields that mean
nothing.  In normal form every node has its type, all fields of its type, the fields that mean nothing in
the order in which they came, and the notes that documents are believed on.  Nothing that means nothing is
lost on the way, at whatever depth it stands.
-/

set_option autoImplicit false

namespace TemplateSpacing.Tree

structure OwnField where
  key : String
  /-- What the field holds where it is absent. -/
  absent : Value
  /-- Whether the field holds documents of nodes. -/
  isInner : Bool

def OwnField.written (own : OwnField) (fields inner : Entries Value) : String × Value :=
  (own.key, ((if own.isInner then inner else fields).find? own.key).getD own.absent)

def ownFields : String → List OwnField
  | "Template" => [⟨"body", .list [], true⟩]
  | "Block" => [⟨"body", .list [], true⟩]
  | "Program" => [⟨"body", .list [], true⟩]
  | "ElementNode" =>
    [⟨"tag", .null, false⟩, ⟨"attributes", .list [], false⟩, ⟨"children", .list [], true⟩]
  | "TextNode" => [⟨"chars", .null, false⟩]
  | "MustacheStatement" => [⟨"path", .null, false⟩]
  | "BlockStatement" =>
    [⟨"path", .null, false⟩, ⟨"program", .null, true⟩, ⟨"inverse", .null, true⟩]
  | "CommentStatement" => [⟨"value", .null, false⟩]
  | "MustacheCommentStatement" => [⟨"value", .null, false⟩]
  | _ => []

def typeOf (fields : Entries Value) : String :=
  ((fields.find? "type").bind Value.text?).getD ""

def meantKeys (fields : Entries Value) : List String :=
  "type" :: (ownFields (typeOf fields)).map OwnField.key ++ Note.all.map Note.key

def noteFields (fields : Entries Value) : Entries Value :=
  readNotes.filterMap fun note =>
    ((fields.find? note.key).filter fun value => !value.isNull).map fun value => (note.key, value)

def fixedFields (fields inner : Entries Value) : Entries Value :=
  ("type", .text (typeOf fields)) ::
    (ownFields (typeOf fields)).map fun own => own.written fields inner

def laidOut (fields inner : Entries Value) : Entries Value :=
  fixedFields fields inner ++ fields.without (meantKeys fields) ++ noteFields fields

mutual

/-- The normal form of a document: every node has its type, the fields of its type, the fields that nobody
interprets and its notes, in that order. -/
def canonical : Value → Value
  | .table fields => .table (laidOut fields (canonicalFields fields))
  | .list items => .list (canonicalItems items)
  | value => value

def canonicalItems : List Value → List Value
  | [] => []
  | item :: rest => canonical item :: canonicalItems rest

def canonicalFields : Entries Value → Entries Value
  | [] => []
  | (key, value) :: rest => (key, canonical value) :: canonicalFields rest

end

theorem find?_canonicalFields (key : String) (fields : Entries Value) :
    Entries.find? key (canonicalFields fields) = (fields.find? key).map canonical := by
  induction fields with
  | nil => rfl
  | cons entry rest ih =>
      obtain ⟨own, value⟩ := entry
      rw [canonicalFields, Entries.find?, Entries.find?]
      split
      · rfl
      · exact ih

theorem canonicalItems_eq (items : List Value) : canonicalItems items = items.map canonical := by
  induction items with
  | nil => rfl
  | cons item rest ih => rw [canonicalItems, ih, List.map_cons]

/-! ## The parts of a document -/

inductive Inside : Value → Value → Prop
  | whole (document : Value) : Inside document document
  | field {fields : Entries Value} {own : OwnField} {value part : Value}
      (member : own ∈ ownFields (typeOf fields)) (inner : own.isInner = true)
      (found : fields.find? own.key = some value) (inside : Inside value part) :
      Inside (.table fields) part
  | item {items : List Value} {item part : Value} (member : item ∈ items) (inside : Inside item part) :
      Inside (.list items) part

/-- Fields that were rearranged without a loss: the fields that mean nothing are the same ones in the same
order, and no key has come to stand twice. -/
structure Keeps (fields made : Entries Value) : Prop where
  extras : made.without (meantKeys fields) = fields.without (meantKeys fields)
  distinct : Entries.Distinct fields → Entries.Distinct made

section Parts

variable {fields : Entries Value}

theorem nodup_meantKeys (fields : Entries Value) : (meantKeys fields).Nodup := by
  unfold meantKeys ownFields
  split <;> decide

def fixedKeys (fields : Entries Value) : List String :=
  "type" :: (ownFields (typeOf fields)).map OwnField.key

theorem meantKeys_eq (fields : Entries Value) :
    meantKeys fields = fixedKeys fields ++ Note.all.map Note.key := rfl

theorem keys_fixedFields (fields inner : Entries Value) :
    (fixedFields fields inner).map Prod.fst = fixedKeys fields := by
  rw [fixedFields, List.map_cons, List.map_map, fixedKeys]
  rfl

theorem keys_noteFields (fields : Entries Value) :
    ((noteFields fields).map Prod.fst).Sublist (Note.all.map Note.key) := by
  have among : ∀ notes : List Note, ((notes.filterMap fun note =>
      ((fields.find? note.key).filter fun value => !value.isNull).map fun value =>
        (note.key, value)).map Prod.fst).Sublist (notes.map Note.key) := by
    intro notes
    induction notes with
    | nil => exact .slnil
    | cons note rest ih =>
        rw [List.filterMap_cons]
        cases (fields.find? note.key).filter fun value => !value.isNull with
        | none => exact ih.cons _
        | some value => exact ih.cons_cons _
  have shorter : readNotes.Sublist Note.all := by decide
  exact (among readNotes).trans (shorter.map Note.key)

theorem mem_meantKeys_of_fixed {inner : Entries Value} {entry : String × Value}
    (member : entry ∈ fixedFields fields inner) : entry.1 ∈ meantKeys fields := by
  have inFixed : entry.1 ∈ fixedKeys fields := by
    rw [← keys_fixedFields fields inner]
    exact List.mem_map_of_mem member
  exact List.mem_append_left _ inFixed

theorem mem_meantKeys_of_note {entry : String × Value} (member : entry ∈ noteFields fields) :
    entry.1 ∈ meantKeys fields :=
  List.mem_append_right (fixedKeys fields) ((keys_noteFields fields).subset (List.mem_map_of_mem member))

theorem notMem_meantKeys {entry : String × Value}
    (member : entry ∈ fields.without (meantKeys fields)) : entry.1 ∉ meantKeys fields := by
  simpa using (List.mem_filter.mp member).2

theorem keeps_laidOut (fields inner : Entries Value) : Keeps fields (laidOut fields inner) := by
  refine ⟨?_, ?_⟩
  · rw [laidOut, Entries.without_append, Entries.without_append,
      Entries.without_eq_nil fun _ => mem_meantKeys_of_fixed,
      Entries.without_eq_self fun _ => notMem_meantKeys,
      Entries.without_eq_nil fun _ => mem_meantKeys_of_note, List.nil_append, List.append_nil]
  · intro distinct
    have meant := nodup_meantKeys fields
    rw [meantKeys_eq] at meant
    obtain ⟨fixedDistinct, notesDistinct, apart⟩ := List.nodup_append.mp meant
    have extras : (fields.without (meantKeys fields)).Distinct := distinct.sublist List.filter_sublist
    rw [Entries.Distinct, laidOut, List.map_append, List.map_append, keys_fixedFields]
    refine List.nodup_append.mpr ⟨List.nodup_append.mpr ⟨fixedDistinct, extras, ?_⟩,
      (keys_noteFields fields).nodup notesDistinct, ?_⟩
    · rintro key inFixed _ inExtras rfl
      obtain ⟨entry, member, rfl⟩ := List.mem_map.mp inExtras
      exact notMem_meantKeys member (List.mem_append_left _ inFixed)
    · rintro key before _ inNotes rfl
      have isNote := (keys_noteFields fields).subset inNotes
      rcases List.mem_append.mp before with inFixed | inExtras
      · exact apart key inFixed key isNote rfl
      · obtain ⟨entry, member, rfl⟩ := List.mem_map.mp inExtras
        exact notMem_meantKeys member (List.mem_append_right (fixedKeys fields) isNote)

theorem find?_laidOut {own : OwnField} (member : own ∈ ownFields (typeOf fields))
    (isInner : own.isInner = true) (inner : Entries Value) :
    (laidOut fields inner).find? own.key = some ((inner.find? own.key).getD own.absent) := by
  have distinct : (fixedFields fields inner).Distinct := by
    rw [Entries.Distinct, keys_fixedFields]
    exact (List.nodup_append.mp (nodup_meantKeys fields)).1
  have made : own.written fields inner = (own.key, (inner.find? own.key).getD own.absent) := by
    rw [OwnField.written, if_pos isInner]
  have among : own.written fields inner ∈ fixedFields fields inner :=
    List.mem_cons_of_mem _ (List.mem_map_of_mem member)
  rw [made] at among
  rw [laidOut, Entries.find?_append, Entries.find?_append, Entries.find?_of_mem distinct among]
  rfl

/-- The normal form of a part stands in the normal form of the whole. -/
theorem inside_canonical {whole part : Value} (inside : Inside whole part) :
    Inside (canonical whole) (canonical part) := by
  induction inside with
  | whole document => exact .whole _
  | @field fields own value part member inner found _ ih =>
      have held : (laidOut fields (canonicalFields fields)).find? own.key = some (canonical value) := by
        rw [find?_laidOut member inner, find?_canonicalFields, found]
        rfl
      rw [canonical]
      exact .field member inner held ih
  | item member _ ih =>
      rw [canonical, canonicalItems_eq]
      exact .item (List.mem_map_of_mem member) ih

end Parts

end TemplateSpacing.Tree
