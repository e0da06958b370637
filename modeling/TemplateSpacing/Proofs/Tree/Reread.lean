import TemplateSpacing.Proofs.Entries
import TemplateSpacing.Proofs.Tree.Decoded
import TemplateSpacing.Proofs.Tree.View
import TemplateSpacing.Tree.Encode

/-! # Reading a written tree

A well-formed tree can always be written.  When no note of it is null and no extra field has a key with
a meaning of its own, as in every decoded tree, the document reads back as the tree with the notes that
documents are believed on.
-/

set_option autoImplicit false

namespace TemplateSpacing.Tree

def readNotes : List Note :=
  [.display, .whitespaceSensitive, .indentationSensitive, .leadingSensitive, .trailingSensitive,
    .danglingSensitive]

/-- A label that its document says everything about: no note is null, and no extra field has a key
with a meaning of its own. -/
structure Plain (label : Label) : Prop where
  notes : ∀ note, label.notes.get note ≠ some .null
  extras : ∀ entry ∈ label.extras, entry.1 ∉ consumedKeys label.kind

/-! ## Notes -/

section Notes

theorem key_injective {note other : Note} (same : note.key = other.key) : note = other := by
  revert same
  cases note <;> cases other <;> decide

theorem mem_all (note : Note) : note ∈ Note.all := by
  cases note <;> decide

theorem key_of_mem_entries {notes : Notes} {entry : String × Value}
    (member : entry ∈ notes.entries) : ∃ note : Note, entry.1 = note.key := by
  obtain ⟨note, _, made⟩ := List.mem_filterMap.mp member
  obtain ⟨value, _, rfl⟩ := Option.map_eq_some_iff.mp made
  exact ⟨note, rfl⟩

/-- Every note is found under its key. -/
theorem find?_entries (notes : Notes) (note : Note) :
    Entries.find? note.key notes.entries = notes.get note := by
  have among : ∀ all : List Note, note ∈ all → Entries.find? note.key (all.filterMap fun note : Note =>
      (notes.get note).map fun value => (note.key, value)) = notes.get note := by
    intro all member
    induction all with
    | nil => cases member
    | cons first rest ih =>
        rw [List.filterMap_cons]
        by_cases same : first = note
        · subst same
          cases value : notes.get first with
          | some value => simp [Entries.find?]
          | none =>
              apply Entries.find?_eq_none
              intro entry inRest
              obtain ⟨other, _, made⟩ := List.mem_filterMap.mp inRest
              obtain ⟨found, present, rfl⟩ := Option.map_eq_some_iff.mp made
              intro sameKey
              rw [key_injective sameKey, value] at present
              cases present
        · have later := ih ((List.mem_cons.mp member).resolve_left (Ne.symm same))
          cases notes.get first with
          | none => exact later
          | some value =>
              have otherKey : first.key ≠ note.key := fun sameKey => same (key_injective sameKey)
              simpa [Entries.find?, otherKey] using later
  exact among Note.all (mem_all note)

theorem mem_readNotes (note : Note) : note ∈ readNotes ↔ note.isRecomputed = false := by
  cases note <;> decide

theorem ofFields_eq {fields : Entries Value} {notes : Notes}
    (found : ∀ note, fields.find? note.key = notes.get note)
    (notNull : ∀ note, notes.get note ≠ some .null) : Notes.ofFields fields = notes.only readNotes := by
  apply Notes.ext_get
  intro note
  rw [get_ofFields, Notes.get_only, found note]
  cases recomputed : note.isRecomputed with
  | true => rw [if_pos rfl, if_neg (by simp [mem_readNotes, recomputed])]
  | false =>
      rw [if_neg (by decide), if_pos ((mem_readNotes note).mpr recomputed)]
      cases found : notes.get note with
      | none => rfl
      | some value =>
          cases value with
          | null => exact (notNull note found).elim
          | _ => rfl

end Notes

/-! ## Labels -/

section Labels

theorem key_notMem_ownKeys (kind : Kind) (note : Note) : note.key ∉ ownKeys kind := by
  cases kind <;> cases note <;> simp [ownKeys, Note.key]

theorem key_of_mem_kindFields {kind : Kind} {docs : List Value} {entry : String × Value}
    (member : entry ∈ kindFields kind docs) : entry.1 ∈ ownKeys kind := by
  have inKeys : entry.1 ∈ (kindFields kind docs).map Prod.fst := List.mem_map_of_mem member
  have keys : ∀ key ∈ (kindFields kind docs).map Prod.fst, key ∈ ownKeys kind := by
    cases kind <;> simp [kindFields, bodyFields, ownKeys, Slot.name]
  exact keys entry.1 inKeys

theorem mem_consumedKeys {kind : Kind} {key : String} :
    key ∈ consumedKeys kind ↔ key = "type" ∨ key ∈ ownKeys kind ∨ ∃ note : Note, note.key = key := by
  have notes : key ∈ Note.all.map Note.key ↔ ∃ note : Note, note.key = key := by
    simp only [List.mem_map, mem_all, true_and]
  rw [consumedKeys, List.cons_append, List.mem_cons, List.mem_append, notes]

def fieldsOf (label : Label) (docs : List Value) : Entries Value :=
  ("type", .text label.kind.typeKey) :: kindFields label.kind docs ++ label.extras ++
    label.notes.entries

theorem find?_key_fieldsOf {label : Label} (plain : Plain label) (docs : List Value) (note : Note) :
    (fieldsOf label docs).find? note.key = label.notes.get note := by
  have noType : note.key ≠ "type" := by cases note <;> decide
  have notOwn : ∀ entry ∈ kindFields label.kind docs, entry.1 ≠ note.key := by
    intro entry member same
    exact key_notMem_ownKeys label.kind note (same ▸ key_of_mem_kindFields member)
  have notExtra : ∀ entry ∈ label.extras, entry.1 ≠ note.key := by
    intro entry member same
    exact plain.extras entry member (mem_consumedKeys.mpr (.inr (.inr ⟨note, same.symm⟩)))
  rw [fieldsOf, Entries.find?_append, List.cons_append, Entries.find?, if_neg (Ne.symm noType),
    Entries.find?_append, Entries.find?_eq_none notOwn, Entries.find?_eq_none notExtra, find?_entries]
  rfl

theorem without_fieldsOf {label : Label} (plain : Plain label) (docs : List Value) :
    Entries.without (consumedKeys label.kind) (fieldsOf label docs) = label.extras := by
  have own : ∀ entry ∈ ("type", Value.text label.kind.typeKey) :: kindFields label.kind docs,
      entry.1 ∈ consumedKeys label.kind := by
    intro entry member
    rcases List.mem_cons.mp member with rfl | member
    · exact mem_consumedKeys.mpr (.inl rfl)
    · exact mem_consumedKeys.mpr (.inr (.inl (key_of_mem_kindFields member)))
  have notes : ∀ entry ∈ label.notes.entries, entry.1 ∈ consumedKeys label.kind := by
    intro entry member
    obtain ⟨note, same⟩ := key_of_mem_entries member
    exact mem_consumedKeys.mpr (.inr (.inr ⟨note, same.symm⟩))
  rw [fieldsOf, Entries.without_append, Entries.without_append, Entries.without_eq_nil own,
    Entries.without_eq_self plain.extras, Entries.without_eq_nil notes, List.nil_append,
    List.append_nil]

end Labels

/-! ## One node -/

section Node

/-- The documents that may stand below a node of a kind: a block has one for each body. -/
def Suits (kind : Kind) (docs : List Value) : Prop :=
  ∀ path hasProgram hasInverse, kind = .block path hasProgram hasInverse →
    docs.length = kind.slots.length ∧ ∀ doc ∈ docs, doc.isNull = false

structure Bodies (fields : Entries Value) (hasProgram hasInverse : Bool) (docs : List Value) where
  program : Option Value
  inverse : Option Value
  whole : docs = program.toList ++ inverse.toList
  program_isSome : program.isSome = hasProgram
  inverse_isSome : inverse.isSome = hasInverse
  findProgram : fields.find? Slot.program.name = some (program.getD .null)
  findInverse : fields.find? Slot.inverse.name = some (inverse.getD .null)

theorem exists_bodies {path : Value} {hasProgram hasInverse : Bool} {docs : List Value}
    (count : docs.length = (Kind.block path hasProgram hasInverse).slots.length) (notes : Notes)
    (extras : Entries Value) :
    Nonempty (Bodies (fieldsOf ⟨.block path hasProgram hasInverse, notes, extras⟩ docs) hasProgram
      hasInverse docs) := by
  cases hasProgram with
  | true =>
      cases hasInverse with
      | true =>
          obtain ⟨program, inverse, rfl⟩ := List.length_eq_two.mp count
          exact ⟨some program, some inverse, rfl, rfl, rfl, rfl, rfl⟩
      | false =>
          obtain ⟨program, rfl⟩ := List.length_eq_one_iff.mp count
          exact ⟨some program, none, rfl, rfl, rfl, rfl, rfl⟩
  | false =>
      cases hasInverse with
      | true =>
          obtain ⟨inverse, rfl⟩ := List.length_eq_one_iff.mp count
          exact ⟨none, some inverse, rfl, rfl, rfl, rfl, rfl⟩
      | false =>
          obtain rfl := List.length_eq_zero_iff.mp count
          exact ⟨none, none, rfl, rfl, rfl, rfl, rfl⟩

theorem hasBody_of_getD {fields : Entries Value} {slot : Slot} {doc : Option Value}
    (found : fields.find? slot.name = some (doc.getD .null))
    (notNull : ∀ value ∈ doc.toList, value.isNull = false) : hasBody slot fields = doc.isSome := by
  rw [hasBody_of_find found]
  cases doc with
  | none => rfl
  | some value => simp [notNull value (by simp)]

theorem readKind_block {fields : Entries Value} {hasProgram hasInverse : Bool} {docs : List Value}
    (bodies : Bodies fields hasProgram hasInverse docs)
    (notNull : ∀ doc ∈ docs, doc.isNull = false) :
    readKind (Kind.block .null true true).typeKey fields =
      .ok (.block ((fields.find? "path").getD .null) hasProgram hasInverse) := by
  obtain ⟨program, inverse, rfl, rfl, rfl, findProgram, findInverse⟩ := bodies
  have first : hasBody .program fields = program.isSome :=
    hasBody_of_getD findProgram fun value member => notNull value (List.mem_append_left _ member)
  have second : hasBody .inverse fields = inverse.isSome :=
    hasBody_of_getD findInverse fun value member => notNull value (List.mem_append_right _ member)
  rw [← first, ← second]
  rfl

theorem readKind_fieldsOf {label : Label} (known : label.kind.isKnown = true) {docs : List Value}
    (suits : Suits label.kind docs) :
    readKind label.kind.typeKey (fieldsOf label docs) = .ok label.kind := by
  obtain ⟨kind, notes, extras⟩ := label
  cases kind with
  | root which => cases which <;> rfl
  | block path hasProgram hasInverse =>
      obtain ⟨count, notNull⟩ := suits path hasProgram hasInverse rfl
      obtain ⟨bodies⟩ := exists_bodies count notes extras
      exact readKind_block bodies notNull
  | bare => cases known
  | bodyLabel _ => cases known
  | foreign _ => cases known
  | _ => rfl

theorem readLabel_written {label : Label} (known : label.kind.isKnown = true) (plain : Plain label)
    {docs : List Value} (suits : Suits label.kind docs) :
    readLabel (written label docs) = .ok (label.only readNotes) := by
  have notes : Notes.ofFields (fieldsOf label docs) = label.notes.only readNotes :=
    ofFields_eq (find?_key_fieldsOf plain docs) plain.notes
  have read : readLabel (written label docs) =
      (readKind label.kind.typeKey (fieldsOf label docs)).bind fun kind =>
        .ok ⟨kind, Notes.ofFields (fieldsOf label docs),
          Entries.without (consumedKeys kind) (fieldsOf label docs)⟩ := rfl
  rw [read, readKind_fieldsOf known suits, notes]
  exact congrArg (fun extras => Except.ok (Label.mk label.kind _ extras)) (without_fieldsOf plain docs)

end Node

/-! ## Below a node -/

section Below

variable {entries : List (Value × Label)}

theorem isNull_of_readLabel {value : Value} {label : Label} (read : readLabel value = .ok label) :
    value.isNull = false := by
  obtain ⟨_, fields, rfl, _⟩ := readLabel_ok read
  rfl

theorem suits_of_fits {kind : Kind} (fit : Node.fits kind (entries.map fun entry => entry.2.kind))
    (read : ∀ entry ∈ entries, readLabel entry.1 = .ok entry.2) :
    Suits kind (entries.map Prod.fst) := by
  rintro path hasProgram hasInverse rfl
  refine ⟨?_, ?_⟩
  · rw [List.length_map, ← fit.1, List.length_map]
  · intro doc member
    obtain ⟨entry, inEntries, rfl⟩ := List.mem_map.mp member
    exact isNull_of_readLabel (read entry inEntries)

theorem readLabels_of_each (read : ∀ entry ∈ entries, readLabel entry.1 = .ok entry.2) :
    readLabels (entries.map Prod.fst) = .ok entries := by
  induction entries with
  | nil => rfl
  | cons entry rest ih =>
      have first := read entry List.mem_cons_self
      have later := ih fun entry member => read entry (List.mem_cons_of_mem _ member)
      simp only [List.map_cons, readLabels, first, later]
      rfl

/-- A body that is there is read in front of those after it. -/
theorem readBodyLabels_cons {fields : Entries Value} {slot : Slot} {rest : List Slot}
    {doc : Option Value} {others : List (Value × Label)}
    (found : fields.find? slot.name = some (doc.getD .null)) (whole : entries.map Prod.fst = doc.toList)
    (read : ∀ entry ∈ entries, readLabel entry.1 = .ok entry.2)
    (roots : ∀ entry ∈ entries, entry.2.kind.isRoot = true)
    (later : readBodyLabels fields rest = .ok others) :
    readBodyLabels fields (slot :: rest) = .ok (entries ++ others) := by
  cases doc with
  | none =>
      obtain rfl := List.map_eq_nil_iff.mp whole
      simp only [readBodyLabels, found]
      exact later
  | some value =>
      obtain ⟨entry, rfl, rfl⟩ := List.map_eq_singleton_iff.mp whole
      have own := read entry List.mem_cons_self
      have notNull : entry.1.isNull = false := isNull_of_readLabel own
      simp only [readBodyLabels, found, Option.getD_some, notNull, own,
        roots entry List.mem_cons_self, later]
      rfl

theorem below_written {label : Label}
    (fit : Node.fits label.kind (entries.map fun entry => entry.2.kind))
    (read : ∀ entry ∈ entries, readLabel entry.1 = .ok entry.2) :
    below label.kind (written label (entries.map Prod.fst)) = .ok entries := by
  obtain ⟨kind, notes, extras⟩ := label
  cases kind with
  | root which => exact readLabels_of_each read
  | element tag attributes => exact readLabels_of_each read
  | block path hasProgram hasInverse =>
      have count := (suits_of_fits fit read path hasProgram hasInverse rfl).1
      obtain ⟨bodies⟩ := exists_bodies count notes extras
      obtain ⟨programs, inverses, rfl, wholeProgram, wholeInverse⟩ :=
        List.map_eq_append_iff.mp bodies.whole
      have root : ∀ entry ∈ programs ++ inverses, entry.2.kind.isRoot = true :=
        fun entry member => fit.2 _ (List.mem_map_of_mem member)
      have last : readBodyLabels _ [.inverse] = .ok (inverses ++ []) :=
        readBodyLabels_cons bodies.findInverse wholeInverse
          (fun entry member => read entry (List.mem_append_right _ member))
          (fun entry member => root entry (List.mem_append_right _ member)) rfl
      rw [List.append_nil] at last
      exact readBodyLabels_cons bodies.findProgram wholeProgram
        (fun entry member => read entry (List.mem_append_left _ member))
        (fun entry member => root entry (List.mem_append_left _ member)) last
  | bare => exact fit.elim
  | bodyLabel _ => exact fit.elim
  | foreign _ => exact fit.elim
  | _ =>
      obtain rfl := List.map_eq_nil_iff.mp fit
      rfl

end Below

/-! ## Trees -/

namespace Node

mutual

def document : Node → Value
  | ⟨label, kids⟩ => written label (documents kids)

def documents : List Node → List Value
  | [] => []
  | kid :: kids => document kid :: documents kids

end

theorem documents_eq (kids : List Node) : documents kids = kids.map document := by
  induction kids with
  | nil => rfl
  | cons kid kids ih => rw [documents, ih, List.map_cons]

theorem document_eq (node : Node) : node.document = written node.label (node.kids.map document) := by
  cases node with
  | mk label kids => rw [document, documents_eq]

end Node

section Encode

theorem checkKinds_eq {nodes : List Node} (formed : ∀ node ∈ nodes, node.WellFormed) :
    checkKinds nodes = .ok () := by
  induction nodes with
  | nil => rfl
  | cons node rest ih =>
      have known := (formed node List.mem_cons_self).isKnown
      have later := ih fun node member => formed node (List.mem_cons_of_mem _ member)
      simp only [checkKinds, checkKind, known, if_true, later]

theorem encodeAll_eq {nodes : List Node}
    (each : ∀ node ∈ nodes, encodeChecked node = .ok node.document) :
    encodeAll nodes = .ok (nodes.map Node.document) := by
  induction nodes with
  | nil => rfl
  | cons node rest ih =>
      have first := each node List.mem_cons_self
      have later := ih fun node member => each node (List.mem_cons_of_mem _ member)
      simp only [encodeAll, later, first]
      rfl

theorem encodeChecked_eq {node : Node} (formed : node.WellFormed) :
    encodeChecked node = .ok node.document := by
  induction node using Node.induction with
  | step label kids below =>
      have all := encodeAll_eq fun kid member => below kid member (formed.kid member)
      simp only [encodeChecked, checkKinds_eq fun kid member => formed.kid member, all]
      rw [Node.document_eq]
      rfl

/-- A well-formed tree can be written. -/
theorem encode_eq {tree : Node} (formed : tree.WellFormed) : encode tree = .ok tree.document := by
  simp only [encode, checkKind, formed.isKnown, if_true, encodeChecked_eq formed]

end Encode

section Decode

theorem suits_documents {node : Node} (formed : node.WellFormed) :
    Suits node.label.kind (node.kids.map Node.document) := by
  have fit := Node.Everywhere.here formed
  intro path hasProgram hasInverse isBlock
  rw [isBlock] at fit ⊢
  refine ⟨?_, ?_⟩
  · rw [← fit.1, List.length_map, List.length_map, Node.kidLabels, List.length_map]
  · intro doc member
    obtain ⟨kid, _, rfl⟩ := List.mem_map.mp member
    rw [Node.document_eq]
    rfl

theorem readLabel_document {node : Node} (formed : node.WellFormed) (plain : Plain node.label) :
    readLabel node.document = .ok (node.label.only readNotes) := by
  rw [Node.document_eq]
  exact readLabel_written formed.isKnown plain (suits_documents formed)

theorem foldr_completeNext {kids : List Node} {entry : Node → Value × Label} {made : Node → Node}
    (each : ∀ kid ∈ kids, complete (entry kid).1 (entry kid).2 = .ok (made kid)) :
    (kids.map entry).foldr completeNext (.ok []) = .ok (kids.map made) := by
  induction kids with
  | nil => rfl
  | cons kid rest ih =>
      have first := each kid List.mem_cons_self
      have later := ih fun kid member => each kid (List.mem_cons_of_mem _ member)
      simp only [List.map_cons, List.foldr_cons, completeNext, later, first]
      rfl

theorem complete_document {node : Node} (formed : node.WellFormed)
    (plain : node.Everywhere fun node => Plain node.label) :
    complete node.document (node.label.only readNotes) = .ok (node.only readNotes) := by
  induction node using Node.induction with
  | step label kids ih =>
      let entry := fun kid : Node => (kid.document, kid.label.only readNotes)
      have fit : Node.fits label.kind ((kids.map entry).map fun entry => entry.2.kind) := by
        have here := Node.Everywhere.here formed
        rw [Node.kidLabels, List.map_map] at here
        rw [List.map_map]
        exact here
      have read : ∀ made ∈ kids.map entry, readLabel made.1 = .ok made.2 := by
        intro made member
        obtain ⟨kid, inKids, rfl⟩ := List.mem_map.mp member
        exact readLabel_document (formed.kid inKids) (plain.kid inKids).here
      have docs : (kids.map entry).map Prod.fst = kids.map Node.document := List.map_map
      have entries := below_written fit read
      rw [docs] at entries
      have each : ∀ kid ∈ kids, complete (entry kid).1 (entry kid).2 = .ok (kid.only readNotes) :=
        fun kid member => ih kid member (formed.kid member) (plain.kid member)
      have own := @complete_of_below _ (label.only readNotes) _ entries
      rw [Node.document_eq, own, foldr_completeNext each, Node.only, Node.mapLabels_mk]
      rfl

/-- A plain tree reads back with the notes that documents are believed on. -/
theorem decode_document {tree : Node} (formed : tree.WellFormed)
    (plain : tree.Everywhere fun node => Plain node.label) :
    decode tree.document = .ok (tree.only readNotes) := by
  rw [decode, readLabel_document formed plain.here]
  exact complete_document formed plain

theorem plain_of_readLabel {value : Value} {label : Label} (read : readLabel value = .ok label) :
    Plain label := by
  unfold readLabel at read
  split at read
  · next fields =>
      split at read
      · obtain ⟨kind, _, last⟩ := ok_of_bind read
        cases last
        refine ⟨?_, ?_⟩
        · intro note
          rw [get_ofFields]
          split
          · simp
          · intro found
            have notNull := (Option.filter_eq_some_iff.mp found).2
            cases notNull
        · intro entry member
          simpa using (List.mem_filter.mp member).2
      · cases read
  · cases read

theorem plain_of_decode {document : Value} {tree : Node} (read : decode document = .ok tree) :
    tree.Everywhere fun node => Plain node.label :=
  (everywhere_of_decode (fun _ _ => plain_of_readLabel) read).imp fun _ here => here.2

end Decode

/-! ## Trees without notes -/

section Bare

def Node.bare (tree : Node) : Node :=
  tree.mapLabels fun label => .ofKind label.kind

theorem Node.bare_label (tree : Node) : tree.bare.label = .ofKind tree.label.kind :=
  Node.mapLabels_label _ tree

theorem Node.bare_kids (tree : Node) : tree.bare.kids = tree.kids.map Node.bare :=
  Node.mapLabels_kids _ tree

theorem plain_ofKind (kind : Kind) : Plain (.ofKind kind) := by
  refine ⟨?_, ?_⟩
  · intro note
    cases note <;> simp [Label.ofKind, Notes.none, Notes.get]
  · intro entry member
    cases member

theorem plain_bare (tree : Node) : tree.bare.Everywhere fun node => Plain node.label := by
  induction tree using Node.induction with
  | step label kids below =>
      refine .intro ?_ ?_
      · rw [Node.bare_label]
        exact plain_ofKind label.kind
      · intro made member
        rw [Node.bare_kids] at member
        obtain ⟨kid, inKids, rfl⟩ := List.mem_map.mp member
        exact below kid inKids

/-- Every tree without notes and extra fields is described by a document. -/
theorem decode_bare {tree : Node} (formed : tree.bare.WellFormed) :
    decode tree.bare.document = .ok tree.bare := by
  have same : tree.bare.only readNotes = tree.bare := by
    rw [Node.only, Node.bare, Node.mapLabels_mapLabels]
    rfl
  rw [decode_document formed (plain_bare tree), same]

end Bare

end TemplateSpacing.Tree
