import TemplateSpacing.Proofs.Tree.Canonical

/-! # Decoded trees are written in normal form

Reading a document and writing the tree puts the document in normal form, whatever the document looks
like.  The normal form reads back as the same tree, so doing it again changes nothing.
-/

set_option autoImplicit false

namespace TemplateSpacing.Tree

/-! ## Labels -/

section Labels

variable {fields : Entries Value} {kind : Kind} {label : Label}

theorem typeKey_of_readKind {typeName : String} (read : readKind typeName fields = .ok kind) :
    kind.typeKey = typeName := by
  unfold readKind at read
  split_ifs at read with template block program element text mustache blockStatement comment mustacheComment
  · cases read
    exact template.symm
  · cases read
    exact block.symm
  · cases read
    exact program.symm
  · obtain ⟨tag, _, rest⟩ := ok_of_bind read
    obtain ⟨attributes, _, last⟩ := ok_of_bind rest
    cases last
    exact element.symm
  · obtain ⟨chars, _, last⟩ := ok_of_bind read
    cases last
    exact text.symm
  · cases read
    exact mustache.symm
  · cases read
    exact blockStatement.symm
  · obtain ⟨value, _, last⟩ := ok_of_bind read
    cases last
    exact comment.symm
  · obtain ⟨value, _, last⟩ := ok_of_bind read
    cases last
    exact mustacheComment.symm

structure LabelOf (fields : Entries Value) (label : Label) : Prop where
  type : typeOf fields = label.kind.typeKey
  kind : readKind label.kind.typeKey fields = .ok label.kind
  notes : label.notes = Notes.ofFields fields
  extras : label.extras = fields.without (consumedKeys label.kind)

theorem labelOf_of_readLabel {value : Value} (read : readLabel value = .ok label) :
    ∃ fields, value = .table fields ∧ LabelOf fields label := by
  unfold readLabel at read
  split at read
  · next fields =>
      split at read
      · next typeName found =>
          obtain ⟨kind, readKind, last⟩ := ok_of_bind read
          cases last
          have type := typeKey_of_readKind readKind
          refine ⟨fields, rfl, ?_, ?_, rfl, rfl⟩
          · rw [typeOf, found, type]
            rfl
          · rw [type]
            exact readKind
      · cases read
  · cases read

/-- The keys with a meaning of their own are those of the type, in whatever order. -/
theorem mem_ownKeys_of_readKind (read : readKind kind.typeKey fields = .ok kind) (key : String) :
    key ∈ ownKeys kind ↔ key ∈ (ownFields kind.typeKey).map OwnField.key := by
  cases kind with
  | root which => cases which <;> exact Iff.rfl
  | element _ _ => simp [ownKeys, Kind.typeKey, ownFields, or_comm, or_left_comm]
  | bare => cases readKind_ok read
  | bodyLabel _ => cases readKind_ok read
  | foreign _ => cases readKind_ok read
  | _ => exact Iff.rfl

theorem extras_of_labelOf (of : LabelOf fields label) :
    label.extras = fields.without (meantKeys fields) := by
  rw [of.extras]
  apply Entries.without_congr
  intro key
  rw [consumedKeys, meantKeys, List.cons_append, List.cons_append, List.mem_cons, List.mem_cons,
    List.mem_append, List.mem_append, of.type, mem_ownKeys_of_readKind of.kind]

theorem entries_of_labelOf (of : LabelOf fields label) : label.notes.entries = noteFields fields := by
  have shorter : Note.all = readNotes ++ [.leadingSpaces, .trailingSpaces, .danglingSpaces] := rfl
  rw [Notes.entries, noteFields, of.notes, shorter, List.filterMap_append]
  have recomputed : ∀ note ∈ [Note.leadingSpaces, .trailingSpaces, .danglingSpaces],
      note.isRecomputed = true := by
    decide
  have dropped : ∀ note ∈ [Note.leadingSpaces, .trailingSpaces, .danglingSpaces],
      ((Notes.ofFields fields).get note).map (fun value => (note.key, value)) = none := by
    intro note member
    rw [get_ofFields, if_pos (recomputed note member)]
    rfl
  rw [List.filterMap_eq_nil_iff.mpr dropped, List.append_nil]
  apply List.filterMap_congr
  intro note member
  rw [get_ofFields, if_neg]
  simp [(mem_readNotes note).mp member]

end Labels

/-! ## Below a node -/

section Below

variable {fields : Entries Value}

theorem fst_of_readLabels {items : List Value} {entries : List (Value × Label)}
    (read : readLabels items = .ok entries) : entries.map Prod.fst = items := by
  induction items generalizing entries with
  | nil =>
      obtain rfl := Except.ok.inj read
      rfl
  | cons item rest ih =>
      rw [readLabels] at read
      split at read
      · cases read
      · obtain ⟨later, readLater, rfl⟩ := ok_of_map read
        rw [List.map_cons, ih readLater]

theorem fst_of_readBodyLabels {slots : List Slot} {entries : List (Value × Label)}
    (read : readBodyLabels fields slots = .ok entries) :
    entries.map Prod.fst =
      slots.filterMap fun slot => (fields.find? slot.name).filter fun value => !value.isNull := by
  induction slots generalizing entries with
  | nil =>
      obtain rfl := Except.ok.inj read
      rfl
  | cons slot rest ih =>
      rw [readBodyLabels] at read
      split at read
      · next absent =>
          rw [ih read, List.filterMap_cons, absent]
          rfl
      · next value found =>
          split at read
          · next isNull =>
              rw [ih read, List.filterMap_cons, found, Option.filter_some_neg (by simp [isNull])]
          · next notNull =>
              split at read
              · cases read
              · split at read
                · obtain ⟨later, readLater, rfl⟩ := ok_of_map read
                  rw [List.map_cons, ih readLater, List.filterMap_cons, found,
                    Option.filter_some_pos (by simp [notNull])]
                · cases read

theorem getD_of_listField {typeName key : String} {items : List Value}
    (read : listField typeName key fields = .ok items) :
    (fields.find? key).getD (.list []) = .list items := by
  rw [listField] at read
  split at read
  · next absent =>
      obtain rfl := Except.ok.inj read
      rw [absent]
      rfl
  · next list found =>
      obtain rfl := Except.ok.inj read
      rw [found]
      rfl
  · cases read

theorem find?_of_stringField {typeName key text : String}
    (read : stringField typeName key fields = .ok text) : fields.find? key = some (.text text) := by
  rw [stringField] at read
  split at read
  · next found =>
      obtain rfl := Except.ok.inj read
      exact found
  · cases read
  · cases read

/-- The documents in a field that is empty where it is absent, in normal form. -/
theorem getD_canonicalFields {key : String} {items : List Value}
    (found : (fields.find? key).getD (.list []) = .list items) :
    ((canonicalFields fields).find? key).getD (.list []) = .list (items.map canonical) := by
  have whole : ((fields.find? key).map canonical).getD (.list []) =
      canonical ((fields.find? key).getD (.list [])) := by
    cases fields.find? key <;> rfl
  rw [find?_canonicalFields, whole, found, canonical, canonicalItems_eq]

end Below

section Fields

variable {fields : Entries Value} {kind : Kind} {entries : List (Value × Label)}

theorem map_canonical (entries : List (Value × Label)) :
    (entries.map fun entry => canonical entry.1) = (entries.map Prod.fst).map canonical := by
  rw [List.map_map]
  rfl

def bodyDocument? (fields : Entries Value) (slot : Slot) : Option Value :=
  (fields.find? slot.name).filter fun value => !value.isNull

theorem hasBody_eq (fields : Entries Value) (slot : Slot) :
    hasBody slot fields = ((bodyDocument? fields slot).map canonical).isSome := by
  rw [hasBody, bodyDocument?, Option.isSome_map]
  cases fields.find? slot.name with
  | none => rfl
  | some value => cases isNull : value.isNull <;> simp [isNull]

/-- A body that is not there is null in normal form. -/
theorem getD_bodyDocument? (slot : Slot) :
    ((canonicalFields fields).find? slot.name).getD .null =
      ((bodyDocument? fields slot).map canonical).getD .null := by
  rw [find?_canonicalFields, bodyDocument?]
  cases fields.find? slot.name with
  | none => rfl
  | some value => cases value <;> rfl

theorem bodyFields_of_bodies (program inverse : Option Value) {path : Value} :
    bodyFields (Kind.block path program.isSome inverse.isSome).slots (program.toList ++ inverse.toList) =
      [(Slot.program.name, program.getD .null), (Slot.inverse.name, inverse.getD .null)] := by
  cases program <;> cases inverse <;> rfl

/-- The bodies of a block, in normal form. -/
theorem bodyFields_eq {path : Value} {hasProgram hasInverse : Bool}
    (own : ReadFrom fields (.block path hasProgram hasInverse))
    (read : readBodyLabels fields [.program, .inverse] = .ok entries) :
    bodyFields (Kind.block path hasProgram hasInverse).slots (entries.map fun entry => canonical entry.1) =
      [Slot.program, .inverse].map fun slot =>
        (slot.name, ((canonicalFields fields).find? slot.name).getD .null) := by
  obtain ⟨rfl, rfl⟩ := own
  have docs : entries.map (fun entry => canonical entry.1) =
      ((bodyDocument? fields .program).map canonical).toList ++
        ((bodyDocument? fields .inverse).map canonical).toList := by
    rw [map_canonical, fst_of_readBodyLabels read]
    change ([Slot.program, .inverse].filterMap (bodyDocument? fields)).map canonical = _
    cases program : bodyDocument? fields .program <;> cases inverse : bodyDocument? fields .inverse <;>
      simp [program, inverse]
  rw [docs, hasBody_eq, hasBody_eq, bodyFields_of_bodies]
  simp only [List.map_cons, List.map_nil, getD_bodyDocument?]

theorem kindFields_eq (own : readKind kind.typeKey fields = .ok kind)
    (read : below kind (.table fields) = .ok entries) :
    kindFields kind (entries.map fun entry => canonical entry.1) =
      (ownFields kind.typeKey).map fun own => own.written fields (canonicalFields fields) := by
  cases kind with
  | root which =>
      rw [below] at read
      split at read
      · cases read
      · next items list =>
          have inner := getD_canonicalFields (getD_of_listField list)
          rw [map_canonical, fst_of_readLabels read]
          cases which <;> simp [kindFields, Kind.typeKey, ownFields, OwnField.written, inner]
  | element tag attributes =>
      obtain ⟨_, readTag, rest⟩ := ok_of_bind own
      obtain ⟨_, readAttributes, last⟩ := ok_of_bind rest
      cases last
      rw [below] at read
      split at read
      · cases read
      · next items list =>
          have inner := getD_canonicalFields (getD_of_listField list)
          rw [map_canonical, fst_of_readLabels read]
          simp [kindFields, Kind.typeKey, ownFields, OwnField.written, inner, find?_of_stringField readTag,
            getD_of_listField readAttributes]
  | text chars =>
      obtain ⟨_, readChars, last⟩ := ok_of_bind own
      cases last
      simp [kindFields, Kind.typeKey, ownFields, OwnField.written, find?_of_stringField readChars]
  | mustache path =>
      cases own
      rfl
  | block path hasProgram hasInverse =>
      have bodies := bodyFields_eq (readKind_ok own) read
      have ownPath : path = (fields.find? "path").getD .null := by
        cases own
        rfl
      rw [kindFields, bodies, ownPath]
      rfl
  | comment value =>
      obtain ⟨_, readValue, last⟩ := ok_of_bind own
      cases last
      simp [kindFields, Kind.typeKey, ownFields, OwnField.written, find?_of_stringField readValue]
  | mustacheComment value =>
      obtain ⟨_, readValue, last⟩ := ok_of_bind own
      cases last
      simp [kindFields, Kind.typeKey, ownFields, OwnField.written, find?_of_stringField readValue]
  | bare => cases readKind_ok own
  | bodyLabel _ => cases readKind_ok own
  | foreign _ => cases readKind_ok own

end Fields

/-! ## Trees -/

section Trees

variable {document : Value} {tree : Node}

/-- What is completed is written in the normal form of what it was read from. -/
theorem document_of_complete {value : Value} {label : Label} {node : Node}
    (own : readLabel value = .ok label) (read : complete value label = .ok node) :
    node.document = canonical value := by
  -- on the size of the document: what is below a node is read from smaller documents in its fields
  induction smaller : sizeOf value using Nat.strongRecOn generalizing value label node with
  | ind size ih =>
      rw [complete_eq] at read
      split at read
      · cases read
      · next entries readBelow =>
          obtain ⟨kids, readKids, rfl⟩ := ok_of_map read
          obtain ⟨fields, rfl, of⟩ := labelOf_of_readLabel own
          have labels := (below_ok (readKind_ok of.kind) readBelow).1
          have each : ∀ entry ∈ entries, ∀ kid, complete entry.1 entry.2 = .ok kid →
              kid.document = canonical entry.1 := by
            intro entry member kid readKid
            have less := sizeOf_of_below readBelow entry member
            exact ih _ (smaller ▸ less) (labels entry member) readKid rfl
          have pairs := (List.forall₂_and_left _ _).mpr ⟨each, forall₂_of_completed readKids⟩
          have docs : kids.map Node.document = entries.map fun entry => canonical entry.1 := by
            apply map_eq_map_of_forall₂
            exact pairs.imp fun _ kid ⟨same, readKid⟩ => same kid readKid
          rw [Node.document_eq, docs, written, kindFields_eq of.kind readBelow, extras_of_labelOf of,
            entries_of_labelOf of, canonical, laidOut, fixedFields, of.type]

theorem document_of_decode (read : decode document = .ok tree) : tree.document = canonical document := by
  rw [decode] at read
  split at read
  · cases read
  · next own => exact document_of_complete own read

/-- A tree without notes on removed white space has only the notes that documents are believed on. -/
theorem only_of_unspaced (unspaced : tree.Everywhere fun node => Unspaced node.label) :
    tree.only readNotes = tree := by
  induction tree using Node.induction with
  | step label kids below =>
      have own : label.only readNotes = label := by
        have notes : label.notes.only readNotes = label.notes := by
          apply Notes.ext_get
          intro note
          rw [Notes.get_only]
          split
          · rfl
          · next notRead =>
              have recomputed : note.isRecomputed = true := by
                simpa [mem_readNotes] using notRead
              exact (unspaced.here note recomputed).symm
        rw [Label.only, notes]
      have all : kids.map (Node.only readNotes) = kids := by
        rw [List.map_congr_left fun kid member => below kid member (unspaced.kid member)]
        exact List.map_id' kids
      rw [Node.only, Node.mapLabels_mk, own]
      exact congrArg (Node.mk label) all

end Trees

/-- What is read is written in normal form, from which the same tree is read again; and every part of a
document stands in its normal form without a loss. -/
theorem canonical_of_decode (document : Value) (tree : Node) (read : decode document = .ok tree) :
    encode tree = .ok (canonical document) ∧ decode (canonical document) = .ok tree ∧
      ∀ fields, Inside document (.table fields) →
        Inside (canonical document) (.table (laidOut fields (canonicalFields fields))) ∧
          Keeps fields (laidOut fields (canonicalFields fields)) := by
  have fresh := fresh_of_decode read
  have same := document_of_decode read
  have again := decode_document fresh.wellFormed (plain_of_decode read)
  rw [only_of_unspaced fresh.unspaced] at again
  refine ⟨?_, ?_, ?_⟩
  · rw [← same]
    exact encode_eq fresh.wellFormed
  · rw [← same]
    exact again
  · intro fields inside
    have stands := inside_canonical inside
    rw [canonical] at stands
    exact ⟨stands, keeps_laidOut fields _⟩

def notedDocument : Value :=
  .table [("chars", .int 7), ("hasLeadingSpaces", .bool true), ("tag", .text "p"),
    ("display", .text "block"), ("isWhitespaceSensitive", .null), ("type", .text "ElementNode"),
    ("body", .null)]

def notedElement : Node :=
  ⟨⟨.element "p" [], { Notes.none with display := some (.text "block") },
    [("chars", .int 7), ("body", .null)]⟩, []⟩

theorem decode_notedDocument : decode notedDocument = .ok notedElement := by
  have own : readLabel notedDocument = .ok notedElement.label := rfl
  have nothing : below notedElement.label.kind notedDocument = .ok [] := rfl
  simp only [decode, own]
  exact complete_of_below nothing

theorem canonical_of_decode_noted :
    decode notedDocument = .ok notedElement ∧
      encode notedElement =
        .ok (.table [("type", .text "ElementNode"), ("tag", .text "p"), ("attributes", .list []),
          ("children", .list []), ("chars", .int 7), ("body", .null), ("display", .text "block")]) :=
  ⟨decode_notedDocument, (canonical_of_decode notedDocument notedElement decode_notedDocument).1⟩

end TemplateSpacing.Tree
