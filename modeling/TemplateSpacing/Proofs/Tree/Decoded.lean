import TemplateSpacing.Proofs.Tree.Shape
import TemplateSpacing.Tree.Decode

/-! # Decoded trees

What a document describes is a well-formed tree, and no node of it has notes on white space that was
removed: documents are not believed on these.
-/

set_option autoImplicit false

namespace TemplateSpacing.Tree

def Unspaced (label : Label) : Prop :=
  ∀ note : Note, note.isRecomputed = true → label.notes.get note = none

/-- What a kind that was read has to do with the fields that it was read from. -/
def ReadFrom (fields : Entries Value) : Kind → Prop
  | .block _ hasProgram hasInverse =>
    hasProgram = hasBody .program fields ∧ hasInverse = hasBody .inverse fields
  | .bare => False
  | .bodyLabel _ => False
  | .foreign _ => False
  | _ => True

/-! ## Labels -/

section Labels

variable {fields : Entries Value}

theorem get_ofFields (fields : Entries Value) (note : Note) :
    (Notes.ofFields fields).get note =
      if note.isRecomputed then none
      else (fields.find? note.key).filter fun value => !value.isNull := by
  cases note <;> rfl

theorem readKind_ok {typeName : String} {kind : Kind} (read : readKind typeName fields = .ok kind) :
    ReadFrom fields kind := by
  unfold readKind at read
  split_ifs at read
  · cases read
    trivial
  · cases read
    trivial
  · cases read
    trivial
  · obtain ⟨tag, _, rest⟩ := ok_of_bind read
    obtain ⟨attributes, _, last⟩ := ok_of_bind rest
    cases last
    trivial
  · obtain ⟨chars, _, last⟩ := ok_of_bind read
    cases last
    trivial
  · cases read
    trivial
  · cases read
    exact ⟨rfl, rfl⟩
  · obtain ⟨value, _, last⟩ := ok_of_bind read
    cases last
    trivial
  · obtain ⟨value, _, last⟩ := ok_of_bind read
    cases last
    trivial

theorem readLabel_ok {value : Value} {label : Label} (read : readLabel value = .ok label) :
    Unspaced label ∧ ∃ fields, value = .table fields ∧ ReadFrom fields label.kind := by
  unfold readLabel at read
  split at read
  · next fields =>
      split at read
      · obtain ⟨kind, readKind, last⟩ := ok_of_bind read
        cases last
        refine ⟨?_, fields, rfl, readKind_ok readKind⟩
        intro note recomputed
        rw [get_ofFields, if_pos recomputed]
      · cases read
  · cases read

theorem readLabels_ok {items : List Value} {entries : List (Value × Label)}
    (read : readLabels items = .ok entries) :
    ∀ entry ∈ entries, readLabel entry.1 = .ok entry.2 := by
  induction items generalizing entries with
  | nil =>
      obtain rfl := Except.ok.inj read
      intro entry member
      cases member
  | cons item rest ih =>
      rw [readLabels] at read
      split at read
      · cases read
      · next label first =>
          obtain ⟨later, readLater, rfl⟩ := ok_of_map read
          intro entry member
          rcases List.mem_cons.mp member with rfl | member
          · exact first
          · exact ih readLater entry member

theorem hasBody_of_find {slot : Slot} {found : Option Value}
    (find : fields.find? slot.name = found) :
    hasBody slot fields = found.any fun value => !value.isNull := by
  rw [hasBody, find]

/-- The bodies that are read are those that are there, and all of them are roots. -/
theorem readBodyLabels_ok {slots : List Slot} {entries : List (Value × Label)}
    (read : readBodyLabels fields slots = .ok entries) :
    (∀ entry ∈ entries, readLabel entry.1 = .ok entry.2 ∧ entry.2.kind.isRoot = true) ∧
      entries.length = (slots.filter fun slot => hasBody slot fields).length := by
  induction slots generalizing entries with
  | nil =>
      obtain rfl := Except.ok.inj read
      refine ⟨?_, rfl⟩
      intro entry member
      cases member
  | cons slot rest ih =>
      rw [readBodyLabels] at read
      split at read
      · next absent =>
          rw [List.filter_cons_of_neg (by simp [hasBody_of_find absent])]
          exact ih read
      · next value found =>
          split at read
          · next isNull =>
              rw [List.filter_cons_of_neg (by simp [hasBody_of_find found, isNull])]
              exact ih read
          · next notNull =>
              rw [List.filter_cons_of_pos (by simp [hasBody_of_find found, notNull])]
              split at read
              · cases read
              · next label first =>
                  split at read
                  · next isRoot =>
                      obtain ⟨later, readLater, rfl⟩ := ok_of_map read
                      obtain ⟨all, count⟩ := ih readLater
                      refine ⟨?_, congrArg (· + 1) count⟩
                      intro entry member
                      rcases List.mem_cons.mp member with rfl | member
                      · exact ⟨first, isRoot⟩
                      · exact all entry member
                  · cases read

theorem length_slots {path : Value} {hasProgram hasInverse : Bool}
    (read : ReadFrom fields (.block path hasProgram hasInverse)) :
    ([Slot.program, .inverse].filter fun slot => hasBody slot fields).length =
      (Kind.block path hasProgram hasInverse).slots.length := by
  obtain ⟨rfl, rfl⟩ := read
  cases program : hasBody .program fields <;> cases inverse : hasBody .inverse fields <;>
    simp [Kind.slots, program, inverse]

theorem below_ok {kind : Kind} {entries : List (Value × Label)} (own : ReadFrom fields kind)
    (read : below kind (.table fields) = .ok entries) :
    (∀ entry ∈ entries, readLabel entry.1 = .ok entry.2) ∧
      Node.fits kind (entries.map fun entry => entry.2.kind) := by
  have nothing : below kind (.table fields) = .ok [] → entries = [] := by
    intro empty
    rw [empty] at read
    exact (Except.ok.inj read).symm
  cases kind with
  | root which =>
      rw [below] at read
      split at read
      · cases read
      · exact ⟨readLabels_ok read, trivial⟩
  | element tag attributes =>
      rw [below] at read
      split at read
      · cases read
      · exact ⟨readLabels_ok read, trivial⟩
  | block path hasProgram hasInverse =>
      obtain ⟨all, count⟩ := readBodyLabels_ok read
      refine ⟨fun entry member => (all entry member).1, ?_, ?_⟩
      · rw [List.length_map, count, length_slots own]
      · intro kind member
        obtain ⟨entry, inEntries, rfl⟩ := List.mem_map.mp member
        exact (all entry inEntries).2
  | bare => exact own.elim
  | bodyLabel _ => exact own.elim
  | foreign _ => exact own.elim
  | _ =>
      obtain rfl := nothing rfl
      exact ⟨by simp, rfl⟩

end Labels

/-! ## Nodes -/

def completeNext (entry : Value × Label) (later : Except DecodeError (List Node)) :
    Except DecodeError (List Node) :=
  match later with
  | .error e => .error e
  | .ok nodes => (complete entry.1 entry.2).map (· :: nodes)

theorem complete_eq (value : Value) (label : Label) :
    complete value label =
      match below label.kind value with
      | .error e => .error e
      | .ok entries => (entries.foldr completeNext (.ok [])).map fun kids => ⟨label, kids⟩ := by
  rw [complete]
  split
  · next e read => rw [read]
  · next entries read =>
      rw [read]
      exact congrArg (Except.map _) (List.foldr_attach (f := completeNext))

theorem forall₂_of_completed {entries : List (Value × Label)} {nodes : List Node}
    (read : entries.foldr completeNext (.ok []) = .ok nodes) :
    List.Forall₂ (fun entry node => complete entry.1 entry.2 = .ok node) entries nodes := by
  induction entries generalizing nodes with
  | nil =>
      obtain rfl := Except.ok.inj read
      exact .nil
  | cons entry rest ih =>
      simp only [List.foldr_cons, completeNext] at read
      split at read
      · cases read
      · next later readLater =>
          obtain ⟨node, first, rfl⟩ := ok_of_map read
          exact .cons first (ih readLater)

def Fresh (node : Node) : Prop :=
  node.Everywhere fun node =>
    Node.fits node.label.kind (node.kidLabels.map Label.kind) ∧ Unspaced node.label

/-- What holds of every label that is read holds of every label of a decoded tree, and every node fits
what stands below it. -/
theorem everywhere_of_complete {law : Label → Prop}
    (reads : ∀ value label, readLabel value = .ok label → law label) {value : Value} {label : Label}
    {node : Node} (own : readLabel value = .ok label) (read : complete value label = .ok node) :
    node.label = label ∧ node.Everywhere fun node =>
      Node.fits node.label.kind (node.kidLabels.map Label.kind) ∧ law node.label := by
  -- What stands below a value is smaller, but no part of it: the recursion is on the size.
  induction smaller : sizeOf value using Nat.strongRecOn generalizing value label node with
  | ind size ih =>
      rw [complete_eq] at read
      split at read
      · cases read
      · next entries readBelow =>
          obtain ⟨kids, readKids, rfl⟩ := ok_of_map read
          have pairs := forall₂_of_completed readKids
          obtain ⟨_, fields, rfl, ownKind⟩ := readLabel_ok own
          obtain ⟨labels, fit⟩ := below_ok ownKind readBelow
          have each : ∀ entry ∈ entries, ∀ kid, complete entry.1 entry.2 = .ok kid →
              kid.label = entry.2 ∧ kid.Everywhere fun node =>
                Node.fits node.label.kind (node.kidLabels.map Label.kind) ∧ law node.label := by
            intro entry member kid readKid
            have less := sizeOf_of_below readBelow entry member
            exact ih _ (smaller ▸ less) (labels entry member) readKid rfl
          have known := (List.forall₂_and_left _ _).mpr ⟨each, pairs⟩
          have kinds : kids.map (fun kid => kid.label.kind) =
              entries.map fun entry => entry.2.kind := by
            apply map_eq_map_of_forall₂
            refine known.imp ?_
            rintro entry kid ⟨lawful, readKid⟩
            rw [(lawful kid readKid).1]
          refine ⟨rfl, .intro ⟨?_, reads _ _ own⟩ ?_⟩
          · rw [← kinds] at fit
            simpa only [Node.kidLabels, List.map_map, Function.comp_def] using fit
          · intro kid member
            obtain ⟨entry, inEntries, lawful, readKid⟩ := exists_of_forall₂_right known member
            exact (lawful kid readKid).2

theorem everywhere_of_decode {law : Label → Prop}
    (reads : ∀ value label, readLabel value = .ok label → law label) {document : Value} {tree : Node}
    (read : decode document = .ok tree) : tree.Everywhere fun node =>
      Node.fits node.label.kind (node.kidLabels.map Label.kind) ∧ law node.label := by
  rw [decode] at read
  split at read
  · cases read
  · next label own => exact (everywhere_of_complete reads own read).2

theorem fresh_of_decode {document : Value} {tree : Node} (read : decode document = .ok tree) :
    Fresh tree :=
  everywhere_of_decode (fun _ _ read => (readLabel_ok read).1) read

theorem Fresh.wellFormed {tree : Node} (fresh : Fresh tree) : tree.WellFormed :=
  Node.Everywhere.imp (fun _ here => here.1) fresh

theorem Fresh.unspaced {tree : Node} (fresh : Fresh tree) :
    tree.Everywhere fun node => Unspaced node.label :=
  Node.Everywhere.imp (fun _ here => here.2) fresh

/-! ## A document -/

theorem complete_of_below {value : Value} {label : Label} {entries : List (Value × Label)}
    (read : below label.kind value = .ok entries) :
    complete value label =
      (entries.foldr completeNext (.ok [])).map fun kids => ⟨label, kids⟩ := by
  rw [complete_eq, read]

def greetingDocument : Value :=
  .table [("type", .text "ElementNode"), ("tag", .text "p"), ("children", .list [
    .table [("type", .text "TextNode"), ("chars", .text " Dear ")],
    .table [("type", .text "MustacheStatement"), ("path", .text "name")],
    .table [("type", .text "TextNode"), ("chars", .text "!\n")]])]

def greeting : Node :=
  ⟨.ofKind (.element "p" []), [
    ⟨.ofKind (.text " Dear "), []⟩,
    ⟨.ofKind (.mustache (.text "name")), []⟩,
    ⟨.ofKind (.text "!\n"), []⟩]⟩

theorem decode_greeting : decode greetingDocument = .ok greeting := by
  have own : readLabel greetingDocument = .ok greeting.label := rfl
  have children : below greeting.label.kind greetingDocument = .ok [
      (.table [("type", .text "TextNode"), ("chars", .text " Dear ")],
        .ofKind (.text " Dear ")),
      (.table [("type", .text "MustacheStatement"), ("path", .text "name")],
        .ofKind (.mustache (.text "name"))),
      (.table [("type", .text "TextNode"), ("chars", .text "!\n")],
        .ofKind (.text "!\n"))] := rfl
  have leaf : ∀ (kind : Kind) (fields : Entries Value), below kind (.table fields) = .ok [] →
      complete (.table fields) (.ofKind kind) = .ok ⟨.ofKind kind, []⟩ := by
    intro kind fields read
    have nothing : below (Label.ofKind kind).kind (.table fields) = .ok [] := read
    exact complete_of_below nothing
  simp only [decode, own, complete_of_below children, List.foldr_cons, List.foldr_nil, completeNext]
  rw [leaf (.text " Dear ") _ rfl, leaf (.mustache _) _ rfl, leaf (.text "!\n") _ rfl]
  rfl

end TemplateSpacing.Tree
