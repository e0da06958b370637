import TemplateSpacing.Proofs.Pass.Runs
import TemplateSpacing.Proofs.Tree.Drawing
import TemplateSpacing.Proofs.Tree.Reread

/-! # Documents

The passes write words and truth values, never null, and they leave the extra fields alone.  So the
tree of a document still says all that its document says after a pipeline, the new document reads back
as the new tree without the notes on removed white space, and notes that could be written still can.
-/

set_option autoImplicit false

namespace TemplateSpacing.Pass

open TemplateSpacing.Tree

/-! ## Laws that outlast the passes -/

/-- A law of labels that still holds when a word or a truth value is noted, and when a text is trimmed. -/
structure Enduring (law : Label → Prop) : Prop where
  display : ∀ label display, law label → law (label.withDisplay display)
  flag : ∀ label which flag, law label → law (label.withFlag which flag)
  trimmed : ∀ label, law label → law (trimmed label)

namespace Enduring

variable {law : Label → Prop} {config : Config} {tree : Node}

theorem classified (enduring : Enduring law) (pending : Option String) {label : Label} (holds : law label) :
    law (classified config pending label) := by
  unfold Pass.classified
  have shown := fun display => enduring.display label display holds
  split
  · exact enduring.flag _ _ _ (enduring.flag _ _ _ (shown _))
  · exact shown _

/-- Labels that a rule changes but does not remove keep a law. -/
theorem keeps_of_changed {below : List Label} {news : List (Option Label)}
    (pairs : List.Forall₂ (fun old made => ∃ new, made = some new ∧ (law old → law new)) below news) :
    List.Forall₂ (fun old made => ∀ new, made = some new → law old → law new) below news := by
  refine pairs.imp ?_
  rintro old made ⟨new, rfl, keeps⟩ _ same
  cases same
  exact keeps

theorem displayed (enduring : Enduring law) (all : tree.Everywhere fun node => law node.label) :
    (displayed config tree).Everywhere fun node => law node.label := by
  refine Node.Everywhere.of_labels ?_ true all
  intro top label below
  obtain ⟨own, pairs⟩ := forall₂_displayRule config (fun old new => law old → law new)
    (fun _ => id) (fun pending _ => enduring.classified pending) top label below
  exact ⟨own, keeps_of_changed pairs⟩

theorem sensitivityPass (enduring : Enduring law) (all : tree.Everywhere fun node => law node.label) :
    (tree.rewrite (sensitivityRule config) true).Everywhere fun node => law node.label := by
  refine Node.Everywhere.of_labels ?_ true all
  intro top label below
  obtain ⟨own, pairs⟩ := forall₂_sensitivityRule config (fun old new => law old → law new)
    (fun _ => id) (fun _ _ => enduring.flag _ _ _)
    (fun _ _ _ holds => enduring.flag _ _ _ (enduring.flag _ _ _ holds)) top label below
  exact ⟨own, keeps_of_changed pairs⟩

theorem whitespacePass (enduring : Enduring law) (all : tree.Everywhere fun node => law node.label) :
    (tree.rewrite (whitespaceRule config) true).Everywhere fun node => law node.label :=
  everywhere_whitespacePass config (fun _ _ => enduring.flag _ _ _)
    (fun _ _ holds => enduring.flag _ _ _ (enduring.flag _ _ _ holds))
    (fun _ _ _ holds => enduring.flag _ _ _ (enduring.flag _ _ _ (enduring.trimmed _ holds))) all

end Enduring

/-! ## Plain trees -/

section Plain

variable {label : Label}

theorem plain_note {value : Value} (notNull : value ≠ .null) (which : Note) (plain : Plain label) :
    Plain (label.note which (some value)) := by
  refine ⟨?_, plain.extras⟩
  intro note found
  rw [Label.note, Notes.get_set] at found
  split at found
  · exact notNull (Option.some.inj found)
  · exact plain.notes note found

theorem plain_trimmed (plain : Plain label) : Plain (trimmed label) := by
  have keys : consumedKeys (trimmed label).kind = consumedKeys label.kind := by
    rw [show (trimmed label).kind = trimmedKind label.kind from rfl]
    cases label.kind <;> rfl
  refine ⟨plain.notes, ?_⟩
  intro entry member
  rw [keys]
  exact plain.extras entry member

theorem enduring_plain : Enduring Plain where
  display := fun _ _ => plain_note (fun null => Value.noConfusion null) .display
  flag := fun _ which _ => plain_note (fun null => Value.noConfusion null) which
  trimmed := fun _ => plain_trimmed

theorem plain_normalized (config : Config) {tree : Node} (plain : tree.Everywhere fun node => Plain node.label) :
    (normalized config tree).Everywhere fun node => Plain node.label :=
  enduring_plain.whitespacePass (enduring_plain.sensitivityPass (enduring_plain.displayed plain))

end Plain

/-! ## Legible trees -/

theorem mem_entries_iff {notes : Notes} {entry : String × Value} :
    entry ∈ notes.entries ↔ ∃ note : Note, notes.get note = some entry.2 ∧ note.key = entry.1 := by
  simp only [Notes.entries, List.mem_filterMap, mem_all, true_and, Option.map_eq_some_iff, Prod.ext_iff]
  exact exists_congr fun note => ⟨fun ⟨_, found, key, same⟩ => ⟨same ▸ found, key⟩,
    fun ⟨found, key⟩ => ⟨_, found, key, rfl⟩⟩

theorem legible_iff {label : Label} :
    label.Legible ↔ ∀ note value, label.notes.get note = some value → value.Writable := by
  simp only [Label.Legible, mem_entries_iff]
  constructor
  · intro legible note value found
    exact legible (note.key, value) ⟨note, found, rfl⟩
  · rintro each entry ⟨note, found, _⟩
    exact each note entry.2 found

theorem legible_note {value : Value} (writable : value.Writable) (which : Note) {label : Label}
    (legible : label.Legible) : (label.note which (some value)).Legible := by
  rw [legible_iff] at legible ⊢
  intro note held found
  rw [Label.note, Notes.get_set] at found
  split at found
  · rwa [← Option.some.inj found]
  · exact legible note held found

theorem enduring_legible : Enduring Label.Legible where
  display := fun _ _ => legible_note ⟨rfl, Nat.zero_le _⟩ .display
  flag := fun _ which _ => legible_note ⟨rfl, Nat.zero_le _⟩ which
  trimmed := fun _ legible => legible

/-! ## The full pipeline -/

section Pipeline

variable {config : Config} {document : Value} {tree : Node}

theorem wellFormed_of_decode (read : decode document = .ok tree) : tree.WellFormed :=
  (fresh_of_decode read).wellFormed

theorem preprocessDocument_eq (config : Config) (read : decode document = .ok tree) :
    (preprocessDocument config .preprocess document).2 = .ok (normalized config tree).document := by
  have formed := wellFormed_of_decode read
  obtain ⟨done, state⟩ := preprocess_preprocess config formed
  rw [preprocessDocument, read]
  simp only [preprocessTree, done, state, encode_eq (wellFormed_normalized config formed)]
  rfl

/-- The new document reads back as the new tree without the notes on removed white space. -/
theorem decode_normalized (config : Config) (read : decode document = .ok tree) :
    decode (normalized config tree).document = .ok ((normalized config tree).only readNotes) :=
  decode_document (wellFormed_normalized config (wellFormed_of_decode read))
    (plain_normalized config (plain_of_decode read))

end Pipeline

end TemplateSpacing.Pass
