import TemplateSpacing.Config.Discovery
import TemplateSpacing.Proofs.Config.Layers
import TemplateSpacing.Proofs.Logged

/-! # What configuration files hold

What is read of a file: its fields, the settings among them, and the draft that they make.  A file that cannot
be opened or read and a file that is no document hold nothing.  Reading fails on a defect of the file alone, and
there are four: a path with a null character, bytes that are no text, a failure of the reader of documents, and a
tool section of the shared file that is no table.
-/

set_option autoImplicit false

namespace TemplateSpacing.Config

open TemplateSpacing.Css (Property)
open TemplateSpacing.Files (Disk Path Location FileError)
open TemplateSpacing.Log (Gives Logged)

/-! ## Reading, the reports apart -/

def toolSection (fields : Entries Value) : Except LoadFault (Option (Entries Value)) :=
  match fields.find? toolKey with
  | none => .ok none
  | some (.table tools) => .ok ((Entries.find? ownKey tools).bind Value.fields?)
  | some _ => .error .toolNotTable

def draftOf (layer : Layer) : Except LoadFault Draft :=
  layer.draft.mapError .ofConfig

/-! ## Modes that messages cannot show -/

def Layer.Unshown (layer : Layer) (cause : Value.LiteralError) : Prop :=
  ∃ raw, layer.fields.find? modeKey = some raw ∧ raw.literal = .error cause

section Unshown

variable {source : String} {raw : Value} {cause : Value.LiteralError} {fields : Entries Value}

theorem readMode_eq_unwritable_iff :
    readMode source raw = .error (.unwritable cause) ↔ raw.literal = .error cause := by
  have refusal : unknownMode source raw = .unwritable cause ↔ raw.literal = .error cause := by
    rw [unknownMode]
    cases raw.literal with
    | ok written => exact iff_of_false nofun nofun
    | error e => rw [ConfigError.unwritable.injEq, Except.error.injEq]
  rw [readMode, ← refusal]
  cases parsed : raw.text?.bind Mode.parse? with
  | none => rw [Except.error.injEq]
  | some mode =>
      obtain ⟨s, text, _⟩ := Option.bind_eq_some_iff.mp parsed
      cases raw with
      | text _ => exact iff_of_false nofun nofun
      | _ => cases text

theorem readDefault_ne_unwritable (property : Property) :
    readDefault property source raw ≠ .error (.unwritable cause) := by
  unfold readDefault
  split
  · exact nofun
  · exact nofun

theorem readFields_ne_unwritable (property : Property) :
    readFields property source fields ≠ .error (.unwritable cause) := by
  induction fields with
  | nil =>
      intro lost
      cases lost
  | cons field rest ih =>
      rw [readFields]
      split
      · intro lost
        cases lost
      · rwa [ne_eq, map_eq_error_iff]

theorem readEntries_ne_unwritable (property : Property) :
    readEntries property source raw ≠ .error (.unwritable cause) := by
  unfold readEntries
  split
  · rw [ne_eq, map_eq_error_iff]
    exact readFields_ne_unwritable property
  · exact nofun

theorem readField_eq_error_iff {α : Type} {key : String} {read : Value → Except ConfigError α} {e : ConfigError} :
    readField key read fields = .error e ↔ ∃ raw, fields.find? key = some raw ∧ read raw = .error e := by
  unfold readField
  cases fields.find? key with
  | none => exact iff_of_false nofun nofun
  | some raw => simp only [map_eq_error_iff, Option.some.injEq, exists_eq_left']

theorem readField_ne_unwritable {α : Type} {key : String} {read : Value → Except ConfigError α}
    (never : ∀ raw, read raw ≠ .error (.unwritable cause)) : readField key read fields ≠ .error (.unwritable cause) := by
  rw [ne_eq, readField_eq_error_iff]
  rintro ⟨raw, _, lost⟩
  exact never raw lost

/-- A refusal is lost only with the mode, which is read first. -/
theorem draft_eq_unwritable_iff {layer : Layer} :
    layer.draft = .error (.unwritable cause) ↔ layer.Unshown cause := by
  have mode : ∀ source, readField modeKey (readMode source) layer.fields = .error (.unwritable cause) ↔
      layer.Unshown cause := by
    intro source
    simp only [readField_eq_error_iff, readMode_eq_unwritable_iff, Layer.Unshown]
  rw [Layer.draft, readDocument, map_eq_error_iff, readDraft, ← mode]
  constructor
  · intro refused
    rcases error_of_bind refused with lost | ⟨_, _, refused⟩
    · exact lost
    rcases error_of_bind refused with other | ⟨_, _, refused⟩
    · exact absurd other (readField_ne_unwritable fun _ => readDefault_ne_unwritable _)
    rcases error_of_bind refused with other | ⟨_, _, refused⟩
    · exact absurd other (readField_ne_unwritable fun _ => readDefault_ne_unwritable _)
    rcases error_of_bind refused with other | ⟨_, _, refused⟩
    · exact absurd other (readField_ne_unwritable fun _ => readEntries_ne_unwritable _)
    rcases error_of_bind refused with other | ⟨_, _, last⟩
    · exact absurd other (readField_ne_unwritable fun _ => readEntries_ne_unwritable _)
    · cases last
  · intro lost
    rw [lost]
    rfl

/-- A layer makes a draft, or one of its settings is refused, or its mode cannot be shown. -/
theorem draftOf_eq_error_iff {layer : Layer} {fault : LoadFault} :
    draftOf layer = .error fault ↔
      (∃ e, fault = .refused e ∧ layer.draft = .error e ∧ ∀ cause, e ≠ .unwritable cause) ∨
        ∃ cause, fault = .unwritable cause ∧ layer.Unshown cause := by
  simp only [← draft_eq_unwritable_iff, draftOf]
  cases layer.draft with
  | ok draft => simp [Except.mapError]
  | error e => cases e <;> simp [Except.mapError, LoadFault.ofConfig, eq_comm]

end Unshown

section Settings

variable (reader : DocumentReader)

def contents (file : Candidate) : Except LoadFault (Entries Value) :=
  match file.bytes with
  | .error .embeddedNull => .error (.unusable .embeddedNull)
  | .error _ => .ok []
  | .ok bytes =>
    match Text.readText bytes with
    | .error e => .error (.notText e)
    | .ok text =>
      match reader text with
      | .ok fields => .ok fields
      | .error (.malformed _) => .ok []
      | .error (.failed name) => .error (.unread name)

def settings (file : Candidate) : Except LoadFault (Option (Entries Value)) :=
  contents reader file >>= fun fields => if file.name = sharedName then toolSection fields else .ok (some fields)

def settings? (file : Candidate) : Option (Entries Value) :=
  match settings reader file with
  | .ok found => found
  | .error _ => none

def layer? (file : Candidate) : Option Layer :=
  (settings? reader file).map fun fields => ⟨some file.shown, fields⟩

def draftIn (file : Candidate) : Except LoadFault (Option Draft) :=
  settings reader file >>= fun found =>
    match found with
    | none => .ok none
    | some fields => (draftOf ⟨some file.shown, fields⟩).map some

theorem gives_loadFields (file : Candidate) : Gives (loadFields reader file) (contents reader file) := by
  obtain ⟨shown, name, bytes⟩ := file
  cases bytes with
  | error e =>
      cases e with
      | embeddedNull => exact Log.gives_throw _
      | _ => exact (Log.gives_pure []).emitting _
  | ok bytes =>
      simp only [loadFields, contents]
      cases Text.readText bytes with
      | error e => exact Log.gives_throw _
      | ok text =>
          simp only
          cases reader text with
          | ok fields => exact Log.gives_pure fields
          | error fault =>
              cases fault with
              | malformed detail => exact (Log.gives_pure []).emitting _
              | failed name => exact Log.gives_throw _

theorem gives_ownSection (fields : Entries Value) : Gives (ownSection fields) (toolSection fields) := by
  unfold ownSection toolSection
  cases fields.find? toolKey with
  | none => exact Log.gives_pure none
  | some value =>
      cases value with
      | table tools => exact Log.gives_pure _
      | _ => exact Log.gives_throw _

theorem gives_ownFields (file : Candidate) : Gives (ownFields reader file) (settings reader file) := by
  refine (gives_loadFields reader file).bind ?_
  intro fields _
  split
  · exact gives_ownSection fields
  · exact Log.gives_pure _

theorem gives_draftOf (source : String) (fields : Entries Value) :
    Gives (Log.ofRecords ((readDocument (some source) fields).1,
      (readDocument (some source) fields).2.mapError LoadFault.ofConfig) >>= fun draft => pure (some draft))
      ((draftOf ⟨some source, fields⟩).map some) := by
  exact (Log.gives_ofRecords ((readDocument (some source) fields).1,
    draftOf ⟨some source, fields⟩)).bind fun draft _ => Log.gives_pure (some draft)

theorem gives_loadFile (file : Candidate) : Gives (loadFile reader file) (draftIn reader file) := by
  refine Gives.emitting (Gives.bind (gives_ownFields reader file) ?_) _
  intro found _
  cases found with
  | none => exact (Log.gives_pure none).emitting _
  | some fields => exact gives_draftOf file.shown fields

end Settings

/-! ## Defects -/

def HoldsText (file : Candidate) (text : String) : Prop :=
  ∃ bytes, file.bytes = .ok bytes ∧ Text.readText bytes = .ok text

section Defects

variable (reader : DocumentReader)

def HoldsFields (file : Candidate) (fields : Entries Value) : Prop :=
  ∃ text, HoldsText file text ∧ reader text = .ok fields

inductive Blank (file : Candidate) : Prop
  | unopened {e : FileError} (missed : file.bytes = .error e) (notNull : e ≠ .embeddedNull)
  | malformed {text detail : String} (holds : HoldsText file text)
      (refused : reader text = .error (.malformed detail))

/-- A defect of a file, and the fault that it is reported as. -/
inductive Defect (file : Candidate) : LoadFault → Prop
  | path (missed : file.bytes = .error .embeddedNull) : Defect file (.unusable .embeddedNull)
  | text {bytes : List UInt8} {e : Text.Utf8Error} (opened : file.bytes = .ok bytes)
      (refused : Text.readText bytes = .error e) : Defect file (.notText e)
  | unread {text name : String} (holds : HoldsText file text) (failed : reader text = .error (.failed name)) :
      Defect file (.unread name)
  | tool {fields : Entries Value} {value : Value} (shared : file.name = sharedName)
      (holds : HoldsFields reader file fields) (present : fields.find? toolKey = some value)
      (noTable : value.fields? = none) : Defect file .toolNotTable

def Sound (file : Candidate) : Prop :=
  ∀ fault, ¬Defect reader file fault

variable {reader} {file : Candidate} {fault : LoadFault} {fields : Entries Value}

theorem contents_of_text {text : String} (holds : HoldsText file text) :
    contents reader file =
      match reader text with
      | .ok fields => .ok fields
      | .error (.malformed _) => .ok []
      | .error (.failed name) => .error (.unread name) := by
  obtain ⟨bytes, opened, decoded⟩ := holds
  simp only [contents, opened, decoded]

theorem contents_of_fields (holds : HoldsFields reader file fields) : contents reader file = .ok fields := by
  obtain ⟨text, textHeld, parsed⟩ := holds
  rw [contents_of_text textHeld, parsed]

theorem contents_of_blank (blank : Blank reader file) : contents reader file = .ok [] := by
  cases blank with
  | @unopened e missed notNull =>
      rw [contents, missed]
      cases e with
      | embeddedNull => exact absurd rfl notNull
      | _ => rfl
  | malformed holds refused => rw [contents_of_text holds, refused]

/-- A file is read as a document, or counts as empty, or reading it fails on a defect. -/
theorem contents_cases (reader : DocumentReader) (file : Candidate) :
    (∃ fields, HoldsFields reader file fields) ∨ Blank reader file ∨
      ∃ fault, Defect reader file fault ∧ contents reader file = .error fault := by
  cases held : file.bytes with
  | error e =>
      cases e with
      | embeddedNull => exact .inr (.inr ⟨_, .path held, by rw [contents, held]⟩)
      | _ => exact .inr (.inl (.unopened held (by decide)))
  | ok bytes =>
      cases decoded : Text.readText bytes with
      | error e => exact .inr (.inr ⟨_, .text held decoded, by simp only [contents, held, decoded]⟩)
      | ok text =>
          have holds : HoldsText file text := ⟨bytes, held, decoded⟩
          cases parsed : reader text with
          | ok fields => exact .inl ⟨fields, text, holds, parsed⟩
          | error refusal =>
              cases refusal with
              | malformed detail => exact .inr (.inl (.malformed holds parsed))
              | failed name => exact .inr (.inr ⟨_, .unread holds parsed, by rw [contents_of_text holds, parsed]⟩)

theorem toolSection_eq_error_iff :
    toolSection fields = .error fault ↔
      fault = .toolNotTable ∧ ∃ value, fields.find? toolKey = some value ∧ value.fields? = none := by
  unfold toolSection
  cases fields.find? toolKey with
  | none => simp
  | some value =>
      cases value with
      | table tools => simp [Value.fields?]
      | _ => simp [Value.fields?, eq_comm]

theorem settings_of_contents (read : contents reader file = .ok fields) :
    settings reader file = if file.name = sharedName then toolSection fields else .ok (some fields) := by
  rw [settings, read]
  rfl

theorem settings_of_blank (blank : Blank reader file) :
    settings reader file = .ok (if file.name = sharedName then none else some []) := by
  rw [settings_of_contents (contents_of_blank blank)]
  split
  · rfl
  · rfl

theorem settings_of_defect (defect : Defect reader file fault) : settings reader file = .error fault := by
  cases defect with
  | path missed => rw [settings, contents, missed]; rfl
  | text opened refused => simp only [settings, contents, opened, refused]; rfl
  | unread holds failed => rw [settings, contents_of_text holds, failed]; rfl
  | @tool fields value shared holds present noTable =>
      rw [settings_of_contents (contents_of_fields holds), if_pos shared]
      exact toolSection_eq_error_iff.mpr ⟨rfl, value, present, noTable⟩

theorem defect_of_settings (failed : settings reader file = .error fault) : Defect reader file fault := by
  rcases contents_cases reader file with ⟨fields, holds⟩ | blank | ⟨other, defect, _⟩
  · rw [settings_of_contents (contents_of_fields holds)] at failed
    split at failed
    · next shared =>
        obtain ⟨rfl, value, present, noTable⟩ := toolSection_eq_error_iff.mp failed
        exact .tool shared holds present noTable
    · cases failed
  · rw [settings_of_blank blank] at failed
    cases failed
  · rw [settings_of_defect defect] at failed
    exact Except.error.inj failed ▸ defect

theorem settings_eq_error_iff : settings reader file = .error fault ↔ Defect reader file fault :=
  ⟨defect_of_settings, settings_of_defect⟩

theorem sound_of_settings {found : Option (Entries Value)} (read : settings reader file = .ok found) :
    Sound reader file := by
  intro fault defect
  rw [settings_of_defect defect] at read
  cases read

theorem settings_of_sound (sound : Sound reader file) : settings reader file = .ok (settings? reader file) := by
  cases read : settings reader file with
  | error fault => exact absurd (defect_of_settings read) (sound fault)
  | ok found => rw [settings?, read]

theorem settings?_of_blank (blank : Blank reader file) :
    settings? reader file = if file.name = sharedName then none else some [] := by
  rw [settings?, settings_of_blank blank]

theorem isSome_settings?_of_own (sound : Sound reader file) (own : file.name ≠ sharedName) :
    (settings? reader file).isSome = true := by
  have read := settings_of_sound sound
  rcases contents_cases reader file with ⟨fields, holds⟩ | blank | ⟨fault, defect, _⟩
  · rw [settings_of_contents (contents_of_fields holds), if_neg own] at read
    rw [← Except.ok.inj read]
    rfl
  · rw [settings?_of_blank blank, if_neg own]
    rfl
  · exact absurd defect (sound fault)

instance (reader : DocumentReader) (file : Candidate) : Decidable (Sound reader file) :=
  match read : settings reader file with
  | .ok _ => .isTrue (sound_of_settings read)
  | .error fault => .isFalse fun sound => sound fault (defect_of_settings read)

end Defects

/-! ## The first fault -/

def barring {α : Type} (fault : Option LoadFault) (value : α) : Except LoadFault α :=
  match fault with
  | some fault => .error fault
  | none => .ok value

section FirstFault

variable (reader : DocumentReader)

def fault? (file : Candidate) : Option LoadFault :=
  match settings reader file with
  | .error fault => some fault
  | .ok _ => none

variable {reader}

theorem fault?_eq_some_iff {file : Candidate} {fault : LoadFault} :
    fault? reader file = some fault ↔ Defect reader file fault := by
  rw [← settings_eq_error_iff, fault?]
  cases settings reader file with
  | error other => simp
  | ok found => simp

theorem settings_eq_barring (file : Candidate) :
    settings reader file = barring (fault? reader file) (settings? reader file) := by
  rw [fault?, settings?]
  cases settings reader file with
  | error fault => rfl
  | ok found => rfl

theorem gives_settings (file : Candidate) :
    Gives (ownFields reader file) (barring (fault? reader file) (settings? reader file)) :=
  settings_eq_barring file ▸ gives_ownFields reader file

end FirstFault

theorem eq_of_barring {α : Type} {fault : Option LoadFault} {value result : α}
    (ok : barring fault value = .ok result) : value = result := by
  cases fault with
  | none => exact Except.ok.inj ok
  | some fault => cases ok

/-- What comes after a result that is barred by a fault is barred by it too. -/
theorem gives_barred {α β : Type} {first : Logged LoadFault α} {next : α → Logged LoadFault β}
    {fault other : Option LoadFault} {value : α} {last : β} (gives : Gives first (barring fault value))
    (later : Gives (next value) (barring other last)) :
    Gives (first >>= next) (barring (fault.or other) last) := by
  have barred : barring (fault.or other) last = barring fault value >>= fun _ => barring other last := by
    cases fault with
    | none => rfl
    | some fault => rfl
  rw [barred]
  refine gives.bind fun result ok => ?_
  obtain rfl := eq_of_barring ok
  exact later

end TemplateSpacing.Config
