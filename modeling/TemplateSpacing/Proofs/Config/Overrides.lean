import TemplateSpacing.Proofs.Config.Operations

/-! # Overrides as layers

An override does to a draft what one more layer does, and it is refused whatever the draft is.  Fields that
make a document override the mode and the tables as the document does, but the defaults that they set are
passed over; so the two agree on those documents alone whose defaults the draft has already.
-/

set_option autoImplicit false

namespace TemplateSpacing.Config

open TemplateSpacing.Css (Property)

def Draft.Tabled (draft : Draft) : Prop :=
  ∀ property : Property, Entries.Distinct (draft.patch property).entries

def Overrides.layer (overrides : Overrides) : Draft :=
  (Draft.empty.override overrides).1

def Overrides.refusal (overrides : Overrides) : Option ConfigError :=
  (Draft.empty.override overrides).2

/-- Fields override a draft by the settings that it has with the document of these fields laid over it. -/
def Accord (draft : Draft) (fields : Entries Value) : Prop :=
  ∀ layer, (readDocument none fields).2 = .ok layer →
    (draft.override (.ofFields fields)).1.mode = (draft.merge layer).mode ∧
      ∀ property : Property,
        (draft.override (.ofFields fields)).1.patch property = (draft.merge layer).patch property

/-! ## Overriding a draft over a draft -/

section Layer

variable {layer : Draft}

theorem tabled_empty : Draft.empty.Tabled := fun property => (neat_empty property).distinct

theorem Draft.Tabled.withEntries (tabled : layer.Tabled) {property : Property} {entries : Entries String}
    (distinct : Entries.Distinct entries) : (layer.withEntries property entries).Tabled := by
  intro other
  rw [Draft.withEntries, patch_withPatch]
  split
  · exact distinct
  · exact tabled other

theorem Draft.Tabled.overrideMode (tabled : layer.Tabled) {setting : Option ModeSetting} {after : Draft}
    (ok : layer.overrideMode setting = .ok after) : after.Tabled := by
  intro property
  rw [patch_overrideMode ok]
  exact tabled property

theorem Draft.Tabled.overrideEntries (tabled : layer.Tabled) {property : Property} {raw : Option Value}
    {after : Draft} (ok : layer.overrideEntries property raw = .ok after) : after.Tabled := by
  rcases overrideEntries_cases ok with rfl | ⟨given, entries, _, _, rfl⟩
  · exact tabled
  · exact tabled.withEntries (Entries.distinct_putAll (tabled property) entries)

theorem withEntries_merge (tabled : layer.Tabled) (draft : Draft) (property : Property)
    (entries : Entries String) :
    (draft.merge layer).withEntries property (((draft.merge layer).patch property).entries.putAll entries) =
      draft.merge (layer.withEntries property ((layer.patch property).entries.putAll entries)) := by
  have tables := Entries.putAll_putAll (tabled property) (draft.patch property).entries entries
  rw [patch_merge, Patch.merge, tables]
  cases property with
  | display => rfl
  | whiteSpace => rfl

theorem overrideMode_merge (draft layer : Draft) (setting : Option ModeSetting) :
    (draft.merge layer).overrideMode setting = (layer.overrideMode setting).map draft.merge := by
  cases setting with
  | none => rfl
  | some setting =>
      cases setting with
      | mode mode => rfl
      | raw raw =>
          simp only [Draft.overrideMode]
          cases readMode overrideSource raw with
          | error e => rfl
          | ok mode => rfl

theorem overrideEntries_merge (tabled : layer.Tabled) (draft : Draft) (property : Property)
    (raw : Option Value) :
    (draft.merge layer).overrideEntries property raw =
      (layer.overrideEntries property raw).map draft.merge := by
  cases raw with
  | none => rfl
  | some raw =>
      simp only [Draft.overrideEntries]
      cases readEntries property overrideSource raw with
      | error e => rfl
      | ok entries => exact congrArg Except.ok (withEntries_merge tabled draft property entries)

/-- What overrides do to a layer they do to it on any draft below. -/
theorem override_merge (tabled : layer.Tabled) (draft : Draft) (overrides : Overrides) :
    (draft.merge layer).override overrides =
      (draft.merge (layer.override overrides).1, (layer.override overrides).2) := by
  simp only [Draft.override, overrideMode_merge]
  cases modeOk : layer.overrideMode overrides.mode with
  | error e => rfl
  | ok withMode =>
      have modeTabled := tabled.overrideMode modeOk
      simp only [Except.map, overrideEntries_merge modeTabled]
      cases displaysOk : withMode.overrideEntries .display overrides.display with
      | error e => rfl
      | ok withDisplays =>
          have displaysTabled := modeTabled.overrideEntries displaysOk
          simp only [Except.map, overrideEntries_merge displaysTabled]
          cases withDisplays.overrideEntries .whiteSpace overrides.whiteSpace with
          | error e => rfl
          | ok done => rfl

theorem override_eq_merge (draft : Draft) (overrides : Overrides) :
    draft.override overrides = (draft.merge overrides.layer, overrides.refusal) := by
  have law := override_merge tabled_empty draft overrides
  rw [Draft.merge_empty] at law
  exact law

end Layer

/-! ## Overriding by the fields of a document -/

section Fields

variable {source : String} {property : Property} {fields : Entries Value}

theorem readMode_eq_ok {raw : Value} {mode : Mode} (parsed : raw.text?.bind Mode.parse? = some mode)
    (source : String) : readMode source raw = .ok mode := by
  rw [readMode, parsed]

theorem readFields_of_writes {writes : List (String × String)} (law : List.Forall₂ WrittenAs fields writes)
    (property : Property) (source : String) : readFields property source fields = .ok writes := by
  induction law with
  | nil => rfl
  | @cons field write _ _ first _ ih =>
      obtain ⟨tag, raw⟩ := field
      obtain ⟨key, value⟩ := write
      obtain ⟨rfl, read⟩ := first
      simp only [readFields, read, ih]
      rfl

/-- Whether a section can be read, and what it then says, does not hang on where it comes from. -/
theorem readEntries_source {raw : Value} {entries : Entries String}
    (ok : readEntries property source raw = .ok entries) (other : String) :
    readEntries property other raw = .ok entries := by
  obtain ⟨tags, writes, rfl, writesOk, rfl⟩ := readEntries_ok ok
  simp only [readEntries, readFields_of_writes (readFields_ok writesOk)]
  rfl

theorem given?_eq_none {key : String} (absent : fields.find? key = none) :
    Overrides.given? key fields = none := by
  rw [Overrides.given?, absent, Option.filter_none]

theorem given?_eq_some {key : String} {raw : Value} (present : fields.find? key = some raw)
    (filled : raw.isNull = false) : Overrides.given? key fields = some raw := by
  rw [Overrides.given?, present, Option.filter_some, filled]
  rfl

theorem isNull_of_text {raw : Value} {mode : Mode} (parsed : raw.text?.bind Mode.parse? = some mode) :
    raw.isNull = false := by
  cases raw with
  | text s => rfl
  | _ => cases parsed

theorem overrideMode_of_read (draft : Draft) {mode : Option Mode}
    (read : readField modeKey (readMode source) fields = .ok mode) :
    draft.overrideMode (Overrides.ofFields fields).mode = .ok { draft with mode := mode.or draft.mode } := by
  rw [Overrides.ofFields]
  rcases readField_ok read with ⟨absent, rfl⟩ | ⟨raw, held, present, heldOk, rfl⟩
  · rw [given?_eq_none absent]
    rfl
  · have parsed := readMode_ok heldOk
    rw [given?_eq_some present (isNull_of_text parsed)]
    simp only [Option.map_some, Draft.overrideMode, readMode_eq_ok parsed]
    rfl

theorem overrideEntries_of_read (draft : Draft) {entries : Option (Entries String)}
    (read : readField property.sectionKey (readEntries property source) fields = .ok entries) :
    draft.overrideEntries property (Overrides.given? property.sectionKey fields) =
      .ok (draft.withEntries property ((draft.patch property).entries.putAll (entries.getD []))) := by
  rcases readField_ok read with ⟨absent, rfl⟩ | ⟨raw, table, present, tableOk, rfl⟩
  · rw [given?_eq_none absent]
    cases property with
    | display => rfl
    | whiteSpace => rfl
  · obtain ⟨tags, _, rfl, _⟩ := readEntries_ok tableOk
    rw [given?_eq_some present rfl]
    simp only [Draft.overrideEntries, readEntries_source tableOk]
    rfl

end Fields

def Draft.withoutFallbacks (layer : Draft) : Draft where
  mode := layer.mode
  display := ⟨layer.display.entries, none⟩
  whiteSpace := ⟨layer.whiteSpace.entries, none⟩
  files := layer.files

section Document

variable {draft layer : Draft} {fields : Entries Value}

theorem patch_withoutFallbacks (layer : Draft) (property : Property) :
    layer.withoutFallbacks.patch property = ⟨(layer.patch property).entries, none⟩ := by
  cases property with
  | display => rfl
  | whiteSpace => rfl

/-- Fields that make a document override what the document sets, its defaults apart. -/
theorem override_of_read (draft : Draft) (read : (readDocument none fields).2 = .ok layer) :
    draft.override (.ofFields fields) = (draft.merge layer.withoutFallbacks, none) := by
  obtain ⟨law, files⟩ := readDocument_ok read
  obtain ⟨displays, displaysOk, displaysSame⟩ := law.entries .display
  obtain ⟨whiteSpaces, whiteSpacesOk, whiteSpacesSame⟩ := law.entries .whiteSpace
  have display := fun draft => overrideEntries_of_read draft displaysOk
  have whiteSpace := fun draft => overrideEntries_of_read draft whiteSpacesOk
  have unfiled : draft.files ++ layer.files = draft.files := by
    rw [files]
    exact List.append_nil draft.files
  rw [Draft.override, overrideMode_of_read draft law.mode]
  simp only [Overrides.ofFields, display, whiteSpace, ← displaysSame, ← whiteSpacesSame]
  rw [Draft.merge, Draft.withoutFallbacks, unfiled]
  rfl

theorem patch_without_iff (neat : layer.Neat) (draft : Draft) (property : Property) :
    (draft.merge layer.withoutFallbacks).patch property = (draft.merge layer).patch property ↔
      ∀ value, (layer.patch property).fallback = some value →
        (draft.patch property).fallback = some value := by
  rw [patch_merge, patch_merge, patch_withoutFallbacks, Patch.merge, Patch.merge, Patch.mk.injEq, later_eq,
    later_eq, (neat property).set?]
  cases (layer.patch property).fallback with
  | none => simp [set?]
  | some value => simp [set?]

/-- What fields set and what their document sets is the same where the draft has the defaults already. -/
theorem accord_iff (draft : Draft) (read : (readDocument none fields).2 = .ok layer) :
    Accord draft fields ↔ ∀ property : Property, ∀ raw, fields.find? property.defaultKey = some raw →
      (draft.patch property).fallback = propertyValue? raw := by
  have law := (readDocument_ok read).1
  have written : ∀ property : Property,
      (∀ value, (layer.patch property).fallback = some value → (draft.patch property).fallback = some value) ↔
        ∀ raw, fields.find? property.defaultKey = some raw →
          (draft.patch property).fallback = propertyValue? raw := by
    intro property
    rcases readField_ok (law.fallback property) with ⟨absent, unset⟩ | ⟨raw, value, present, valueOk, set⟩
    · simp [absent, unset]
    · simp [present, set, readDefault_ok valueOk]
  have agrees : Accord draft fields ↔ ∀ property : Property,
      (draft.merge layer.withoutFallbacks).patch property = (draft.merge layer).patch property := by
    rw [Accord, override_of_read draft read, read]
    constructor
    · exact fun accord => (accord layer rfl).2
    · rintro same _ ⟨⟩
      exact ⟨rfl, same⟩
  rw [agrees]
  exact forall_congr' fun property => (patch_without_iff law.neat draft property).trans (written property)

end Document

/-- Fields that make a document are never refused as overrides of a draft.  They set the mode and the entries
as the document does, and leave the defaults of the draft as they are. -/
theorem override_fields (draft layer : Draft) (fields : Entries Value)
    (read : (readDocument none fields).2 = .ok layer) :
    ∃ after, draft.override (.ofFields fields) = (after, none) ∧
      after.mode = (draft.merge layer).mode ∧ after.files = draft.files ∧
      (∀ property : Property, (after.patch property).entries = ((draft.merge layer).patch property).entries ∧
        (after.patch property).fallback = (draft.patch property).fallback) ∧
      (Accord draft fields ↔ ∀ property : Property, ∀ raw, fields.find? property.defaultKey = some raw →
        (draft.patch property).fallback = propertyValue? raw) := by
  have unfiled : draft.files ++ layer.files = draft.files := by
    rw [(readDocument_ok read).2]
    exact List.append_nil draft.files
  refine ⟨_, override_of_read draft read, rfl, unfiled, ?_, accord_iff draft read⟩
  intro property
  rw [patch_merge, patch_merge, patch_withoutFallbacks]
  exact ⟨rfl, rfl⟩

def mixedFields : Entries Value :=
  [(modeKey, .text "Strict"), ("display", .table [("DIV", .text " Flex")]), ("display_default", .text "block")]

def mixedLayer : Draft :=
  ⟨some .strict, ⟨[("div", "flex")], some "block"⟩, .empty, []⟩

theorem readDocument_mixedFields : (readDocument none mixedFields).2 = .ok mixedLayer :=
  ok_of_toOption (by decide +kernel)

theorem override_fields_mixed :
    (readDocument none mixedFields).2 = .ok mixedLayer ∧
      ∃ after, Draft.defaults.override (.ofFields mixedFields) = (after, none) ∧
        after.mode = some .strict ∧ (after.patch .display).entries = [("div", "flex")] ∧
        (after.patch .display).fallback = some "inline" := by
  obtain ⟨after, done, mode, _, patches, _⟩ :=
    override_fields .defaults mixedLayer mixedFields readDocument_mixedFields
  exact ⟨readDocument_mixedFields, after, done, mode, (patches .display).1, (patches .display).2⟩

/-- A default is passed over that the document sets. -/
theorem not_accord_mixed : ¬Accord .defaults mixedFields := by
  rw [accord_iff .defaults readDocument_mixedFields]
  intro same
  have told := same .display (.text "block") rfl
  revert told
  decide +kernel

end TemplateSpacing.Config
