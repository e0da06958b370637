import TemplateSpacing.Config.Reading
import TemplateSpacing.Proofs.Basic
import TemplateSpacing.Proofs.Entries
import TemplateSpacing.Proofs.Text.Lower

/-! # Drafts

What a draft that was read has to do with the fields of its document, and what laying drafts over one another
does to each of their settings.
-/

set_option autoImplicit false

namespace TemplateSpacing.Config

open TemplateSpacing.Css (Property)

/-! ## Values -/

structure NeatValue (value : String) : Prop where
  filled : value ≠ ""
  stripped : Text.strip value = value
  lowered : Text.lower value = value

theorem isAllBlank_iff (s : String) : Text.isAllBlank s = true ↔ Text.strip s = "" := by
  rw [Text.isAllBlank, ← Text.trim_eq_nil_iff, ← Text.toList_strip, String.toList_eq_nil_iff]

theorem propertyValue?_eq_some {raw : Value} {value : String} (read : propertyValue? raw = some value) :
    ∃ s, raw = .text s ∧ value = Text.lower (Text.strip s) ∧ NeatValue value := by
  unfold propertyValue? at read
  split at read
  · next s =>
      split at read
      · cases read
      · next notBlank =>
          obtain rfl := Option.some.inj read
          refine ⟨s, rfl, rfl, ?_, ?_, Text.lower_lower _⟩
          · exact mt (Text.lower_eq_empty_iff _).mp (mt (isAllBlank_iff s).mpr notBlank)
          · exact Text.strip_lower (Text.strip_strip s)
  · cases read

theorem NeatValue.propertyValue? {value : String} (neat : NeatValue value) :
    propertyValue? (.text value) = some value := by
  have notBlank : ¬Text.isAllBlank value = true := by
    rw [isAllBlank_iff, neat.stripped]
    exact neat.filled
  rw [Config.propertyValue?, if_neg notBlank, neat.stripped, neat.lowered]

/-! ## Reading -/

section Reading

variable {source : String} {property : Property}

theorem readField_ok {α : Type} {key : String} {read : Value → Except ConfigError α} {fields : Entries Value}
    {found : Option α} (ok : readField key read fields = .ok found) :
    fields.find? key = none ∧ found = none ∨
      ∃ raw value, fields.find? key = some raw ∧ read raw = .ok value ∧ found = some value := by
  unfold readField at ok
  split at ok
  · next absent =>
      cases ok
      exact .inl ⟨absent, rfl⟩
  · next raw present =>
      obtain ⟨value, valueOk, same⟩ := ok_of_map ok
      exact .inr ⟨raw, value, present, valueOk, same.symm⟩

theorem readMode_ok {raw : Value} {mode : Mode} (ok : readMode source raw = .ok mode) :
    raw.text?.bind Mode.parse? = some mode := by
  unfold readMode at ok
  split at ok
  · next parsed =>
      cases ok
      exact parsed
  · cases ok

theorem readDefault_ok {raw : Value} {value : String} (ok : readDefault property source raw = .ok value) :
    propertyValue? raw = some value := by
  unfold readDefault at ok
  split at ok
  · next read =>
      cases ok
      exact read
  · cases ok

/-- A field of a section and what is written for it: the value of the field, under its tag in lower case. -/
def WrittenAs (field : String × Value) (write : String × String) : Prop :=
  write.1 = Text.lower field.1 ∧ propertyValue? field.2 = some write.2

theorem readFields_ok {fields : Entries Value} {writes : List (String × String)}
    (ok : readFields property source fields = .ok writes) :
    List.Forall₂ WrittenAs fields writes := by
  induction fields generalizing writes with
  | nil =>
      cases ok
      exact .nil
  | cons field rest ih =>
      obtain ⟨tag, raw⟩ := field
      rw [readFields] at ok
      split at ok
      · cases ok
      · next value read =>
          obtain ⟨later, laterOk, rfl⟩ := ok_of_map ok
          exact .cons ⟨rfl, read⟩ (ih laterOk)

theorem readEntries_ok {raw : Value} {entries : Entries String}
    (ok : readEntries property source raw = .ok entries) :
    ∃ fields writes, raw = .table fields ∧ readFields property source fields = .ok writes ∧
      entries = Entries.ofWrites writes := by
  unfold readEntries at ok
  split at ok
  · next fields =>
      obtain ⟨writes, writesOk, same⟩ := ok_of_map ok
      exact ⟨fields, writes, rfl, writesOk, same.symm⟩
  · cases ok

structure ReadFrom (source : String) (fields : Entries Value) (draft : Draft) : Prop where
  mode : readField modeKey (readMode source) fields = .ok draft.mode
  fallback : ∀ property : Property,
    readField property.defaultKey (readDefault property source) fields = .ok (draft.patch property).fallback
  entries : ∀ property : Property, ∃ entries,
    readField property.sectionKey (readEntries property source) fields = .ok entries ∧
      (draft.patch property).entries = entries.getD []

theorem readDocument_ok {file : Option String} {fields : Entries Value} {draft : Draft}
    (ok : (readDocument file fields).2 = .ok draft) :
    ReadFrom (file.getD anonymousSource) fields draft ∧ draft.files = file.toList := by
  obtain ⟨plain, read, rfl⟩ := ok_of_map ok
  obtain ⟨mode, modeOk, read⟩ := ok_of_bind read
  obtain ⟨display, displayOk, read⟩ := ok_of_bind read
  obtain ⟨whiteSpace, whiteSpaceOk, read⟩ := ok_of_bind read
  obtain ⟨displays, displaysOk, read⟩ := ok_of_bind read
  obtain ⟨whiteSpaces, whiteSpacesOk, last⟩ := ok_of_bind read
  cases last
  refine ⟨⟨modeOk, ?_, ?_⟩, rfl⟩
  · intro property
    cases property with
    | display => exact displayOk
    | whiteSpace => exact whiteSpaceOk
  · intro property
    cases property with
    | display => exact ⟨displays, displaysOk, rfl⟩
    | whiteSpace => exact ⟨whiteSpaces, whiteSpacesOk, rfl⟩

end Reading

/-! ## Neat drafts -/

structure Patch.Neat (patch : Patch) : Prop where
  distinct : Entries.Distinct patch.entries
  keys : ∀ entry ∈ patch.entries, Text.lower entry.1 = entry.1
  values : ∀ entry ∈ patch.entries, NeatValue entry.2
  fallback : ∀ value, patch.fallback = some value → NeatValue value

def Draft.Neat (draft : Draft) : Prop :=
  ∀ property : Property, (draft.patch property).Neat

theorem Patch.Neat.set? {patch : Patch} (neat : patch.Neat) : set? patch.fallback = patch.fallback := by
  cases set : patch.fallback with
  | none => rfl
  | some value => rw [Config.set?, if_neg (neat.fallback value set).filled]

def sectionOf (property : Property) (fields : Entries Value) : Entries Value :=
  match fields.find? property.sectionKey with
  | some (.table entries) => entries
  | _ => []

theorem ReadFrom.writes {source : String} {fields : Entries Value} {draft : Draft}
    (read : ReadFrom source fields draft) (property : Property) :
    ∃ writes, (draft.patch property).entries = Entries.ofWrites writes ∧
      List.Forall₂ WrittenAs (sectionOf property fields) writes := by
  obtain ⟨entries, entriesOk, same⟩ := read.entries property
  rcases readField_ok entriesOk with ⟨absent, rfl⟩ | ⟨raw, table, present, tableOk, rfl⟩
  · refine ⟨[], same, ?_⟩
    rw [sectionOf, absent]
    exact .nil
  · obtain ⟨tags, writes, rfl, writesOk, rfl⟩ := readEntries_ok tableOk
    refine ⟨writes, same, ?_⟩
    rw [sectionOf, present]
    exact readFields_ok writesOk

/-- The writes of fields, one after the other, are neat entries. -/
theorem neat_ofWrites {fields : List (String × Value)} {writes : List (String × String)}
    (law : List.Forall₂ WrittenAs fields writes) : Patch.Neat ⟨Entries.ofWrites writes, none⟩ := by
  have written : ∀ entry ∈ Entries.ofWrites writes, Text.lower entry.1 = entry.1 ∧ NeatValue entry.2 := by
    intro entry member
    have inWrites := (Entries.mem_putAll member).resolve_right List.not_mem_nil
    obtain ⟨tag, _, key, value⟩ := exists_of_forall₂_right law inWrites
    obtain ⟨_, _, _, neat⟩ := propertyValue?_eq_some value
    exact ⟨by rw [key, Text.lower_lower], neat⟩
  refine ⟨Entries.distinct_ofWrites writes, ?_, ?_, ?_⟩
  · exact fun entry member => (written entry member).1
  · exact fun entry member => (written entry member).2
  · intro value set
    cases set

theorem Patch.Neat.withFallback {patch : Patch} {other : Option String}
    (neat : Patch.Neat ⟨patch.entries, other⟩)
    (fallback : ∀ value, patch.fallback = some value → NeatValue value) : patch.Neat :=
  ⟨neat.distinct, neat.keys, neat.values, fallback⟩

theorem ReadFrom.neat {source : String} {fields : Entries Value} {draft : Draft}
    (read : ReadFrom source fields draft) : draft.Neat := by
  intro property
  obtain ⟨writes, same, law⟩ := read.writes property
  have entriesNeat := neat_ofWrites law
  rw [← same] at entriesNeat
  apply entriesNeat.withFallback
  intro value set
  rcases readField_ok (read.fallback property) with ⟨_, unset⟩ | ⟨raw, held, _, heldOk, written⟩
  · rw [unset] at set
    cases set
  · rw [written] at set
    obtain rfl := Option.some.inj set
    obtain ⟨_, _, _, neat⟩ := propertyValue?_eq_some (readDefault_ok heldOk)
    exact neat

theorem neat_builtinDefault (property : Property) : NeatValue property.builtinDefault := by
  cases property with
  | display => exact ⟨by decide, by decide +kernel, by decide +kernel⟩
  | whiteSpace => exact ⟨by decide, by decide +kernel, by decide +kernel⟩

theorem neat_patch_empty : Patch.empty.Neat :=
  @neat_ofWrites [] [] .nil

theorem neat_empty : Draft.empty.Neat := by
  intro property
  cases property with
  | display => exact neat_patch_empty
  | whiteSpace => exact neat_patch_empty

theorem patch_defaults (property : Property) :
    Draft.defaults.patch property = ⟨[], some property.builtinDefault⟩ := by
  cases property with
  | display => rfl
  | whiteSpace => rfl

theorem neat_defaults : Draft.defaults.Neat := by
  intro property
  rw [patch_defaults]
  have entriesNeat : Patch.Neat ⟨[], none⟩ := neat_patch_empty
  apply entriesNeat.withFallback
  intro value set
  rw [← Option.some.inj set]
  exact neat_builtinDefault property

/-! ## Drafts over drafts -/

theorem set?_set? (value : Option String) : set? (set? value) = set? value := by
  cases value with
  | none => rfl
  | some held =>
      by_cases empty : held = ""
      · rw [set?, if_pos empty, set?]
      · rw [set?, if_neg empty, set?, if_neg empty]

theorem later_eq (earlier other : Option String) : later earlier other = (set? other).or earlier := by
  unfold later
  cases set? other with
  | none => rfl
  | some value => rfl

theorem set?_later (earlier other : Option String) :
    set? (later earlier other) = (set? other).or (set? earlier) := by
  have again := set?_set? other
  rw [later_eq]
  cases held : set? other with
  | none => rfl
  | some value =>
      rw [held] at again
      exact again

theorem later_assoc (first second third : Option String) :
    later (later first second) third = later first (later second third) := by
  rw [later_eq first (later second third), set?_later, Option.or_assoc, later_eq, later_eq]

section Patches

variable {patch other : Patch}

theorem Patch.merge_assoc (distinct : Entries.Distinct other.entries) (first last : Patch) :
    (first.merge other).merge last = first.merge (other.merge last) := by
  simp only [Patch.merge, later_assoc, Entries.putAll_putAll distinct]

theorem Patch.Neat.merge (first : patch.Neat) (second : other.Neat) : (patch.merge other).Neat := by
  refine ⟨Entries.distinct_putAll first.distinct _, ?_, ?_, ?_⟩
  · intro entry member
    rcases Entries.mem_putAll member with inOther | inPatch
    · exact second.keys entry inOther
    · exact first.keys entry inPatch
  · intro entry member
    rcases Entries.mem_putAll member with inOther | inPatch
    · exact second.values entry inOther
    · exact first.values entry inPatch
  · intro value set
    rw [Patch.merge, later_eq, second.set?] at set
    rcases Option.or_eq_some_iff.mp set with held | ⟨_, held⟩
    · exact second.fallback value held
    · exact first.fallback value held

theorem Patch.Neat.empty_merge (neat : patch.Neat) : Patch.empty.merge patch = patch := by
  have entries : Entries.putAll [] patch.entries = patch.entries :=
    Entries.ofWrites_of_distinct neat.distinct
  rw [Patch.merge, Patch.empty, entries, later_eq, neat.set?, Option.or_none]

end Patches

section Drafts

variable {draft other : Draft}

theorem patch_merge (draft other : Draft) (property : Property) :
    (draft.merge other).patch property = (draft.patch property).merge (other.patch property) := by
  cases property with
  | display => rfl
  | whiteSpace => rfl

theorem Draft.Neat.merge (first : draft.Neat) (second : other.Neat) : (draft.merge other).Neat := by
  intro property
  rw [patch_merge]
  exact (first property).merge (second property)

theorem find?_merge (neat : other.Neat) (draft : Draft) (property : Property) (key : String) :
    ((draft.merge other).patch property).entries.find? key =
      ((other.patch property).entries.find? key).or ((draft.patch property).entries.find? key) := by
  rw [patch_merge, Patch.merge, Entries.find?_putAll_table key _ (neat property).distinct]

theorem fallback_merge (neat : other.Neat) (draft : Draft) (property : Property) :
    ((draft.merge other).patch property).fallback =
      (other.patch property).fallback.or (draft.patch property).fallback := by
  rw [patch_merge, Patch.merge, later_eq, (neat property).set?]

theorem Draft.merge_assoc (neat : other.Neat) (first last : Draft) :
    (first.merge other).merge last = first.merge (other.merge last) := by
  have displays := Patch.merge_assoc (neat .display).distinct first.display last.display
  have whiteSpaces := Patch.merge_assoc (neat .whiteSpace).distinct first.whiteSpace last.whiteSpace
  simp only [Draft.merge, Option.or_assoc, List.append_assoc]
  exact congr (congr (congrArg _ displays) whiteSpaces) rfl

theorem Draft.merge_empty (draft : Draft) : draft.merge .empty = draft := by
  obtain ⟨mode, display, whiteSpace, files⟩ := draft
  exact congrArg (Draft.mk mode display whiteSpace) (List.append_nil files)

theorem Draft.Neat.empty_merge (neat : draft.Neat) : Draft.empty.merge draft = draft := by
  have displays : Patch.empty.merge draft.display = draft.display := (neat .display).empty_merge
  have whiteSpaces : Patch.empty.merge draft.whiteSpace = draft.whiteSpace := (neat .whiteSpace).empty_merge
  rw [Draft.merge, Draft.empty, displays, whiteSpaces, Option.or_none]
  rfl

end Drafts

/-! ## Frozen drafts -/

section Freezing

variable {draft : Draft}

theorem sheet_freeze (draft : Draft) (property : Property) :
    sheet draft.freeze property = (draft.patch property).freeze property := by
  cases property with
  | display => rfl
  | whiteSpace => rfl

theorem entries_freeze (draft : Draft) (property : Property) :
    (sheet draft.freeze property).entries = property.builtin.putAll (draft.patch property).entries := by
  rw [sheet_freeze, Patch.freeze]

theorem fallback_freeze (neat : draft.Neat) (property : Property) :
    (sheet draft.freeze property).fallback =
      (draft.patch property).fallback.getD property.builtinDefault := by
  rw [sheet_freeze, Patch.freeze, (neat property).set?]

/-- The value of a frozen property for a tag: from the entries, from the built-in table, or the fallback. -/
theorem lookup_freeze (neat : draft.Neat) (property : Property) (tag : String) :
    (sheet draft.freeze property).lookup tag =
      (((draft.patch property).entries.find? (Text.lower tag)).or
        (property.builtin.find? (Text.lower tag))).getD
          ((draft.patch property).fallback.getD property.builtinDefault) := by
  rw [Sheet.lookup, fallback_freeze neat, entries_freeze,
    Entries.find?_putAll_table _ _ (neat property).distinct]

end Freezing

end TemplateSpacing.Config
