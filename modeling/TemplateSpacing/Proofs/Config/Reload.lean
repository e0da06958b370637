import TemplateSpacing.Proofs.Config.Operations

/-! # Reloading

The fields of a configuration hold what differs from the built-in tables.  Read again and laid over the
defaults, they give the configuration back: an entry that is left out is the entry that the built-in table
has, and neat keys and values stay as they are when they are read once more.
-/

set_option autoImplicit false

namespace TemplateSpacing.Config

open TemplateSpacing.Css (Property)

/-! ## Entries that differ from the built-in ones -/

section Changes

variable {property : Property} {entries : Entries String}

theorem find?_changes (distinct : Entries.Distinct entries) (key : String) :
    (changes property entries).find? key =
      (entries.find? key).filter fun value => property.builtin.find? key ≠ some value := by
  apply Option.ext
  intro value
  have among : (changes property entries).Sublist entries := List.filter_sublist
  rw [Entries.find?_eq_some_iff (distinct.sublist among), changes, List.mem_filter, Option.filter_eq_some_iff,
    Entries.find?_eq_some_iff distinct]

/-- The changes of a full table, written over the built-in one, give the table back. -/
theorem find?_putAll_changes (distinct : Entries.Distinct entries) {key : String}
    (full : entries.find? key = none → property.builtin.find? key = none) :
    (property.builtin.putAll (changes property entries)).find? key = entries.find? key := by
  have among : (changes property entries).Sublist entries := List.filter_sublist
  rw [Entries.find?_putAll_table _ _ (distinct.sublist among), find?_changes distinct]
  cases found : entries.find? key with
  | none => rw [full found, Option.filter_none, Option.or_none]
  | some value =>
      -- an entry that is left out is found in the built-in table
      by_cases same : property.builtin.find? key = some value
      · rw [Option.filter_some_neg (by simpa using same), same]
        rfl
      · rw [Option.filter_some_pos (by simpa using same)]
        rfl

end Changes

/-! ## Reading the fields again -/

theorem readFields_neat {entries : List (String × String)}
    (keys : ∀ entry ∈ entries, Text.lower entry.1 = entry.1) (values : ∀ entry ∈ entries, NeatValue entry.2)
    (property : Property) (source : String) :
    readFields property source (entries.map fun (tag, value) => (tag, Value.text value)) = .ok entries := by
  induction entries with
  | nil => rfl
  | cons entry rest ih =>
      obtain ⟨tag, value⟩ := entry
      have later := ih (fun entry member => keys entry (List.mem_cons_of_mem _ member))
        (fun entry member => values entry (List.mem_cons_of_mem _ member))
      rw [List.map_cons, readFields, (values _ List.mem_cons_self).propertyValue?]
      simp only
      rw [later, keys _ List.mem_cons_self]
      rfl

def writtenPatch (property : Property) (sheet : Sheet) : Patch :=
  ⟨changes property sheet.entries.sorted, some sheet.fallback⟩

def written (config : Config) : Draft where
  mode := some config.mode
  display := writtenPatch .display config.display
  whiteSpace := writtenPatch .whiteSpace config.whiteSpace
  files := []

theorem patch_written (config : Config) (property : Property) :
    (written config).patch property = writtenPatch property (config.sheet property) := by
  cases property with
  | display => rfl
  | whiteSpace => rfl

theorem neat_writtenPatch {sheet : Sheet} (neat : sheet.asPatch.Neat) (property : Property) :
    (writtenPatch property sheet).Neat := by
  have same := Entries.perm_sorted sheet.entries
  have sorted : Patch.Neat ⟨sheet.entries.sorted, some sheet.fallback⟩ := by
    refine ⟨Entries.distinct_sorted neat.distinct, ?_, ?_, neat.fallback⟩
    · exact fun entry member => neat.keys entry (same.subset member)
    · exact fun entry member => neat.values entry (same.subset member)
  exact sorted.changes property

theorem find?_toFields_mode (config : Config) :
    (toFields config).find? modeKey = some (.text config.mode.key) := rfl

theorem find?_toFields_default (config : Config) (property : Property) :
    (toFields config).find? property.defaultKey = some (.text (config.sheet property).fallback) := by
  cases property with
  | display => rfl
  | whiteSpace => rfl

theorem find?_toFields_section (config : Config) (property : Property) :
    (toFields config).find? property.sectionKey =
      some (.table ((writtenPatch property (config.sheet property)).entries.map
        fun (tag, value) => (tag, Value.text value))) := by
  cases property with
  | display => rfl
  | whiteSpace => rfl

theorem unknownKeyReports_toFields (config : Config) (source : String) :
    unknownKeyReports source (toFields config) = [] := rfl

theorem parse?_key (mode : Mode) : Mode.parse? mode.key = some mode := by
  cases mode with
  | css => decide +kernel
  | strict => decide +kernel
  | ignore => decide +kernel

theorem readDocument_toFields {config : Config}
    (neat : ∀ property : Property, (config.sheet property).asPatch.Neat) :
    readDocument none (toFields config) = ([], .ok (written config)) := by
  have mode : readField modeKey (readMode anonymousSource) (toFields config) = .ok (some config.mode) := by
    rw [readField, find?_toFields_mode]
    simp only [readMode, Value.text?, Option.bind_some, parse?_key]
    rfl
  have fallback : ∀ property : Property,
      readField property.defaultKey (readDefault property anonymousSource) (toFields config) =
        .ok (some (config.sheet property).fallback) := by
    intro property
    have valueNeat := (neat property).fallback _ rfl
    rw [readField, find?_toFields_default]
    simp only [readDefault, valueNeat.propertyValue?]
    rfl
  have entries : ∀ property : Property,
      readField property.sectionKey (readEntries property anonymousSource) (toFields config) =
        .ok (some (writtenPatch property (config.sheet property)).entries) := by
    intro property
    have tableNeat := neat_writtenPatch (neat property) property
    rw [readField, find?_toFields_section]
    simp only [readEntries, readFields_neat tableNeat.keys tableNeat.values]
    rw [Except.map, Entries.ofWrites_of_distinct tableNeat.distinct]
    rfl
  rw [readDocument, unknownKeyReports_toFields]
  simp only [Option.getD_none, readDraft, mode, fallback, entries]
  rfl

/-! ## The configuration that comes back -/

structure Agree (config other : Config) : Prop where
  mode : config.mode = other.mode
  fallback : ∀ property : Property, (config.sheet property).fallback = (other.sheet property).fallback
  entries : ∀ (property : Property) (key : String),
    (config.sheet property).entries.find? key = (other.sheet property).entries.find? key

theorem Agree.lookup {config other : Config} (agree : Agree config other) (property : Property) (tag : String) :
    (config.sheet property).lookup tag = (other.sheet property).lookup tag := by
  rw [Sheet.lookup, Sheet.lookup, agree.entries, agree.fallback]

section Comparing

variable {config other : Config}

theorem sameEntries_of_find? {entries others : Entries String} (distinct : Entries.Distinct entries)
    (othersDistinct : Entries.Distinct others) (same : ∀ key, entries.find? key = others.find? key) :
    sameEntries entries others = true := by
  have perm := Entries.perm_of_find? distinct othersDistinct same
  rw [sameEntries, Bool.and_eq_true, decide_eq_true_eq, List.all_eq_true]
  refine ⟨perm.length_eq, ?_⟩
  intro entry member
  rw [decide_eq_true_eq, ← same]
  exact Entries.find?_of_mem distinct member

theorem Agree.same (agree : Agree config other)
    (distinct : ∀ property : Property, Entries.Distinct (config.sheet property).entries)
    (otherDistinct : ∀ property : Property, Entries.Distinct (other.sheet property).entries) :
    Config.same { config with files := other.files } other = true := by
  have sheets : ∀ property : Property, (config.sheet property).same (other.sheet property) = true := by
    intro property
    rw [Sheet.same, agree.fallback, Bool.and_eq_true, decide_eq_true_eq]
    exact ⟨rfl, sameEntries_of_find? (distinct property) (otherDistinct property) (agree.entries property)⟩
  have displays := sheets .display
  have whiteSpaces := sheets .whiteSpace
  simp only [sheet] at displays whiteSpaces
  simp only [Config.same, agree.mode, displays, whiteSpaces, decide_true, Bool.and_true]

theorem Agree.toFields (agree : Agree config other)
    (distinct : ∀ property : Property, Entries.Distinct (config.sheet property).entries)
    (otherDistinct : ∀ property : Property, Entries.Distinct (other.sheet property).entries) :
    toFields config = toFields other := by
  have sorted : ∀ property : Property,
      (config.sheet property).entries.sorted = (other.sheet property).entries.sorted := by
    intro property
    apply Entries.sorted_eq_of_perm (distinct property)
    exact Entries.perm_of_find? (distinct property) (otherDistinct property) (agree.entries property)
  have displays := agree.fallback .display
  have whiteSpaces := agree.fallback .whiteSpace
  simp only [sheet] at displays whiteSpaces
  simp only [Config.toFields, agree.mode, sorted, displays, whiteSpaces]

end Comparing

section Reloading

variable {draft : Draft}

theorem neat_written (neat : draft.Neat) : (written draft.freeze).Neat := by
  intro property
  rw [patch_written]
  exact neat_writtenPatch (neat_sheet neat property) property

/-- A tag that is not in a frozen table is not in the built-in one either. -/
theorem find?_builtin_of_freeze (neat : draft.Neat) (property : Property) {key : String}
    (absent : (sheet draft.freeze property).entries.find? key = none) : property.builtin.find? key = none := by
  rw [entries_freeze, Entries.find?_putAll_table _ _ (neat property).distinct] at absent
  exact (Option.or_eq_none_iff.mp absent).2

theorem agree_written (neat : draft.Neat) :
    Agree (Draft.defaults.merge (written draft.freeze)).freeze draft.freeze := by
  have writtenNeat := neat_written neat
  have reloadedNeat := neat_defaults.merge writtenNeat
  refine ⟨rfl, ?_, ?_⟩
  · intro property
    rw [fallback_freeze reloadedNeat, fallback_merge writtenNeat, patch_written]
    rfl
  · intro property key
    have tableNeat := neat_sheet neat property
    have distinct : Entries.Distinct (sheet draft.freeze property).entries.sorted :=
      Entries.distinct_sorted tableNeat.distinct
    have found : ∀ key, (sheet draft.freeze property).entries.sorted.find? key =
        (sheet draft.freeze property).entries.find? key := Entries.find?_sorted tableNeat.distinct
    have tables : ((Draft.defaults.merge (written draft.freeze)).patch property).entries =
        changes property (sheet draft.freeze property).entries.sorted := by
      rw [patch_merge, patch_defaults, patch_written]
      exact Entries.ofWrites_of_distinct (distinct.sublist List.filter_sublist)
    rw [entries_freeze, tables, find?_putAll_changes distinct, found]
    intro absent
    rw [found] at absent
    exact find?_builtin_of_freeze neat property absent

end Reloading

/-- The fields of a configuration are read without a report, and over the defaults they give the configuration
back: the same tables and defaults, hence the same value for every tag, and the same fields once more. -/
theorem reload_toFields (draft : Draft) (made : Made draft) :
    ∃ again, readDocument none (toFields draft.freeze) = ([], .ok again) ∧
      Agree (Draft.defaults.merge again).freeze draft.freeze ∧
      Config.same { (Draft.defaults.merge again).freeze with files := draft.freeze.files } draft.freeze = true ∧
      (∀ tag, (Draft.defaults.merge again).freeze.displayOf tag = draft.freeze.displayOf tag ∧
        (Draft.defaults.merge again).freeze.whiteSpaceOf tag = draft.freeze.whiteSpaceOf tag) ∧
      toFields (Draft.defaults.merge again).freeze = toFields draft.freeze := by
  have neat := neat_of_made made
  have agree := agree_written neat
  have distinct := fun property => (neat_sheet neat property).distinct
  have reloadedDistinct :=
    fun property => (neat_sheet (neat_defaults.merge (neat_written neat)) property).distinct
  refine ⟨written draft.freeze, readDocument_toFields (neat_sheet neat), agree, ?_, ?_, ?_⟩
  · exact agree.same reloadedDistinct distinct
  · exact fun tag => ⟨agree.lookup .display tag, agree.lookup .whiteSpace tag⟩
  · exact agree.toFields reloadedDistinct distinct

def cardLayer : Draft :=
  ⟨some .strict, ⟨[("div", "flex"), ("x-card", "grid")], none⟩, .empty, []⟩

/-- A tag set back to the value of the built-in table, and a tag that is in no table. -/
def restoredDraft : Draft :=
  ((Draft.defaults.merge cardLayer).override
    ⟨some (.mode .css), some (.table [("DIV", .text "Block")]), none⟩).1.freeze.thaw

theorem reload_toFields_restored :
    Made restoredDraft ∧
      ∃ again, readDocument none (toFields restoredDraft.freeze) = ([], .ok again) ∧
        (Draft.defaults.merge again).freeze.mode = .css ∧
        (Draft.defaults.merge again).freeze.displayOf "Div" = "block" ∧
        (Draft.defaults.merge again).freeze.displayOf "X-CARD" = "grid" := by
  have read : (readDocument none [(modeKey, .text "strict"),
      ("display", .table [("div", .text "flex"), ("X-Card", .text " Grid")])]).2 = .ok cardLayer :=
    ok_of_toOption (by decide +kernel)
  have made : Made restoredDraft := .thaw (.override (.merge .defaults (.read read)) _)
  obtain ⟨again, readAgain, agree, _, lookups, _⟩ := reload_toFields restoredDraft made
  refine ⟨made, again, readAgain, agree.mode.trans ?_, (lookups _).1.trans ?_, (lookups _).1.trans ?_⟩
  · decide +kernel
  · decide +kernel
  · decide +kernel

end TemplateSpacing.Config
