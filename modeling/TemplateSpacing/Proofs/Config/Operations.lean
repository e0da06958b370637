import TemplateSpacing.Proofs.Config.Drafts

/-! # Drafts that operations make

Whatever drafts are read, laid over one another, overridden, and taken out of frozen configurations, their
tables hold neat values under keys in lower case.
-/

set_option autoImplicit false

namespace TemplateSpacing.Config

open TemplateSpacing.Css (Property)

/-- The drafts that come of documents and of the operations on drafts.  An override that is refused leaves a
draft behind as well. -/
inductive Made : Draft → Prop
  | empty : Made .empty
  | defaults : Made .defaults
  | read {file : Option String} {fields : Entries Value} {draft : Draft}
      (ok : (readDocument file fields).2 = .ok draft) : Made draft
  | merge {draft other : Draft} (first : Made draft) (second : Made other) : Made (draft.merge other)
  | override {draft : Draft} (made : Made draft) (overrides : Overrides) : Made (draft.override overrides).1
  | thaw {draft : Draft} (made : Made draft) : Made draft.freeze.thaw

/-! ## Overrides -/

section Override

variable {draft after : Draft}

theorem patch_withPatch (draft : Draft) (property other : Property) (patch : Patch) :
    (draft.withPatch property patch).patch other = if property = other then patch else draft.patch other := by
  cases property with
  | display =>
      cases other with
      | display => rfl
      | whiteSpace => rfl
  | whiteSpace =>
      cases other with
      | display => rfl
      | whiteSpace => rfl

/-- A mode leaves the tables and defaults as they are. -/
theorem patch_overrideMode {setting : Option ModeSetting} (ok : draft.overrideMode setting = .ok after)
    (property : Property) : after.patch property = draft.patch property := by
  unfold Draft.overrideMode at ok
  split at ok
  · cases ok
    rfl
  · cases ok
    cases property <;> rfl
  · obtain ⟨mode, _, rfl⟩ := ok_of_map ok
    cases property <;> rfl

/-- Entries are read as a whole before any of them is written. -/
theorem overrideEntries_cases {property : Property} {raw : Option Value}
    (ok : draft.overrideEntries property raw = .ok after) :
    after = draft ∨ ∃ given entries, raw = some given ∧
      readEntries property overrideSource given = .ok entries ∧
      after = draft.withEntries property ((draft.patch property).entries.putAll entries) := by
  unfold Draft.overrideEntries at ok
  split at ok
  · exact .inl (Except.ok.inj ok).symm
  · next given =>
      obtain ⟨entries, read, rfl⟩ := ok_of_map ok
      exact .inr ⟨given, entries, rfl, read, rfl⟩

theorem neat_overrideMode (neat : draft.Neat) {setting : Option ModeSetting}
    (ok : draft.overrideMode setting = .ok after) : after.Neat := by
  intro property
  rw [patch_overrideMode ok]
  exact neat property

theorem neat_overrideEntries (neat : draft.Neat) {property : Property} {raw : Option Value}
    (ok : draft.overrideEntries property raw = .ok after) : after.Neat := by
  rcases overrideEntries_cases ok with rfl | ⟨given, entries, _, read, rfl⟩
  · exact neat
  · obtain ⟨fields, writes, _, writesOk, rfl⟩ := readEntries_ok read
    intro other
    rw [Draft.withEntries, patch_withPatch]
    split
    · exact (neat property).merge (neat_ofWrites (readFields_ok writesOk))
    · exact neat other

theorem neat_override (neat : draft.Neat) (overrides : Overrides) : (draft.override overrides).1.Neat := by
  unfold Draft.override
  split
  · exact neat
  · next withMode modeOk =>
      have modeNeat := neat_overrideMode neat modeOk
      split
      · exact modeNeat
      · next withDisplays displaysOk =>
          have displaysNeat := neat_overrideEntries modeNeat displaysOk
          split
          · exact displaysNeat
          · next doneOk => exact neat_overrideEntries displaysNeat doneOk

end Override

/-! ## Frozen tables -/

def builtinPatch (property : Property) : Patch :=
  ⟨property.builtin, some property.builtinDefault⟩

instance (value : String) : Decidable (NeatValue value) :=
  decidable_of_iff (value ≠ "" ∧ Text.strip value = value ∧ Text.lower value = value)
    ⟨fun ⟨filled, stripped, lowered⟩ => ⟨filled, stripped, lowered⟩,
      fun neat => ⟨neat.filled, neat.stripped, neat.lowered⟩⟩

theorem distinct_builtin (property : Property) : Entries.Distinct property.builtin := by
  cases property with
  | display => exact (by decide +kernel : (Property.display.builtin.map Prod.fst).Nodup)
  | whiteSpace => exact (by decide +kernel : (Property.whiteSpace.builtin.map Prod.fst).Nodup)

theorem lower_builtin (property : Property) : ∀ entry ∈ property.builtin, Text.lower entry.1 = entry.1 := by
  cases property with
  | display => decide +kernel
  | whiteSpace => decide +kernel

theorem neatValue_builtin (property : Property) : ∀ entry ∈ property.builtin, NeatValue entry.2 := by
  cases property with
  | display =>
      intro entry member
      simp only [Property.builtin, Css.displayTags, List.mem_append, List.mem_map] at member
      rcases member with ((⟨_, _, rfl⟩ | ⟨_, _, rfl⟩) | ⟨_, _, rfl⟩) | other
      · exact (by decide +kernel : NeatValue "none")
      · exact (by decide +kernel : NeatValue "block")
      · exact (by decide +kernel : NeatValue "inline-block")
      · exact (by decide +kernel : ∀ entry ∈ Css.otherTags, NeatValue entry.2) entry other
  | whiteSpace => decide +kernel

theorem neat_builtinPatch (property : Property) : (builtinPatch property).Neat := by
  refine ⟨distinct_builtin property, lower_builtin property, neatValue_builtin property, ?_⟩
  intro value set
  rw [← Option.some.inj set]
  exact neat_builtinDefault property

/-- A frozen table is the built-in one with the patch laid over it. -/
theorem asPatch_freeze {patch : Patch} (property : Property) :
    (patch.freeze property).asPatch = (builtinPatch property).merge patch := by
  rw [Sheet.asPatch, Patch.freeze, builtinPatch, Patch.merge, later_eq]
  cases set? patch.fallback with
  | none => rfl
  | some value => rfl

theorem asPatch_sheet (draft : Draft) (property : Property) :
    (sheet draft.freeze property).asPatch = (builtinPatch property).merge (draft.patch property) := by
  rw [sheet_freeze, asPatch_freeze]

theorem neat_sheet {draft : Draft} (neat : draft.Neat) (property : Property) :
    (sheet draft.freeze property).asPatch.Neat := by
  rw [asPatch_sheet]
  exact (neat_builtinPatch property).merge (neat property)

theorem Patch.Neat.changes {patch : Patch} (neat : patch.Neat) (property : Property) :
    Patch.Neat ⟨Config.changes property patch.entries, patch.fallback⟩ := by
  have among : (Config.changes property patch.entries).Sublist patch.entries := List.filter_sublist
  refine ⟨neat.distinct.sublist among, ?_, ?_, neat.fallback⟩
  · exact fun entry member => neat.keys entry (among.subset member)
  · exact fun entry member => neat.values entry (among.subset member)

theorem patch_thaw (config : Config) (property : Property) :
    config.thaw.patch property = (config.sheet property).thaw property := by
  cases property with
  | display => rfl
  | whiteSpace => rfl

theorem neat_of_made {draft : Draft} (made : Made draft) : draft.Neat := by
  induction made with
  | empty => exact neat_empty
  | defaults => exact neat_defaults
  | read ok => exact (readDocument_ok ok).1.neat
  | merge _ _ firstNeat secondNeat => exact firstNeat.merge secondNeat
  | override _ overrides neat => exact neat_override neat overrides
  | thaw _ neat =>
      intro property
      rw [patch_thaw]
      exact (neat_sheet neat property).changes property

end TemplateSpacing.Config
