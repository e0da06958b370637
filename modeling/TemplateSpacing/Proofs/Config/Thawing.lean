import TemplateSpacing.Proofs.Config.Overrides
import TemplateSpacing.Proofs.Config.Reload

/-! # Thawing

A draft that has been frozen and thawed is another draft: it sets every setting, and has no entry that the
built-in table has.  But what a later layer or an override makes of a draft, once it is frozen, can be told from
the frozen draft alone.  So freezing and thawing in between changes nothing that is frozen in the end.
-/

set_option autoImplicit false

namespace TemplateSpacing.Config

open TemplateSpacing.Css (Property)

/-! ## Frozen drafts under a later layer -/

section Later

variable {draft other : Draft}

theorem mode_freeze_merge (draft later : Draft) :
    (draft.merge later).freeze.mode = later.mode.getD draft.freeze.mode := by
  rw [Draft.freeze, Draft.freeze, Draft.merge, Option.getD_or]

theorem fallback_freeze_merge (draft later : Draft) (property : Property) :
    (sheet (draft.merge later).freeze property).fallback =
      (set? (later.patch property).fallback).getD (sheet draft.freeze property).fallback := by
  rw [sheet_freeze, sheet_freeze, patch_merge, Patch.freeze, Patch.freeze, Patch.merge, set?_later,
    Option.getD_or]

theorem find?_freeze (tabled : draft.Tabled) (property : Property) (key : String) :
    (sheet draft.freeze property).entries.find? key =
      ((draft.patch property).entries.find? key).or (property.builtin.find? key) := by
  rw [entries_freeze, Entries.find?_putAll_table _ _ (tabled property)]

theorem Draft.Tabled.merge (tabled : draft.Tabled) (later : Draft) : (draft.merge later).Tabled := by
  intro property
  rw [patch_merge]
  exact Entries.distinct_putAll (tabled property) _

theorem find?_freeze_merge (tabled : draft.Tabled) (later : Draft) (property : Property) (key : String) :
    (sheet (draft.merge later).freeze property).entries.find? key =
      (Entries.find? key (later.patch property).entries.reverse).or
        ((sheet draft.freeze property).entries.find? key) := by
  rw [find?_freeze (tabled.merge later), find?_freeze tabled, patch_merge, Patch.merge, Entries.find?_putAll,
    Option.or_assoc]

/-- Drafts that are frozen alike are frozen alike with the same layer over them. -/
theorem Agree.merge (agree : Agree draft.freeze other.freeze) (tabled : draft.Tabled)
    (otherTabled : other.Tabled) (later : Draft) :
    Agree (draft.merge later).freeze (other.merge later).freeze := by
  refine ⟨?_, ?_, ?_⟩
  · rw [mode_freeze_merge, mode_freeze_merge, agree.mode]
  · intro property
    rw [fallback_freeze_merge, fallback_freeze_merge, agree.fallback]
  · intro property key
    rw [find?_freeze_merge tabled, find?_freeze_merge otherTabled, agree.entries]

theorem distinct_freeze (draft : Draft) (property : Property) :
    Entries.Distinct (sheet draft.freeze property).entries := by
  rw [entries_freeze]
  exact Entries.distinct_putAll (distinct_builtin property) _

theorem Agree.same_freeze (agree : Agree draft.freeze other.freeze) (files : draft.files = other.files) :
    draft.freeze.same other.freeze = true := by
  have same := agree.same (distinct_freeze draft) (distinct_freeze other)
  have unfiled : { draft.freeze with files := other.freeze.files } = draft.freeze := by
    rw [show other.freeze.files = draft.freeze.files from files.symm]
  rw [unfiled] at same
  exact same

end Later

/-! ## Thawed drafts -/

section Thawed

variable {draft : Draft}

theorem fallback_ne_empty (draft : Draft) (property : Property) :
    (sheet draft.freeze property).fallback ≠ "" := by
  rw [sheet_freeze, Patch.freeze]
  cases held : (draft.patch property).fallback with
  | none => exact (neat_builtinDefault property).filled
  | some value =>
      by_cases empty : value = ""
      · rw [set?, if_pos empty]
        exact (neat_builtinDefault property).filled
      · rw [set?, if_neg empty]
        exact empty

theorem tabled_thaw (draft : Draft) : draft.freeze.thaw.Tabled := by
  intro property
  rw [patch_thaw]
  exact (distinct_freeze draft property).sublist List.filter_sublist

theorem agree_thaw (tabled : draft.Tabled) : Agree draft.freeze.thaw.freeze draft.freeze := by
  refine ⟨rfl, ?_, ?_⟩
  · intro property
    have filled := fallback_ne_empty draft property
    rw [sheet_freeze draft.freeze.thaw, patch_thaw, Patch.freeze, Sheet.thaw, set?, if_neg filled]
    rfl
  · intro property key
    rw [entries_freeze draft.freeze.thaw, patch_thaw, Sheet.thaw]
    apply find?_putAll_changes (distinct_freeze draft property)
    -- a tag that is not in the full table is not in the built-in one below it
    intro absent
    rw [find?_freeze tabled] at absent
    exact (Option.or_eq_none_iff.mp absent).2

end Thawed

/-- Whatever is laid over a draft, and by whatever it is overridden, it may be frozen and thawed before: the
configuration in the end is the same, and so is the refusal of an override. -/
theorem thaw_transparent (draft : Draft) (tabled : draft.Tabled) (later : Draft) (overrides : Overrides) :
    (draft.freeze.thaw.merge later).freeze.same (draft.merge later).freeze = true ∧
      ((draft.freeze.thaw.override overrides).2 = (draft.override overrides).2 ∧
        (draft.freeze.thaw.override overrides).1.freeze.same (draft.override overrides).1.freeze = true) ∧
      draft.freeze.thaw.freeze.same draft.freeze = true ∧ builtin.thaw.freeze.same builtin = true := by
  have agree := agree_thaw tabled
  have covered := fun layer => (agree.merge (tabled_thaw draft) tabled layer).same_freeze rfl
  refine ⟨covered later, ?_, agree.same_freeze rfl, (agree_thaw tabled_empty).same_freeze rfl⟩
  rw [override_eq_merge, override_eq_merge]
  exact ⟨rfl, covered overrides.layer⟩

def unevenDraft : Draft :=
  ⟨none, ⟨[("div", "block"), ("p", "grid")], some ""⟩, ⟨[], none⟩, ["near.toml"]⟩

def coveringLayer : Draft :=
  ⟨none, ⟨[("p", "block"), ("x-card", "flex")], none⟩, ⟨[], some "pre"⟩, ["over.toml"]⟩

def coveringOverrides : Overrides :=
  ⟨some (.mode .ignore), none, some (.table [("B", .text "Pre")])⟩

theorem thaw_transparent_uneven :
    unevenDraft.Tabled ∧ unevenDraft.freeze.thaw ≠ unevenDraft ∧
      (unevenDraft.freeze.thaw.merge coveringLayer).freeze.same
        (unevenDraft.merge coveringLayer).freeze = true ∧
      (unevenDraft.freeze.thaw.override coveringOverrides).1.freeze.same
        (unevenDraft.override coveringOverrides).1.freeze = true := by
  have tabled : unevenDraft.Tabled := by
    intro property
    cases property with
    | display => exact (by decide : (["div", "p"] : List String).Nodup)
    | whiteSpace => exact List.nodup_nil
  obtain ⟨merged, ⟨_, overridden⟩, _⟩ :=
    thaw_transparent unevenDraft tabled coveringLayer coveringOverrides
  exact ⟨tabled, by decide +kernel, merged, overridden⟩

end TemplateSpacing.Config
