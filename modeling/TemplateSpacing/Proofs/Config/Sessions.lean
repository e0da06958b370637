import TemplateSpacing.Config.Session
import TemplateSpacing.Proofs.Config.Operations

/-! # The order that sessions keep

Whatever is done in a session, the tables hold neat values under keys in lower case, so each entry of a frozen
table is found under its key in any letter case.  An override that is refused leaves the table that it is refused
for as it was.
-/

set_option autoImplicit false

namespace TemplateSpacing.Config

open TemplateSpacing.Css (Property)

def Item.patch (item : Item) (property : Property) : Patch :=
  match item with
  | .draft held => held.patch property
  | .frozen held => (held.sheet property).asPatch

theorem session_append (operations : List Operation) (last : Operation) :
    session (operations ++ [last]) = (perform (session operations) last).1 := by
  rw [session, List.foldl_append, ← session]
  rfl

/-! ## Tables in order -/

/-- An item whose tables hold neat values under keys in lower case; each entry of a frozen one is found. -/
structure Orderly (item : Item) : Prop where
  neat : ∀ property : Property, (item.patch property).Neat
  found : ∀ config, item = .frozen config → ∀ property : Property,
    ∀ entry ∈ (config.sheet property).entries, ∀ tag, Text.lower tag = entry.1 →
      (config.sheet property).lookup tag = entry.2

theorem lookup_of_mem_sheet {sheet : Sheet} (neat : sheet.asPatch.Neat) {entry : String × String}
    (member : entry ∈ sheet.entries) {tag : String} (spelled : Text.lower tag = entry.1) :
    sheet.lookup tag = entry.2 := by
  have held : sheet.entries.find? entry.1 = some entry.2 := Entries.find?_of_mem neat.distinct member
  rw [Sheet.lookup, spelled, held]
  rfl

theorem orderly_of_neat {item : Item} (neat : ∀ property : Property, (item.patch property).Neat) :
    Orderly item := by
  refine ⟨neat, ?_⟩
  rintro config rfl property entry member tag spelled
  exact lookup_of_mem_sheet (neat property) member spelled

theorem orderly_draft {draft : Draft} (neat : draft.Neat) : Orderly (.draft draft) :=
  orderly_of_neat neat

theorem orderly_builtin : Orderly (.frozen builtin) := by
  apply orderly_of_neat
  intro property
  cases property with
  | display => exact neat_builtinPatch .display
  | whiteSpace => exact neat_builtinPatch .whiteSpace

theorem orderly_freeze {draft : Draft} (neat : draft.Neat) : Orderly (.frozen draft.freeze) :=
  orderly_of_neat (neat_sheet neat)

theorem Orderly.thaw {config : Config} (orderly : Orderly (.frozen config)) : Orderly (.draft config.thaw) := by
  apply orderly_draft
  intro property
  rw [patch_thaw]
  exact (orderly.neat property).changes property

theorem orderly_resolve {fields : Option (Entries Value)} {config : Config}
    (ok : (Config.resolve fields).2 = .ok config) : Orderly (.frozen config) := by
  cases fields with
  | none =>
      obtain rfl := Except.ok.inj ok
      exact orderly_freeze neat_defaults
  | some fields =>
      obtain ⟨layer, read, rfl⟩ := ok_of_map ok
      exact orderly_freeze (neat_defaults.merge (readDocument_ok read).1.neat)

section Steps

variable {items : List Item} {place : Nat}

theorem getElem?_of_draftAt? {draft : Draft} (here : draftAt? items place = some draft) :
    items[place]? = some (.draft draft) := by
  unfold draftAt? at here
  split at here
  · next held => rw [held, Option.some.inj here]
  · cases here

theorem mem_of_draftAt? {draft : Draft} (here : draftAt? items place = some draft) :
    .draft draft ∈ items :=
  List.mem_of_getElem? (getElem?_of_draftAt? here)

theorem mem_of_frozenAt? {config : Config} (here : frozenAt? items place = some config) :
    .frozen config ∈ items := by
  unfold frozenAt? at here
  split at here
  · next held =>
      obtain rfl := Option.some.inj here
      exact List.mem_of_getElem? held
  · cases here

theorem orderly_adding (orderly : ∀ item ∈ items, Orderly item) {made : Except ConfigError Item}
    (new : ∀ item, made = .ok item → Orderly item) : ∀ item ∈ (adding items made).1, Orderly item := by
  cases made with
  | error e => exact orderly
  | ok item =>
      intro other member
      rcases List.mem_append.mp member with old | last
      · exact orderly other old
      · rw [List.mem_singleton.mp last]
        exact new item rfl

theorem orderly_adding_ok (orderly : ∀ item ∈ items, Orderly item) {new : Item} (newOrderly : Orderly new) :
    ∀ item ∈ (adding items (.ok new)).1, Orderly item := by
  apply orderly_adding orderly
  rintro item ⟨⟩
  exact newOrderly

/-- What an operation leaves is in order. -/
theorem orderly_perform (orderly : ∀ item ∈ items, Orderly item) (operation : Operation) :
    ∀ item ∈ (perform items operation).1, Orderly item := by
  have draftNeat : ∀ {place draft}, draftAt? items place = some draft → draft.Neat :=
    fun here => (orderly _ (mem_of_draftAt? here)).neat
  cases operation with
  | empty => exact orderly_adding_ok orderly (orderly_draft neat_empty)
  | defaults => exact orderly_adding_ok orderly (orderly_draft neat_defaults)
  | bare => exact orderly_adding_ok orderly orderly_builtin
  | read file fields =>
      refine orderly_adding orderly fun item made => ?_
      obtain ⟨draft, read, rfl⟩ := ok_of_map made
      exact orderly_draft (readDocument_ok read).1.neat
  | resolve fields =>
      refine orderly_adding orderly fun item made => ?_
      obtain ⟨config, resolved, rfl⟩ := ok_of_map made
      exact orderly_resolve resolved
  | resolveFrozen place =>
      simp only [perform]
      split
      · next here => exact orderly_adding_ok orderly (orderly _ (mem_of_frozenAt? here))
      · exact orderly
  | merge place other =>
      simp only [perform]
      split
      · next here there =>
          exact orderly_adding_ok orderly (orderly_draft ((draftNeat here).merge (draftNeat there)))
      · exact orderly
  | override place overrides =>
      simp only [perform]
      split
      · next here =>
          intro item member
          rcases List.mem_or_eq_of_mem_set member with old | rfl
          · exact orderly item old
          · exact orderly_draft (neat_override (draftNeat here) overrides)
      · exact orderly
  | freeze place =>
      simp only [perform]
      split
      · next here => exact orderly_adding_ok orderly (orderly_freeze (draftNeat here))
      · exact orderly
  | thaw place =>
      simp only [perform]
      split
      · next here => exact orderly_adding_ok orderly (orderly _ (mem_of_frozenAt? here)).thaw
      · exact orderly

end Steps

theorem orderly_of_mem_session (operations : List Operation) : ∀ item ∈ session operations, Orderly item := by
  induction operations using List.reverseRecOn with
  | nil => exact nofun
  | append_singleton front last ih =>
      rw [session_append]
      exact orderly_perform ih last

/-! ## Refused operations -/

def ConfigError.table? : ConfigError → Option Property
  | .noTable property _ => some property
  | .badEntry property _ _ => some property
  | .badDefault _ _ => none
  | .unknownMode _ _ => none
  | .unwritable _ => none

def Overrides.section? (overrides : Overrides) : Property → Option Value
  | .display => overrides.display
  | .whiteSpace => overrides.whiteSpace

/-- The table of a property is as it was, or all entries that there are for it are written into it. -/
def Undivided (property : Property) (raw : Option Value) (draft after : Draft) : Prop :=
  after.patch property = draft.patch property ∨
    ∃ given entries, raw = some given ∧ readEntries property overrideSource given = .ok entries ∧
      after.patch property =
        ⟨(draft.patch property).entries.putAll entries, (draft.patch property).fallback⟩

section Refusals

variable {draft after : Draft} {property : Property} {e : ConfigError}

theorem table?_of_readFields {source : String} {fields : Entries Value}
    (refused : readFields property source fields = .error e) : e.table? = some property := by
  induction fields with
  | nil => cases refused
  | cons field rest ih =>
      obtain ⟨tag, raw⟩ := field
      rw [readFields] at refused
      split at refused
      · cases refused
        rfl
      · exact ih (map_eq_error_iff.mp refused)

theorem table?_of_readEntries {source : String} {raw : Value}
    (refused : readEntries property source raw = .error e) : e.table? = some property := by
  unfold readEntries at refused
  split at refused
  · exact table?_of_readFields (map_eq_error_iff.mp refused)
  · cases refused
    rfl

theorem table?_of_overrideEntries {raw : Option Value}
    (refused : draft.overrideEntries property raw = .error e) : e.table? = some property := by
  unfold Draft.overrideEntries at refused
  split at refused
  · cases refused
  · exact table?_of_readEntries (map_eq_error_iff.mp refused)

theorem patch_overrideEntries {raw : Option Value} (ok : draft.overrideEntries property raw = .ok after)
    {other : Property} (different : property ≠ other) : after.patch other = draft.patch other := by
  rcases overrideEntries_cases ok with rfl | ⟨given, entries, _, _, rfl⟩
  · rfl
  · rw [Draft.withEntries, patch_withPatch, if_neg different]

theorem undivided_overrideEntries {raw : Option Value} (ok : draft.overrideEntries property raw = .ok after) :
    Undivided property raw draft after := by
  rcases overrideEntries_cases ok with rfl | ⟨given, entries, rfl, read, rfl⟩
  · exact .inl rfl
  · refine .inr ⟨given, entries, rfl, read, ?_⟩
    rw [Draft.withEntries, patch_withPatch, if_pos rfl]

/-- A refused override leaves each table as it was or fully written, and the one it is refused for as it was. -/
theorem undivided_of_refused {overrides : Overrides} (refused : (draft.override overrides).2 = some e)
    (property : Property) :
    Undivided property (overrides.section? property) draft (draft.override overrides).1 ∧
      (e.table? = some property → (draft.override overrides).1.patch property = draft.patch property) := by
  cases modeOk : draft.overrideMode overrides.mode with
  | error other =>
      have unchanged : (draft.override overrides).1.patch property = draft.patch property := by
        rw [Draft.override, modeOk]
      exact ⟨.inl unchanged, fun _ => unchanged⟩
  | ok withMode =>
      have modeSame := patch_overrideMode modeOk
      cases displaysOk : withMode.overrideEntries .display overrides.display with
      | error other =>
          simp only [Draft.override, modeOk, displaysOk]
          exact ⟨.inl (modeSame property), fun _ => modeSame property⟩
      | ok withDisplays =>
          have whiteSpaceSame : withDisplays.patch .whiteSpace = draft.patch .whiteSpace := by
            have different : Property.display ≠ Property.whiteSpace := by decide
            rw [patch_overrideEntries displaysOk different, modeSame]
          cases doneOk : withDisplays.overrideEntries .whiteSpace overrides.whiteSpace with
          | ok done =>
              simp only [Draft.override, modeOk, displaysOk, doneOk] at refused
              cases refused
          | error other =>
              simp only [Draft.override, modeOk, displaysOk, doneOk] at refused ⊢
              obtain rfl := Option.some.inj refused
              cases property with
              | whiteSpace => exact ⟨.inl whiteSpaceSame, fun _ => whiteSpaceSame⟩
              | display =>
                  constructor
                  · have written := undivided_overrideEntries displaysOk
                    rw [Undivided, modeSame] at written
                    exact written
                  · intro about
                    rw [table?_of_overrideEntries doneOk] at about
                    cases about

end Refusals

theorem adding_of_refused {items : List Item} {made : Except ConfigError Item} {e : ConfigError}
    (refused : (adding items made).2 = some e) : (adding items made).1 = items := by
  cases made with
  | error _ => rfl
  | ok _ => cases refused

/-- An operation that is refused leaves everything as it was, unless it is an override of a draft. -/
theorem perform_of_refused {items : List Item} {operation : Operation} {e : ConfigError}
    (refused : (perform items operation).2 = some e) :
    (perform items operation).1 = items ∨
      ∃ place overrides draft, operation = .override place overrides ∧
        items[place]? = some (.draft draft) ∧ (draft.override overrides).2 = some e ∧
        (perform items operation).1 = items.set place (.draft (draft.override overrides).1) := by
  cases operation with
  | empty | defaults | bare => cases refused
  | read | resolve => exact .inl (adding_of_refused refused)
  | override place overrides =>
      simp only [perform] at refused ⊢
      split at refused
      · next draft here =>
          exact .inr ⟨place, overrides, draft, rfl, getElem?_of_draftAt? here, refused, rfl⟩
      · cases refused
  | resolveFrozen | merge | freeze | thaw =>
      -- Nothing is read here, so that the operation is not refused.
      simp only [perform] at refused
      split at refused
      · cases refused
      · cases refused

/-- Whatever is done in a session, the tables of all items hold neat values under keys in lower case, and each
entry of a frozen table is found under its key in any letter case.  A refused operation changes nothing, unless it
is an override; that one may have written the table of a property whole, but not the one it is refused for. -/
theorem orderly_session (operations : List Operation) :
    (∀ item ∈ session operations, Orderly item) ∧
    ∀ operation e, (perform (session operations) operation).2 = some e →
      session (operations ++ [operation]) = session operations ∨
        ∃ place overrides draft after, operation = .override place overrides ∧
          (session operations)[place]? = some (.draft draft) ∧
          session (operations ++ [operation]) = (session operations).set place (.draft after) ∧
          ∀ property : Property, Undivided property (overrides.section? property) draft after ∧
            (e.table? = some property → after.patch property = draft.patch property) := by
  refine ⟨orderly_of_mem_session operations, fun operation e refused => ?_⟩
  rw [session_append]
  rcases perform_of_refused refused with kept | ⟨place, overrides, draft, rfl, here, draftRefused, left⟩
  · exact .inl kept
  · exact .inr ⟨place, overrides, draft, _, rfl, here, left, undivided_of_refused draftRefused⟩

def halfOverrides : Overrides :=
  ⟨none, some (.table [("DIV", .text " Grid")]), some (.table [("P", .text "Pre"), ("X", .text " ")])⟩

def halfDraft : Draft :=
  ⟨some .css, ⟨[("div", "grid")], some "inline"⟩, ⟨[], some "normal"⟩, []⟩

theorem override_halfOverrides :
    Draft.defaults.override halfOverrides = (halfDraft, some (.badEntry .whiteSpace "X" overrideSource)) :=
  rfl

/-- The override of the defaults is refused for the second table after it has written the first. -/
theorem orderly_session_halfOverrides :
    (perform (session [.defaults]) (.override 0 halfOverrides)).2 =
        some (.badEntry .whiteSpace "X" overrideSource) ∧
      session [.defaults, .override 0 halfOverrides] = [.draft halfDraft] ∧
      halfDraft.patch .whiteSpace = Draft.defaults.patch .whiteSpace ∧
      ∀ item ∈ session [.defaults, .override 0 halfOverrides, .freeze 0], Orderly item := by
  have refused : (perform (session [.defaults]) (.override 0 halfOverrides)).2 =
      some (.badEntry .whiteSpace "X" overrideSource) :=
    congrArg Prod.snd override_halfOverrides
  have left : session [.defaults, .override 0 halfOverrides] = [.draft halfDraft] :=
    congrArg (fun done : Draft × Option ConfigError => [Item.draft done.1]) override_halfOverrides
  refine ⟨refused, left, ?_, (orderly_session _).1⟩
  rcases (orderly_session [.defaults]).2 _ _ refused with kept | ⟨_, _, _, after, ⟨⟩, ⟨⟩, set, whole⟩
  · exact absurd (left.symm.trans kept) (by decide)
  · have same : halfDraft = after := by
      cases left.symm.trans set
      rfl
    rw [same]
    exact (whole .whiteSpace).2 rfl

end TemplateSpacing.Config
