import TemplateSpacing.Proofs.Config.Drafts

/-! # Layers

A configuration is made of documents, one layer over the other.  What it says about a tag, however the tag is
spelled, is what the last entry for it in the last layer with such an entry says; the built-in table comes
after all layers, and the last default after the table.
-/

set_option autoImplicit false

namespace TemplateSpacing.Config

open TemplateSpacing.Css (Property)

structure Layer where
  file : Option String
  fields : Entries Value

/-! ## What layers say -/

def tidied (raw : Value) : Option String :=
  raw.text?.map fun s => Text.lower (Text.strip s)

namespace Layer

def draft (layer : Layer) : Except ConfigError Draft :=
  (readDocument layer.file layer.fields).2

def modeSet (layer : Layer) : Option Mode :=
  ((layer.fields.find? modeKey).bind Value.text?).bind Mode.parse?

def defaultOf (property : Property) (layer : Layer) : Option String :=
  (layer.fields.find? property.defaultKey).bind tidied

/-- The value of the last entry whose key is a tag, whatever the letter case of both. -/
def entryFor (property : Property) (tag : String) (layer : Layer) : Option String :=
  ((sectionOf property layer.fields).reverse.find? fun entry => Text.lower entry.1 = Text.lower tag).bind
    fun entry => tidied entry.2

end Layer

def lastOf {α : Type} (setting : Layer → Option α) (layers : List Layer) : Option α :=
  layers.reverse.findSome? setting

def valueUnder (layers : List Layer) (property : Property) (tag : String) : String :=
  match lastOf (Layer.entryFor property tag) layers with
  | some value => value
  | none =>
    match property.builtin.find? (Text.lower tag) with
    | some value => value
    | none => (lastOf (Layer.defaultOf property) layers).getD property.builtinDefault

/-! ## One layer -/

theorem tidied_of_propertyValue? {raw : Value} {value : String} (read : propertyValue? raw = some value) :
    tidied raw = some value := by
  obtain ⟨s, rfl, rfl, _⟩ := propertyValue?_eq_some read
  rfl

theorem find?_of_fields {fields : List (String × Value)} {writes : List (String × String)}
    (law : List.Forall₂ WrittenAs fields writes) (tag : String) :
    Entries.find? (Text.lower tag) writes =
      (fields.find? fun entry => Text.lower entry.1 = Text.lower tag).bind fun entry => tidied entry.2 := by
  induction law with
  | nil => rfl
  | @cons field write _ _ first _ ih =>
      obtain ⟨key, value⟩ := write
      obtain ⟨rfl, read⟩ := first
      by_cases same : Text.lower field.1 = Text.lower tag
      · rw [Entries.find?, if_pos same, List.find?_cons, decide_eq_true same]
        exact (tidied_of_propertyValue? read).symm
      · rw [Entries.find?, if_neg same, List.find?_cons, decide_eq_false same]
        exact ih

structure Tells (layer : Layer) (draft : Draft) : Prop where
  neat : draft.Neat
  mode : draft.mode = layer.modeSet
  fallback : ∀ property : Property, (draft.patch property).fallback = layer.defaultOf property
  entry : ∀ (property : Property) (tag : String),
    (draft.patch property).entries.find? (Text.lower tag) = layer.entryFor property tag
  files : draft.files = layer.file.toList

theorem tells_of_draft {layer : Layer} {draft : Draft} (ok : layer.draft = .ok draft) : Tells layer draft := by
  obtain ⟨read, files⟩ := readDocument_ok ok
  refine ⟨read.neat, ?_, ?_, ?_, files⟩
  · rw [Layer.modeSet]
    rcases readField_ok read.mode with ⟨absent, unset⟩ | ⟨raw, mode, present, modeOk, set⟩
    · rw [absent, unset]
      rfl
    · rw [present, set, Option.bind_some, readMode_ok modeOk]
  · intro property
    rw [Layer.defaultOf]
    rcases readField_ok (read.fallback property) with ⟨absent, unset⟩ | ⟨raw, value, present, valueOk, set⟩
    · rw [absent, unset]
      rfl
    · rw [present, set, Option.bind_some, tidied_of_propertyValue? (readDefault_ok valueOk)]
  · intro property tag
    obtain ⟨writes, same, law⟩ := read.writes property
    rw [same, Entries.ofWrites, Entries.find?_putAll, Layer.entryFor,
      ← find?_of_fields (List.forall₂_reverse_iff.mpr law), Entries.find?, Option.or_none]

/-! ## All layers -/

/-- What a setting becomes under layers, when each of them overrides it or leaves it as it is. -/
theorem setting_foldl {α : Type} {drafts : List Draft} (setting : Draft → Option α)
    (overrides : ∀ draft, ∀ other ∈ drafts, setting (draft.merge other) = (setting other).or (setting draft))
    (base : Draft) :
    setting (drafts.foldl Draft.merge base) = (drafts.reverse.findSome? setting).or (setting base) := by
  -- from the lowest layer up, over whatever lies below it
  induction drafts generalizing base with
  | nil => rfl
  | cons first rest ih =>
      have later := ih (fun draft other member => overrides draft other (List.mem_cons_of_mem _ member))
        (base.merge first)
      rw [List.foldl_cons, later, overrides base first List.mem_cons_self, List.reverse_cons,
        List.findSome?_append, List.findSome?_singleton, Option.or_assoc]

theorem files_foldl (drafts : List Draft) (base : Draft) :
    (drafts.foldl Draft.merge base).files = base.files ++ drafts.flatMap Draft.files := by
  induction drafts generalizing base with
  | nil => exact (List.append_nil base.files).symm
  | cons first rest ih => rw [List.foldl_cons, ih, List.flatMap_cons, Draft.merge, List.append_assoc]

theorem neat_foldl {drafts : List Draft} (neat : ∀ draft ∈ drafts, draft.Neat) {base : Draft}
    (baseNeat : base.Neat) : (drafts.foldl Draft.merge base).Neat := by
  induction drafts generalizing base with
  | nil => exact baseNeat
  | cons first rest ih =>
      apply ih fun draft member => neat draft (List.mem_cons_of_mem _ member)
      exact baseNeat.merge (neat first List.mem_cons_self)

section AllLayers

variable {layers : List Layer} {drafts : List Draft}

theorem lastOf_eq {α : Type} {setting : Draft → Option α} {said : Layer → Option α}
    (pairs : List.Forall₂ Tells layers drafts)
    (same : ∀ layer draft, Tells layer draft → setting draft = said layer) :
    drafts.reverse.findSome? setting = lastOf said layers :=
  findSome?_of_forall₂ (List.forall₂_reverse_iff.mpr (pairs.imp same))

theorem neat_of_tells (pairs : List.Forall₂ Tells layers drafts) : ∀ draft ∈ drafts, draft.Neat := by
  intro draft member
  obtain ⟨layer, _, tells⟩ := exists_of_forall₂_right pairs member
  exact tells.neat

theorem mode_layers (pairs : List.Forall₂ Tells layers drafts) :
    (drafts.foldl Draft.merge .defaults).freeze.mode = (lastOf Layer.modeSet layers).getD .css := by
  rw [Draft.freeze, setting_foldl Draft.mode (fun _ _ _ => rfl), lastOf_eq pairs fun _ _ tells => tells.mode]
  cases lastOf Layer.modeSet layers with
  | none => rfl
  | some mode => rfl

theorem files_layers (pairs : List.Forall₂ Tells layers drafts) :
    (drafts.foldl Draft.merge .defaults).freeze.files = layers.filterMap Layer.file := by
  have files : drafts.map Draft.files = layers.map fun layer => layer.file.toList :=
    map_eq_map_of_forall₂ (pairs.imp fun _ _ tells => tells.files)
  rw [Draft.freeze, files_foldl, List.filterMap_eq_flatMap_toList, List.flatMap_def, List.flatMap_def, files]
  rfl

theorem lookup_layers (pairs : List.Forall₂ Tells layers drafts) (property : Property) (tag : String) :
    ((drafts.foldl Draft.merge .defaults).freeze.sheet property).lookup tag =
      valueUnder layers property tag := by
  have neat := neat_of_tells pairs
  have entry := setting_foldl (fun draft => (draft.patch property).entries.find? (Text.lower tag))
    (fun draft other member => find?_merge (neat other member) draft property _) .defaults
  have fallback := setting_foldl (fun draft => (draft.patch property).fallback)
    (fun draft other member => fallback_merge (neat other member) draft property) .defaults
  rw [lastOf_eq pairs fun _ _ tells => tells.entry property tag, patch_defaults, Entries.find?,
    Option.or_none] at entry
  rw [lastOf_eq pairs fun _ _ tells => tells.fallback property, patch_defaults] at fallback
  rw [lookup_freeze (neat_foldl neat neat_defaults), entry, fallback, valueUnder]
  cases lastOf (Layer.entryFor property tag) layers with
  | some value => rfl
  | none =>
      cases property.builtin.find? (Text.lower tag) with
      | some value => rfl
      | none =>
          cases lastOf (Layer.defaultOf property) layers with
          | some value => rfl
          | none => rfl

end AllLayers

/-- Drafts of documents may be laid over one another in any grouping, and the draft that configures nothing
changes none of them.  Over the defaults, what the last layer with a setting says holds. -/
theorem effective_layers (layers : List Layer) (drafts : List Draft)
    (read : List.Forall₂ (fun layer draft => layer.draft = .ok draft) layers drafts) :
    (∀ first ∈ drafts, ∀ second ∈ drafts, ∀ third ∈ drafts,
      (first.merge second).merge third = first.merge (second.merge third)) ∧
    (∀ draft ∈ drafts, Draft.empty.merge draft = draft ∧ draft.merge .empty = draft) ∧
    (∀ tag,
      (drafts.foldl Draft.merge .defaults).freeze.displayOf tag = valueUnder layers .display tag ∧
      (drafts.foldl Draft.merge .defaults).freeze.whiteSpaceOf tag = valueUnder layers .whiteSpace tag) ∧
    (drafts.foldl Draft.merge .defaults).freeze.mode = (lastOf Layer.modeSet layers).getD .css ∧
    (drafts.foldl Draft.merge .defaults).freeze.files = layers.filterMap Layer.file := by
  have pairs : List.Forall₂ Tells layers drafts := read.imp fun _ _ => tells_of_draft
  have neat := neat_of_tells pairs
  refine ⟨?_, ?_, ?_, mode_layers pairs, files_layers pairs⟩
  · intro first _ second member third _
    exact Draft.merge_assoc (neat second member) first third
  · intro draft member
    exact ⟨(neat draft member).empty_merge, draft.merge_empty⟩
  · intro tag
    exact ⟨lookup_layers pairs .display tag, lookup_layers pairs .whiteSpace tag⟩

def spelledLayers : List Layer :=
  [⟨none, [(modeKey, .text "Strict"),
    ("display", .table [("DIV", .text " Inline "), ("div", .text "Table"), ("x-card", .text "GRID")])]⟩,
    ⟨some "near.toml", [("display_default", .text "Block "), ("display", .table [("Div", .text "FLEX")])]⟩]

def spelledDrafts : List Draft :=
  [⟨some .strict, ⟨[("div", "table"), ("x-card", "grid")], none⟩, .empty, []⟩,
    ⟨none, ⟨[("div", "flex")], some "block"⟩, .empty, ["near.toml"]⟩]

theorem effective_layers_spelled :
    List.Forall₂ (fun layer draft => layer.draft = .ok draft) spelledLayers spelledDrafts ∧
      (spelledDrafts.foldl Draft.merge .defaults).freeze.displayOf "dIV" = "flex" ∧
      (spelledDrafts.foldl Draft.merge .defaults).freeze.displayOf "X-Card" = "grid" ∧
      (spelledDrafts.foldl Draft.merge .defaults).freeze.displayOf "x-other" = "block" := by
  have read : List.Forall₂ (fun layer draft => layer.draft = .ok draft) spelledLayers spelledDrafts :=
    .cons (ok_of_toOption (by decide +kernel)) (.cons (ok_of_toOption (by decide +kernel)) .nil)
  obtain ⟨_, _, values, _⟩ := effective_layers spelledLayers spelledDrafts read
  refine ⟨read, (values _).1.trans ?_, (values _).1.trans ?_, (values _).1.trans ?_⟩
  · decide +kernel
  · decide +kernel
  · decide +kernel

end TemplateSpacing.Config
