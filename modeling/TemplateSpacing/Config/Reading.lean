import TemplateSpacing.Config.Basic
import TemplateSpacing.Log.Record
import TemplateSpacing.Text.Blank
import TemplateSpacing.Value.Basic

/-! # Reading a configuration

Drafts from the fields of a configuration document, and overrides of a draft.  Tags are put in lower
case; values are stripped, put in lower case and must not be blank.  Unknown fields of a document are
reported and otherwise ignored.
-/

set_option autoImplicit false

namespace TemplateSpacing.Config

open TemplateSpacing.Css (Property)

/-- Why fields are refused; every refusal names the source of the fields.  The refusal of a mode shows
its literal, and is lost when there is none. -/
inductive ConfigError
  | unknownMode (written source : String)
  | unwritable (e : Value.LiteralError)
  | noTable (property : Property) (source : String)
  | badEntry (property : Property) (tag source : String)
  | badDefault (property : Property) (source : String)

def modeKey : String := "whitespace_sensitivity"

def rootKey : String := "root"

def ConfigError.message : ConfigError → String
  | .unknownMode written source =>
    "Invalid " ++ modeKey ++ " " ++ written ++ " (" ++ source ++ "); expected one of: " ++
      ", ".intercalate (Mode.all.map Mode.key)
  | .unwritable e => e.message
  | .noTable property source =>
    "[" ++ property.sectionKey ++ "] must be a table of tag = value entries (" ++ source ++ ")"
  | .badEntry property tag source =>
    "[" ++ property.sectionKey ++ "] " ++ Text.quoted tag ++ " must be a non-empty string (" ++
      source ++ ")"
  | .badDefault property source =>
    Text.quoted property.defaultKey ++ " must be a non-empty string (" ++ source ++ ")"

/-! ## Values -/

def propertyValue? : Value → Option String
  | .text s => if Text.isAllBlank s then none else some (Text.lower (Text.strip s))
  | _ => none

def unknownMode (source : String) (raw : Value) : ConfigError :=
  match raw.literal with
  | .ok written => .unknownMode written source
  | .error e => .unwritable e

def readMode (source : String) (raw : Value) : Except ConfigError Mode :=
  match raw.text?.bind Mode.parse? with
  | some mode => .ok mode
  | none => .error (unknownMode source raw)

def readDefault (property : Property) (source : String) (raw : Value) :
    Except ConfigError String :=
  match propertyValue? raw with
  | some value => .ok value
  | none => .error (.badDefault property source)

/-- The entries for tags, in the order of the fields; the last of several fields for one tag wins. -/
def readFields (property : Property) (source : String) :
    Entries Value → Except ConfigError (List (String × String))
  | [] => .ok []
  | (tag, raw) :: rest =>
    match propertyValue? raw with
    | none => .error (.badEntry property tag source)
    | some value => (readFields property source rest).map ((Text.lower tag, value) :: ·)

def readEntries (property : Property) (source : String) (raw : Value) :
    Except ConfigError (Entries String) :=
  match raw with
  | .table fields => (readFields property source fields).map Entries.ofWrites
  | _ => .error (.noTable property source)

/-! ## Documents -/

def knownKeys : List String :=
  [rootKey, modeKey, Property.display.defaultKey, Property.whiteSpace.defaultKey,
    Property.display.sectionKey, Property.whiteSpace.sectionKey]

def unknownKeyReports (source : String) (fields : Entries Value) : List Log.Record :=
  (fields.filter fun field => !knownKeys.contains field.1).map fun field =>
    Log.warned ("Ignoring unknown config key " ++ Text.quoted field.1 ++ " in " ++ source)

def readField {α : Type} (key : String) (read : Value → Except ConfigError α)
    (fields : Entries Value) : Except ConfigError (Option α) :=
  match fields.find? key with
  | none => .ok none
  | some raw => (read raw).map some

def readDraft (source : String) (fields : Entries Value) : Except ConfigError Draft := do
  let mode ← readField modeKey (readMode source) fields
  let display ← readField Property.display.defaultKey (readDefault .display source) fields
  let whiteSpace ← readField Property.whiteSpace.defaultKey (readDefault .whiteSpace source) fields
  let displays ← readField Property.display.sectionKey (readEntries .display source) fields
  let whiteSpaces ← readField Property.whiteSpace.sectionKey (readEntries .whiteSpace source) fields
  return ⟨mode, ⟨displays.getD [], display⟩, ⟨whiteSpaces.getD [], whiteSpace⟩, []⟩

def anonymousSource : String := "<dict>"

def readDocument (file : Option String) (fields : Entries Value) :
    List Log.Record × Except ConfigError Draft :=
  let source := file.getD anonymousSource
  (unknownKeyReports source fields,
    (readDraft source fields).map fun draft => { draft with files := file.toList })

def resolve (fields : Option (Entries Value)) : List Log.Record × Except ConfigError Config :=
  match fields with
  | none => ([], .ok Draft.defaults.freeze)
  | some fields =>
    let (reports, draft) := readDocument none fields
    (reports, draft.map fun draft => (Draft.defaults.merge draft).freeze)

/-! ## Overrides -/

def overrideSource : String := "<override>"

/-- A mode that an override sets: a mode itself, or a value that should stand for one. -/
inductive ModeSetting
  | mode (mode : Mode)
  | raw (value : Value)

structure Overrides where
  mode : Option ModeSetting
  display : Option Value
  whiteSpace : Option Value

namespace Overrides

def given? (key : String) (fields : Entries Value) : Option Value :=
  (fields.find? key).filter fun value => !value.isNull

def ofFields (fields : Entries Value) : Overrides where
  mode := (given? modeKey fields).map .raw
  display := given? Property.display.sectionKey fields
  whiteSpace := given? Property.whiteSpace.sectionKey fields

def ofMode (mode : Option Mode) : Overrides :=
  ⟨mode.map .mode, none, none⟩

end Overrides

namespace Draft

def overrideMode (draft : Draft) : Option ModeSetting → Except ConfigError Draft
  | none => .ok draft
  | some (.mode mode) => .ok { draft with mode := some mode }
  | some (.raw raw) =>
    (readMode overrideSource raw).map fun mode => { draft with mode := some mode }

def overrideEntries (draft : Draft) (property : Property) :
    Option Value → Except ConfigError Draft
  | none => .ok draft
  | some raw =>
    (readEntries property overrideSource raw).map fun entries =>
      draft.withEntries property ((draft.patch property).entries.putAll entries)

/-- The draft after overrides, one after the other up to the first that is refused, and the
refusal. -/
def override (draft : Draft) (overrides : Overrides) : Draft × Option ConfigError :=
  match draft.overrideMode overrides.mode with
  | .error e => (draft, some e)
  | .ok withMode =>
    match withMode.overrideEntries .display overrides.display with
    | .error e => (withMode, some e)
    | .ok withDisplays =>
      match withDisplays.overrideEntries .whiteSpace overrides.whiteSpace with
      | .error e => (withDisplays, some e)
      | .ok done => (done, none)

end Draft

/-! ## Writing -/

def toFields (config : Config) : Entries Value :=
  let entries := fun (property : Property) =>
    Value.table ((changes property (config.sheet property).entries.sorted).map fun (tag, value) =>
      (tag, .text value))
  [(modeKey, .text config.mode.key),
    (Property.display.defaultKey, .text config.display.fallback),
    (Property.whiteSpace.defaultKey, .text config.whiteSpace.fallback),
    (Property.display.sectionKey, entries .display),
    (Property.whiteSpace.sectionKey, entries .whiteSpace)]

def nestUnderTool (name : String) (fields : Entries Value) : Entries Value :=
  [("tool", .table [(name, .table fields)])]

end TemplateSpacing.Config
