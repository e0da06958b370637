import TemplateSpacing.Config.Mode
import TemplateSpacing.Css.Property
import TemplateSpacing.Text.Case

/-! # Configurations

A draft holds what has been configured so far and nothing else, so that drafts can be laid over one
another; the later one wins.  A frozen configuration holds the full tables that the passes look tags
up in.
-/

set_option autoImplicit false

namespace TemplateSpacing.Config

open TemplateSpacing.Css (Property)

/-! ## One property -/

/-- What is configured for a property: entries for tags in lower case, and the value of tags that are
in no table.  An empty value counts as none. -/
structure Patch where
  entries : Entries String
  fallback : Option String
deriving DecidableEq, Repr

structure Sheet where
  entries : Entries String
  fallback : String
deriving DecidableEq, Repr

def set? : Option String → Option String
  | some value => if value = "" then none else some value
  | none => none

def later (earlier later : Option String) : Option String :=
  match set? later with
  | some value => some value
  | none => earlier

def changes (property : Property) (entries : Entries String) : Entries String :=
  entries.filter fun entry => property.builtin.find? entry.1 ≠ some entry.2

/-- Whether entries are the same, in whatever order. -/
def sameEntries (entries other : Entries String) : Bool :=
  entries.length = other.length &&
    entries.all fun entry => other.find? entry.1 = some entry.2

namespace Patch

def empty : Patch := ⟨[], none⟩

def merge (patch other : Patch) : Patch :=
  ⟨patch.entries.putAll other.entries, later patch.fallback other.fallback⟩

def freeze (property : Property) (patch : Patch) : Sheet :=
  ⟨property.builtin.putAll patch.entries, (set? patch.fallback).getD property.builtinDefault⟩

def same (patch other : Patch) : Bool :=
  patch.fallback = other.fallback && sameEntries patch.entries other.entries

end Patch

namespace Sheet

def builtin (property : Property) : Sheet :=
  ⟨property.builtin, property.builtinDefault⟩

def lookup (sheet : Sheet) (tag : String) : String :=
  (sheet.entries.find? (Text.lower tag)).getD sheet.fallback

/-- The patch that makes the table out of the built-in one. -/
def thaw (property : Property) (sheet : Sheet) : Patch :=
  ⟨changes property sheet.entries, some sheet.fallback⟩

def asPatch (sheet : Sheet) : Patch :=
  ⟨sheet.entries, some sheet.fallback⟩

def same (sheet other : Sheet) : Bool :=
  sheet.fallback = other.fallback && sameEntries sheet.entries other.entries

end Sheet

end TemplateSpacing.Config

namespace TemplateSpacing

open TemplateSpacing.Config (Mode Sheet)

structure Config where
  mode : Mode
  display : Sheet
  whiteSpace : Sheet
  files : List String
deriving DecidableEq, Repr

end TemplateSpacing

namespace TemplateSpacing.Config

open TemplateSpacing.Css (Property)

/-! ## Drafts -/

structure Draft where
  mode : Option Mode
  display : Patch
  whiteSpace : Patch
  files : List String
deriving DecidableEq, Repr

namespace Draft

def empty : Draft := ⟨none, .empty, .empty, []⟩

def defaults : Draft where
  mode := some .css
  display := ⟨[], some Property.display.builtinDefault⟩
  whiteSpace := ⟨[], some Property.whiteSpace.builtinDefault⟩
  files := []

def merge (draft other : Draft) : Draft where
  mode := other.mode.or draft.mode
  display := draft.display.merge other.display
  whiteSpace := draft.whiteSpace.merge other.whiteSpace
  files := draft.files ++ other.files

def freeze (draft : Draft) : Config where
  mode := draft.mode.getD .css
  display := draft.display.freeze .display
  whiteSpace := draft.whiteSpace.freeze .whiteSpace
  files := draft.files

def patch (draft : Draft) : Property → Patch
  | .display => draft.display
  | .whiteSpace => draft.whiteSpace

def withPatch (draft : Draft) (property : Property) (patch : Patch) : Draft :=
  match property with
  | .display => { draft with display := patch }
  | .whiteSpace => { draft with whiteSpace := patch }

def withEntries (draft : Draft) (property : Property) (entries : Entries String) : Draft :=
  draft.withPatch property { draft.patch property with entries := entries }

def withFallback (draft : Draft) (property : Property) (value : Option String) : Draft :=
  draft.withPatch property { draft.patch property with fallback := value }

def same (draft other : Draft) : Bool :=
  draft.mode = other.mode && draft.display.same other.display &&
    draft.whiteSpace.same other.whiteSpace && draft.files = other.files

end Draft

/-! ## Frozen configurations -/

def builtin : Config := ⟨.css, .builtin .display, .builtin .whiteSpace, []⟩

def sheet (config : Config) : Property → Sheet
  | .display => config.display
  | .whiteSpace => config.whiteSpace

def displayOf (config : Config) (tag : String) : String :=
  config.display.lookup tag

def whiteSpaceOf (config : Config) (tag : String) : String :=
  config.whiteSpace.lookup tag

def thaw (config : Config) : Draft where
  mode := some config.mode
  display := config.display.thaw .display
  whiteSpace := config.whiteSpace.thaw .whiteSpace
  files := config.files

def asDraft (config : Config) : Draft where
  mode := some config.mode
  display := config.display.asPatch
  whiteSpace := config.whiteSpace.asPatch
  files := config.files

def same (config other : Config) : Bool :=
  config.mode = other.mode && config.display.same other.display &&
    config.whiteSpace.same other.whiteSpace && config.files = other.files

end TemplateSpacing.Config
