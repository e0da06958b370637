import TemplateSpacing.Config.Basic
import TemplateSpacing.Text.Quoted

/-! # Configurations in reports

The literal that reports show a whole configuration as: the mode, the full tables with their entries in
order, the fallbacks, and the files.
-/

set_option autoImplicit false

namespace TemplateSpacing.Config

def Mode.literal (mode : Mode) : String :=
  "<WhitespaceSensitivity." ++ mode.choice.name ++ ": " ++ Text.quoted mode.key ++ ">"

def entriesLiteral (entries : Entries String) : String :=
  let written := entries.map fun (tag, value) => Text.quoted tag ++ ": " ++ Text.quoted value
  "mappingproxy(\x7b" ++ ", ".intercalate written ++ "\x7d)"

/-- The literal of the files; a single one is followed by a comma. -/
def filesLiteral (files : List String) : String :=
  let written := files.map fun file => "PosixPath(" ++ Text.quoted file ++ ")"
  "(" ++ ", ".intercalate written ++ (if files.length = 1 then ",)" else ")")

def literal (config : Config) : String :=
  "Config(whitespace_sensitivity=" ++ config.mode.literal ++
    ", display_tags=" ++ entriesLiteral config.display.entries ++
    ", white_space_tags=" ++ entriesLiteral config.whiteSpace.entries ++
    ", display_default=" ++ Text.quoted config.display.fallback ++
    ", white_space_default=" ++ Text.quoted config.whiteSpace.fallback ++
    ", config_files=" ++ filesLiteral config.files ++ ")"

end TemplateSpacing.Config
