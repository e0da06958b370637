import TemplateSpacing.Command.Preference
import TemplateSpacing.Pass.Stage

/-! # Switches

The switches of the command line, and the parts of it that have switches of their own: the program
itself and its commands.
-/

set_option autoImplicit false

namespace TemplateSpacing.Command

open TemplateSpacing.Config (Mode)
open TemplateSpacing.Pass (Pipeline)

inductive Switch
  | quiet
  | verbose
  | noColor
  | color
  | mode
  | config
  | noConfig
  | format
  | pipeline
  | nested
  | help
deriving DecidableEq, Repr

namespace Switch

def letter? : Switch → Option Char
  | .quiet => some 'q'
  | .verbose => some 'v'
  | .help => some 'h'
  | _ => none

def name : Switch → String
  | .quiet => "--quiet"
  | .verbose => "--verbose"
  | .noColor => "--no-color"
  | .color => "--color"
  | .mode => "--whitespace-sensitivity"
  | .config => "--config"
  | .noConfig => "--no-config"
  | .format => "--format"
  | .pipeline => "--pipeline"
  | .nested => "--pyproject"
  | .help => "--help"

def valueName? : Switch → Option String
  | .color => some (Text.upper colorParameter.name)
  | .mode => some (Text.upper modeParameter.name)
  | .config => some "FILE"
  | .format => some (Text.upper formatParameter.name)
  | .pipeline => some ("[" ++ "|".intercalate (Pipeline.all.map Pipeline.name) ++ "]")
  | _ => none

def takesValue (switch : Switch) : Bool :=
  switch.valueName?.isSome

def summary : Switch → String
  | .quiet => "Suppress output."
  | .verbose => "Increase verbosity. Specify up to three times for more detail."
  | .noColor => "Disable color output (equivalent to --color=never)."
  | .color => "Color output: auto (default), always, or never."
  | .mode =>
    "How element display is resolved: " ++ ", ".intercalate (Mode.all.map Mode.key) ++
      " (default: css)."
  | .config => "Additional config file(s) to load and merge."
  | .noConfig => "Ignore local project config files (only use defaults)."
  | .format => "Output format (" ++ ", ".intercalate formatParameter.keys ++ ")."
  | .pipeline =>
    "Steps to run: classify (display only), annotate (no tree changes) or preprocess.  [default: " ++
      Pipeline.preprocess.name ++ "]"
  | .nested => "Nest the output under [tool.spacemark] for pasting into pyproject.toml."
  | .help => "Show this message and exit."

end Switch

inductive Verb
  | annotate
  | dumpConfig
  | version
deriving DecidableEq, Repr

namespace Verb

def name : Verb → String
  | .annotate => "annotate"
  | .dumpConfig => "dump-config"
  | .version => "version"

def all : List Verb := [.annotate, .dumpConfig, .version]

def ofName? (name : String) : Option Verb :=
  all.find? fun verb => verb.name = name

end Verb

inductive Scope
  | program
  | verb (which : Verb)
deriving DecidableEq, Repr

namespace Scope

def programName : String := "spacemark"

def path : Scope → String
  | .program => programName
  | .verb which => programName ++ " " ++ which.name

def switches : Scope → List Switch
  | .program => [.quiet, .verbose, .noColor, .color, .help]
  | .verb .annotate => [.mode, .config, .noConfig, .format, .pipeline, .help]
  | .verb .dumpConfig => [.mode, .config, .noConfig, .nested, .help]
  | .verb .version => [.format, .help]

def usageTail : Scope → String
  | .program => "[OPTIONS] [COMMAND] [ARGS]..."
  | .verb .annotate => "[OPTIONS] [FILE|-]"
  | .verb _ => "[OPTIONS]"

/-- How many words a part takes besides its switches; the program leaves all of them to a command. -/
def wordLimit? : Scope → Option Nat
  | .program => none
  | .verb .annotate => some 1
  | .verb _ => some 0

def summary : Scope → String
  | .program => "SpaceMark: whitespace-significance inference for Handlebars template trees."
  | .verb .annotate => "Annotate a JSON template tree with whitespace-significance flags."
  | .verb .dumpConfig => "Dump the final merged SpaceMark configuration as TOML."
  | .verb .version => "Show the current version of SpaceMark."

def closing? : Scope → Option String
  | .verb .dumpConfig =>
    some ("Notes: • Only tags that differ from the built-in tables are listed. • Output is wrapped " ++
      "between '# === BEGIN ===' and '# === END ===' markers.")
  | _ => none

end Scope

end TemplateSpacing.Command
