import TemplateSpacing.Choice
import TemplateSpacing.Config.Mode
import TemplateSpacing.Entries
import TemplateSpacing.Log.Level

/-! # Preferences

What a user asks for besides the work itself: a format of the output, colour, and how much is said.
Colour that is asked for on the command line comes before the environment, and the environment before
what the terminal can show.
-/

set_option autoImplicit false

namespace TemplateSpacing.Command

open TemplateSpacing.Config (Mode)
open TemplateSpacing.Log (Severity)

inductive OutputFormat
  | default
  | json
deriving DecidableEq, Repr

def OutputFormat.choice : OutputFormat → Choice
  | .default => ⟨"DEFAULT", "default", "", []⟩
  | .json => ⟨"JSON", "json", "", []⟩

def OutputFormat.all : List OutputFormat := [.default, .json]

inductive ColorMode
  | auto
  | always
  | never
deriving DecidableEq, Repr

def ColorMode.choice : ColorMode → Choice
  | .auto => ⟨"AUTO", "auto", "", []⟩
  | .always => ⟨"ALWAYS", "always", "", []⟩
  | .never => ⟨"NEVER", "never", "", []⟩

def ColorMode.all : List ColorMode := [.auto, .always, .never]

/-! ## Parameters -/

def formatParameter : ChoiceParameter :=
  ⟨"OutputFormat", false, OutputFormat.all.map OutputFormat.choice⟩

def colorParameter : ChoiceParameter :=
  ⟨"ColorMode", false, ColorMode.all.map ColorMode.choice⟩

def modeParameter : ChoiceParameter :=
  ⟨"WhitespaceSensitivity", true, Mode.all.map Mode.choice⟩

/-- The item that a word stands for under a parameter whose choices are those of the items. -/
def pick {α : Type} (parameter : ChoiceParameter) (items : List α) (choice : α → Choice)
    (word : String) : Except String (Option α) :=
  (parameter.convert word).map fun chosen => items.find? fun item => choice item = chosen

/-! ## Colour -/

/-- The variable that forces colour unless it is empty or zero. -/
def forceColorVariable : String := "FORCE_COLOR"

def noColorVariable : String := "NO_COLOR"

def wantsColor (environment : Entries String) (mode : Option ColorMode) (format : Option String)
    (isTerminal : Bool) : Bool :=
  if format.any fun f => Text.lower f = OutputFormat.json.choice.key then false
  else
    match mode with
    | some .always => true
    | some .never => false
    | _ =>
      if (environment.find? forceColorVariable).any fun force => force ≠ "" && force ≠ "0" then true
      else if environment.has noColorVariable then false
      else isTerminal

/-! ## Verbosity -/

/-- The least level of the records that are shown; none when both more and less is asked for. -/
def verbosityLevel? (verbose quiet : Int) : Option Nat :=
  if 0 < verbose && 0 < quiet then none
  else
    some (Severity.level (
      if 3 ≤ verbose then .trace
      else if verbose = 2 then .debug
      else if verbose = 1 then .info
      else if 1 ≤ quiet then .error
      else .warning))

def levelVariable : String := "SPACEMARK_LOG_LEVEL"

def levelSetting (environment : Entries String) : String :=
  (environment.find? levelVariable).getD ""

end TemplateSpacing.Command
