import TemplateSpacing.Text.Blank
import TemplateSpacing.Text.Case

/-! # Choices

A closed list of choices, each with a key, a name, a label and further words that stand for it.  A
keyed choice is found by any of its words, whatever their letter case and separators; a plain one is
found by its key in any letter case.
-/

set_option autoImplicit false

namespace TemplateSpacing

structure Choice where
  name : String
  key : String
  label : String
  aliases : List String
deriving DecidableEq, Repr

namespace Choice

/-- A word without outer blanks, in lower case, with underscores for hyphens and spaces. -/
def token (word : String) : String :=
  String.ofList <| (Text.lower (Text.strip word)).toList.map fun c =>
    if c = '-' || c = ' ' then '_' else c

/-- The choices of a list; one whose key an earlier one has adds nothing. -/
def distinct (choices : List Choice) : List Choice :=
  choices.foldl (fun kept choice =>
    if kept.any fun k => k.key = choice.key then kept else kept ++ [choice]) []

def words (choice : Choice) : List String :=
  choice.key :: choice.name :: choice.aliases

def parse? (choices : List Choice) (word : String) : Option Choice :=
  choices.find? fun choice => (choice.words.map token).contains (token word)

def byKey? (choices : List Choice) (word : String) : Option Choice :=
  choices.reverse.find? fun choice => Text.lower choice.key = Text.lower word

def completions (choices : List Choice) (word : String) : List String :=
  (choices.map Choice.key).filter fun key =>
    (Text.lower word).toList.isPrefixOf (Text.lower key).toList

end Choice

structure ChoiceParameter where
  name : String
  keyed : Bool
  choices : List Choice

namespace ChoiceParameter

def find? (parameter : ChoiceParameter) (word : String) : Option Choice :=
  if parameter.keyed then Choice.parse? parameter.choices word
  else Choice.byKey? parameter.choices word

def keys (parameter : ChoiceParameter) : List String :=
  parameter.choices.map Choice.key

def refusal (parameter : ChoiceParameter) (word : String) : String :=
  "Invalid value '" ++ word ++ "'. Must be one of: " ++ ", ".intercalate parameter.keys

def convert (parameter : ChoiceParameter) (word : String) : Except String Choice :=
  match parameter.find? word with
  | some choice => .ok choice
  | none => .error (parameter.refusal word)

end ChoiceParameter

end TemplateSpacing
