import TemplateSpacing.Command.Arguments
import TemplateSpacing.Command.Help

/-! # Misuse

What a user is told when the arguments cannot be understood: how the part of the command line that
refuses them is used, and what is wrong.
-/

set_option autoImplicit false

namespace TemplateSpacing.Command

inductive BadValue
  | refused (message : String)
  | noneOf (value : String) (choices : List String)
  | noFile (name : String)
  | isDirectory (name : String)
  | unreadable (name : String)
  | unusable (name : String)
deriving DecidableEq, Repr

def BadValue.message : BadValue → String
  | .refused message => message
  | .noneOf value choices =>
    Text.quoted value ++ " is not one of " ++ ", ".intercalate (choices.map Text.quoted) ++ "."
  | .noFile name => "File " ++ Text.quoted name ++ " does not exist."
  | .isDirectory name => "File " ++ Text.quoted name ++ " is a directory."
  | .unreadable name => "File " ++ Text.quoted name ++ " is not readable."
  | .unusable name => "File " ++ Text.quoted name ++ " cannot be looked up."

inductive Misuse
  | argument (e : ArgumentError)
  | badValue (switch : Switch) (flaw : BadValue)
  | extraWords (words : List String)
  | noSuchCommand (name : String) (close : List String)
deriving DecidableEq, Repr

namespace Misuse

def suggestion (close : List String) : String :=
  match close.mergeSort fun a b => !(b < a) with
  | [] => ""
  | [name] => " Did you mean " ++ Text.quoted name ++ "?"
  | names => " (Did you mean one of: " ++ ", ".intercalate (names.map Text.quoted) ++ "?)"

def message : Misuse → String
  | .argument (.noValue switch) => "Option " ++ Text.quoted switch.name ++ " requires an argument."
  | .argument (.unwantedValue switch) =>
    "Option " ++ Text.quoted switch.name ++ " does not take a value."
  | .argument (.noSuchLetter letter) =>
    "No such option " ++ Text.quoted ("-" ++ String.ofList [letter]) ++ "."
  | .argument (.noSuchName name close) =>
    "No such option " ++ Text.quoted name ++ "." ++ suggestion close
  | .badValue switch flaw => "Invalid value for " ++ Text.quoted switch.name ++ ": " ++ flaw.message
  | .extraWords words =>
    (if words.length = 1 then "Got unexpected extra argument (" else
      "Got unexpected extra arguments (") ++ joinWords words ++ ")"
  | .noSuchCommand name close => "No such command " ++ Text.quoted name ++ "." ++ suggestion close

/-- Whether a refusal comes with the usage: a refusal that is about the value of a known switch alone
does not. -/
def showsUsage : Misuse → Bool
  | .argument (.noValue _) => false
  | .argument (.unwantedValue _) => false
  | _ => true

def report (scope : Scope) (misuse : Misuse) : List String :=
  let usage :=
    [scope.usage, "Try '" ++ scope.path ++ " " ++ Switch.help.name ++ "' for help.", ""]
  (if misuse.showsUsage then usage else []) ++ ["Error: " ++ misuse.message]

end Misuse

end TemplateSpacing.Command
