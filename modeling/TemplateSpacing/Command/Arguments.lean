import TemplateSpacing.Command.Switch
import TemplateSpacing.Text.Quoted
import TemplateSpacing.Text.Similar

/-! # Arguments

The switches and words that arguments are made of.  A switch is its name, perhaps with a value behind
an equals sign, or a cluster of letters behind one hyphen; a value that is not attached is the next
argument, whatever it looks like.  Two hyphens end the switches.  For the program itself the first
word ends them as well, because it names a command.
-/

set_option autoImplicit false

namespace TemplateSpacing.Command

inductive ArgumentError
  | noValue (switch : Switch)
  | unwantedValue (switch : Switch)
  | noSuchLetter (letter : Char)
  | noSuchName (name : String) (close : List String)
deriving DecidableEq, Repr

structure Given where
  switch : Switch
  value : Option String
deriving DecidableEq, Repr

structure Arguments where
  given : List Given
  words : List String
deriving DecidableEq, Repr

/-- What one argument stands for: switches, or one that still needs its value. -/
inductive Reading
  | complete (given : List Given)
  | awaiting (switch : Switch)
deriving DecidableEq, Repr

def Scope.switchNamed? (scope : Scope) (name : String) : Option Switch :=
  scope.switches.find? fun switch => switch.name = name

def Scope.switchLettered? (scope : Scope) (letter : Char) : Option Switch :=
  scope.switches.find? fun switch => switch.letter? = some letter

def splitValue (argument : String) : String × Option String :=
  match argument.toList.dropWhile (· ≠ '=') with
  | [] => (argument, none)
  | _ :: value =>
    (String.ofList (argument.toList.takeWhile (· ≠ '=')), some (String.ofList value))

/-- The switches of a cluster of letters; those that are written as letters take no values. -/
def readLetters (scope : Scope) : List Char → Except ArgumentError (List Given)
  | [] => .ok []
  | letter :: rest =>
    match scope.switchLettered? letter with
    | none => .error (.noSuchLetter letter)
    | some switch => (readLetters scope rest).map (⟨switch, none⟩ :: ·)

def isSwitch (argument : String) : Bool :=
  match argument.toList with
  | '-' :: _ :: _ => true
  | _ => false

def endOfSwitches : String := "--"

def readSwitch (scope : Scope) (argument : String) : Except ArgumentError Reading :=
  let (name, value) := splitValue argument
  match scope.switchNamed? name with
  | some switch =>
    match value, switch.takesValue with
    | some value, true => .ok (.complete [⟨switch, some value⟩])
    | some _, false => .error (.unwantedValue switch)
    | none, true => .ok (.awaiting switch)
    | none, false => .ok (.complete [⟨switch, none⟩])
  | none =>
    match argument.toList with
    | '-' :: '-' :: _ =>
      .error (.noSuchName name (Text.closeTo name (scope.switches.map Switch.name)))
    | letters => (readLetters scope (letters.drop 1)).map .complete

def readFrom (scope : Scope) (read : Arguments) : List String → Except ArgumentError Arguments
  | [] => .ok read
  | argument :: rest =>
    if argument = endOfSwitches then .ok ⟨read.given, read.words ++ rest⟩
    else if isSwitch argument then
      match readSwitch scope argument with
      | .error e => .error e
      | .ok (.complete given) => readFrom scope ⟨read.given ++ given, read.words⟩ rest
      | .ok (.awaiting switch) =>
        match rest with
        | [] => .error (.noValue switch)
        | value :: others =>
          readFrom scope ⟨read.given ++ [⟨switch, some value⟩], read.words⟩ others
    else
      match scope with
      | .program => .ok ⟨read.given, read.words ++ argument :: rest⟩
      | .verb _ => readFrom scope ⟨read.given, read.words ++ [argument]⟩ rest

def readArguments (scope : Scope) (arguments : List String) : Except ArgumentError Arguments :=
  readFrom scope ⟨[], []⟩ arguments

namespace Arguments

def has (arguments : Arguments) (switch : Switch) : Bool :=
  arguments.given.any fun given => given.switch = switch

def count (arguments : Arguments) (switch : Switch) : Nat :=
  arguments.given.countP fun given => given.switch = switch

def values (arguments : Arguments) (switch : Switch) : List String :=
  arguments.given.filterMap fun given => if given.switch = switch then given.value else none

def switches (arguments : Arguments) : List Switch :=
  (arguments.given.map Given.switch).foldl (fun seen switch =>
    if seen.contains switch then seen else seen ++ [switch]) []

end Arguments

end TemplateSpacing.Command
