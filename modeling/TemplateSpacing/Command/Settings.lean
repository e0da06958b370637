import TemplateSpacing.Command.Misuse
import TemplateSpacing.Files.Disk

/-! # Settings

What the arguments of a part of the command line set.  The last value of a switch counts, except that
configuration files add up.  Values are looked at in the order in which their switches first came, so
that the first bad one is reported; when help is asked for, none is.
-/

set_option autoImplicit false

namespace TemplateSpacing.Command

open TemplateSpacing.Config (Mode)
open TemplateSpacing.Files (Disk)
open TemplateSpacing.Pass (Pipeline)

structure Settings where
  quiet : Nat
  verbose : Nat
  noColor : Bool
  color : Option ColorMode
  mode : Option Mode
  files : List String
  noConfig : Bool
  format : Option OutputFormat
  pipeline : Pipeline
  nested : Bool
deriving DecidableEq, Repr

namespace Settings

def initial : Settings where
  quiet := 0
  verbose := 0
  noColor := false
  color := none
  mode := none
  files := []
  noConfig := false
  format := none
  pipeline := .preprocess
  nested := false

def pickLast {α : Type} (parameter : ChoiceParameter) (items : List α) (choice : α → Choice)
    (values : List String) : Except BadValue (Option α) :=
  match values.getLast? with
  | none => .ok none
  | some word => (pick parameter items choice word).mapError .refused

def lastPipeline (values : List String) : Except BadValue Pipeline :=
  match values.getLast? with
  | none => .ok .preprocess
  | some word =>
    match Pipeline.ofName? word with
    | some pipeline => .ok pipeline
    | none => .error (.noneOf word (Pipeline.all.map Pipeline.name))

def checkFiles (disk : Disk) : List String → Except BadValue Unit
  | [] => .ok ()
  | name :: rest =>
    match disk.findWritten name with
    | .error .embeddedNull => .error (.unusable name)
    | .error _ => .error (.noFile name)
    | .ok (.file _) => checkFiles disk rest
    | .ok .closedFile => .error (.unreadable name)
    | .ok _ => .error (.isDirectory name)

def take (disk : Disk) (arguments : Arguments) (settings : Settings) (switch : Switch) :
    Except BadValue Settings :=
  let values := arguments.values switch
  match switch with
  | .quiet => .ok { settings with quiet := arguments.count switch }
  | .verbose => .ok { settings with verbose := arguments.count switch }
  | .noColor => .ok { settings with noColor := true }
  | .color =>
    (pickLast colorParameter ColorMode.all ColorMode.choice values).map fun color =>
      { settings with color := color }
  | .mode =>
    (pickLast modeParameter Mode.all Mode.choice values).map fun mode =>
      { settings with mode := mode }
  | .config => (checkFiles disk values).map fun _ => { settings with files := values }
  | .noConfig => .ok { settings with noConfig := true }
  | .format =>
    (pickLast formatParameter OutputFormat.all OutputFormat.choice values).map fun format =>
      { settings with format := format }
  | .pipeline => (lastPipeline values).map fun pipeline => { settings with pipeline := pipeline }
  | .nested => .ok { settings with nested := true }
  | .help => .ok settings

def takeAll (disk : Disk) (arguments : Arguments) :
    Settings → List Switch → Except Misuse Settings
  | settings, [] => .ok settings
  | settings, switch :: rest =>
    match settings.take disk arguments switch with
    | .error flaw => .error (.badValue switch flaw)
    | .ok changed => takeAll disk arguments changed rest

end Settings

/-- What the arguments of a part of the command line ask for: its help, or work with settings on
words. -/
inductive Request
  | help
  | work (settings : Settings) (words : List String)
deriving DecidableEq, Repr

def Scope.extraWords (scope : Scope) (words : List String) : List String :=
  match scope.wordLimit? with
  | none => []
  | some limit => words.drop limit

/-- What arguments ask a part of the command line for. -/
def Scope.request (scope : Scope) (disk : Disk) (arguments : List String) :
    Except Misuse Request := do
  let read ← (readArguments scope arguments).mapError .argument
  if read.has .help then return .help
  let settings ← Settings.initial.takeAll disk read read.switches
  let extra := scope.extraWords read.words
  if extra.isEmpty then return .work settings read.words else throw (.extraWords extra)

end TemplateSpacing.Command
