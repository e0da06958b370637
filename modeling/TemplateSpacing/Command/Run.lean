import TemplateSpacing.Command.Exit
import TemplateSpacing.Command.Settings
import TemplateSpacing.Config.Discovery
import TemplateSpacing.Json.Reader
import TemplateSpacing.Json.Writer
import TemplateSpacing.Log.Line
import TemplateSpacing.Pass.Run
import TemplateSpacing.Terminal.Console
import TemplateSpacing.Tree.Outline

/-! # Runs of the program

What the program writes and how it ends, as a function of its surroundings.  The program reads its own
switches, finds the command, and only then decides how much is said; the command reads its switches
after that.  A run that cannot go on ends with a refusal, which is reported, or breaks down, which is
left to the system.
-/

set_option autoImplicit false

namespace TemplateSpacing.Command

open TemplateSpacing.Config (ConfigError LoadFault)
open TemplateSpacing.Files (Disk FileError Path)
open TemplateSpacing.Log (Logged Record LevelError)
open TemplateSpacing.Terminal (Console Style Styler)
open TemplateSpacing.Tree (Node Fault DecodeError)

def version : String := "0.1.0"

/-- What the program leaves to others: to take arguments apart, and to read and write configuration
documents. -/
structure Toolkit where
  request : Scope → Disk → List String → Except Misuse Request
  reader : Config.DocumentReader
  writer : Entries Value → Option String

structure Surroundings where
  arguments : List String
  environment : Entries String
  disk : Disk
  input : List UInt8
  isTerminal : Bool

/-! ## Endings -/

inductive Refusal
  | moreAndLess
  | badConfig (e : ConfigError)
  | noSuchFile (source : String)
  | unreadable (source : String) (e : FileError)
  | notText (source : String) (e : Text.Utf8Error)
  | badJson (source : String) (e : Json.ReadError)
  | tooDeep (source : String)
  | badTree (source : String) (e : DecodeError)
  | fault (source : String) (f : Fault)

namespace Refusal

def ending : Refusal → Exit
  | .moreAndLess => .usage
  | .badConfig _ => .config
  | .noSuchFile _ => .noInput
  | .unreadable _ _ => .io
  | .notText _ _ => .io
  | .badJson _ _ => .input
  | .tooDeep _ => .input
  | .badTree _ _ => .input
  | .fault _ _ => .pipeline

def message : Refusal → String
  | .moreAndLess =>
    "The '" ++ Switch.verbose.name ++ "' and '" ++ Switch.quiet.name ++
      "' options are mutually exclusive."
  | .badConfig e => e.message
  | .noSuchFile source => "No such file: " ++ source
  | .unreadable source e =>
    "Cannot read " ++ source ++ ": " ++ e.message (Path.ofString source).text
  | .notText source e => "Cannot read " ++ source ++ ": " ++ e.message
  | .badJson source e => source ++ ": invalid JSON: " ++ e.message
  | .tooDeep source => source ++ ": JSON nesting is too deep to decode"
  | .badTree source e => source ++ ": " ++ e.message
  | .fault source f => source ++ ": " ++ f.message

end Refusal

/-- What a run breaks down on: a level that is no number, a path that cannot be looked up, a
configuration file that is no text or no usable document, input that is no text, an integer in the
input that is too long, a value there that cannot be written, or a tree that cannot be. -/
inductive Breakdown
  | badLevel (e : LevelError)
  | badPath (path : String) (e : FileError)
  | badFile (f : LoadFault)
  | inputNotText (e : Text.Utf8Error)
  | longInteger (digits : Nat)
  | unwritable (e : Value.LiteralError)
  | fault (f : Fault)

def Breakdown.message : Breakdown → String
  | .badLevel e => levelVariable ++ ": " ++ e.message
  | .badPath path e => e.message path
  | .badFile (.refused e) => e.message
  | .badFile (.unwritable e) => e.message
  | .badFile (.unusable e) => e.message "."
  | .badFile (.notText e) => e.message
  | .badFile .toolNotTable => "[" ++ Config.toolKey ++ "] is not a table"
  | .badFile (.unread name) => name
  | .inputNotText e => e.message
  | .longInteger digits => "an integer has " ++ toString digits ++ " digits"
  | .unwritable e => e.message
  | .fault f => f.message

/-- Why a run stops before its end; what was written until then is known if it matters. -/
inductive Stop
  | help (scope : Scope)
  | misuse (scope : Scope) (m : Misuse)
  | refused (r : Refusal)
  | broken (b : Breakdown)
  | interrupted (written : List String) (b : Breakdown)

structure Manner where
  verbose : Nat
  level : Nat
  colored : Bool
deriving DecidableEq, Repr

/-- The manner of a run that stops before the switches of the program are read. -/
def Manner.initial : Manner := ⟨0, Log.Severity.warning.level, false⟩

structure Finished where
  code : Nat
  out : String
  err : String
  breakdown : Option Breakdown

/-! ## The program's own switches -/

def Manner.of (surroundings : Surroundings) (settings : Settings) : Except Stop Manner := do
  let chosen ←
    match verbosityLevel? settings.verbose settings.quiet with
    | some level => .ok level
    | none => .error (.refused .moreAndLess)
  let asked ← (Log.requestedLevel (levelSetting surroundings.environment)).mapError fun e =>
    .broken (.badLevel e)
  let color := if settings.noColor then ColorMode.never else settings.color.getD .auto
  return ⟨settings.verbose, asked.getD chosen,
    wantsColor surroundings.environment (some color) none surroundings.isTerminal⟩

section Running

variable (tools : Toolkit)

def requested (surroundings : Surroundings) (scope : Scope) (arguments : List String) :
    Except Stop (Settings × List String) :=
  match tools.request scope surroundings.disk arguments with
  | .error (.badValue _ (.unusable name)) => .error (.broken (.badPath name .embeddedNull))
  | .error m => .error (.misuse scope m)
  | .ok .help => .error (.help scope)
  | .ok (.work settings words) => .ok (settings, words)

/-- The command that the words of the program start with, and the other words.  Words that name no
command are read as arguments of the program once more, so that switches among them are heeded. -/
def findVerb (surroundings : Surroundings) :
    List String → Except Stop (Option (Verb × List String))
  | [] => .ok none
  | name :: rest =>
    match Verb.ofName? name with
    | some verb => .ok (some (verb, rest))
    | none => do
      let _ ← requested tools surroundings .program (name :: rest)
      .error (.misuse .program (.noSuchCommand name (Text.closeTo name (Verb.all.map Verb.name))))

/-! ## Commands -/

def configFor (surroundings : Surroundings) (settings : Settings) : Logged Stop Config :=
  let outcome := Log.runLogged (Config.build tools.reader surroundings.disk (Path.ofString ".")
    (settings.files.map Path.ofString) settings.noConfig settings.mode)
  Log.ofRecords (outcome.1, outcome.2.mapError fun fault =>
    match fault with
    | .refused e => .refused (.badConfig e)
    | other => .broken (.badFile other))

def inputName : String := "-"

def readSource (surroundings : Surroundings) (source : String) : Except Stop String :=
  if source = inputName then
    (Text.readText surroundings.input).mapError fun e => .broken (.inputNotText e)
  else
    match surroundings.disk.exists? (Path.ofString source) with
    | .error e => .error (.broken (.badPath source e))
    | .ok false => .error (.refused (.noSuchFile source))
    | .ok true =>
      match surroundings.disk.read (Path.ofString source) with
      | .error e => .error (.refused (.unreadable source e))
      | .ok bytes => (Text.readText bytes).mapError fun e => .refused (.notText source e)

def loadTree (surroundings : Surroundings) (source : String) : Except Stop Node := do
  let text ← readSource surroundings source
  let document ← (Json.read Value.deepestNesting text).mapError fun e =>
    match e with
    | .tooDeep => .refused (.tooDeep source)
    | .longInteger digits => .broken (.longInteger digits)
    | flaw => .refused (.badJson source flaw)
  (Tree.decode document).mapError fun e =>
    match e with
    | .unwritable e => .broken (.unwritable e)
    | e => .refused (.badTree source e)

def titleStyle : Style := Style.plain.withAttribute .bold

def underlinedStyle : Style := titleStyle.withAttribute .underline

def annotate (surroundings : Surroundings) (manner : Manner) (styler : Styler)
    (settings : Settings) (words : List String) : Logged Stop (List String) := do
  let config ← configFor tools surroundings settings
  let source := words.headD inputName
  let root ← Log.ofRecords ([], loadTree surroundings source)
  let outcome := Pass.preprocess config settings.pipeline root
  let finished := outcome.fault.elim (.ok outcome.state) fun fault =>
    .error (.refused (.fault source fault))
  let annotated ← Log.ofRecords (outcome.log, finished)
  match settings.format.getD .default with
  | .json =>
    let document ← Log.ofRecords ([], (Tree.encode annotated).mapError fun fault =>
      .broken (.fault fault))
    return [Json.text document]
  | .default =>
    let label := if source = inputName then "<stdin>" else source
    let title := styler titleStyle ("SpaceMark annotations for " ++ label ++ ":\n")
    let written := if 0 < manner.verbose then [title] else []
    let lines ← Log.ofRecords ([], (Tree.draw styler annotated).mapError fun fault =>
      .interrupted written (.fault fault))
    return written ++ lines

def withoutFinalLines (text : String) : String :=
  String.ofList (text.toList.reverse.dropWhile fun c => c = '\n').reverse

def dumpConfig (surroundings : Surroundings) (settings : Settings) :
    Logged Stop (List String) := do
  let config ← configFor tools surroundings settings
  Log.emit (Log.traced ("Config after merging CLI and discovered config: " ++ config.literal))
  let fields := config.toFields
  let fields := if settings.nested then Config.nestUnderTool Config.ownKey fields else fields
  let document := (tools.writer fields).getD ""
  return config.files.map (fun file => "# source: " ++ file) ++
    ["# === BEGIN ===", withoutFinalLines document, "# === END ==="]

def showVersion (manner : Manner) (styler : Styler) (settings : Settings) : List String :=
  match settings.format.getD .default with
  | .json => [Json.writeLine Json.spaced (.table [("version", .text version)])]
  | .default =>
    let shown := styler titleStyle version
    if 0 < manner.verbose then
      [styler underlinedStyle "SpaceMark version:\n", "    " ++ shown]
    else [shown]

def perform (surroundings : Surroundings) (manner : Manner) (styler : Styler) (verb : Verb)
    (settings : Settings) (words : List String) : Logged Stop (List String) :=
  match verb with
  | .annotate => annotate tools surroundings manner styler settings words
  | .dumpConfig => dumpConfig tools surroundings settings
  | .version => return showVersion manner styler settings

def hint : List String :=
  ["Hint: use '" ++ Scope.programName ++ " " ++ Verb.annotate.name ++
    " FILE' to annotate a template tree.", ""] ++ Scope.program.help

def performRequested (surroundings : Surroundings) (manner : Manner) (styler : Styler) :
    Option (Verb × List String) → Logged Stop (List String)
  | none => return hint
  | some (verb, arguments) => do
    let (settings, words) ← Log.ofRecords ([], requested tools surroundings (.verb verb) arguments)
    perform tools surroundings manner styler verb settings words

/-! ## Whole runs -/

def finishStopped (console : Console) : Stop → Finished
  | .help scope =>
    let console := scope.help.foldl (fun console line => console.print true line) console
    ⟨Exit.success.code, console.out, console.err, none⟩
  | .misuse scope m =>
    let console := (m.report scope).foldl (fun console line => console.remark true line) console
    ⟨misuseCode, console.out, console.err, none⟩
  | .refused r =>
    let console := console.remark true ("Error: " ++ r.message)
    ⟨r.ending.code, console.out, console.err, none⟩
  | .broken b => ⟨Exit.failure.code, console.out, console.err, some b⟩
  | .interrupted written b =>
    let console := written.foldl (fun console line => console.print true line) console
    ⟨Exit.failure.code, console.out, console.err, some b⟩

def logText (level : Nat) (records : List Record) : String :=
  String.join ((Log.above level records).map fun record =>
    Log.line false record.severity.level record.message ++ "\n")

def finish (manner : Manner) (outcome : List Record × Except Stop (List String)) : Finished :=
  let fresh := Console.fresh manner.colored
  let console := { fresh with err := logText manner.level outcome.1 }
  match outcome.2 with
  | .error stop => finishStopped console stop
  | .ok lines =>
    let console := lines.foldl (fun console line => console.print true line) console
    ⟨Exit.success.code, console.out, console.err, none⟩

def prepare (surroundings : Surroundings) :
    Except Stop (Manner × Option (Verb × List String)) := do
  let (settings, words) ← requested tools surroundings .program surroundings.arguments
  let verb ← findVerb tools surroundings words
  return (← Manner.of surroundings settings, verb)

def readsInput (surroundings : Surroundings) : Bool :=
  match prepare tools surroundings with
  | .ok (_, some (.annotate, arguments)) =>
    match requested tools surroundings (.verb .annotate) arguments with
    | .ok (_, words) => words.headD inputName = inputName
    | .error _ => false
  | _ => false

def run (surroundings : Surroundings) : Finished :=
  match prepare tools surroundings with
  | .error stop => finish .initial ([], .error stop)
  | .ok (manner, verb) =>
    let styler := (Console.fresh manner.colored).styler
    finish manner (Log.runLogged (performRequested tools surroundings manner styler verb))

end Running

end TemplateSpacing.Command
