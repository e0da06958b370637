import TemplateSpacing.Text.Blank
import TemplateSpacing.Text.Digit
import TemplateSpacing.Text.Quoted

/-! # Log levels

The named levels, and the level that a setting asks for: a name in any letter case, or a number in
decimal digits of any script.  Some characters count as digits without being decimal ones, so a
setting made of digits may still be refused as a number.
-/

set_option autoImplicit false

namespace TemplateSpacing.Log

inductive Severity
  | trace
  | debug
  | info
  | warning
  | error
  | critical
deriving DecidableEq, Repr

def Severity.level : Severity → Nat
  | .trace => 5
  | .debug => 10
  | .info => 20
  | .warning => 30
  | .error => 40
  | .critical => 50

def Severity.name : Severity → String
  | .trace => "TRACE"
  | .debug => "DEBUG"
  | .info => "INFO"
  | .warning => "WARNING"
  | .error => "ERROR"
  | .critical => "CRITICAL"

def Severity.all : List Severity :=
  [.trace, .debug, .info, .warning, .error, .critical]

def levelName (level : Int) : String :=
  if level = 0 then "NOTSET"
  else
    match Severity.all.find? fun s => (s.level : Int) = level with
    | some s => s.name
    | none => "Level " ++ toString level

def namedLevels : List (String × Nat) :=
  Severity.all.map (fun s => (s.name, s.level)) ++
    [("WARN", Severity.warning.level), ("FATAL", Severity.critical.level), ("NOTSET", 0)]

inductive LevelError
  | notDecimal (text : String)
  | tooLong (digits : Nat)
deriving DecidableEq, Repr

/-- The most characters of a refused setting, with its quotes, that a refusal shows. -/
def longestShown : Nat := 200

def LevelError.message : LevelError → String
  | .notDecimal text =>
    "invalid literal for int() with base 10: " ++
      String.ofList ((Text.quoted text).toList.take longestShown)
  | .tooLong digits =>
    "Exceeds the limit (" ++ toString Text.longestInteger ++
      " digits) for integer string conversion: value has " ++ toString digits ++
      " digits; use sys.set_int_max_str_digits() to increase the limit"

/-- The number that a text of digits denotes.  The decimal digits that it starts with are counted
before anything else is looked at. -/
def digitsLevel (text : String) : Except LevelError Nat :=
  let digits := (text.toList.takeWhile fun c => (Text.decimalValue? c).isSome).length
  if Text.longestInteger < digits then .error (.tooLong digits)
  else
    match Text.decimalNumber? text.toList with
    | none => .error (.notDecimal text)
    | some n => .ok n

/-- The level that a setting asks for; none when it is empty or unknown. -/
def requestedLevel (setting : String) : Except LevelError (Option Nat) :=
  if setting = "" then .ok none
  else
    let text := Text.upper (Text.strip setting)
    if text ≠ "" && text.toList.all Text.isDigitLike then (digitsLevel text).map some
    else .ok (namedLevels.lookup text)

end TemplateSpacing.Log
