import TemplateSpacing.Number.Double

/-! # Dates and times

The calendar values that a configuration document may hold, with the form in which documents write
them and the form in which messages show them.
-/

set_option autoImplicit false

namespace TemplateSpacing

structure Date where
  year : Nat
  month : Nat
  day : Nat
deriving DecidableEq, Repr

structure Clock where
  hour : Nat
  minute : Nat
  second : Nat
  microsecond : Nat
deriving DecidableEq, Repr

/-- A distance from universal time: universal time itself, or a signed number of hours and
minutes. -/
inductive Offset
  | universal
  | shifted (negative : Bool) (hours minutes : Nat)
deriving DecidableEq, Repr

inductive Moment
  | date (d : Date)
  | time (c : Clock)
  | dateTime (d : Date) (c : Clock) (offset : Option Offset)
deriving DecidableEq, Repr

def paddedDigits (width n : Nat) : String :=
  let ds := Nat.toDigits 10 n
  String.ofList (List.replicate (width - ds.length) '0' ++ ds)

def isLeapYear (year : Nat) : Bool :=
  year % 4 = 0 && (year % 100 ≠ 0 || year % 400 = 0)

def daysInMonth (year month : Nat) : Nat :=
  if month = 2 then (if isLeapYear year then 29 else 28)
  else if month = 4 || month = 6 || month = 9 || month = 11 then 30
  else 31

def Date.isValid (d : Date) : Bool :=
  1 ≤ d.year && d.year ≤ 9999 && 1 ≤ d.month && d.month ≤ 12 && 1 ≤ d.day &&
    d.day ≤ daysInMonth d.year d.month

/-- Whether a time is on the clock; there are no leap seconds. -/
def Clock.isValid (c : Clock) : Bool :=
  c.hour < 24 && c.minute < 60 && c.second < 60 && c.microsecond < 1000000

def Date.text (d : Date) : String :=
  paddedDigits 4 d.year ++ "-" ++ paddedDigits 2 d.month ++ "-" ++ paddedDigits 2 d.day

def Clock.text (c : Clock) : String :=
  paddedDigits 2 c.hour ++ ":" ++ paddedDigits 2 c.minute ++ ":" ++ paddedDigits 2 c.second ++
    (if c.microsecond = 0 then "" else "." ++ paddedDigits 6 c.microsecond)

def Offset.text : Offset → String
  | .universal => "+00:00"
  | .shifted negative hours minutes =>
    (if negative && (hours ≠ 0 || minutes ≠ 0) then "-" else "+") ++ paddedDigits 2 hours ++ ":" ++
      paddedDigits 2 minutes

def Moment.text : Moment → String
  | .date d => d.text
  | .time c => c.text
  | .dateTime d c offset => d.text ++ "T" ++ c.text ++ (offset.map Offset.text).getD ""

def Date.parts (d : Date) : List String :=
  [toString d.year, toString d.month, toString d.day]

/-- The parts of a time in a message; seconds and microseconds are left out when they are zero and
nothing follows them. -/
def Clock.parts (c : Clock) : List String :=
  [toString c.hour, toString c.minute] ++
    (if c.microsecond ≠ 0 then [toString c.second, toString c.microsecond]
     else if c.second ≠ 0 then [toString c.second] else [])

/-- The span between universal time and an offset, in whole days and seconds, with the name of the
offset. -/
def Offset.span : Offset → String
  | .universal => "datetime.timezone(datetime.timedelta(0), 'UTC')"
  | .shifted negative hours minutes =>
    let seconds := hours * 3600 + minutes * 60
    let span :=
      if seconds = 0 then "0"
      else if negative then "days=-1, seconds=" ++ toString (86400 - seconds)
      else "seconds=" ++ toString seconds
    "datetime.timezone(datetime.timedelta(" ++ span ++ "), '" ++ (if negative then "-" else "+") ++
      paddedDigits 2 hours ++ ":" ++ paddedDigits 2 minutes ++ "')"

def Moment.literal : Moment → String
  | .date d => "datetime.date(" ++ ", ".intercalate d.parts ++ ")"
  | .time c => "datetime.time(" ++ ", ".intercalate c.parts ++ ")"
  | .dateTime d c offset =>
    let place := (offset.map fun o => ["tzinfo=" ++ o.span]).getD []
    "datetime.datetime(" ++ ", ".intercalate (d.parts ++ c.parts ++ place) ++ ")"

def Moment.kindName : Moment → String
  | .date _ => "date"
  | .time _ => "time"
  | .dateTime _ _ _ => "datetime"

end TemplateSpacing
