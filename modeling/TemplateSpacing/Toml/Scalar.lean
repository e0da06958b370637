import TemplateSpacing.Text.Blank
import TemplateSpacing.Text.Case
import TemplateSpacing.Text.Digit
import TemplateSpacing.Value.Basic

/-! # Scalars of configuration documents

Numbers, dates and times from the run of characters that makes one word of a document.  Decimal
digits of any script count in numbers, but only ASCII digits in dates and times; the seconds of a time
may be left out.
-/

set_option autoImplicit false

namespace TemplateSpacing.Toml

open TemplateSpacing.Number (Double)

/-! ## Numbers -/

def splitSign : List Char → Bool × List Char
  | '-' :: rest => (true, rest)
  | '+' :: rest => (false, rest)
  | cs => (false, cs)

def startsWithAny (words : List String) (cs : List Char) : Bool :=
  words.any fun word => word.toList.isPrefixOf cs

/-- The base that the start of an integer stands for. -/
def baseOf (cs : List Char) : Nat :=
  if startsWithAny ["0b"] cs then 2
  else if startsWithAny ["0o"] cs then 8
  else if startsWithAny ["0x"] cs then 16
  else 10

def digitOf? (base : Nat) (c : Char) : Option Nat :=
  let value :=
    if 'a' ≤ c && c ≤ 'f' then some (c.toNat - 87)
    else if 'A' ≤ c && c ≤ 'F' then some (c.toNat - 55)
    else Text.decimalValue? c
  value.filter (· < base)

def isBaseDigit (base : Nat) (c : Char) : Bool :=
  c.toNat < 128 && (digitOf? base c).isSome

/-- The text without the underscores that stand between two ASCII digits of a base; `before` is the
character in front. -/
def withoutSeparators (base : Nat) : Option Char → List Char → List Char
  | _, [] => []
  | before, '_' :: rest =>
    if before.any (isBaseDigit base) && rest.head?.any (isBaseDigit base) then
      withoutSeparators base (some '_') rest
    else '_' :: withoutSeparators base (some '_') rest
  | _, c :: rest => c :: withoutSeparators base (some c) rest

def digitsNumber? (base : Nat) (cs : List Char) : Option Nat :=
  if cs.isEmpty then none
  else cs.foldlM (fun sum c => (digitOf? base c).map (base * sum + ·)) 0

def integer? (isNegative : Bool) (base : Nat) (digits : List Char) : Option Value :=
  if base = 10 && Text.longestInteger < digits.length then none
  else
    (digitsNumber? base digits).map fun n => .int (if isNegative then -(n : Int) else n)

def exponent? : List Char → Option Int
  | [] => some 0
  | 'e' :: rest =>
    let (isBelow, digits) := splitSign rest
    (digitsNumber? 10 digits).map fun n => if isBelow then -(n : Int) else n
  | _ => none

def double? (isNegative : Bool) (text : List Char) : Option Value :=
  let isDecimal := fun (c : Char) => (Text.decimalValue? c).isSome
  let whole := text.takeWhile isDecimal
  let afterWhole := text.dropWhile isDecimal
  let (fraction, afterFraction) :=
    match afterWhole with
    | '.' :: rest => (rest.takeWhile isDecimal, rest.dropWhile isDecimal)
    | _ => ([], afterWhole)
  match digitsNumber? 10 (whole ++ fraction), exponent? afterFraction with
  | some digits, some e =>
    some (.double (Double.ofDecimal isNegative digits (e - fraction.length)))
  | _, _ => none

/-- The starts of a number that a zero may make up with what follows it. -/
def zeroForms : List String := ["0.", "0o", "0x", "0b", "0e", "0E"]

/-- The number that a word denotes.  Decimal numbers have no leading zeros, a point stands between
digits, underscores stand between digits, and only decimal numbers have a sign. -/
def number? (word : List Char) : Option Value :=
  let isSigned := startsWithAny ["+", "-"] word
  let (isNegative, body) := splitSign word
  let base := baseOf body
  let clean := (Text.lower (String.ofList (withoutSeparators base none body))).toList
  let beforeExponent := clean.takeWhile (· ≠ 'e')
  let text := Text.trimEnd clean
  if body = "inf".toList then some (.double (.infinite isNegative))
  else if body = "nan".toList then some (.double .nan)
  else if 1 < body.length &&
      ((startsWithAny ["0"] body && !startsWithAny zeroForms body) ||
        (isSigned && startsWithAny ["."] body)) then none
  else if isSigned && base ≠ 10 then none
  else if clean.contains '_' || clean.getLast? = some '.' then none
  else if base ≠ 10 then integer? isNegative base (text.drop 2)
  else if beforeExponent.getLast? = some '.' then none
  else if text.all fun c => (Text.decimalValue? c).isSome then integer? isNegative base text
  else double? isNegative text

/-! ## Dates and times -/

def isDigit (c : Char) : Bool :=
  '0' ≤ c && c ≤ '9'

def fixedDigits? (width : Nat) (cs : List Char) : Option (Nat × List Char) :=
  let digits := cs.take width
  if digits.length = width && digits.all isDigit then
    some (digits.foldl (fun sum c => 10 * sum + (c.toNat - 48)) 0, cs.drop width)
  else none

def expect? (allowed : List Char) : List Char → Option (Char × List Char)
  | [] => none
  | c :: rest => if allowed.contains c then some (c, rest) else none

def date? (cs : List Char) : Option (Date × List Char) := do
  let (year, cs) ← fixedDigits? 4 cs
  let (_, cs) ← expect? ['-'] cs
  let (month, cs) ← fixedDigits? 2 cs
  let (_, cs) ← expect? ['-'] cs
  let (day, cs) ← fixedDigits? 2 cs
  let date : Date := ⟨year, month, day⟩
  if date.isValid then some (date, cs) else none

/-- The microseconds of a fraction, cut after six digits, and what follows. -/
def fraction? (cs : List Char) : Option (Nat × List Char) :=
  match cs with
  | '.' :: rest =>
    match rest.takeWhile isDigit with
    | [] => none
    | digits =>
      let six := (digits ++ List.replicate 6 '0').take 6
      some (six.foldl (fun sum c => 10 * sum + (c.toNat - 48)) 0, rest.dropWhile isDigit)
  | _ => some (0, cs)

def seconds? : List Char → Option ((Nat × Nat) × List Char)
  | ':' :: rest => do
    let (second, rest) ← fixedDigits? 2 rest
    let (microsecond, rest) ← fraction? rest
    return ((second, microsecond), rest)
  | cs => some ((0, 0), cs)

def clock? (cs : List Char) : Option (Clock × List Char) := do
  let (hour, cs) ← fixedDigits? 2 cs
  let (_, cs) ← expect? [':'] cs
  let (minute, cs) ← fixedDigits? 2 cs
  let ((second, microsecond), cs) ← seconds? cs
  let clock : Clock := ⟨hour, minute, second, microsecond⟩
  if clock.isValid then some (clock, cs) else none

/-- An offset that makes up the whole rest of a text; a bar counts as a plus sign. -/
def offset? (cs : List Char) : Option (Option Offset) :=
  match cs with
  | [] => some none
  | ['Z'] => some (some .universal)
  | ['z'] => some (some .universal)
  | _ => do
    let (sign, cs) ← expect? ['+', '-', '|'] cs
    let (hours, cs) ← fixedDigits? 2 cs
    let (_, cs) ← expect? [':'] cs
    let (minutes, cs) ← fixedDigits? 2 cs
    if hours < 24 && minutes < 60 && cs.isEmpty then some (some (.shifted (sign = '-') hours minutes))
    else none

def dateTime? (cs : List Char) : Option Moment := do
  let (date, cs) ← date? cs
  let (_, cs) ← expect? ['T', 't', ' '] cs
  let (clock, cs) ← clock? cs
  return .dateTime date clock (← offset? cs)

def wholeDate? (cs : List Char) : Option Moment :=
  match date? cs with
  | some (date, []) => some (.date date)
  | _ => none

def wholeClock? (cs : List Char) : Option Moment :=
  match clock? cs with
  | some (clock, []) => some (.time clock)
  | _ => none

end TemplateSpacing.Toml
