import TemplateSpacing.Number.Places
import TemplateSpacing.Value.Basic

/-! # Formats

A format is a text with places for values.  A place starts with a percent sign and ends with the letter
of a conversion; between them stand a key in parentheses, flags, a width and a precision.  Places take
the values in order, or those of a table by key; a star takes a width or a precision from the values.
-/

set_option autoImplicit false

namespace TemplateSpacing.Log

open TemplateSpacing.Number (Double)

inductive FormatError
  | wrongArguments
  | noSuchKey (key : String)
  | outOfRange
  | noNumber
  | incomplete
  | incompleteKey
  | widthTooBig
  | precisionTooBig
  | unsupported (conversion : Char) (index : Nat)
  | unwritable (e : Value.LiteralError)
deriving DecidableEq, Repr

def FormatError.message : FormatError → String
  | .wrongArguments => "arguments do not fit the format"
  | .noSuchKey key => Text.quoted key
  | .outOfRange => "a value is out of range"
  | .noNumber => "cannot convert float NaN to integer"
  | .incomplete => "incomplete format"
  | .incompleteKey => "incomplete format key"
  | .widthTooBig => "width too big"
  | .precisionTooBig => "precision too big"
  | .unsupported c index =>
    let shown := if 31 ≤ c.toNat && c.toNat < 127 then c else '?'
    "unsupported format character '" ++ String.ofList [shown] ++ "' (0x" ++
      String.ofList (Nat.toDigits 16 c.toNat) ++ ") at index " ++ toString index
  | .unwritable e => e.message

/-! ## Values -/

structure Supply where
  table : Option (Entries Value)
  left : List Value

namespace Supply

/-- The supply of some arguments: a table that is the only one and not empty is looked up by key, and
may be taken as a whole too. -/
def ofArguments : List Value → Supply
  | [.table (field :: fields)] => ⟨some (field :: fields), [.table (field :: fields)]⟩
  | arguments => ⟨none, arguments⟩

def next (supply : Supply) : Except FormatError (Value × Supply) :=
  match supply.left with
  | [] => .error .wrongArguments
  | value :: rest => .ok (value, { supply with left := rest })

def nextInt (supply : Supply) : Except FormatError (Int × Supply) :=
  match supply.next with
  | .ok (.int n, rest) => .ok (n, rest)
  | .ok (.bool b, rest) => .ok (b.toNat, rest)
  | .ok _ => .error .wrongArguments
  | .error e => .error e

def isSpent (supply : Supply) : Bool :=
  supply.table.isSome || supply.left.isEmpty

end Supply

/-! ## Places -/

structure Place where
  flags : List Char
  width : Nat
  precision : Option Nat

def Place.has (place : Place) (flag : Char) : Bool :=
  place.flags.contains flag

def closeKey : Nat → List Char → Option (List Char × List Char)
  | _, [] => none
  | depth, c :: rest =>
    if c = ')' && depth = 0 then some ([], rest)
    else
      let inner := if c = '(' then depth + 1 else if c = ')' then depth - 1 else depth
      (closeKey inner rest).map fun (key, left) => (c :: key, left)

/-- The supply after the key of a place: the value of the key is all that is left. -/
def readKey (supply : Supply) : List Char → Except FormatError (Supply × List Char)
  | '(' :: rest =>
    match supply.table, closeKey 0 rest with
    | none, _ => .error .wrongArguments
    | some _, none => .error .incompleteKey
    | some fields, some (key, left) =>
      match Entries.find? (String.ofList key) fields with
      | some value => .ok ({ supply with left := [value] }, left)
      | none => .error (.noSuchKey (String.ofList key))
  | cs => .ok (supply, cs)

def isFlag (c : Char) : Bool :=
  ['-', '+', ' ', '#', '0'].contains c

def readCount (cs : List Char) : Nat × List Char :=
  let isDigit := fun (c : Char) => '0' ≤ c && c ≤ '9'
  ((cs.takeWhile isDigit).foldl (fun sum c => 10 * sum + (c.toNat - 48)) 0, cs.dropWhile isDigit)

def greatestWidth : Nat := Nat.pow 2 63 - 1

def greatestPrecision : Nat := Nat.pow 2 31 - 1

/-- The flags and the width of a place; a negative width from the values flushes left. -/
def readWidth (flags : List Char) (supply : Supply) :
    List Char → Except FormatError (Place × Supply × List Char)
  | '*' :: rest => do
    let (n, supply) ← supply.nextInt
    if greatestWidth < n.natAbs then throw .outOfRange
    return (⟨if n < 0 then '-' :: flags else flags, n.natAbs, none⟩, supply, rest)
  | cs =>
    let (width, rest) := readCount cs
    if greatestWidth < width then .error .widthTooBig else .ok (⟨flags, width, none⟩, supply, rest)

def readPrecision (place : Place) (supply : Supply) :
    List Char → Except FormatError (Place × Supply × List Char)
  | '.' :: '*' :: rest => do
    let (n, supply) ← supply.nextInt
    if (greatestPrecision : Int) < n || n < -(greatestPrecision + 1 : Int) then throw .outOfRange
    return ({ place with precision := some n.toNat }, supply, rest)
  | '.' :: cs =>
    let (precision, rest) := readCount cs
    if greatestPrecision < precision then .error .precisionTooBig
    else .ok ({ place with precision := some precision }, supply, rest)
  | cs => .ok (place, supply, cs)

/-- The text after a letter that says how long a value is, which changes nothing. -/
def skipLength : List Char → List Char
  | c :: rest => if c = 'h' || c = 'l' || c = 'L' then rest else c :: rest
  | [] => []

def readPlace (supply : Supply) (cs : List Char) :
    Except FormatError (Place × Supply × List Char) := do
  let (supply, cs) ← readKey supply cs
  let (place, supply, cs) ← readWidth (cs.takeWhile isFlag) supply (cs.dropWhile isFlag)
  let (place, supply, cs) ← readPrecision place supply cs
  return (place, supply, skipLength cs)

/-! ## Conversions -/

/-- A converted value: the mark of its base and its text; a number also has a sign, and its width may
be filled with zeros. -/
structure Converted where
  sign : Option Bool
  mark : String
  body : String

def Converted.ofText (body : String) : Converted := ⟨none, "", body⟩

def Place.filled (place : Place) (value : Converted) : String :=
  let sign :=
    match value.sign with
    | none => ""
    | some true => "-"
    | some false => if place.has '+' then "+" else if place.has ' ' then " " else ""
  let missing := place.width - (sign.length + value.mark.length + value.body.length)
  let fill := fun c => String.ofList (List.replicate missing c)
  if place.has '-' then sign ++ value.mark ++ value.body ++ fill ' '
  else if value.sign.isSome && place.has '0' then sign ++ value.mark ++ fill '0' ++ value.body
  else fill ' ' ++ sign ++ value.mark ++ value.body

def asciiOnly (text : String) : String :=
  String.ofList (text.toList.flatMap fun c =>
    if c.toNat < 128 then [c]
    else if c.toNat < 0x100 then '\\' :: 'x' :: Text.hexDigits 2 c.toNat
    else if c.toNat < 0x10000 then '\\' :: 'u' :: Text.hexDigits 4 c.toNat
    else '\\' :: 'U' :: Text.hexDigits 8 c.toNat)

def convertText (place : Place) (text : String) : Converted :=
  .ofText (place.precision.elim text fun n => String.ofList (text.toList.take n))

def baseOf (letter : Char) : Nat :=
  if letter = 'o' then 8 else if letter = 'x' || letter = 'X' then 16 else 10

/-- The integer of a value; a double loses its fraction if the base is ten. -/
def integerOf (base : Nat) : Value → Except FormatError Int
  | .int n => .ok n
  | .bool b => .ok b.toNat
  | .double d =>
    if base ≠ 10 then .error .wrongArguments
    else
      match d with
      | .nan => .error .noNumber
      | .infinite _ => .error .outOfRange
      | finite => .ok finite.truncated
  | _ => .error .wrongArguments

def capitals (text : String) : String :=
  String.ofList (text.toList.map Char.toUpper)

def convertInteger (place : Place) (letter : Char) (value : Value) :
    Except FormatError Converted := do
  let n ← integerOf (baseOf letter) value
  let precision := place.precision.getD 0
  if greatestPrecision < precision + 3 then throw .outOfRange
  if baseOf letter = 10 then
    let _ ← (Value.intLiteral n).mapError .unwritable
  let digits := Nat.toDigits (baseOf letter) n.natAbs
  let body := String.ofList (List.replicate (precision - digits.length) '0' ++ digits)
  let mark := if baseOf letter ≠ 10 && place.has '#' then String.ofList ['0', letter] else ""
  return ⟨some (decide (n < 0)), mark, if letter = 'X' then capitals body else body⟩

def doubleOf : Value → Except FormatError Double
  | .double d => .ok d
  | .bool b => .ok (Double.ofDecimal false b.toNat 0)
  | .int n =>
    match Double.ofDecimal (decide (n < 0)) n.natAbs 0 with
    | .infinite _ => .error .outOfRange
    | d => .ok d
  | _ => .error .wrongArguments

def usualPrecision : Nat := 6

def convertDouble (place : Place) (layout : Double.Layout) (isCapital : Bool) (value : Value) :
    Except FormatError Converted := do
  let d ← doubleOf value
  let body := d.placed layout (place.has '#') (place.precision.getD usualPrecision)
  return ⟨some d.isNegative, "", if isCapital then capitals body else body⟩

def greatestCode : Nat := 0x10ffff

def convertCharacter : Value → Except FormatError Converted
  | .text s => if s.length = 1 then .ok (.ofText s) else .error .wrongArguments
  | .int n =>
    if 0 ≤ n && n ≤ greatestCode then .ok (.ofText (String.ofList [Char.ofNat n.toNat]))
    else .error .outOfRange
  | .bool b => .ok (.ofText (String.ofList [Char.ofNat b.toNat]))
  | _ => .error .wrongArguments

/-- A value by its text or its literal, if it can be written. -/
def convertWritten (place : Place) (written : Except Value.LiteralError String) :
    Except FormatError Converted :=
  (written.map (convertText place)).mapError .unwritable

def convert? (place : Place) (letter : Char) (value : Value) :
    Option (Except FormatError Converted) :=
  match letter with
  | 's' => some (convertWritten place value.shown)
  | 'r' => some (convertWritten place value.literal)
  | 'a' => some (convertWritten place (value.literal.map asciiOnly))
  | 'c' => some (convertCharacter value)
  | 'e' => some (convertDouble place .scientific false value)
  | 'E' => some (convertDouble place .scientific true value)
  | 'f' => some (convertDouble place .fixed false value)
  | 'F' => some (convertDouble place .fixed true value)
  | 'g' => some (convertDouble place .general false value)
  | 'G' => some (convertDouble place .general true value)
  | letter =>
    if ['d', 'i', 'u', 'o', 'x', 'X'].contains letter then some (convertInteger place letter value)
    else none

/-! ## Texts -/

/-- The text of a format whose full length is given; fuel bounds its characters. -/
def fillFrom (length : Nat) : Nat → Supply → List Char → Except FormatError String
  | 0, _, _ => .ok ""
  | _, supply, [] => if supply.isSpent then .ok "" else .error .wrongArguments
  | fuel + 1, supply, '%' :: '%' :: rest => do
    return "%" ++ (← fillFrom length fuel supply rest)
  | fuel + 1, supply, '%' :: cs => do
    match ← readPlace supply cs with
    | (_, _, []) => throw .incomplete
    | (place, supply, letter :: rest) =>
      let (value, supply) ← supply.next
      match convert? place letter value with
      | none => throw (.unsupported letter (length - rest.length - 1))
      | some converted =>
        let text := place.filled (← converted)
        return text ++ (← fillFrom length fuel supply rest)
  | fuel + 1, supply, c :: rest => do
    return String.ofList [c] ++ (← fillFrom length fuel supply rest)

/-- The message of a format; without arguments the format is the message. -/
def formatMessage (format : String) (arguments : List Value) : Except FormatError String :=
  if arguments.isEmpty then .ok format
  else fillFrom format.length (format.length + 1) (.ofArguments arguments) format.toList

end TemplateSpacing.Log
