import TemplateSpacing.Value.Basic

/-! # Reading JSON

One document value from a text.  A refusal names what was expected and where, by line, column and
offset.  Keys of an object keep the place of their first occurrence and the value of their last one.
-/

set_option autoImplicit false

namespace TemplateSpacing.Json

open TemplateSpacing.Number (Double)

inductive Flaw
  | byteOrderMark
  | noValue
  | noPropertyName
  | noColon
  | noComma
  | controlCharacter
  | escape
  | unicodeEscape
  | openString
  | extraData
deriving DecidableEq, Repr

def Flaw.message : Flaw → String
  | .byteOrderMark => "Unexpected UTF-8 BOM (decode using utf-8-sig)"
  | .noValue => "Expecting value"
  | .noPropertyName => "Expecting property name enclosed in double quotes"
  | .noColon => "Expecting ':' delimiter"
  | .noComma => "Expecting ',' delimiter"
  | .controlCharacter => "Invalid control character at"
  | .escape => "Invalid \\escape"
  | .unicodeEscape => "Invalid \\uXXXX escape"
  | .openString => "Unterminated string starting at"
  | .extraData => "Extra data"

/-- Why reading stopped: a flaw at the start of what is left of the text, more levels of nesting
than are allowed, or an integer with more digits than are allowed. -/
inductive Stop
  | flaw (what : Flaw) (left : List Char)
  | tooDeep
  | longInteger (digits : Nat)

abbrev Read (α : Type) := Except Stop (α × List Char)

def isSpace (c : Char) : Bool :=
  c = ' ' || c = '\t' || c = '\n' || c = '\r'

def skipSpace (cs : List Char) : List Char :=
  cs.dropWhile isSpace

/-! ## Strings -/

def hexValue? (c : Char) : Option Nat :=
  if '0' ≤ c && c ≤ '9' then some (c.toNat - 48)
  else if 'a' ≤ c && c ≤ 'f' then some (c.toNat - 87)
  else if 'A' ≤ c && c ≤ 'F' then some (c.toNat - 55)
  else none

def hexNumber? (cs : List Char) : Option Nat :=
  cs.foldlM (fun sum c => (hexValue? c).map (16 * sum + ·)) 0

def escaped? : Char → Option Char
  | '"' => some '"'
  | '\\' => some '\\'
  | '/' => some '/'
  | 'b' => some '\x08'
  | 'f' => some '\x0c'
  | 'n' => some '\n'
  | 'r' => some '\r'
  | 't' => some '\t'
  | _ => none

/-- Puts a code unit before the reversed ones; the low half of a surrogate pair is joined with the
high half. -/
def pushUnit (unit : Nat) : List Nat → List Nat
  | high :: units =>
    if 0xD800 ≤ high && high ≤ 0xDBFF && 0xDC00 ≤ unit && unit ≤ 0xDFFF then
      (0x10000 + (high - 0xD800) * 0x400 + (unit - 0xDC00)) :: units
    else unit :: high :: units
  | [] => [unit]

/-- The character of a code point; a lone half of a surrogate pair is shown as the replacement
character. -/
def unitChar (unit : Nat) : Char :=
  if 0xD800 ≤ unit && unit ≤ 0xDFFF then '\uFFFD' else Char.ofNat unit

/-- Reads the code points of a string up to its closing quote; `start` is the text from the opening
quote on, and the code points read so far are reversed. -/
def readUnits (start : List Char) : List Nat → List Char → Read (List Nat)
  | _, [] => .error (.flaw .openString start)
  | units, '"' :: rest => .ok (units, rest)
  | _, '\\' :: [] => .error (.flaw .openString start)
  | units, '\\' :: 'u' :: a :: b :: c :: d :: rest =>
    match hexNumber? [a, b, c, d] with
    | some unit =>
      if rest.isEmpty then .error (.flaw .unicodeEscape ('u' :: a :: b :: c :: d :: rest))
      else readUnits start (pushUnit unit units) rest
    | none => .error (.flaw .unicodeEscape ('u' :: a :: b :: c :: d :: rest))
  | _, '\\' :: 'u' :: rest => .error (.flaw .unicodeEscape ('u' :: rest))
  | units, '\\' :: c :: rest =>
    match escaped? c with
    | some image => readUnits start (image.toNat :: units) rest
    | none => .error (.flaw .escape ('\\' :: c :: rest))
  | units, c :: rest =>
    if c.toNat < 32 then .error (.flaw .controlCharacter (c :: rest))
    else readUnits start (c.toNat :: units) rest

def readString (start rest : List Char) : Read String :=
  match readUnits start [] rest with
  | .ok (units, left) => .ok (String.ofList (units.reverse.map unitChar), left)
  | .error stop => .error stop

/-! ## Numbers -/

def isDigit (c : Char) : Bool :=
  '0' ≤ c && c ≤ '9'

def digitsNumber (cs : List Char) : Nat :=
  cs.foldl (fun sum c => 10 * sum + (c.toNat - 48)) 0

def wholeDigits : List Char → List Char × List Char
  | '0' :: rest => (['0'], rest)
  | cs => (cs.takeWhile isDigit, cs.dropWhile isDigit)

def fractionDigits (cs : List Char) : List Char × List Char :=
  match cs with
  | '.' :: rest =>
    match rest.takeWhile isDigit with
    | [] => ([], cs)
    | digits => (digits, rest.dropWhile isDigit)
  | _ => ([], cs)

def exponent? (cs : List Char) : Option Int × List Char :=
  match cs with
  | e :: rest =>
    if e = 'e' || e = 'E' then
      let (negative, tail) :=
        match rest with
        | '-' :: tail => (true, tail)
        | '+' :: tail => (false, tail)
        | _ => (false, rest)
      match tail.takeWhile isDigit with
      | [] => (none, cs)
      | digits =>
        let size : Int := digitsNumber digits
        (some (if negative then -size else size), tail.dropWhile isDigit)
    else (none, cs)
  | [] => (none, cs)

def readNumber (start : List Char) : Read Value :=
  let (negative, body) :=
    match start with
    | '-' :: rest => (true, rest)
    | _ => (false, start)
  match wholeDigits body with
  | ([], _) => .error (.flaw .noValue start)
  | (whole, afterWhole) =>
    let (fraction, afterFraction) := fractionDigits afterWhole
    let (exponent, left) := exponent? afterFraction
    if fraction.isEmpty && exponent.isNone then
      if Text.longestInteger < whole.length then .error (.longInteger whole.length)
      else
        let size : Int := digitsNumber whole
        .ok (.int (if negative then -size else size), left)
    else
      let digits := digitsNumber (whole ++ fraction)
      .ok (.double (Double.ofDecimal negative digits (exponent.getD 0 - fraction.length)), left)

/-! ## Values -/

def words : List (String × Value) :=
  [("null", .null), ("true", .bool true), ("false", .bool false), ("NaN", .double .nan),
    ("Infinity", .double (.infinite false)), ("-Infinity", .double (.infinite true))]

def readWord? (cs : List Char) : Option (Value × List Char) :=
  words.findSome? fun (word, value) =>
    let letters := word.toList
    if letters.isPrefixOf cs then some (value, cs.drop letters.length) else none

mutual

/-- Reads a value inside at most `depth` lists and objects; every call uses up one unit of fuel. -/
def readValue : Nat → Nat → List Char → Read Value
  | 0, _, cs => .error (.flaw .noValue cs)
  | fuel + 1, depth, cs =>
    match cs with
    | '"' :: rest =>
      match readString cs rest with
      | .ok (s, left) => .ok (.text s, left)
      | .error stop => .error stop
    | '\x7b' :: rest =>
      if depth = 0 then .error .tooDeep
      else
        match skipSpace rest with
        | '\x7d' :: left => .ok (.table [], left)
        | inside => readFields fuel (depth - 1) [] inside
    | '[' :: rest =>
      if depth = 0 then .error .tooDeep
      else
        match skipSpace rest with
        | ']' :: left => .ok (.list [], left)
        | inside => readItems fuel (depth - 1) [] inside
    | _ =>
      match readWord? cs with
      | some found => .ok found
      | none => readNumber cs

def readItems : Nat → Nat → List Value → List Char → Read Value
  | 0, _, _, cs => .error (.flaw .noValue cs)
  | fuel + 1, depth, items, cs =>
    match readValue fuel depth cs with
    | .error stop => .error stop
    | .ok (item, rest) =>
      match skipSpace rest with
      | ']' :: left => .ok (.list (item :: items).reverse, left)
      | ',' :: more => readItems fuel depth (item :: items) (skipSpace more)
      | other => .error (.flaw .noComma other)

def readFields : Nat → Nat → List (String × Value) → List Char → Read Value
  | 0, _, _, cs => .error (.flaw .noPropertyName cs)
  | fuel + 1, depth, fields, cs =>
    match cs with
    | '"' :: inside =>
      match readString cs inside with
      | .error stop => .error stop
      | .ok (key, rest) =>
        match skipSpace rest with
        | ':' :: more =>
          match readValue fuel depth (skipSpace more) with
          | .error stop => .error stop
          | .ok (value, after) =>
            match skipSpace after with
            | '\x7d' :: left => .ok (.table (Entries.ofWrites ((key, value) :: fields).reverse), left)
            | ',' :: next => readFields fuel depth ((key, value) :: fields) (skipSpace next)
            | other => .error (.flaw .noComma other)
        | other => .error (.flaw .noColon other)
    | other => .error (.flaw .noPropertyName other)

end

/-! ## Documents -/

/-- A place in a text: line and column from one, offset from zero. -/
structure Place where
  line : Nat
  column : Nat
  offset : Nat
deriving DecidableEq, Repr

def Place.after (before : List Char) : Place where
  line := before.count '\n' + 1
  column := (before.reverse.takeWhile (· ≠ '\n')).length + 1
  offset := before.length

inductive ReadError
  | malformed (flaw : Flaw) (place : Place)
  | tooDeep
  | longInteger (digits : Nat)
deriving DecidableEq, Repr

def ReadError.message : ReadError → String
  | .malformed flaw place =>
    flaw.message ++ ": line " ++ toString place.line ++ " column " ++ toString place.column ++
      " (char " ++ toString place.offset ++ ")"
  | .tooDeep => "nesting is too deep"
  | .longInteger digits => "an integer has " ++ toString digits ++ " digits"

def Stop.toError (text : List Char) : Stop → ReadError
  | .flaw what left => .malformed what (Place.after (text.take (text.length - left.length)))
  | .tooDeep => .tooDeep
  | .longInteger digits => .longInteger digits

def readDocument (depth : Nat) (text : List Char) : Except Stop Value :=
  match text with
  | '\uFEFF' :: _ => .error (.flaw .byteOrderMark text)
  | _ =>
    match readValue (2 * text.length + 2) depth (skipSpace text) with
    | .error stop => .error stop
    | .ok (value, rest) =>
      match skipSpace rest with
      | [] => .ok value
      | other => .error (.flaw .extraData other)

def read (depth : Nat) (s : String) : Except ReadError Value :=
  (readDocument depth s.toList).mapError (Stop.toError s.toList)
end TemplateSpacing.Json
