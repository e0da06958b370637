import TemplateSpacing.Value.Basic

/-! # Writing JSON

Values as ASCII text: every other character, and the delete character, is escaped by its UTF-16
units.  One layout keeps a value on one line, the other puts every item and entry on its own.
-/

set_option autoImplicit false

namespace TemplateSpacing.Json

def unitEscape (unit : Nat) : List Char :=
  '\\' :: 'u' :: Text.hexDigits 4 unit

def writtenChar (c : Char) : List Char :=
  let n := c.toNat
  if c = '"' then ['\\', '"']
  else if c = '\\' then ['\\', '\\']
  else if c = '\n' then ['\\', 'n']
  else if c = '\r' then ['\\', 'r']
  else if c = '\t' then ['\\', 't']
  else if n = 8 then ['\\', 'b']
  else if n = 12 then ['\\', 'f']
  else if 32 ≤ n && n < 127 then [c]
  else if n < 0x10000 then unitEscape n
  else unitEscape (0xD800 + (n - 0x10000) / 0x400) ++ unitEscape (0xDC00 + (n - 0x10000) % 0x400)

def writtenString (s : String) : String :=
  String.ofList ('"' :: s.toList.flatMap writtenChar ++ ['"'])

def writtenDouble : Number.Double → String
  | .nan => "NaN"
  | .infinite negative => if negative then "-Infinity" else "Infinity"
  | d => d.text

def writtenScalar : Value → String
  | .null => "null"
  | .bool b => if b then "true" else "false"
  | .int n => toString n
  | .double d => writtenDouble d
  | .text s => writtenString s
  | .moment m => writtenString m.text
  | .list _ => "[]"
  | .table _ => "\x7b\x7d"

/-! ## On one line -/

/-- How the parts of a list or table are separated on one line. -/
structure Separators where
  item : String
  key : String

def spaced : Separators := ⟨", ", ": "⟩

def dense : Separators := ⟨",", ":"⟩

mutual

def writeLine (sep : Separators) : Value → String
  | .list items => "[" ++ writeLineItems sep items ++ "]"
  | .table fields => "\x7b" ++ writeLineFields sep fields ++ "\x7d"
  | value => writtenScalar value

def writeLineItems (sep : Separators) : List Value → String
  | [] => ""
  | [item] => writeLine sep item
  | item :: rest => writeLine sep item ++ sep.item ++ writeLineItems sep rest

def writeLineFields (sep : Separators) : List (String × Value) → String
  | [] => ""
  | [(key, value)] => writtenString key ++ sep.key ++ writeLine sep value
  | (key, value) :: rest =>
    writtenString key ++ sep.key ++ writeLine sep value ++ sep.item ++ writeLineFields sep rest

end

/-! ## Indented -/

def newLine (depth : Nat) : String :=
  "\n" ++ String.ofList (List.replicate (2 * depth) ' ')

mutual

def writeIndented (depth : Nat) : Value → String
  | .list (item :: rest) =>
    "[" ++ newLine (depth + 1) ++ writeIndentedItems (depth + 1) (item :: rest) ++ newLine depth ++ "]"
  | .table (field :: rest) =>
    "\x7b" ++ newLine (depth + 1) ++ writeIndentedFields (depth + 1) (field :: rest) ++
      newLine depth ++ "\x7d"
  | value => writtenScalar value

def writeIndentedItems (depth : Nat) : List Value → String
  | [] => ""
  | [item] => writeIndented depth item
  | item :: rest =>
    writeIndented depth item ++ "," ++ newLine depth ++ writeIndentedItems depth rest

def writeIndentedFields (depth : Nat) : List (String × Value) → String
  | [] => ""
  | [(key, value)] => writtenString key ++ ": " ++ writeIndented depth value
  | (key, value) :: rest =>
    writtenString key ++ ": " ++ writeIndented depth value ++ "," ++ newLine depth ++
      writeIndentedFields depth rest

end

def text (value : Value) : String :=
  writeIndented 0 value

end TemplateSpacing.Json
