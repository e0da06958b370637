import TemplateSpacing.Entries
import TemplateSpacing.Number.Double
import TemplateSpacing.Value.Moment
import TemplateSpacing.Text.Digit
import TemplateSpacing.Text.Quoted

/-! # Document values

The values that trees and configurations are made of: what a JSON text can hold, and the moments
that only a configuration document can.  Numbers are exact, tables keep the order of their keys.
-/

set_option autoImplicit false

namespace TemplateSpacing

open TemplateSpacing.Number (Double)

inductive Value
  | null
  | bool (b : Bool)
  | int (n : Int)
  | double (d : Double)
  | text (s : String)
  | moment (m : Moment)
  | list (items : List Value)
  | table (fields : List (String × Value))

namespace Value

instance : Inhabited Value := ⟨.null⟩

def kindName : Value → String
  | .null => "NoneType"
  | .bool _ => "bool"
  | .int _ => "int"
  | .double _ => "float"
  | .text _ => "str"
  | .moment m => m.kindName
  | .list _ => "list"
  | .table _ => "dict"

/-- Whether a value counts as true: false are null, zero, and whatever is empty. -/
def isTruthy : Value → Bool
  | .null => false
  | .bool b => b
  | .int n => n ≠ 0
  | .double d => !d.isZero
  | .text s => s ≠ ""
  | .moment _ => true
  | .list items => !items.isEmpty
  | .table fields => !fields.isEmpty

def isNull : Value → Bool
  | .null => true
  | _ => false

def text? : Value → Option String
  | .text s => some s
  | _ => none

def fields? : Value → Option (Entries Value)
  | .table fields => some fields
  | _ => none

/-! ## Literals in messages

A value may have no literal: integers are written with so many digits at most, and lists and tables
only so deep inside one another.
-/

inductive LiteralError
  | longInteger
  | tooDeep
deriving DecidableEq, Repr

def LiteralError.message : LiteralError → String
  | .longInteger =>
    "Exceeds the limit (" ++ toString Text.longestInteger ++
      " digits) for integer string conversion; use sys.set_int_max_str_digits() to increase the limit"
  | .tooDeep => "maximum recursion depth exceeded while getting the repr of an object"

def boolLiteral (b : Bool) : String :=
  if b then "True" else "False"

def isLong (n : Int) : Bool :=
  Nat.pow 10 Text.longestInteger ≤ n.natAbs

def intLiteral (n : Int) : Except LiteralError String :=
  if isLong n then .error .longInteger else .ok (toString n)

mutual

/-- The literal of a value inside at most `room` lists and tables; what cannot be written first, from
the left, is reported. -/
def literalWithin (room : Nat) : Value → Except LiteralError String
  | .null => .ok "None"
  | .bool b => .ok (boolLiteral b)
  | .int n => intLiteral n
  | .double d => .ok d.text
  | .text s => .ok (Text.quoted s)
  | .moment m => .ok m.literal
  | .list items =>
    match room with
    | 0 => .error .tooDeep
    | room + 1 =>
      (itemLiterals room items).map fun written => "[" ++ ", ".intercalate written ++ "]"
  | .table fields =>
    match room with
    | 0 => .error .tooDeep
    | room + 1 =>
      (fieldLiterals room fields).map fun written => "\x7b" ++ ", ".intercalate written ++ "\x7d"

def itemLiterals (room : Nat) : List Value → Except LiteralError (List String)
  | [] => .ok []
  | item :: rest =>
    (item.literalWithin room).bind fun written => (itemLiterals room rest).map (written :: ·)

def fieldLiterals (room : Nat) : List (String × Value) → Except LiteralError (List String)
  | [] => .ok []
  | (key, value) :: rest =>
    (value.literalWithin room).bind fun written =>
      (fieldLiterals room rest).map ((Text.quoted key ++ ": " ++ written) :: ·)

end

/-- The most lists and tables inside one another that a document is read from or a literal has. -/
def deepestNesting : Nat := 980

def literal (value : Value) : Except LiteralError String :=
  value.literalWithin deepestNesting

/-- A value as plain text: a string or a moment as it is written, anything else as its literal. -/
def shown : Value → Except LiteralError String
  | .text s => .ok s
  | .moment m => .ok m.text
  | value => value.literal

end Value

end TemplateSpacing
