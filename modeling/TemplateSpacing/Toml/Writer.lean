import TemplateSpacing.Value.Basic

/-! # Writing configuration documents

A table is written as its plain entries and then its blocks: inner tables and lists of tables in their
order, each under a header of its own; a table that holds nothing but blocks needs no header.  A blank
line stands before a block that is not the first thing in its table.  Null entries are left out, but a
null in a list cannot be written.
-/

set_option autoImplicit false

namespace TemplateSpacing.Toml

/-! ## Strings and keys -/

def writtenChar (c : Char) : List Char :=
  let n := c.toNat
  if c = '"' then ['\\', '"']
  else if c = '\\' then ['\\', '\\']
  else if c = '\n' then ['\\', 'n']
  else if c = '\r' then ['\\', 'r']
  else if c = '\t' then ['\\', 't']
  else if n = 8 then ['\\', 'b']
  else if n = 12 then ['\\', 'f']
  else if n < 32 || n = 127 then '\\' :: 'u' :: Text.hexDigits 4 n
  else [c]

def writtenString (s : String) : String :=
  String.ofList ('"' :: s.toList.flatMap writtenChar ++ ['"'])

def writtenKey (key : String) : String :=
  let isBare := fun (c : Char) => c.isAlphanum || c = '-' || c = '_'
  if key ≠ "" && key.toList.all isBare then key else writtenString key

/-! ## Values on one line -/

mutual

def inlineText? : Value → Option String
  | .null => none
  | .bool b => some (if b then "true" else "false")
  | .int n => some (toString n)
  | .double d => some d.text
  | .text s => some (writtenString s)
  | .moment m => some m.text
  | .list items => (inlineItems? items).map fun texts => "[" ++ ", ".intercalate texts ++ "]"
  | .table fields => (inlineFields? fields).map fun texts => "\x7b" ++ ", ".intercalate texts ++ "\x7d"

def inlineItems? : List Value → Option (List String)
  | [] => some []
  | item :: rest =>
    match inlineText? item, inlineItems? rest with
    | some text, some texts => some (text :: texts)
    | _, _ => none

def inlineFields? : List (String × Value) → Option (List String)
  | [] => some []
  | (key, value) :: rest =>
    match inlineText? value, inlineFields? rest with
    | some text, some texts => some ((writtenKey key ++ " = " ++ text) :: texts)
    | _, _ => none

end

/-! ## Blocks -/

def tableElements? : Value → Option (List (Entries Value))
  | .list (item :: rest) => (item :: rest).mapM Value.fields?
  | _ => none

/-- Whether an entry is written as a block of its own. -/
def isBlock (value : Value) : Bool :=
  value.fields?.isSome || (tableElements? value).isSome

/-- Whether a table is written without a header. -/
def needsNoHeader (fields : Entries Value) : Bool :=
  !fields.isEmpty && fields.all fun field => isBlock field.2

def headerText (keys : List String) : String :=
  ".".intercalate (keys.map writtenKey)

def blankLine (wanted : Bool) : String :=
  if wanted then "\n" else ""

def joined? (texts : List (Option String)) : Option String :=
  (texts.mapM id).map String.join

def plainText? (fields : Entries Value) : Option String :=
  joined? <| (fields.filter fun field => !isBlock field.2).map fun (key, value) =>
    (inlineText? value).map fun text => writtenKey key ++ " = " ++ text ++ "\n"

mutual

/-- The entries of a table that stands at some keys: fuel bounds the depth of the tables in it. -/
def bodyText? : Nat → List String → Entries Value → Option String
  | 0, _, _ => some ""
  | fuel + 1, keys, fields =>
    let blocks := fields.filter fun field => isBlock field.2
    let blockTexts := blocks.zipIdx.map fun ((key, value), index) =>
      let isFirst := index = 0 && blocks.length = fields.length
      blockText? fuel (keys ++ [key]) isFirst value
    joined? (plainText? fields :: blockTexts)

/-- A block under its keys; it may be the first thing in its table. -/
def blockText? : Nat → List String → Bool → Value → Option String
  | 0, _, _, _ => some ""
  | fuel + 1, keys, isFirst, .table inner =>
    let header := if needsNoHeader inner then "" else "[" ++ headerText keys ++ "]\n"
    (bodyText? fuel keys inner).map fun text => blankLine (!isFirst) ++ header ++ text
  | fuel + 1, keys, isFirst, value =>
    let elements := (tableElements? value).getD []
    joined? <| elements.zipIdx.map fun (element, index) =>
      let isSpaced :=
        match index with
        | 0 => !isFirst
        | before + 1 => elements[before]?.any fun fields => !fields.isEmpty
      (bodyText? fuel keys element).map fun text =>
        blankLine isSpaced ++ "[[" ++ headerText keys ++ "]]\n" ++ text

end

mutual

def withoutNulls : Value → Value
  | .table fields => .table (entriesWithoutNulls fields)
  | value => value

def entriesWithoutNulls : List (String × Value) → List (String × Value)
  | [] => []
  | (key, value) :: rest =>
    if value.isNull then entriesWithoutNulls rest
    else (key, withoutNulls value) :: entriesWithoutNulls rest

end

mutual

def depthOf : Value → Nat
  | .list items => depthOfItems items + 1
  | .table fields => depthOfFields fields + 1
  | _ => 0

def depthOfItems : List Value → Nat
  | [] => 0
  | item :: rest => max (depthOf item) (depthOfItems rest)

def depthOfFields : List (String × Value) → Nat
  | [] => 0
  | (_, value) :: rest => max (depthOf value) (depthOfFields rest)

end

def text? (fields : Entries Value) : Option String :=
  let clean := entriesWithoutNulls fields
  bodyText? (2 * depthOfFields clean + 1) [] clean

end TemplateSpacing.Toml
