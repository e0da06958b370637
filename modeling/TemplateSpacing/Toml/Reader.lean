import TemplateSpacing.Text.Blank
import TemplateSpacing.Toml.Document
import TemplateSpacing.Toml.Scalar

/-! # Reading configuration documents

A document is a run of entries followed by blocks, each a header with its own entries.  Blocks whose
headers extend the header of a block are read as parts of it.  A fault inside a block is told from
a clash between blocks, which makes the whole document malformed.
-/

set_option autoImplicit false

namespace TemplateSpacing.Toml

inductive ReadError
  | malformed
  | clash (c : Clash)
deriving DecidableEq, Repr

abbrev Read (α : Type) := Except ReadError (α × List Char)

def isGap (c : Char) : Bool :=
  c = ' ' || c = '\t'

def isGapOrLine (c : Char) : Bool :=
  isGap c || c = '\n'

def isForbidden (c : Char) : Bool :=
  c.toNat = 127 || (c.toNat < 32 && c ≠ '\t')

/-! ## Comments and line ends -/

def skipComment (cs : List Char) : Except ReadError (List Char) :=
  if (cs.takeWhile (· ≠ '\n')).any isForbidden then .error .malformed
  else .ok (cs.dropWhile (· ≠ '\n'))

def endLine (cs : List Char) : Except ReadError (List Char) :=
  match cs.dropWhile isGap with
  | [] => .ok []
  | '\n' :: rest => .ok rest
  | '#' :: rest => (skipComment rest).map (List.drop 1)
  | _ => .error .malformed

def skipLines : Nat → List Char → Except ReadError (List Char)
  | 0, cs => .ok cs
  | fuel + 1, cs =>
    match cs.dropWhile isGapOrLine with
    | '#' :: rest => do skipLines fuel (← skipComment rest)
    | other => .ok other

/-! ## Strings -/

def codeChar? (code : List Char) : Option Char := do
  let n ← if code.all (isBaseDigit 16) then digitsNumber? 16 code else none
  if n.isValidChar then some (Char.ofNat n) else none

def codeWidth? : Char → Option Nat
  | 'x' => some 2
  | 'u' => some 4
  | 'U' => some 8
  | _ => none

def escaped? : Char → Option Char
  | '"' => some '"'
  | '\\' => some '\\'
  | 'b' => some '\x08'
  | 'e' => some '\x1b'
  | 'f' => some '\x0c'
  | 'n' => some '\n'
  | 'r' => some '\r'
  | 't' => some '\t'
  | _ => none

/-- The characters of an escape after its backslash.  In a long string a backslash swallows the end
of the line and the blanks after it. -/
def readEscape (isLong : Bool) : List Char → Read (List Char)
  | [] => .error .malformed
  | c :: rest =>
    if isLong && isGapOrLine c then
      if ((c :: rest).takeWhile isGapOrLine).contains '\n' then
        .ok ([], (c :: rest).dropWhile isGapOrLine)
      else .error .malformed
    else
      match escaped? c with
      | some image => .ok ([image], rest)
      | none =>
        match codeWidth? c with
        | some width =>
          if rest.length < width then .error .malformed
          else
            match codeChar? (rest.take width) with
            | some image => .ok ([image], rest.drop width)
            | none => .error .malformed
        | none => .error .malformed

def readQuoted (quote : Char) (isLong : Bool) : Nat → List Char → List Char → Read String
  | 0, _, _ => .error .malformed
  | _, _, [] => .error .malformed
  | fuel + 1, done, c :: rest =>
    if isForbidden c && !(isLong && c = '\n') then .error .malformed
    else if c = quote then
      if isLong then
        let quotes := (c :: rest).takeWhile (· = quote)
        let left := (c :: rest).dropWhile (· = quote)
        if quotes.length < 3 then readQuoted quote isLong fuel (quotes ++ done) left
        else if 6 ≤ quotes.length then .error .malformed
        else .ok (String.ofList (quotes.drop 3 ++ done).reverse, left)
      else .ok (String.ofList done.reverse, rest)
    else if c = '\\' && quote = '"' then
      match readEscape isLong rest with
      | .ok (image, left) => readQuoted quote isLong fuel (image ++ done) left
      | .error fault => .error fault
    else readQuoted quote isLong fuel (c :: done) rest

def readString (quote : Char) (cs : List Char) : Read (String × Bool) :=
  let fuel := cs.length
  match cs.takeWhile (· = quote), cs.drop 1 with
  | [_], body => (readQuoted quote false fuel [] body).map fun (s, left) => ((s, false), left)
  | [_, _], body => .ok (("", false), body.drop 1)
  | _, body =>
    let body := body.drop 2
    let body :=
      match body with
      | '\n' :: rest => rest
      | _ => body
    (readQuoted quote true fuel [] body).map fun (s, left) => ((s, true), left)

/-! ## Keys -/

def isBare (c : Char) : Bool :=
  c.isAlphanum || c = '-' || c = '_'

def readName (cs : List Char) : Read String :=
  let cs := cs.dropWhile isGap
  match cs with
  | c :: _ =>
    if c = '"' || c = '\'' then
      match readString c cs with
      | .error fault => .error fault
      | .ok ((name, isLong), left) =>
        if isLong then .error .malformed else .ok (name, left.dropWhile isGap)
    else
      match cs.takeWhile isBare with
      | [] => .error .malformed
      | name => .ok (String.ofList name, (cs.dropWhile isBare).dropWhile isGap)
  | [] => .error .malformed

/-- The most keys that dots may join, and the most lists and inline tables around a value. -/
def deepest : Nat := 100

def readKeysUpTo : Nat → List Char → Read (String × List String)
  | 0, _ => .error .malformed
  | count + 1, cs =>
    match readName cs with
    | .error fault => .error fault
    | .ok (name, '.' :: rest) =>
      match readKeysUpTo count rest with
      | .error fault => .error fault
      | .ok ((next, others), left) => .ok ((name, next :: others), left)
    | .ok (name, left) => .ok ((name, []), left)

def readKeys (cs : List Char) : Read (String × List String) :=
  readKeysUpTo deepest cs

def readKeysAndEquals (cs : List Char) :
    Except ReadError ((String × List String) × List Char) := do
  let (keys, rest) ← readKeys cs
  let isSeparator := fun c => isGap c || c = '='
  match (rest.takeWhile isSeparator).count '=' with
  | 0 => .error .malformed
  | 1 => return (keys, rest.dropWhile isSeparator)
  | _ => .error .malformed

/-! ## Values -/

def endsWord (c : Char) : Bool :=
  isGapOrLine c || c = '#' || c = ',' || c = ']' || c = '\x7d'

def readNumber (cs : List Char) : Read Value :=
  match number? (cs.takeWhile (!endsWord ·)) with
  | some value => .ok (value, cs.dropWhile (!endsWord ·))
  | none => .error .malformed

def readNumberOrMoment (cs : List Char) : Read Value :=
  let word := cs.takeWhile (!endsWord ·)
  let left := cs.dropWhile (!endsWord ·)
  match (dateTime? word).or (wholeClock? word), wholeDate? word with
  | some moment, _ => .ok (.moment moment, left)
  | none, some date =>
    let inside := fun c => !endsWord c || c = ' '
    let tail := Text.trimEnd (left.takeWhile inside)
    if tail.isEmpty then .ok (.moment date, left.dropWhile inside)
    else
      match dateTime? (word ++ tail) with
      | some moment => .ok (.moment moment, left.dropWhile inside)
      | none => .error .malformed
  | none, none => readNumber cs

def infiniteWords : List String := ["+inf", "-inf", "inf", "+nan", "-nan", "nan"]

def startsInfinite (cs : List Char) : Bool :=
  infiniteWords.contains (String.ofList ((cs.take 4).takeWhile (!endsWord ·)))

def readWord (word : String) (value : Value) (cs : List Char) : Read Value :=
  if word.toList.isPrefixOf cs then .ok (value, cs.drop word.length) else .error .malformed

/-- A depth that no tables in tables reach: headers and entries have at most `deepest` keys each, and
bringing one level together takes two steps. -/
def mergeDepth : Nat := 8 * deepest

def addInline (parts : List Part) (part : Part) : Except ReadError (List Part) :=
  (append mergeDepth true parts part).mapError .clash

def addPart (parts : List Part) (part : Part) : Except ReadError (List Part) :=
  (do
    let more ← append mergeDepth part.dotted parts part
    view mergeDepth part.key more
    return more : Except Clash (List Part)).mapError .clash

def tableOf (parts : List Part) : Except ReadError Value :=
  ((entriesOf mergeDepth parts).map .table).mapError .clash

mutual

def readValue : Nat → Nat → List Char → Read Value
  | 0, _, _ => .error .malformed
  | _, _, [] => .error .malformed
  | fuel + 1, depth, c :: rest =>
    if c = '"' || c = '\'' then (readString c (c :: rest)).map fun ((s, _), left) => (.text s, left)
    else if c = 't' then readWord "true" (.bool true) (c :: rest)
    else if c = 'f' then readWord "false" (.bool false) (c :: rest)
    else if c = '[' then
      if depth < deepest then readList fuel (depth + 1) [] rest else .error .malformed
    else if c = '\x7b' then
      if depth < deepest then readInline fuel (depth + 1) [] rest else .error .malformed
    else if c = '+' || c = '-' || startsInfinite (c :: rest) then readNumber (c :: rest)
    else if '0' ≤ c && c ≤ '9' then readNumberOrMoment (c :: rest)
    else .error .malformed

def readList : Nat → Nat → List Value → List Char → Read Value
  | 0, _, _, _ => .error .malformed
  | fuel + 1, depth, items, cs =>
    match skipLines cs.length cs with
    | .error fault => .error fault
    | .ok (']' :: rest) => .ok (.list items.reverse, rest)
    | .ok inside =>
      match readValue fuel depth inside with
      | .error fault => .error fault
      | .ok (item, left) =>
        match skipLines left.length left with
        | .error fault => .error fault
        | .ok (',' :: rest) => readList fuel depth (item :: items) rest
        | .ok (']' :: rest) => .ok (.list (item :: items).reverse, rest)
        | .ok _ => .error .malformed

def readInline : Nat → Nat → List Part → List Char → Read Value
  | 0, _, _, _ => .error .malformed
  | fuel + 1, depth, parts, cs =>
    match skipLines cs.length cs with
    | .error fault => .error fault
    | .ok ('\x7d' :: rest) => (tableOf parts).map fun table => (table, rest)
    | .ok inside =>
      match readKeysAndEquals inside with
      | .error fault => .error fault
      | .ok ((key, keys), rest) =>
        match readValue fuel depth rest with
        | .error fault => .error fault
        | .ok (value, left) =>
          match addInline parts (Part.ofKeys value key keys), skipLines left.length left with
          | .error fault, _ => .error fault
          | _, .error fault => .error fault
          | .ok more, .ok (',' :: next) => readInline fuel depth more next
          | .ok more, .ok ('\x7d' :: next) => (tableOf more).map fun table => (table, next)
          | _, _ => .error .malformed

end

def readEntry (cs : List Char) : Except ReadError (Part × List Char) := do
  let ((key, keys), rest) ← readKeysAndEquals cs
  let (value, left) ← readValue (2 * rest.length + 2) 0 rest
  return (Part.ofKeys value key keys, ← endLine left)

/-! ## Blocks -/

structure Header where
  isElement : Bool
  first : String
  others : List String
deriving DecidableEq, Repr

def Header.keys (header : Header) : List String := header.first :: header.others

def readHeaderKeys (cs : List Char) : Read Header :=
  match cs with
  | '[' :: '[' :: rest =>
    (readKeys rest).map fun ((first, others), left) => (⟨true, first, others⟩, left)
  | '[' :: rest =>
    (readKeys rest).map fun ((first, others), left) => (⟨false, first, others⟩, left)
  | _ => .error .malformed

def readHeader (cs : List Char) : Except ReadError (Header × List Char) := do
  let (header, rest) ← readHeaderKeys cs
  match header.isElement, rest with
  | false, ']' :: left => return (header, ← endLine left)
  | true, ']' :: ']' :: left => return (header, ← endLine left)
  | _, _ => .error .malformed

def extends? (keys inner : List String) : Bool :=
  keys.isPrefixOf inner && keys ≠ inner

/-- The item of a block under the first of its keys: the others make implied tables, the outermost
of the given origin. -/
def nested (outermost : Origin) (innermost : Item) : List String → Item
  | [] => innermost
  | [key] => .table outermost [.mk key false innermost]
  | key :: rest => .table outermost [.mk key false (nested .implied innermost rest)]

/-- Ends a block: its tables have to fit together. -/
def endBody (parts : List Part) (left : List Char) : Except ReadError (List Part × List Char) :=
  ((check mergeDepth parts).map fun _ => (parts, left)).mapError .clash

mutual

/-- Reads the entries of a block, and after them the blocks whose headers extend its keys.  `listed`
is the key of the list around the block, if the block is in a later element of it. -/
def readBody : Nat → Option String → List String → List Part → List Char →
    Except ReadError (List Part × List Char)
  | 0, _, _, _, _ => .error .malformed
  | fuel + 1, listed, keys, parts, cs => do
    match ← skipLines cs.length cs with
    | [] => endBody parts []
    | '[' :: rest =>
      let (header, _) ← readHeaderKeys ('[' :: rest)
      if extends? keys header.keys then
        let (part, left) ← readBlock fuel listed keys ('[' :: rest)
        readBody fuel listed keys (← addPart parts part) left
      else endBody parts ('[' :: rest)
    | inside =>
      let (part, left) ← readEntry inside
      readBody fuel listed keys (← addPart parts part) left

/-- Reads a block inside the block with some keys, and after an element of a list the elements that
follow it. -/
def readBlock : Nat → Option String → List String → List Char → Except ReadError (Part × List Char)
  | 0, _, _, _ => .error .malformed
  | fuel + 1, listed, outer, cs => do
    let (header, rest) ← readHeader cs
    let (parts, left) ← readBody fuel listed header.keys [] rest
    match header.keys.drop outer.length with
    | [] => .error .malformed
    | [key] =>
      if header.isElement then
        let inside := if header.others.isEmpty then some header.first else listed
        let (elements, left) ← readElements fuel inside header [parts] left
        return (.mk key false (.tables elements), left)
      else return (.mk key false (.table .written parts), left)
    | key :: others =>
      let innermost := if header.isElement then Item.tables [parts] else .table .written parts
      let origin := if header.isElement && listed = some key then Origin.element else .implied
      return (.mk key false (nested origin innermost others), left)

def readElements : Nat → Option String → Header → List (List Part) → List Char →
    Except ReadError (List (List Part) × List Char)
  | 0, _, _, _, _ => .error .malformed
  | fuel + 1, listed, header, elements, cs => do
    match cs with
    | [] => return (elements, [])
    | _ =>
      let (next, _) ← readHeaderKeys cs
      if next = header then
        let (_, rest) ← readHeader cs
        let (parts, left) ← readBody fuel listed header.keys [] rest
        readElements fuel listed header (elements ++ [parts]) left
      else return (elements, cs)

end

/-! ## Documents -/

def addTop (parts : List Part) (part : Part) : Except ReadError (List Part) :=
  (append mergeDepth true parts part).mapError fun _ => .malformed

def readBlocks : Nat → List Part → List Char → Except ReadError (List Part)
  | 0, _, _ => .error .malformed
  | _, parts, [] => .ok parts
  | fuel + 1, parts, cs => do
    let (part, left) ← readBlock cs.length none [] cs
    readBlocks fuel (← addTop parts part) left

def readParts : Nat → List Part → List Char → Except ReadError (List Part)
  | 0, _, _ => .error .malformed
  | fuel + 1, parts, cs => do
    match ← skipLines cs.length cs with
    | [] => return parts
    | '[' :: rest => readBlocks fuel parts ('[' :: rest)
    | inside =>
      let (part, left) ← readEntry inside
      readParts fuel (← addTop parts part) left

def read (s : String) : Except ReadError (Entries Value) := do
  let cs := s.toList
  let parts ← readParts (cs.length + 1) [] cs
  (entriesOf (cs.length + 1) parts).mapError .clash

end TemplateSpacing.Toml
