import TemplateSpacing.Value.Basic

/-! # Configuration documents

A document while it is being read: parts under keys, in order.  A table may be written in several
places, as long as they fit together; a table is implied when only its inner tables are written, and
what is implied of a list of tables belongs to its last element.  Some clashes show at once, others
when the places of a table are brought together.
-/

set_option autoImplicit false

namespace TemplateSpacing.Toml

/-- How a table comes about: it is written itself, it is implied by its inner tables, or it is
implied as an element of a list of tables. -/
inductive Origin
  | written
  | implied
  | element
deriving DecidableEq, Repr

mutual

inductive Item
  | value (v : Value)
  | table (origin : Origin) (parts : List Part)
  | tables (elements : List (List Part))

inductive Part
  | mk (key : String) (dotted : Bool) (item : Item)

end

/-- How two parts clash: a key stands for something else already, or a table with dotted keys is
written again. -/
inductive Clash
  | present
  | redefined
deriving DecidableEq, Repr

namespace Part

def key : Part → String
  | .mk key _ _ => key

def dotted : Part → Bool
  | .mk _ dotted _ => dotted

def item : Part → Item
  | .mk _ _ item => item

def ofKeys (value : Value) : String → List String → Part
  | key, [] => .mk key false (.value value)
  | key, inner :: rest => .mk key true (.table .implied [ofKeys value inner rest])

end Part

namespace Item

def isTable : Item → Bool
  | .table _ _ => true
  | _ => false

def parts : Item → List Part
  | .table _ parts => parts
  | _ => []

end Item

def lastUnder? (key : String) (parts : List Part) : Option Part :=
  parts.reverse.find? fun part => part.key = key

def lastTableKey? (parts : List Part) : Option String :=
  (parts.reverse.find? fun part => part.item.isTable).map Part.key

def withLast (key : String) (item : Item) (parts : List Part) : List Part :=
  let later := parts.reverse.takeWhile fun part => part.key ≠ key
  match parts.reverse.drop later.length with
  | [] => parts
  | part :: earlier => (later ++ .mk part.key part.dotted item :: earlier).reverse

def keysOf (parts : List Part) : List String :=
  (parts.map Part.key).foldl (fun keys key => if keys.contains key then keys else keys ++ [key]) []

def placesOf (key : String) (parts : List Part) : List Part :=
  parts.filter fun part => part.key = key

/-- Puts the parts of the places of a table side by side.  A key may stand for several tables, lists
of tables are joined, and nothing else stands twice. -/
def sideBySide (places : List Part) : Except Clash (List Part) :=
  (places.flatMap fun part => part.item.parts).foldlM (fun parts part =>
    match (lastUnder? part.key parts).map Part.item, part.item with
    | some (.tables elements), .tables more =>
      .ok (withLast part.key (.tables (elements ++ more)) parts)
    | some (.table _ _), _ => .ok (parts ++ [part])
    | none, _ => .ok (parts ++ [part])
    | _, _ => .error .present) []

mutual

/-- Adds a part.  If the document is checked, the places of a table that is written again have to fit
together at once.  Fuel bounds the depth of the tables that are brought together. -/
def append : Nat → Bool → List Part → Part → Except Clash (List Part)
  | 0, _, parts, part => .ok (parts ++ [part])
  | fuel + 1, isChecked, parts, part =>
    let pushed := fun (_ : Unit) => do
      if isChecked then checkKey fuel part.key (parts ++ [part])
      return parts ++ [part]
    match lastUnder? part.key parts with
    | none => .ok (parts ++ [part])
    | some current =>
      match part.item, current.item with
      | .table .element body, .tables elements =>
        .ok (withLast part.key (.tables (elements ++ [body])) parts)
      | .table .element body, .table _ first =>
        .ok (withLast part.key (.tables [first, body]) parts)
      | .table .implied body, .tables elements =>
        match elements.getLast? with
        | some last =>
          if part.dotted then .error .present
          else do
            let grown ← body.foldlM (insert fuel) last
            return withLast part.key (.tables (elements.dropLast ++ [grown])) parts
        | none => .error .present
      | .tables more, .tables elements =>
        .ok (withLast part.key (.tables (elements ++ more)) parts)
      | .table .written _, .table .written _ => .error .present
      | .table .implied _, .table .written _ =>
        if part.dotted then .error .present else pushed ()
      | .table .written _, .table _ _ =>
        if current.dotted then .error .redefined else pushed ()
      | .table .implied body, .table origin currentBody =>
        if part.dotted || current.dotted || lastTableKey? parts ≠ some part.key then pushed ()
        else do
          let merged ← body.foldlM (insert fuel) currentBody
          return withLast part.key (.table origin merged) parts
      | _, _ => .error .present

def insert : Nat → List Part → Part → Except Clash (List Part)
  | 0, parts, part => .ok (parts ++ [part])
  | fuel + 1, parts, part => do
    let more ← append fuel true parts part
    view fuel part.key more
    return more

def checkKey : Nat → String → List Part → Except Clash Unit
  | 0, _, _ => .ok ()
  | fuel + 1, key, parts =>
    match placesOf key parts with
    | first :: second :: rest => do
      let together ← ((first :: second :: rest).flatMap fun part => part.item.parts).foldlM
        (append fuel false) []
      (keysOf together).forM fun inner => checkKey fuel inner together
    | _ => .ok ()

/-- Checks that the places of a table fit together, put side by side. -/
def view : Nat → String → List Part → Except Clash Unit
  | 0, _, _ => .ok ()
  | fuel + 1, key, parts =>
    match placesOf key parts with
    | first :: second :: rest => do
      let together ← sideBySide (first :: second :: rest)
      (keysOf together).forM fun inner => checkKey fuel inner together
    | _ => .ok ()

end

def check (fuel : Nat) (parts : List Part) : Except Clash Unit :=
  (keysOf parts).forM fun key => checkKey fuel key parts

mutual

def entriesOf : Nat → List Part → Except Clash (Entries Value)
  | 0, _ => .ok []
  | fuel + 1, parts =>
    (keysOf parts).mapM fun key => do
      match placesOf key parts with
      | [part] => return (key, ← valueOf fuel part.item)
      | places =>
        let together ← sideBySide places
        check fuel together
        return (key, .table (← entriesOf fuel together))

def valueOf : Nat → Item → Except Clash Value
  | _, .value v => .ok v
  | 0, _ => .ok .null
  | fuel + 1, .table _ parts => return .table (← entriesOf fuel parts)
  | fuel + 1, .tables elements => return .list (← elements.mapM fun parts =>
      return .table (← entriesOf fuel parts))

end

end TemplateSpacing.Toml
