import TemplateSpacing.Value.Basic

/-! # Notes on a node

What the passes write down about a node.  A note that is absent has not been written.  Notes that are
read from a document may hold any value; the passes write a display word or a truth value.
-/

set_option autoImplicit false

namespace TemplateSpacing.Tree

inductive Note
  | display
  | whitespaceSensitive
  | indentationSensitive
  | leadingSensitive
  | trailingSensitive
  | danglingSensitive
  | leadingSpaces
  | trailingSpaces
  | danglingSpaces
deriving DecidableEq, Repr

namespace Note

def all : List Note :=
  [.display, .whitespaceSensitive, .indentationSensitive, .leadingSensitive, .trailingSensitive,
    .danglingSensitive, .leadingSpaces, .trailingSpaces, .danglingSpaces]

def key : Note → String
  | .display => "display"
  | .whitespaceSensitive => "isWhitespaceSensitive"
  | .indentationSensitive => "isIndentationSensitive"
  | .leadingSensitive => "isLeadingSpaceSensitive"
  | .trailingSensitive => "isTrailingSpaceSensitive"
  | .danglingSensitive => "isDanglingSpaceSensitive"
  | .leadingSpaces => "hasLeadingSpaces"
  | .trailingSpaces => "hasTrailingSpaces"
  | .danglingSpaces => "hasDanglingSpaces"

def name : Note → String
  | .display => "display"
  | .whitespaceSensitive => "is_whitespace_sensitive"
  | .indentationSensitive => "is_indentation_sensitive"
  | .leadingSensitive => "is_leading_space_sensitive"
  | .trailingSensitive => "is_trailing_space_sensitive"
  | .danglingSensitive => "is_dangling_space_sensitive"
  | .leadingSpaces => "has_leading_spaces"
  | .trailingSpaces => "has_trailing_spaces"
  | .danglingSpaces => "has_dangling_spaces"

/-- Whether a note is never read from a document, because it tells what a pass has removed. -/
def isRecomputed : Note → Bool
  | .leadingSpaces => true
  | .trailingSpaces => true
  | .danglingSpaces => true
  | _ => false

end Note

structure Notes where
  display : Option Value
  whitespaceSensitive : Option Value
  indentationSensitive : Option Value
  leadingSensitive : Option Value
  trailingSensitive : Option Value
  danglingSensitive : Option Value
  leadingSpaces : Option Value
  trailingSpaces : Option Value
  danglingSpaces : Option Value

namespace Notes

def none : Notes :=
  ⟨.none, .none, .none, .none, .none, .none, .none, .none, .none⟩

def get (notes : Notes) : Note → Option Value
  | .display => notes.display
  | .whitespaceSensitive => notes.whitespaceSensitive
  | .indentationSensitive => notes.indentationSensitive
  | .leadingSensitive => notes.leadingSensitive
  | .trailingSensitive => notes.trailingSensitive
  | .danglingSensitive => notes.danglingSensitive
  | .leadingSpaces => notes.leadingSpaces
  | .trailingSpaces => notes.trailingSpaces
  | .danglingSpaces => notes.danglingSpaces

def set (notes : Notes) (note : Note) (value : Option Value) : Notes :=
  match note with
  | .display => { notes with display := value }
  | .whitespaceSensitive => { notes with whitespaceSensitive := value }
  | .indentationSensitive => { notes with indentationSensitive := value }
  | .leadingSensitive => { notes with leadingSensitive := value }
  | .trailingSensitive => { notes with trailingSensitive := value }
  | .danglingSensitive => { notes with danglingSensitive := value }
  | .leadingSpaces => { notes with leadingSpaces := value }
  | .trailingSpaces => { notes with trailingSpaces := value }
  | .danglingSpaces => { notes with danglingSpaces := value }

def entries (notes : Notes) : Entries Value :=
  Note.all.filterMap fun note => (notes.get note).map fun value => (note.key, value)

/-- The notes that the fields of a document hold: null counts as absent. -/
def ofFields (fields : Entries Value) : Notes :=
  Note.all.foldl (fun notes note =>
    if note.isRecomputed then notes
    else notes.set note ((fields.find? note.key).filter fun value => !value.isNull)) none

def holds (value : Option Value) : Bool :=
  value.any Value.isTruthy

/-- A note reads back as it was written, and writing it changes no other note. -/
theorem get_set (notes : Notes) (note other : Note) (value : Option Value) :
    (notes.set note value).get other = if note = other then value else notes.get other := by
  cases note <;> cases other <;> rfl

end Notes

end TemplateSpacing.Tree
