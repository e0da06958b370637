import TemplateSpacing.Pass.Sensitivity
import TemplateSpacing.Text.Blank

/-! # White space

The third pass takes white space out of the children of elements and notes where it was.  The children
are read as a stream of runs of white space and of what stands between them: a text gives up its outer
blanks, and a blank text is gone altogether.  An element whose content is nothing but white space is
emptied, and one that keeps its content verbatim is left alone.
-/

set_option autoImplicit false

namespace TemplateSpacing.Pass

open TemplateSpacing.Tree

/-! ## The stream of a list of children -/

/-- What a child adds to the stream: perhaps a run of white space, then perhaps the child itself, then
perhaps another run. -/
structure Piece where
  lead : Bool
  content : Option Label
  trail : Bool

def pieceOf (child : Label) : Piece :=
  match child.kind with
  | .text chars =>
    let parts := Text.divide chars.toList
    ⟨!parts.lead.isEmpty,
      if parts.content.isEmpty then none else some (child.withChars (String.ofList parts.content)),
      !parts.trail.isEmpty⟩
  | _ => ⟨false, some child, false⟩

/-- Whether a piece starts with a run; none when it adds nothing to the stream. -/
def Piece.startsWithRun? (piece : Piece) : Option Bool :=
  if piece.lead then some true
  else if piece.content.isSome then some false
  else if piece.trail then some true
  else none

def Piece.endsWithRun? (piece : Piece) : Option Bool :=
  if piece.trail then some true
  else if piece.content.isSome then some false
  else if piece.lead then some true
  else none

def startsWithRun (pieces : List Piece) : Bool :=
  (pieces.findSome? Piece.startsWithRun?).getD false

structure Kept where
  label : Label
  spaceBefore : Bool
  spaceAfter : Bool

/-- The children that stay.  The flag says whether the stream in front ends with a run. -/
def keptFrom : Bool → List Piece → List (Option Kept)
  | _, [] => []
  | before, piece :: rest =>
    (piece.content.map fun label =>
      ⟨label, piece.lead || before, piece.trail || startsWithRun rest⟩) ::
      keptFrom (piece.endsWithRun?.getD before) rest

def raised (old : Option Value) (flag : Bool) : Bool :=
  Notes.holds old || flag

def Kept.written (kept : Kept) : Label :=
  let before := kept.label.withFlag .leadingSpaces
    (raised kept.label.notes.leadingSpaces kept.spaceBefore)
  before.withFlag .trailingSpaces (raised kept.label.notes.trailingSpaces kept.spaceAfter)

def writeKept : List (Option Kept) → Outcome (List (Option Label))
  | [] => .done []
  | none :: rest => (writeKept rest).map (none :: ·)
  | some kept :: rest =>
    if kept.label.kind.hasNotes then (writeKept rest).map (some kept.written :: ·)
    else .failed (some kept.label :: rest.map fun k => k.map Kept.label) .missingPart

/-! ## The pass -/

/-- Whether children hold nothing: there are none, or only a blank text. -/
def isDanglingBody : List Label → Bool
  | [] => true
  | [child] =>
    match child.kind with
    | .text chars => Text.isAllBlank chars
    | _ => false
  | _ => false

def reportTag {α : Type} (state : α) (kind : Kind) (tail : String) : Outcome α :=
  match kind.tag? with
  | some tag => .logged state [Log.traced ("whitespace: <" ++ tag ++ "> " ++ tail)]
  | none => .failed state .missingPart

/-- Takes the white space out of children.  When an object carries no notes, nothing is removed. -/
def normalize (children : List Label) : Outcome (List (Option Label)) :=
  let kept := writeKept (keptFrom false (children.map pieceOf))
  match kept.fault with
  | none => kept
  | some _ => kept.map fun labels =>
      List.zipWith (fun (child : Label) (label : Option Label) => some (label.getD child)) children
        labels

def extractWhitespace (config : Config) (parent : Label) (children : List Label) :
    Outcome (Label × List (Option Label)) :=
  if isDanglingBody children then
    let dangling := !children.isEmpty || Notes.holds parent.notes.danglingSpaces
    reportTag (parent.withFlag .danglingSpaces dangling, children.map fun _ => none) parent.kind
      ("emptied, dangling=" ++ Value.boolLiteral dangling)
  else
    let parent := parent.withFlag .whitespaceSensitive (isWhitespaceSensitive config parent.kind)
    let parent := parent.withFlag .indentationSensitive (isVerbatim config parent.kind)
    if isWhitespaceSensitive config parent.kind then
      reportTag (parent, children.map some) parent.kind "is whitespace sensitive, kept verbatim"
    else (normalize children).map fun labels => (parent, labels)

def extractFromElements (config : Config) : LabelVisit := fun _ label below =>
  if label.kind.isElement then extractWhitespace config label below
  else .done (label, below.map some)

end TemplateSpacing.Pass
