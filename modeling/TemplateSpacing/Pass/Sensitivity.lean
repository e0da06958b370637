import TemplateSpacing.Config.Basic
import TemplateSpacing.Css.Display
import TemplateSpacing.Tree.Edit
import TemplateSpacing.Tree.Walk

/-! # Sensitivity

The second pass says at which edges white space matters.  Each child first has an opinion about either
of its edges, which depends on its neighbour there and on its parent; the two opinions about a shared
edge are then brought together.  The only text of a container has its say through the container.
-/

set_option autoImplicit false

namespace TemplateSpacing.Pass

open TemplateSpacing.Tree

/-! ## What a node is to its neighbours -/

def whiteSpaceOf (config : Config) (kind : Kind) : String :=
  match kind.tag? with
  | some tag => config.whiteSpaceOf tag
  | none => config.whiteSpace.fallback

def isVerbatim (config : Config) (kind : Kind) : Bool :=
  Css.isVerbatim (whiteSpaceOf config kind)

def isWhitespaceSensitive (config : Config) (kind : Kind) : Bool :=
  match kind with
  | .mustache _ => true
  | _ => isVerbatim config kind

def displayOf (label : Label) : Except Fault Value :=
  if label.kind.hasNotes then
    match label.notes.display with
    | some display => .ok display
    | none => .error (.noDisplay label.kind.className)
  else .error .missingPart

def askDisplay (question : String → Bool) : Value → Except Fault Bool
  | .text display => .ok (question display)
  | _ => .error .missingPart

def isUnrendered (display : Value) : Bool :=
  display.text? = some "none"

/-! ## Opinions about edges -/

/-- What a child thinks about one of its edges, towards a neighbour or towards the end of its parent:
whether white space there matters.  Text next to text always does. -/
def opinion (config : Config) (parent : Label) (neighbour : Option Label) (child : Label) :
    Except Fault Bool :=
  if child.kind.isTextLike && neighbour.any fun n => n.kind.isTextLike then .ok true
  else
    match displayOf parent with
    | .error fault => .error fault
    | .ok display =>
      if isUnrendered display then .ok false
      else if isVerbatim config parent.kind then .ok true
      else
        match neighbour with
        | some neighbour =>
          match displayOf neighbour with
          | .error fault => .error fault
          | .ok beside => askDisplay Css.besideMatters beside
        | none =>
          if parent.kind.isRoot || isVerbatim config child.kind then .ok false
          else askDisplay Css.edgeMatters display

/-- A child as a neighbour; where nothing is, there is no neighbour. -/
def asNeighbour (child : Label) : Option Label :=
  if child.kind.isNothing then none else some child

def neighboursBefore (children : List Label) : List (Option Label) :=
  (none :: children.map asNeighbour).take children.length

def neighboursAfter (children : List Label) : List (Option Label) :=
  (children.drop 1).map asNeighbour ++ [none]

def opinions (config : Config) (parent : Label) :
    List (Option Label) → List Label → Except Fault (List Bool)
  | neighbour :: neighbours, child :: children =>
    match opinion config parent neighbour child with
    | .error fault => .error fault
    | .ok here => (opinions config parent neighbours children).map (here :: ·)
  | _, _ => .ok []

/-- The sensitivity of every leading edge: both children at an edge must agree that it matters. -/
def leadingEdges (leading trailing : List Bool) : List Bool :=
  List.zipWith (fun before own => before && own) (true :: trailing) leading

def trailingEdges (leading trailing : List Bool) : List Bool :=
  List.zipWith (fun next own => next && own) (leading.drop 1 ++ [true]) trailing

/-! ## The pass -/

/-- Writes the sensitivity of the edges on children, up to an object that carries no notes. -/
def writeEdges : List (Bool × Bool) → List Label → Outcome (List Label)
  | (leading, trailing) :: edges, child :: children =>
    if child.kind.hasNotes then
      (writeEdges edges children).map
        (((child.withFlag .leadingSensitive leading).withFlag .trailingSensitive trailing) :: ·)
    else .failed (child :: children) .missingPart
  | _, children => .done children

def edges (config : Config) (parent : Label) (children : List Label) :
    Except Fault (List (Bool × Bool)) :=
  match opinions config parent (neighboursBefore children) children with
  | .error fault => .error fault
  | .ok leading =>
    match opinions config parent (neighboursAfter children) children with
    | .error fault => .error fault
    | .ok trailing =>
      .ok ((leadingEdges leading trailing).zip (trailingEdges leading trailing))

def isSoleText : List Label → Bool
  | [child] => child.kind.isText
  | _ => false

def applySensitivity (config : Config) (parent : Label) (children : List Label) :
    Outcome (Label × List Label) :=
  if children.isEmpty then .done (parent, children)
  else if isSoleText children then
    match displayOf parent with
    | .error fault => .failed (parent, children) fault
    | .ok display =>
      match askDisplay Css.onlyContentMatters display with
      | .error fault => .failed (parent, children) fault
      | .ok flag => .done (parent.withFlag .danglingSensitive flag, children)
  else
    match edges config parent children with
    | .error fault => .failed (parent, children) fault
    | .ok edges => (writeEdges edges children).map fun children => (parent, children)

/-- The report on an element; it is lost when its note cannot be written. -/
def sensitivityReport (label : Label) (count : Nat) : List Log.Record :=
  match label.kind.tag?, (label.notes.danglingSensitive.getD .null).shown with
  | some tag, .ok dangling =>
    [Log.traced ("sensitivity: <" ++ tag ++ "> with " ++ toString count ++
      " child(ren), dangling=" ++ dangling)]
  | _, _ => []

def assignSensitivity (config : Config) : LabelVisit := fun _ label below =>
  if label.kind.isContainer then
    let applied := applySensitivity config label below
    let log := if applied.fault.isNone then sensitivityReport applied.state.1 below.length else []
    ⟨(applied.state.1, applied.state.2.map some), applied.log ++ log, applied.fault⟩
  else .done (label, below.map some)

def weighEdges (config : Config) : Node → Outcome Node :=
  Node.relabelChildren fun parent children =>
    (applySensitivity config parent children).map fun (parent, children) =>
      (parent, children.map some)

/-! ## One child at a time -/

def leadingOpinion (config : Config) (parent : Label) (children : List Label) (index : Nat)
    (child : Label) : Except Fault Bool :=
  opinion config parent ((if index = 0 then none else children[index - 1]?).bind asNeighbour) child

def trailingOpinion (config : Config) (parent : Label) (children : List Label) (index : Nat)
    (child : Label) : Except Fault Bool :=
  opinion config parent (children[index + 1]?.bind asNeighbour) child

def leadingVerdict (config : Config) (child parent : Found) : Except Fault Bool :=
  match Node.childIndex child parent with
  | .error fault => .error fault
  | .ok index =>
    leadingOpinion config parent.node.label (parent.node.kids.map Node.label) index child.node.label

def trailingVerdict (config : Config) (child parent : Found) : Except Fault Bool :=
  match Node.childIndex child parent with
  | .error fault => .error fault
  | .ok index =>
    trailingOpinion config parent.node.label (parent.node.kids.map Node.label) index child.node.label

end TemplateSpacing.Pass
