import TemplateSpacing.Config.Basic
import TemplateSpacing.Css.Display
import TemplateSpacing.Text.Pattern
import TemplateSpacing.Tree.Walk

/-! # Displays

The first pass assigns a display to every node.  The display of an element is that of its tag, unless
the mode forces one or a comment in front of it names another one; only blank texts may stand between
the comment and the element.
-/

set_option autoImplicit false

namespace TemplateSpacing.Pass

open TemplateSpacing.Config (Mode)
open TemplateSpacing.Tree

/-! ## Comments that name a display -/

def isWordChar (c : Char) : Bool :=
  ('a' ≤ c && c ≤ 'z') || c = '-'

def overrideWord : List Char := "display:".toList

/-- The pattern of a comment that names a display; the display is what the fourth piece stands for. -/
def overridePattern : List Text.Atom :=
  [.run Text.isBlank 0, .word overrideWord, .run Text.isBlank 0, .run isWordChar 1, .run Text.isBlank 0, .ending]

def after? (word cs : List Char) : Option (List Char) :=
  if word.isPrefixOf cs then some (cs.drop word.length) else none

/-- The display that a comment names: blanks, the word, blanks, the display and blanks make up the
whole comment. -/
def overrideChars? (comment : List Char) : Option (List Char) :=
  match after? overrideWord (Text.trimStart comment) with
  | none => none
  | some rest =>
    let word := (Text.trimStart rest).takeWhile isWordChar
    let tail := (Text.trimStart rest).dropWhile isWordChar
    if !word.isEmpty && tail.all Text.isBlank then some word else none

def override? (comment : String) : Option String :=
  (overrideChars? comment.toList).map String.ofList

/-! ## Classification -/

def forcedDisplay? : Mode → Option String
  | .strict => some "inline"
  | .ignore => some "block"
  | .css => none

/-- The display of an element that does not depend on its tag: the one that a pending comment names,
or the one that the mode forces. -/
def tagFreeDisplay? (config : Config) (pending : Option String) : Option String :=
  (pending.bind override?).or (forcedDisplay? config.mode)

def elementDisplay (config : Config) (pending : Option String) (tag : String) : String :=
  (tagFreeDisplay? config pending).getD (config.displayOf tag)

def displayAsElement (config : Config) (pending : Option String) (kind : Kind) :
    Except Fault String :=
  match tagFreeDisplay? config pending, kind.tag? with
  | some display, _ => .ok display
  | none, some tag => .ok (config.displayOf tag)
  | none, none => .error .missingPart

def classify (config : Config) (pending : Option String) (label : Label) :
    Except Fault (Label × Option String) :=
  match label.kind with
  | .element tag _ => .ok (label.withDisplay (elementDisplay config pending tag), none)
  | .comment value => .ok (label.withDisplay "block", some value)
  | .mustacheComment value => .ok (label.withDisplay "block", some value)
  | .text chars => .ok (label.withDisplay "inline", if Text.isAllBlank chars then pending else none)
  | .mustache _ =>
    .ok (((label.withDisplay "block").withFlag .whitespaceSensitive true).withFlag
      .indentationSensitive false, none)
  | .block _ _ _ => .ok (label.withDisplay "block", none)
  | .root _ => .ok (label.withDisplay "block", none)
  | .bare => .error (.unknownType label.kind.className)
  | .bodyLabel _ => .error (.unknownType label.kind.className)
  | .foreign _ => .error (.unknownType label.kind.className)

def classifyReport (label : Label) : List Log.Record :=
  match label.kind.tag? with
  | some tag =>
    [Log.traced ("display: <" ++ tag ++ "> -> " ++ ((label.notes.display.bind Value.text?).getD ""))]
  | none => []

def classifyOne (config : Config) (pending : Option String) (label : Label) :
    Outcome (Label × Option String) :=
  match classify config pending label with
  | .ok (classified, next) => .logged (classified, next) (classifyReport classified)
  | .error fault => .failed (label, none) fault

def classifyAll (config : Config) : Option String → List Label → Outcome (List Label)
  | _, [] => .done []
  | pending, label :: rest =>
    match classify config pending label with
    | .error fault => .failed (label :: rest) fault
    | .ok (classified, next) =>
      let others := classifyAll config next rest
      ⟨classified :: others.state, classifyReport classified ++ others.log, others.fault⟩

/-- The visit of the first pass: bodies and the top node are classified when they are visited,
children with their siblings when their container is visited. -/
def assignDisplays (config : Config) : LabelVisit := fun isTop label below =>
  let own :=
    if isTop || label.kind.isRoot then (classifyOne config none label).map Prod.fst
    else .done label
  match own.fault with
  | some _ => own.map fun label => (label, below.map some)
  | none =>
    if own.state.kind.isContainer then
      let children := classifyAll config none below
      ⟨(own.state, children.state.map some), own.log ++ children.log, children.fault⟩
    else own.map fun label => (label, below.map some)

end TemplateSpacing.Pass
