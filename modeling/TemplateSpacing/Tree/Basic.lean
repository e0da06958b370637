import TemplateSpacing.Tree.Notes

/-! # Template trees

A template is a tree of nodes.  A node is a label with the nodes below it: the children of a
container, or the bodies of a block that are there, the main one first.  The label holds everything
else: what kind of node it is, the notes of the passes, and the fields that nobody interprets.

A tree may also hold objects that are no template nodes, because programs build trees by hand; every
operation refuses them in its own way.
-/

set_option autoImplicit false

namespace TemplateSpacing.Tree

inductive RootKind
  | template
  | block
  | program
deriving DecidableEq, Repr

inductive Slot
  | program
  | inverse
deriving DecidableEq, Repr

def Slot.name : Slot → String
  | .program => "program"
  | .inverse => "inverse"

inductive Kind
  | root (which : RootKind)
  | element (tag : String) (attributes : List Value)
  | text (chars : String)
  | mustache (path : Value)
  | block (path : Value) (hasProgram hasInverse : Bool)
  | comment (value : String)
  | mustacheComment (value : String)
  /-- A node of no particular kind. -/
  | bare
  /-- A line that outlines show as it is, in the place of a node. -/
  | bodyLabel (text : String)
  /-- An object that is no node, by the name of its type. -/
  | foreign (typeName : String)

namespace Kind

def typeKey : Kind → String
  | .root .template => "Template"
  | .root .block => "Block"
  | .root .program => "Program"
  | .element _ _ => "ElementNode"
  | .text _ => "TextNode"
  | .mustache _ => "MustacheStatement"
  | .block _ _ _ => "BlockStatement"
  | .comment _ => "CommentStatement"
  | .mustacheComment _ => "MustacheCommentStatement"
  | .bare => "Node"
  | .bodyLabel _ => "_BodyLabel"
  | .foreign typeName => typeName

def className : Kind → String
  | .root _ => "Root"
  | .element _ _ => "Element"
  | .text _ => "Text"
  | .mustache _ => "MustacheExpression"
  | .block _ _ _ => "BlockStatement"
  | .comment _ => "CommentStatement"
  | .mustacheComment _ => "MustacheCommentStatement"
  | .bare => "Node"
  | .bodyLabel _ => "_BodyLabel"
  | .foreign typeName => typeName

def isKnown : Kind → Bool
  | .bare => false
  | .bodyLabel _ => false
  | .foreign _ => false
  | _ => true

/-- The name of the type of what stands where nothing is. -/
def nothingName : String := "NoneType"

def isNothing : Kind → Bool
  | .foreign typeName => typeName = nothingName
  | _ => false

/-- Whether all objects of a kind are one and the same: nothing and plain values are, while nodes and
collections are told apart. -/
def isShared : Kind → Bool
  | .foreign typeName => typeName ≠ "dict" && typeName ≠ "list"
  | _ => false

def hasNotes : Kind → Bool
  | .bodyLabel _ => false
  | .foreign _ => false
  | _ => true

def isRoot : Kind → Bool
  | .root _ => true
  | _ => false

def isElement : Kind → Bool
  | .element _ _ => true
  | _ => false

def isContainer (kind : Kind) : Bool :=
  kind.isRoot || kind.isElement

def isText : Kind → Bool
  | .text _ => true
  | _ => false

def isTextLike : Kind → Bool
  | .text _ => true
  | .mustache _ => true
  | _ => false

def tag? : Kind → Option String
  | .element tag _ => some tag
  | _ => none

def slots : Kind → List Slot
  | .block _ hasProgram hasInverse =>
    (if hasProgram then [.program] else []) ++ (if hasInverse then [.inverse] else [])
  | _ => []

end Kind

/-- Everything about a node but the nodes below it. -/
structure Label where
  kind : Kind
  notes : Notes
  extras : Entries Value

namespace Label

def ofKind (kind : Kind) : Label := ⟨kind, .none, []⟩

def note (label : Label) (which : Note) (value : Option Value) : Label :=
  { label with notes := label.notes.set which value }

def withDisplay (label : Label) (display : String) : Label :=
  label.note .display (some (.text display))

def withFlag (label : Label) (which : Note) (flag : Bool) : Label :=
  label.note which (some (.bool flag))

def withChars (label : Label) (chars : String) : Label :=
  { label with kind := .text chars }

end Label

structure Node where
  label : Label
  kids : List Node

namespace Node

mutual

def depth : Node → Nat
  | ⟨_, kids⟩ => depthOfKids kids + 1

def depthOfKids : List Node → Nat
  | [] => 0
  | kid :: rest => max (depth kid) (depthOfKids rest)

end

def foreign (typeName : String) : Node := ⟨.ofKind (.foreign typeName), []⟩

def nothing : Node := foreign Kind.nothingName

/-- The nodes below a node with new labels; those without one are removed. -/
def relabel (kids : List Node) (labels : List (Option Label)) : List Node :=
  (kids.zip labels).filterMap fun (kid, label) => label.map fun label => ⟨label, kid.kids⟩

def body? (node : Node) (slot : Slot) : Option Node :=
  (node.label.kind.slots.zip node.kids).lookup slot

end Node

end TemplateSpacing.Tree
