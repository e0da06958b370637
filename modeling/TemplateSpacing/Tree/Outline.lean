import TemplateSpacing.Terminal.Style
import TemplateSpacing.Text.Blank
import TemplateSpacing.Tree.Basic
import TemplateSpacing.Tree.Fault

/-! # Outlines

A tree as indented lines, one for each node with its notes, and one in front of each body of a block
with the name of the body.  The lines are drawn in order from a stack of what is still to be drawn.
-/

set_option autoImplicit false

namespace TemplateSpacing.Tree

open TemplateSpacing.Terminal (Styler Style)

def headStyle : Style := (Style.painted (.dark .cyan)).withAttribute .bold

def keyStyle : Style := Style.plain.withAttribute .dim

def bodyStyle : Style := Style.painted (.dark .magenta)

def longestExcerpt : Nat := 40

def excerpt (chars : String) : String :=
  if longestExcerpt < chars.length then
    String.ofList (chars.toList.take (longestExcerpt - 3)) ++ "..."
  else chars

def heading (kind : Kind) : String :=
  match kind with
  | .element tag _ => kind.typeKey ++ " <" ++ tag ++ ">"
  | .text chars => kind.typeKey ++ " " ++ Text.quoted (excerpt chars)
  | .comment value => kind.typeKey ++ " " ++ Text.quoted (Text.strip value)
  | .mustacheComment value => kind.typeKey ++ " " ++ Text.quoted (Text.strip value)
  | _ => kind.typeKey

def noteText : Value → Except Value.LiteralError String
  | .bool b => .ok (if b then "true" else "false")
  | value => value.shown

def indent (depth : Nat) : String :=
  "".pushn ' ' (2 * depth)

def noteTexts (styler : Styler) (notes : Notes) : Except Value.LiteralError (List String) :=
  notes.entries.mapM fun (key, value) =>
    (noteText value).map fun text => styler keyStyle key ++ "=" ++ text

def nodeText (styler : Styler) (label : Label) : Except Value.LiteralError String :=
  (noteTexts styler label.notes).map fun notes =>
    Text.stripEnd (styler headStyle (heading label.kind) ++ " " ++ " ".intercalate notes)

/-- The line of a node, without blanks at its end: when there is nothing else to show, it is empty. -/
def nodeLine (styler : Styler) (depth : Nat) (label : Label) : Except Fault String :=
  if label.kind.hasNotes then
    match nodeText styler label with
    | .ok text => .ok (if text = "" then "" else indent depth ++ text)
    | .error e => .error (.unwritable e)
  else .error (.unknownType label.kind.className)

def bodyLine (styler : Styler) (depth : Nat) (slot : Slot) : String :=
  indent depth ++ styler bodyStyle (slot.name ++ ":")

/-! ## Drawing -/

namespace Node

mutual

/-- A bound on the number of lines of a tree: every node has one, and one more if it is a body. -/
def extent : Node → Nat
  | ⟨_, kids⟩ => extentOfKids kids + 1

def extentOfKids : List Node → Nat
  | [] => 0
  | kid :: rest => extent kid + 1 + extentOfKids rest

end

theorem extent_pos (node : Node) : 0 < node.extent := by
  cases node
  rw [extent]
  omega

end Node

/-- What is still to be drawn: a tree at a depth, or a line that is ready. -/
inductive Drawable
  | tree (node : Node) (depth : Nat)
  | line (text : String)

namespace Drawable

/-- What is drawn right after a node: its children one level deeper, or its bodies two levels deeper, each
after a line with its name. -/
def below (styler : Styler) (depth : Nat) (node : Node) : List Drawable :=
  match node.label.kind with
  | .root _ => node.kids.map fun kid => .tree kid (depth + 1)
  | .element _ _ => node.kids.map fun kid => .tree kid (depth + 1)
  | .block _ _ _ =>
    (node.label.kind.slots.zip node.kids).flatMap fun place =>
      [.line (bodyLine styler (depth + 1) place.1), .tree place.2 (depth + 2)]
  | _ => []

def push (entries stack : List Drawable) : List Drawable :=
  entries.reverse.foldl (fun stack entry => entry :: stack) stack

theorem push_eq (entries stack : List Drawable) : push entries stack = entries ++ stack := by
  rw [push, List.foldl_flip_cons_eq_append', List.reverse_reverse]

def weight : Drawable → Nat
  | .tree node _ => node.extent
  | .line _ => 1

def load : List Drawable → Nat
  | [] => 0
  | entry :: rest => entry.weight + load rest

theorem load_append (front back : List Drawable) : load (front ++ back) = load front + load back := by
  induction front with
  | nil => rw [List.nil_append, load, Nat.zero_add]
  | cons entry rest ih => rw [List.cons_append, load, load, ih, Nat.add_assoc]

theorem load_children_le (depth : Nat) (kids : List Node) :
    load (kids.map fun kid => tree kid depth) ≤ Node.extentOfKids kids := by
  induction kids with
  | nil => exact Nat.le_refl 0
  | cons kid rest ih =>
      rw [List.map_cons, load, weight, Node.extentOfKids]
      omega

theorem load_bodies_le (styler : Styler) (depth : Nat) (slots : List Slot) (kids : List Node) :
    load ((slots.zip kids).flatMap fun place =>
      [line (bodyLine styler (depth + 1) place.1), tree place.2 (depth + 2)]) ≤
        Node.extentOfKids kids := by
  induction kids generalizing slots with
  | nil => simp [load]
  | cons kid rest ih =>
      cases slots with
      | nil => simp [load]
      | cons slot slots =>
          have later := ih slots
          simp only [List.zip_cons_cons, List.flatMap_cons, List.cons_append, List.nil_append, load,
            weight, Node.extentOfKids]
          omega

theorem load_below_lt (styler : Styler) (depth : Nat) (node : Node) :
    load (below styler depth node) < node.extent := by
  cases node with
  | mk label kids =>
      rw [Node.extent, Nat.lt_succ_iff, below]
      split
      · exact load_children_le (depth + 1) kids
      · exact load_children_le (depth + 1) kids
      · exact load_bodies_le styler depth _ kids
      · exact Nat.zero_le _

end Drawable

def drawStack (styler : Styler) (lines : Array String) : List Drawable → Except Fault (Array String)
  | [] => .ok lines
  | .line text :: stack => drawStack styler (lines.push text) stack
  | .tree node depth :: stack =>
    match node.label.kind with
    | .bodyLabel text => drawStack styler (lines.push text) stack
    | _ =>
      match nodeLine styler depth node.label with
      | .error fault => .error fault
      | .ok line =>
        drawStack styler (lines.push line) (Drawable.push (Drawable.below styler depth node) stack)
termination_by stack => Drawable.load stack
decreasing_by
  · rw [Drawable.load, Drawable.weight]
    omega
  · rw [Drawable.load, Drawable.weight]
    have positive := Node.extent_pos node
    omega
  · have smaller := Drawable.load_below_lt styler depth node
    rw [Drawable.push_eq, Drawable.load_append, Drawable.load, Drawable.weight]
    omega

def draw (styler : Styler) (tree : Node) : Except Fault (List String) :=
  (drawStack styler #[] [.tree tree 0]).map Array.toList

end TemplateSpacing.Tree
