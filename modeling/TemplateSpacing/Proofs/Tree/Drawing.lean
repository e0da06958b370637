import TemplateSpacing.Proofs.Literals
import TemplateSpacing.Proofs.Text.Trim
import TemplateSpacing.Proofs.Tree.Visits
import TemplateSpacing.Tree.Outline

/-! # Drawing with a stack

A stack holds what is still to be drawn, whole trees with their depths as well as lines that are ready.  The rows
of an outline, before they are written, tell what each line is about: a node, or the body that comes next.  Taking
an entry off the stack keeps the rows that are still to be written, so a tree is drawn as its rows are written one
by one, up to the first that cannot be.
-/

set_option autoImplicit false

namespace TemplateSpacing.Tree

open TemplateSpacing.Terminal (Styler)

/-! ## Rows -/

/-- A row of an outline: that of a node, or the one in front of a body of a block, with the position of the
node that it is about. -/
inductive Row
  | node (position : Position) (depth : Nat) (label : Label)
  | body (position : Position) (depth : Nat) (slot : Slot)

namespace Row

def place? : Row → Option Position
  | .node position _ _ => some position
  | .body _ _ _ => none

def label? : Row → Option Label
  | .node _ _ label => some label
  | .body _ _ _ => none

def content (styler : Styler) (label : Label) : Except Fault String :=
  match noteTexts styler label.notes with
  | .ok notes => .ok (styler headStyle (heading label.kind) ++ " " ++ " ".intercalate notes)
  | .error e => .error (.unwritable e)

/-- The line of a row: two blanks for each level in front, and none at the end of the line of a node.  A line in
the place of a node stays as it is. -/
def line (styler : Styler) : Row → Except Fault String
  | .node _ depth label =>
    match label.kind with
    | .bodyLabel text => .ok text
    | .foreign typeName => .error (.unknownType typeName)
    | _ => (content styler label).map fun text => Text.stripEnd (indent depth ++ text)
  | .body _ depth slot => .ok (indent depth ++ styler bodyStyle (slot.name ++ ":"))

end Row

namespace Node

mutual

/-- The rows of a tree that stands at a position, from a depth on: its own, then those of its children one
level deeper, or of its bodies two levels deeper, each after a row with its name. -/
def rows (position : Position) (depth : Nat) : Node → List Row
  | ⟨label, kids⟩ =>
    .node position depth label ::
      match label.kind with
      | .root _ => rowsOfKids position 0 (depth + 1) kids
      | .element _ _ => rowsOfKids position 0 (depth + 1) kids
      | .block _ _ _ => rowsOfBodies position 0 (depth + 1) label.kind.slots kids
      | _ => []

def rowsOfKids (parent : Position) (index depth : Nat) : List Node → List Row
  | [] => []
  | kid :: rest => rows (parent ++ [index]) depth kid ++ rowsOfKids parent (index + 1) depth rest

def rowsOfBodies (parent : Position) (index depth : Nat) : List Slot → List Node → List Row
  | slot :: slots, body :: rest =>
    .body (parent ++ [index]) depth slot :: rows (parent ++ [index]) (depth + 1) body ++
      rowsOfBodies parent (index + 1) depth slots rest
  | _, _ => []

end

end Node

/-! ## Lines of rows -/

/-- Blanks in front stay, unless nothing but blanks follows. -/
theorem trimEnd_blanks_append {blanks : List Char} (blank : blanks.all Text.isBlank = true)
    (cs : List Char) :
    Text.trimEnd (blanks ++ cs) =
      if Text.trimEnd cs = [] then [] else blanks ++ Text.trimEnd cs := by
  have gone : blanks.reverse.dropWhile Text.isBlank = [] := by
    rw [List.dropWhile_eq_nil_iff]
    simpa using List.all_eq_true.mp blank
  rw [Text.trimEnd, Text.trimEnd, List.reverse_append, List.dropWhile_append, gone]
  cases kept : cs.reverse.dropWhile Text.isBlank with
  | nil => rfl
  | cons c rest => simp

theorem toList_indent (depth : Nat) : (indent depth).toList = List.replicate (2 * depth) ' ' := by
  rw [indent, String.pushn]
  induction 2 * depth with
  | zero => rfl
  | succ count ih => rw [Nat.repeat, String.toList_push, ih, ← List.replicate_succ']

/-- The blanks of a level stay in front of a text, unless there is nothing else. -/
theorem stripEnd_indent (depth : Nat) (text : String) :
    Text.stripEnd (indent depth ++ text) =
      if Text.stripEnd text = "" then "" else indent depth ++ Text.stripEnd text := by
  have blank : (indent depth).toList.all Text.isBlank = true := by
    rw [toList_indent, List.all_eq_true]
    intro c member
    rw [List.eq_of_mem_replicate member]
    rfl
  rw [Text.stripEnd, Text.stripEnd, String.toList_append, trimEnd_blanks_append blank]
  by_cases empty : Text.trimEnd text.toList = []
  · rw [empty]
    rfl
  · have filled : String.ofList (Text.trimEnd text.toList) ≠ "" := by
      rwa [ne_eq, ← String.toList_inj, String.toList_ofList]
    simp only [filled, empty, if_false]
    rw [← String.toList_inj, String.toList_append, String.toList_ofList, String.toList_ofList]

section Lines

variable (styler : Styler)

theorem nodeLine_eq (position : Position) (depth : Nat) {label : Label}
    (isNode : ∀ text, label.kind ≠ .bodyLabel text) :
    nodeLine styler depth label = Row.line styler (.node position depth label) := by
  have own (hasNotes : label.kind.hasNotes = true) : nodeLine styler depth label =
      (Row.content styler label).map fun text => Text.stripEnd (indent depth ++ text) := by
    rw [nodeLine, if_pos hasNotes, nodeText, Row.content]
    cases noteTexts styler label.notes with
    | error e => rfl
    | ok notes => exact congrArg Except.ok (stripEnd_indent depth _).symm
  rw [Row.line]
  cases kind : label.kind with
  | bodyLabel text => exact absurd kind (isNode text)
  | foreign typeName =>
      rw [nodeLine, if_neg (by rw [kind]; exact Bool.false_ne_true), kind]
      rfl
  | _ => exact own (by rw [kind]; rfl)

end Lines

/-! ## What the stack stands for -/

/-- The lines that an entry of a stack stands for, or what keeps them from being written. -/
def Drawable.lines (styler : Styler) : Drawable → List (Except Fault String)
  | .tree node depth => (node.rows [] depth).map (Row.line styler)
  | .line text => [.ok text]

section Stack

variable (styler : Styler)

theorem lines_rowsOfKids {kids : List Node}
    (each : ∀ kid ∈ kids, ∀ position depth,
      (kid.rows position depth).map (Row.line styler) = (Drawable.tree kid depth).lines styler)
    (parent : Position) (index depth : Nat) :
    (Node.rowsOfKids parent index depth kids).map (Row.line styler) =
      (kids.map fun kid => Drawable.tree kid depth).flatMap (Drawable.lines styler) := by
  induction kids generalizing index with
  | nil => rfl
  | cons kid rest ih =>
      have later := ih (fun kid member => each kid (List.mem_cons_of_mem _ member)) (index + 1)
      rw [Node.rowsOfKids, List.map_append, each kid List.mem_cons_self, later, List.map_cons,
        List.flatMap_cons]

theorem lines_rowsOfBodies {kids : List Node}
    (each : ∀ kid ∈ kids, ∀ position depth,
      (kid.rows position depth).map (Row.line styler) = (Drawable.tree kid depth).lines styler)
    (parent : Position) (index depth : Nat) (slots : List Slot) :
    (Node.rowsOfBodies parent index (depth + 1) slots kids).map (Row.line styler) =
      ((slots.zip kids).flatMap fun place =>
        [.line (bodyLine styler (depth + 1) place.1), .tree place.2 (depth + 2)]).flatMap
          (Drawable.lines styler) := by
  induction kids generalizing index slots with
  | nil => cases slots <;> simp [Node.rowsOfBodies]
  | cons body rest ih =>
      cases slots with
      | nil => simp [Node.rowsOfBodies]
      | cons slot slots =>
          have own := each body List.mem_cons_self (parent ++ [index]) (depth + 2)
          have later := ih (fun kid member => each kid (List.mem_cons_of_mem _ member)) (index + 1) slots
          rw [Node.rowsOfBodies, List.map_append, List.map_cons, own, later, List.zip_cons_cons,
            List.flatMap_cons, List.flatMap_append, List.flatMap_cons, List.flatMap_cons, List.flatMap_nil,
            List.append_nil]
          rfl

/-- The line of a node comes first, and then the lines of what is drawn right after it. -/
theorem lines_rows (node : Node) (position : Position) (depth : Nat) :
    (node.rows position depth).map (Row.line styler) =
      Row.line styler (.node position depth node.label) ::
        (Drawable.below styler depth node).flatMap (Drawable.lines styler) := by
  induction node using Node.induction generalizing position depth with
  | step label kids below =>
      have each : ∀ kid ∈ kids, ∀ position depth,
          (kid.rows position depth).map (Row.line styler) = (Drawable.tree kid depth).lines styler := by
        intro kid member position depth
        rw [Drawable.lines, below kid member, below kid member]
        rfl
      have children := lines_rowsOfKids styler each position 0 (depth + 1)
      have bodies := lines_rowsOfBodies styler each position 0 depth label.kind.slots
      rw [Node.rows, List.map_cons, Drawable.below]
      cases kind : label.kind with
      | root _ => exact congrArg _ children
      | element _ _ => exact congrArg _ children
      | block _ _ _ =>
          rw [kind] at bodies
          exact congrArg _ bodies
      | _ => rfl

theorem lines_tree (node : Node) (depth : Nat) :
    (Drawable.tree node depth).lines styler =
      Row.line styler (.node [] depth node.label) ::
        (Drawable.below styler depth node).flatMap (Drawable.lines styler) :=
  lines_rows styler node [] depth

theorem sequence_ok (text : String) (rest : List (Except Fault String)) :
    (Except.ok text :: rest).mapM id = (rest.mapM id).map (text :: ·) := by
  rw [List.mapM_cons]
  cases rest.mapM id <;> rfl

/-- Adding a line to those that are there is writing it in front of those that are to come. -/
theorem map_push (lines : Array String) (text : String) (more : Except Fault (List String)) :
    more.map (fun more => lines.push text ++ more.toArray) =
      (more.map (text :: ·)).map fun more => lines ++ more.toArray := by
  cases more with
  | error fault => rfl
  | ok more => simp [Except.map]

theorem drawStack_eq (lines : Array String) (stack : List Drawable) :
    drawStack styler lines stack =
      ((stack.flatMap (Drawable.lines styler)).mapM id).map fun more => lines ++ more.toArray := by
  -- One round takes an entry off and adds its line, while the rest of what it stood for stays on the stack.
  induction lines, stack using drawStack.induct styler with
  | case1 lines => simp [drawStack, Except.map, pure, Except.pure]
  | case2 lines text stack ih =>
      rw [drawStack, ih, List.flatMap_cons, Drawable.lines, List.singleton_append, sequence_ok, map_push]
  | case3 lines node depth stack text kind ih =>
      have own : Row.line styler (.node [] depth node.label) = .ok text := by
        simp only [Row.line, kind]
      have none : Drawable.below styler depth node = [] := by
        simp only [Drawable.below, kind]
      rw [List.flatMap_cons, lines_tree, own, none, List.flatMap_nil, List.singleton_append, sequence_ok,
        ← map_push, ← ih, drawStack]
      split
      · next other same =>
          cases kind.symm.trans same
          rfl
      · next isNode => exact absurd kind (isNode text)
  | case4 lines node depth stack fault failed isNode =>
      rw [List.flatMap_cons, lines_tree, ← nodeLine_eq styler [] depth isNode, failed, List.cons_append,
        List.mapM_cons, drawStack]
      split
      · next text kind => exact absurd kind (isNode text)
      · rw [failed]
        rfl
  | case5 lines node depth stack line read isNode ih =>
      rw [List.flatMap_cons, lines_tree, ← nodeLine_eq styler [] depth isNode, read, List.cons_append,
        sequence_ok, ← map_push, ← List.flatMap_append, ← Drawable.push_eq, ← ih, drawStack]
      split
      · next text kind => exact absurd kind (isNode text)
      · rw [read]

/-- A tree is drawn as its rows are written one by one. -/
theorem draw_eq (tree : Node) : draw styler tree = (tree.rows [] 0).mapM (Row.line styler) := by
  have written : ((tree.rows [] 0).map (Row.line styler)).mapM id = (tree.rows [] 0).mapM (Row.line styler) :=
    List.mapM_map
  rw [draw, drawStack_eq, List.flatMap_cons, List.flatMap_nil, List.append_nil, Drawable.lines, written]
  cases (tree.rows [] 0).mapM (Row.line styler) <;> simp [Except.map]

end Stack

/-! ## The rows of a tree -/

section Rows

/-- Below the row of a node are the rows of children, or those of as many bodies as the node has slots. -/
theorem rows_cases {label : Label} {kids : List Node} (built : Node.HandBuilt ⟨label, kids⟩)
    (position : Position) (depth : Nat) :
    (label.kind.slots = [] ∧ Node.rows position depth ⟨label, kids⟩ =
        .node position depth label :: Node.rowsOfKids position 0 (depth + 1) kids) ∨
      (kids.length = label.kind.slots.length ∧ Node.rows position depth ⟨label, kids⟩ =
        .node position depth label ::
          Node.rowsOfBodies position 0 (depth + 1) label.kind.slots kids) := by
  have room := Node.Everywhere.here built
  rw [Node.rows]
  cases kind : label.kind with
  | root _ => exact .inl ⟨rfl, rfl⟩
  | element _ _ => exact .inl ⟨rfl, rfl⟩
  | block path hasProgram hasInverse =>
      simp only [kind] at room
      exact .inr ⟨room.resolve_left Bool.false_ne_true, rfl⟩
  | _ =>
      simp only [kind] at room
      obtain rfl := List.length_eq_zero_iff.mp (room.resolve_left Bool.false_ne_true)
      exact .inr ⟨rfl, by simp [Kind.slots, Node.rowsOfBodies]⟩

/-! ### The order of the nodes -/

section Order

variable {α : Type} {pick : Row → Option α}

/-- Without the rows in front of bodies, bodies are like children one level deeper. -/
theorem filterMap_rowsOfBodies (blind : ∀ position depth slot, pick (.body position depth slot) = none)
    {slots : List Slot} {kids : List Node} (count : kids.length = slots.length) (parent : Position)
    (index depth : Nat) :
    (Node.rowsOfBodies parent index depth slots kids).filterMap pick =
      (Node.rowsOfKids parent index (depth + 1) kids).filterMap pick := by
  induction kids generalizing index slots with
  | nil => cases slots <;> simp [Node.rowsOfBodies, Node.rowsOfKids]
  | cons body rest ih =>
      cases slots with
      | nil => cases count
      | cons slot slots =>
          rw [Node.rowsOfBodies, Node.rowsOfKids, List.cons_append, List.filterMap_cons_none (blind _ _ _),
            List.filterMap_append, List.filterMap_append, ih (Nat.succ.inj count)]

/-- The rows of nodes are that of the top node and those of the nodes below it, at some depth. -/
theorem exists_filterMap_rows (pick : Row → Option α)
    (blind : ∀ position depth slot, pick (.body position depth slot) = none) {label : Label}
    {kids : List Node} (built : Node.HandBuilt ⟨label, kids⟩) (position : Position) (depth : Nat) :
    ∃ deeper, (Node.rows position depth ⟨label, kids⟩).filterMap pick =
      (Row.node position depth label :: Node.rowsOfKids position 0 deeper kids).filterMap pick := by
  rcases rows_cases built position depth with ⟨_, rows⟩ | ⟨count, rows⟩
  · exact ⟨depth + 1, by rw [rows]⟩
  · refine ⟨depth + 2, ?_⟩
    rw [rows, List.filterMap_cons, List.filterMap_cons, filterMap_rowsOfBodies blind count]

theorem places_rowsOfKids {kids : List Node}
    (each : ∀ kid ∈ kids, ∀ position depth parent, (kid.rows position depth).filterMap Row.place? =
      (kid.walkOrder position parent).map Prod.fst) (parent : Position) (index depth : Nat) :
    (Node.rowsOfKids parent index depth kids).filterMap Row.place? =
      (Node.walkOrderAll parent index kids).map Prod.fst := by
  induction kids generalizing index with
  | nil => rfl
  | cons kid rest ih =>
      rw [Node.rowsOfKids, Node.walkOrderAll, List.filterMap_append, List.map_append,
        each kid List.mem_cons_self, ih fun kid member => each kid (List.mem_cons_of_mem _ member)]

/-- Nodes are drawn in the order of a walk. -/
theorem places_rows {node : Node} (built : node.HandBuilt) (position : Position) (depth : Nat)
    (parent : Option Position) :
    (node.rows position depth).filterMap Row.place? =
      (node.walkOrder position parent).map Prod.fst := by
  induction node using Node.induction generalizing position depth parent with
  | step label kids below =>
      obtain ⟨deeper, rows⟩ := exists_filterMap_rows Row.place? (fun _ _ _ => rfl) built position depth
      have all := places_rowsOfKids (fun kid member => below kid member (Node.Everywhere.kid built member)) position 0
        deeper
      rw [rows, Node.walkOrder, List.map_cons, ← all]
      rfl

theorem labels_rowsOfKids {kids : List Node}
    (each : ∀ kid ∈ kids, ∀ position depth parent, (kid.rows position depth).filterMap Row.label? =
      (kid.family parent).map Prod.fst) (position : Position) (index depth : Nat)
    (parent : Option Label) :
    (Node.rowsOfKids position index depth kids).filterMap Row.label? =
      (Node.familyAll parent kids).map Prod.fst := by
  induction kids generalizing index with
  | nil => rfl
  | cons kid rest ih =>
      rw [Node.rowsOfKids, Node.familyAll, List.filterMap_append, List.map_append,
        each kid List.mem_cons_self, ih fun kid member => each kid (List.mem_cons_of_mem _ member)]

theorem labels_rows {node : Node} (built : node.HandBuilt) (position : Position) (depth : Nat)
    (parent : Option Label) :
    (node.rows position depth).filterMap Row.label? = (node.family parent).map Prod.fst := by
  induction node using Node.induction generalizing position depth parent with
  | step label kids below =>
      obtain ⟨deeper, rows⟩ := exists_filterMap_rows Row.label? (fun _ _ _ => rfl) built position depth
      have all := labels_rowsOfKids (fun kid member => below kid member (Node.Everywhere.kid built member)) position 0
        deeper (some label)
      rw [rows, Node.family, List.map_cons, ← all]
      rfl

end Order

/-! ### How many rows there are -/

section Count

def bodyCount : List Label → Nat
  | [] => 0
  | label :: rest => label.kind.slots.length + bodyCount rest

theorem bodyCount_append (front back : List Label) :
    bodyCount (front ++ back) = bodyCount front + bodyCount back := by
  induction front with
  | nil => rw [List.nil_append, bodyCount, Nat.zero_add]
  | cons label rest ih => rw [List.cons_append, bodyCount, bodyCount, ih, Nat.add_assoc]

/-- Bodies have one more row than children do. -/
theorem length_rowsOfBodies {slots : List Slot} {kids : List Node} (count : kids.length = slots.length)
    (parent : Position) (index depth : Nat) :
    (Node.rowsOfBodies parent index depth slots kids).length =
      (Node.rowsOfKids parent index (depth + 1) kids).length + slots.length := by
  induction kids generalizing index slots with
  | nil =>
      obtain rfl := List.length_eq_zero_iff.mp count.symm
      simp [Node.rowsOfBodies, Node.rowsOfKids]
  | cons body rest ih =>
      cases slots with
      | nil => cases count
      | cons slot slots =>
          have later := ih (Nat.succ.inj count) (index + 1)
          simp only [Node.rowsOfBodies, Node.rowsOfKids, List.length_append, List.length_cons, later]
          omega

theorem length_rowsOfKids {kids : List Node}
    (each : ∀ kid ∈ kids, ∀ position depth parent, (kid.rows position depth).length =
      kid.size + bodyCount ((kid.family parent).map Prod.fst)) (position : Position) (index depth : Nat)
    (parent : Option Label) :
    (Node.rowsOfKids position index depth kids).length =
      Node.sizeAll kids + bodyCount ((Node.familyAll parent kids).map Prod.fst) := by
  induction kids generalizing index with
  | nil => rfl
  | cons kid rest ih =>
      have later := ih (fun kid member => each kid (List.mem_cons_of_mem _ member)) (index + 1)
      rw [Node.rowsOfKids, List.length_append, each kid List.mem_cons_self _ _ parent, later,
        Node.sizeAll, Node.familyAll, List.map_append, bodyCount_append]
      omega

/-- A tree has a row for each of its nodes and one for each body. -/
theorem length_rows {node : Node} (built : node.HandBuilt) (position : Position) (depth : Nat)
    (parent : Option Label) :
    (node.rows position depth).length =
      node.size + bodyCount ((node.family parent).map Prod.fst) := by
  induction node using Node.induction generalizing position depth parent with
  | step label kids below =>
      have all := length_rowsOfKids fun kid member => below kid member (Node.Everywhere.kid built member)
      have bodies : bodyCount (((Node.mk label kids).family parent).map Prod.fst) =
          label.kind.slots.length + bodyCount ((Node.familyAll (some label) kids).map Prod.fst) := by
        rw [Node.family, List.map_cons, bodyCount]
      rw [Node.size, bodies]
      rcases rows_cases built position depth with ⟨noSlots, rows⟩ | ⟨count, rows⟩
      · rw [rows, List.length_cons, all position 0 _ (some label), noSlots, List.length_nil]
        omega
      · rw [rows, List.length_cons, length_rowsOfBodies count, all position 0 _ (some label)]
        omega

end Count

/-! ### Bodies and the rows in front of them -/

section Bodies

/-- Rows in which every body comes right after the row with its name, one level deeper. -/
inductive Headed : List Row → Prop
  | nil : Headed []
  | node (position : Position) (depth : Nat) (label : Label) {rest : List Row} (headed : Headed rest) :
      Headed (.node position depth label :: rest)
  | body (position : Position) (depth : Nat) (slot : Slot) (label : Label) {rest : List Row}
      (headed : Headed rest) :
      Headed (.body position depth slot :: .node position (depth + 1) label :: rest)

theorem Headed.append {front back : List Row} (headed : Headed front) (rest : Headed back) :
    Headed (front ++ back) := by
  induction headed with
  | nil => exact rest
  | node position depth label _ ih => exact .node position depth label ih
  | body position depth slot label _ ih => exact .body position depth slot label ih

theorem Headed.next {rows : List Row} (headed : Headed rows) {index : Nat} {position : Position}
    {depth : Nat} {slot : Slot} (here : rows[index]? = some (.body position depth slot)) :
    ∃ label, rows[index + 1]? = some (.node position (depth + 1) label) := by
  induction headed generalizing index with
  | nil => cases here
  | node place level label _ ih =>
      cases index with
      | zero => cases here
      | succ index => exact ih here
  | body place level name label _ ih =>
      match index with
      | 0 =>
          cases here
          exact ⟨label, rfl⟩
      | 1 => cases here
      | index + 2 => exact ih here

theorem headed_rowsOfKids {kids : List Node}
    (each : ∀ kid ∈ kids, ∀ position depth, Headed (kid.rows position depth)) (parent : Position)
    (index depth : Nat) : Headed (Node.rowsOfKids parent index depth kids) := by
  induction kids generalizing index with
  | nil => exact .nil
  | cons kid rest ih =>
      rw [Node.rowsOfKids]
      exact (each kid List.mem_cons_self _ _).append
        (ih (fun kid member => each kid (List.mem_cons_of_mem _ member)) (index + 1))

theorem headed_rowsOfBodies {kids : List Node}
    (each : ∀ kid ∈ kids, ∀ position depth, Headed (kid.rows position depth)) (parent : Position)
    (index depth : Nat) (slots : List Slot) :
    Headed (Node.rowsOfBodies parent index depth slots kids) := by
  induction kids generalizing index slots with
  | nil => cases slots <;> simp [Node.rowsOfBodies, Headed.nil]
  | cons body rest ih =>
      cases slots with
      | nil => simp [Node.rowsOfBodies, Headed.nil]
      | cons slot slots =>
          have own := each body List.mem_cons_self (parent ++ [index]) (depth + 1)
          have later := ih (fun kid member => each kid (List.mem_cons_of_mem _ member)) (index + 1) slots
          rw [Node.rowsOfBodies]
          cases body with
          | mk label below =>
              -- The rows of a body start with that of the body itself.
              rw [Node.rows] at own ⊢
              cases own with
              | node _ _ _ headed => exact .body _ _ _ _ (headed.append later)

theorem headed_rows {node : Node} (built : node.HandBuilt) (position : Position) (depth : Nat) :
    Headed (node.rows position depth) := by
  induction node using Node.induction generalizing position depth with
  | step label kids below =>
      have each : ∀ kid ∈ kids, ∀ position depth, Headed (kid.rows position depth) :=
        fun kid member => below kid member (Node.Everywhere.kid built member)
      rcases rows_cases built position depth with ⟨_, rows⟩ | ⟨_, rows⟩
      · rw [rows]
        exact .node _ _ _ (headed_rowsOfKids each _ _ _)
      · rw [rows]
        exact .node _ _ _ (headed_rowsOfBodies each _ _ _ _)

end Bodies

end Rows

/-! ## The walk that changes nothing -/

theorem walk_idle {fuel : Nat} (parent : Option Label) {node : Node} (formed : node.WellFormed)
    (enough : node.depth ≤ fuel) :
    (walk idle fuel parent node).fault = none ∧ (walk idle fuel parent node).state.node = node := by
  induction fuel generalizing parent node with
  | zero =>
      cases node with
      | mk label kids => simp [Node.depth] at enough
  | succ fuel ih =>
      have known := formed.isKnown
      cases node with
      | mk label kids =>
          rw [Node.depth, Nat.add_le_add_iff_right] at enough
          obtain ⟨done, made⟩ := walkAll_of_all (walk idle fuel (some label)) id kids fun kid member =>
            ih (some label) (formed.kid member)
              (Nat.le_trans (Node.depth_le_depthOfKids member) enough)
          rw [List.map_id] at made
          simp only [walk, idle, Outcome.done, known, if_true]
          exact ⟨done, by rw [made]⟩

/-- What the rows of a well-formed tree are: those of the nodes that a walk visits, in its order, and one
more in front of each body. -/
structure Listed (tree : Node) (rows : List Row) : Prop where
  order : ∃ count calls, Walking.rounds idle.visitor count (.start () tree) = .ok ⟨(), tree, [], calls⟩ ∧
    rows.filterMap Row.place? = calls.map Prod.fst
  labels : rows.filterMap Row.label? = (traverse idle tree).state.visited.map Prod.fst
  count : rows.length = tree.size + bodyCount ((traverse idle tree).state.visited.map Prod.fst)
  bodies : ∀ index position depth slot, rows[index]? = some (.body position depth slot) →
    ∃ label, rows[index + 1]? = some (.node position (depth + 1) label)

theorem listed_rows {tree : Node} (formed : tree.WellFormed) : Listed tree (tree.rows [] 0) := by
  -- The walk leaves the tree as it is, so what it visits can be read off the tree.
  obtain ⟨done, stays⟩ := walk_idle none formed (Nat.le_refl tree.depth)
  obtain ⟨⟨count, calls⟩, visited⟩ := exists_rounds_walk idle tree.depth tree done
    (by rw [stays])
  rw [stays] at calls visited
  have same : (traverse idle tree).state.visited = tree.family none := visited
  refine ⟨⟨count, _, calls, places_rows formed.handBuilt [] 0 none⟩, ?_, ?_, fun _ _ _ _ =>
    (headed_rows formed.handBuilt [] 0).next⟩
  · rw [same, labels_rows formed.handBuilt [] 0 none]
  · rw [same, length_rows formed.handBuilt [] 0 none]

/-! ## Trees that can be drawn -/

def Label.Legible (label : Label) : Prop :=
  ∀ entry ∈ label.notes.entries, entry.2.Writable

instance (label : Label) : Decidable label.Legible :=
  inferInstanceAs (Decidable (∀ entry ∈ label.notes.entries, entry.2.Writable))

namespace Node

def Legible (node : Node) : Prop :=
  node.Everywhere fun part => part.label.Legible

instance : DecidablePred Legible :=
  fun node => inferInstanceAs (Decidable (Everywhere _ node))

end Node

section Legible

variable (styler : Styler)

theorem exists_noteText_iff {value : Value} : (∃ text, noteText value = .ok text) ↔ value.Writable := by
  cases value with
  | bool b => exact iff_of_true ⟨_, rfl⟩ ⟨rfl, Nat.zero_le _⟩
  | _ =>
      simp only [noteText]
      exact Value.shown_writable_iff

theorem exists_noteTexts_iff {label : Label} :
    (∃ texts, noteTexts styler label.notes = .ok texts) ↔ label.Legible := by
  simp only [noteTexts, exists_mapM_iff, exists_map_iff, exists_noteText_iff, Label.Legible]

theorem exists_content_iff {label : Label} :
    (∃ text, Row.content styler label = .ok text) ↔ label.Legible := by
  rw [← exists_noteTexts_iff styler, Row.content]
  cases noteTexts styler label.notes with
  | error e => exact iff_of_false nofun nofun
  | ok texts => exact iff_of_true ⟨_, rfl⟩ ⟨texts, rfl⟩

/-- A line says what its node is and what is known about it, when that can be said. -/
theorem line_of_hasNotes {label : Label} (noted : label.kind.hasNotes = true) (position : Position) (depth : Nat) :
    Row.line styler (.node position depth label) =
      (Row.content styler label).map fun text => Text.stripEnd (indent depth ++ text) := by
  rw [Row.line]
  cases kind : label.kind with
  | bodyLabel _ => simp [kind, Kind.hasNotes] at noted
  | foreign _ => simp [kind, Kind.hasNotes] at noted
  | _ => rfl

theorem exists_line_iff {label : Label} (noted : label.kind.hasNotes = true) (position : Position) (depth : Nat) :
    (∃ line, Row.line styler (.node position depth label) = .ok line) ↔ label.Legible := by
  rw [line_of_hasNotes styler noted, exists_map_iff, exists_content_iff]

/-- The labels of the rows of nodes are those of the parts of a tree. -/
theorem mem_family_iff {label : Label} {node : Node} (parent : Option Label) :
    label ∈ (node.family parent).map Prod.fst ↔ ∃ part, Node.Within part node ∧ part.label = label := by
  induction node using Node.induction generalizing parent with
  | step own kids below =>
      rw [Node.family, List.map_cons, List.mem_cons, Node.familyAll_eq, List.map_flatMap, List.mem_flatMap]
      constructor
      · rintro (rfl | ⟨kid, member, inKid⟩)
        · exact ⟨_, .here, rfl⟩
        · obtain ⟨part, within, same⟩ := (below kid member _).mp inKid
          exact ⟨part, .deeper member within, same⟩
      · rintro ⟨part, within, same⟩
        cases within with
        | here => exact .inl same.symm
        | deeper member within => exact .inr ⟨_, member, (below _ member _).mpr ⟨part, within, same⟩⟩

theorem exists_row_iff {label : Label} {node : Node} (built : node.HandBuilt) (position : Position)
    (depth : Nat) :
    (∃ row ∈ node.rows position depth, row.label? = some label) ↔
      ∃ part, Node.Within part node ∧ part.label = label := by
  rw [← mem_family_iff none, ← labels_rows built position depth none, List.mem_filterMap]

/-- All rows can be written when those of the nodes can. -/
theorem forall_line_iff {node : Node} (built : node.HandBuilt) {law : Label → Prop}
    (own : ∀ label, (∃ part, Node.Within part node ∧ part.label = label) → ∀ position depth,
      (∃ line, Row.line styler (.node position depth label) = .ok line) ↔ law label) (position : Position) (depth : Nat) :
    (∀ row ∈ node.rows position depth, ∃ line, Row.line styler row = .ok line) ↔
      node.Everywhere fun part => law part.label := by
  rw [Node.everywhere_iff]
  constructor
  · intro each part within
    obtain ⟨row, member, isLabel⟩ := (exists_row_iff built position depth).mpr ⟨part, within, rfl⟩
    cases row with
    | body _ _ _ => cases isLabel
    | node place level label =>
        obtain rfl := Option.some.inj isLabel
        exact (own _ ⟨part, within, rfl⟩ place level).mp (each _ member)
  · intro all row member
    cases row with
    | body _ _ _ => exact ⟨_, rfl⟩
    | node place level label =>
        obtain ⟨part, within, rfl⟩ := (exists_row_iff built position depth).mp ⟨_, member, rfl⟩
        exact (own _ ⟨part, within, rfl⟩ place level).mpr (all part within)

/-- A well-formed tree is drawn exactly when its notes can be written, one line for each row. -/
theorem draw_ok_iff {tree : Node} (formed : tree.WellFormed) :
    (∃ lines, draw styler tree = .ok lines) ↔ tree.Legible := by
  rw [draw_eq, exists_mapM_iff]
  refine forall_line_iff styler formed.handBuilt ?_ [] 0
  rintro _ ⟨part, within, rfl⟩ position depth
  exact exists_line_iff styler (Node.hasNotes_of_isKnown (Node.isKnown_of_fits (Node.Everywhere.within formed within)))
    position depth

end Legible

/-- A well-formed tree is drawn, with a stack, as its rows are written one by one, and that fails only for a
note that cannot be written.  Its nodes come in the order in which a walk visits them, and every body right
after the line with its name.  In front of a line are two blanks for each level, as long as the line says
anything. -/
theorem draw_eq_rows (styler : Styler) (tree : Node) (formed : tree.WellFormed) :
    draw styler tree = (tree.rows [] 0).mapM (Row.line styler) ∧ Listed tree (tree.rows [] 0) ∧
      (tree.Legible ↔ ∃ lines, draw styler tree = .ok lines ∧ lines.length = (tree.rows [] 0).length) ∧
      ∀ position depth label text, label.kind.isKnown = true → Row.content styler label = .ok text →
        Text.stripEnd text ≠ "" →
          Row.line styler (.node position depth label) = .ok (indent depth ++ Text.stripEnd text) := by
  refine ⟨draw_eq styler tree, listed_rows formed, ?_, ?_⟩
  · rw [← draw_ok_iff styler formed]
    refine exists_congr fun lines => ⟨fun drawn => ⟨drawn, ?_⟩, And.left⟩
    rw [draw_eq] at drawn
    exact (forall₂_of_mapM drawn).length_eq.symm
  · intro position depth label text known content filled
    rw [line_of_hasNotes styler (Node.hasNotes_of_isKnown known), content, Except.map, stripEnd_indent, if_neg filled]

def choice : Node :=
  ⟨.ofKind (.root .template),
    [⟨.ofKind (.block (.text "if") true true),
        [⟨.ofKind (.root .block), [⟨.ofKind (.element "b" []), []⟩]⟩, ⟨.ofKind (.root .block), []⟩]⟩,
      ⟨.ofKind (.text "end"), []⟩]⟩

theorem draw_choice :
    draw Terminal.unstyled choice = .ok
      ["Template", "  BlockStatement", "    program:", "      Block", "        ElementNode <b>",
        "    inverse:", "      Block", "  TextNode 'end'"] := by
  have formed : choice.WellFormed := by decide
  rw [(draw_eq_rows Terminal.unstyled choice formed).1]
  rfl

end TemplateSpacing.Tree
