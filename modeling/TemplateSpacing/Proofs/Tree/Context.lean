import TemplateSpacing.Proofs.Tree.View

/-! # Nodes in their surroundings

A node of a tree stands in a context: the labels on the way to it, with the nodes in front and behind at
each of them.  A rule is local if it makes the same of the context whatever stands below the node, so that
two trees with one context keep one context when they are rewritten.
-/

set_option autoImplicit false

namespace TemplateSpacing.Tree

/-! ## Contexts -/

structure Frame where
  label : Label
  front : List Node
  back : List Node

def Frame.fill (frame : Frame) (node : Node) : Node :=
  ⟨frame.label, frame.front ++ node :: frame.back⟩

abbrev Context := List Frame

def Context.plug (around : Context) (node : Node) : Node :=
  around.foldr Frame.fill node

@[simp] theorem Context.plug_nil (node : Node) : Context.plug [] node = node := rfl

@[simp] theorem Context.plug_cons (frame : Frame) (rest : Context) (node : Node) :
    Context.plug (frame :: rest) node = frame.fill (rest.plug node) := rfl

/-- The same surroundings in another tree.  For the kind of a label and the kind of a node below it, `stays`
says what the node has become, if it is still there. -/
structure Frame.Lands (stays : Kind → Kind → Option Kind) (before after : Frame) : Prop where
  kind : after.label.kind = before.label.kind
  front : after.front.map (fun kid => kid.label.kind) =
    before.front.filterMap fun kid => stays before.label.kind kid.label.kind
  back : after.back.map (fun kid => kid.label.kind) =
    before.back.filterMap fun kid => stays before.label.kind kid.label.kind

/-! ## What shows of a node -/

/-- What its surroundings see of a kind: not which bodies a block has. -/
def Kind.outside : Kind → Kind
  | .block path _ _ => .block path true true
  | kind => kind

theorem Kind.eq_of_outside {α : Type} (f : Kind → α)
    (blind : ∀ path hasProgram hasInverse, f (.block path hasProgram hasInverse) = f (.block path true true))
    {kind other : Kind} (same : kind.outside = other.outside) : f kind = f other := by
  have seen : ∀ kind : Kind, f kind = f kind.outside := by
    intro kind
    cases kind with
    | block path hasProgram hasInverse => exact blind path hasProgram hasInverse
    | _ => rfl
  rw [seen kind, same, ← seen other]

/-- The notes that are a matter of a node's surroundings: those on an element but for what is said about
its content, and all notes on any other node. -/
def outwardNotes (kind : Kind) : List Note :=
  if kind.isElement then
    [.display, .leadingSensitive, .trailingSensitive, .leadingSpaces, .trailingSpaces]
  else Note.all

structure Seen (label other : Label) : Prop where
  solid : label.kind.isText = false
  kind : label.kind.outside = other.kind.outside
  notes : ∀ note ∈ outwardNotes label.kind, label.notes.get note = other.notes.get note
  extras : label.extras = other.extras

section Seen

variable {label other : Label}

theorem Seen.same (solid : label.kind.isText = false) : Seen label label :=
  ⟨solid, rfl, fun _ _ => rfl, rfl⟩

theorem Seen.note (seen : Seen label other) (which : Note) (value : Option Value) :
    Seen (label.note which value) (other.note which value) := by
  refine ⟨seen.solid, seen.kind, ?_, seen.extras⟩
  intro note outward
  simp only [Label.note, Notes.get_set]
  split
  · rfl
  · exact seen.notes note outward

/-- Changes that the surroundings do not see make no difference. -/
theorem Seen.of_only (seen : Seen label other) {made madeOther : Label}
    (same : made.only (outwardNotes label.kind) = label.only (outwardNotes label.kind))
    (sameOther : madeOther.only (outwardNotes label.kind) = other.only (outwardNotes label.kind)) :
    Seen made madeOther := by
  have kind := Label.kind_of_only_eq same
  have kindOther := Label.kind_of_only_eq sameOther
  have extras : made.extras = label.extras := by
    have parts := congrArg Label.extras same
    exact parts
  have extrasOther : madeOther.extras = other.extras := by
    have parts := congrArg Label.extras sameOther
    exact parts
  refine ⟨kind ▸ seen.solid, ?_, ?_, ?_⟩
  · rw [kind, kindOther, seen.kind]
  · intro note outward
    rw [kind] at outward
    rw [Label.get_eq_of_only_eq note outward same, Label.get_eq_of_only_eq note outward sameOther]
    exact seen.notes note outward
  · rw [extras, extrasOther, seen.extras]

theorem Seen.isRoot (seen : Seen label other) : label.kind.isRoot = other.kind.isRoot :=
  Kind.eq_of_outside Kind.isRoot (fun _ _ _ => rfl) seen.kind

theorem Seen.isElement (seen : Seen label other) : label.kind.isElement = other.kind.isElement :=
  Kind.eq_of_outside Kind.isElement (fun _ _ _ => rfl) seen.kind

theorem Seen.isContainer (seen : Seen label other) : label.kind.isContainer = other.kind.isContainer :=
  Kind.eq_of_outside Kind.isContainer (fun _ _ _ => rfl) seen.kind

theorem Seen.isText (seen : Seen label other) : other.kind.isText = false :=
  (Kind.eq_of_outside Kind.isText (fun _ _ _ => rfl) seen.kind).symm.trans seen.solid

end Seen

/-- Nodes that differ below them alone: elements in their children, or blocks in the given body. -/
structure Apart (slot : Slot) (node twin : Node) : Prop where
  seen : Seen node.label twin.label
  stem : node.label.kind.isRoot = false
  bodies : ∀ other, other ≠ slot → node.body? other = twin.body? other

/-- Elements with the same label may have any children. -/
theorem Apart.children (slot : Slot) {label : Label} (element : label.kind.isElement = true)
    (kids others : List Node) : Apart slot ⟨label, kids⟩ ⟨label, others⟩ := by
  cases label with
  | mk kind notes extras =>
      cases kind with
      | element tag attributes => exact ⟨.same rfl, rfl, fun _ _ => rfl⟩
      | _ => cases element

/-- Blocks may have any nodes as the one body. -/
theorem Apart.bodies_of_block {slot : Slot} {path : Value} {notes : Notes} {extras : Entries Value}
    {hasProgram hasInverse newProgram newInverse : Bool} {kids others : List Node}
    (bodies : ∀ other, other ≠ slot →
      Node.body? ⟨⟨.block path hasProgram hasInverse, notes, extras⟩, kids⟩ other =
        Node.body? ⟨⟨.block path newProgram newInverse, notes, extras⟩, others⟩ other) :
    Apart slot ⟨⟨.block path hasProgram hasInverse, notes, extras⟩, kids⟩
      ⟨⟨.block path newProgram newInverse, notes, extras⟩, others⟩ :=
  ⟨⟨rfl, rfl, fun _ _ => rfl, rfl⟩, rfl, bodies⟩

section Holes

variable {slot : Slot} {node twin : Node} {around : Context}

/-- The bodies of a block are a matter of its kind and of what stands below it. -/
theorem Apart.underLabels {label other : Label} (apart : Apart slot node twin) (seen : Seen label other)
    (kind : label.kind = node.label.kind) (kindTwin : other.kind = twin.label.kind) :
    Apart slot ⟨label, node.kids⟩ ⟨other, twin.kids⟩ := by
  refine ⟨seen, kind ▸ apart.stem, ?_⟩
  intro otherSlot different
  have bodies := apart.bodies otherSlot different
  rw [Node.body?, Node.body?] at bodies ⊢
  rw [kind, kindTwin]
  exact bodies

theorem label_plug (further : around ≠ []) : (around.plug node).label = (around.plug twin).label := by
  cases around with
  | nil => exact absurd rfl further
  | cons frame _ => rfl

theorem seen_plug (apart : Apart slot node twin)
    (solid : ∀ frame ∈ around, frame.label.kind.isText = false) :
    Seen (around.plug node).label (around.plug twin).label := by
  cases around with
  | nil => exact apart.seen
  | cons frame _ => exact .same (solid frame List.mem_cons_self)

end Holes

/-! ## Local rules -/

/-- A rule makes the same of a label and the labels below it, whichever of two labels stands at one
place below, and what it makes of the two shows no difference either. -/
def Cuts (rule : Rule) (stays : Kind → Kind → Option Kind) (top : Bool) (label : Label)
    (front back : List Label) (old new : Label) : Prop :=
  ∃ own first made last madeNew,
    rule top label (front ++ old :: back) = (own, first ++ some made :: last) ∧
    rule top label (front ++ new :: back) = (own, first ++ some madeNew :: last) ∧
    Seen made madeNew ∧ made.kind = old.kind ∧ madeNew.kind = new.kind ∧
    first.map (Option.map Label.kind) = front.map (fun child => stays label.kind child.kind) ∧
    last.map (Option.map Label.kind) = back.map (fun child => stays label.kind child.kind)

/-- A rule that does not look below the nodes that are below a label. -/
structure Local (rule : Rule) (stays : Kind → Kind → Option Kind) : Prop where
  kind : ∀ top label below, (rule top label below).1.kind = label.kind
  below : ∀ top label front back old new, Seen old new → Cuts rule stays top label front back old new
  own : ∀ top label other below belowOther, Seen label other → label.kind.isRoot = false →
    Seen (rule top label below).1 (rule top other belowOther).1
  bodies : ∀ top label below, label.kind.isContainer = false →
    (rule top label below).2 = below.map some

def keepAll : Kind → Kind → Option Kind := fun _ kind => some kind

theorem map_kind_some (labels : List Label) :
    (labels.map some).map (Option.map Label.kind) = labels.map fun label => some label.kind := by
  rw [List.map_map]
  rfl

theorem Cuts.of_unchanged {rule : Rule} {stays : Kind → Kind → Option Kind} {top : Bool}
    {label own old new : Label} {front back : List Label} (seen : Seen old new)
    (keeps : ∀ kind, stays label.kind kind = some kind)
    (rules : rule top label (front ++ old :: back) = (own, (front ++ old :: back).map some))
    (rulesNew : rule top label (front ++ new :: back) = (own, (front ++ new :: back).map some)) :
    Cuts rule stays top label front back old new := by
  have same (labels : List Label) : (labels.map some).map (Option.map Label.kind) =
      labels.map fun child => stays label.kind child.kind := by
    simp only [keeps]
    exact map_kind_some labels
  rw [List.map_append, List.map_cons] at rules rulesNew
  exact ⟨own, front.map some, old, back.map some, new, rules, rulesNew, seen, rfl, rfl, same front, same back⟩

section Rewrite

theorem Node.mk_label_kids (node : Node) : Node.mk node.label node.kids = node := by
  cases node
  rfl

variable {rule : Rule} {stays : Kind → Kind → Option Kind}

theorem relabel_append {front back : List Node} {first last : List (Option Label)}
    (count : first.length = front.length) :
    Node.relabel (front ++ back) (first ++ last) = Node.relabel front first ++ Node.relabel back last := by
  rw [Node.relabel, List.zip_append count.symm, List.filterMap_append]
  rfl

theorem kinds_relabel {kids : List Node} {labels : List (Option Label)} {become : Kind → Option Kind}
    (kinds : labels.map (Option.map Label.kind) = (kids.map Node.label).map fun label => become label.kind) :
    (Node.relabel kids labels).map (fun kid => kid.label.kind) =
      kids.filterMap fun kid => become kid.label.kind := by
  have count : labels.length = kids.length := by
    have lengths := congrArg List.length kinds
    simpa only [List.length_map] using lengths
  calc (Node.relabel kids labels).map (fun kid => kid.label.kind)
      = ((Node.relabel kids labels).map Node.label).map Label.kind := List.map_map.symm
    _ = (labels.map (Option.map Label.kind)).filterMap id := by
        rw [Node.map_label_relabel count, List.filterMap_map, List.map_filterMap]
        rfl
    _ = kids.filterMap fun kid => become kid.label.kind := by
        rw [kinds, List.map_map, List.filterMap_map]
        rfl

theorem Local.kind_rewrite (isLocal : Local rule stays) (top : Bool) (node : Node) :
    (node.rewrite rule top).label.kind = node.label.kind := by
  rw [Node.rewrite_label]
  exact isLocal.kind top node.label node.kidLabels

theorem Local.kinds_rewrite (isLocal : Local rule stays) (kids : List Node) :
    (kids.map (Node.rewrite rule false)).map (fun kid => kid.label.kind) =
      kids.map fun kid => kid.label.kind := by
  rw [List.map_map]
  exact List.map_congr_left fun kid _ => isLocal.kind_rewrite false kid

theorem body?_of_isContainer {node : Node} (container : node.label.kind.isContainer = true) (slot : Slot) :
    node.body? slot = none := by
  rw [Node.body?]
  generalize node.label.kind = kind at container
  cases kind with
  | block _ _ _ => cases container
  | _ => rfl

/-- The bodies of a block are rewritten each on its own. -/
theorem Local.body?_rewrite (isLocal : Local rule stays) (top : Bool) {node : Node}
    (closed : node.label.kind.isContainer = false) (slot : Slot) :
    (node.rewrite rule top).body? slot = (node.body? slot).map (Node.rewrite rule false) := by
  have kids : (node.rewrite rule top).kids = node.kids.map (Node.rewrite rule false) := by
    rw [Node.rewrite_kids, Node.visited, isLocal.bodies top node.label node.kidLabels closed,
      Node.kidLabels, Node.relabel_same]
  rw [Node.body?, Node.body?, isLocal.kind_rewrite, kids]
  generalize node.kids = bodies
  induction node.label.kind.slots generalizing bodies with
  | nil => rfl
  | cons first rest ih =>
      cases bodies with
      | nil => rfl
      | cons body later =>
          rw [List.map_cons, List.zip_cons_cons, List.zip_cons_cons, List.lookup_cons, List.lookup_cons, ih]
          split <;> rfl

theorem Local.apart_rewrite (isLocal : Local rule stays) (top : Bool) {slot : Slot} {node twin : Node}
    (apart : Apart slot node twin) : Apart slot (node.rewrite rule top) (twin.rewrite rule top) := by
  have seen := isLocal.own top node.label twin.label node.kidLabels twin.kidLabels apart.seen apart.stem
  refine ⟨?_, ?_, ?_⟩
  · rw [Node.rewrite_label, Node.rewrite_label]
    exact seen
  · rw [isLocal.kind_rewrite]
    exact apart.stem
  · intro other different
    have containers := apart.seen.isContainer
    cases container : node.label.kind.isContainer with
    | true =>
        rw [container] at containers
        rw [body?_of_isContainer (isLocal.kind_rewrite top node ▸ container),
          body?_of_isContainer (isLocal.kind_rewrite top twin ▸ containers.symm)]
    | false =>
        rw [container] at containers
        rw [isLocal.body?_rewrite top container, isLocal.body?_rewrite top containers.symm,
          apart.bodies other different]

def rewrittenFrame (rule : Rule) (frame : Frame) (own : Label) (first last : List (Option Label)) : Frame :=
  ⟨own, (Node.relabel frame.front first).map (Node.rewrite rule false),
    (Node.relabel frame.back last).map (Node.rewrite rule false)⟩

theorem rewrite_fill {top : Bool} {label own made : Label} {frame : Frame} {node : Node}
    {first last : List (Option Label)} (count : first.length = frame.front.length)
    (rules : rule top label (frame.front.map Node.label ++ node.label :: frame.back.map Node.label) =
      (own, first ++ some made :: last)) :
    Node.rewrite rule top ⟨label, (frame.fill node).kids⟩ =
      (rewrittenFrame rule frame own first last).fill (Node.rewrite rule false ⟨made, node.kids⟩) := by
  have visited : Node.visited rule top ⟨label, (frame.fill node).kids⟩ =
      ⟨own, Node.relabel frame.front first ++ ⟨made, node.kids⟩ :: Node.relabel frame.back last⟩ := by
    rw [Node.visited, Node.kidLabels, Frame.fill, List.map_append, List.map_cons, rules,
      relabel_append count, Node.relabel_some]
  rw [Node.rewrite_eq, visited, List.map_append, List.map_cons]
  rfl

theorem Local.lands (isLocal : Local rule stays) {frame : Frame} {own : Label} {first last : List (Option Label)}
    (kind : own.kind = frame.label.kind)
    (kindsFirst : first.map (Option.map Label.kind) =
      (frame.front.map Node.label).map fun label => stays frame.label.kind label.kind)
    (kindsLast : last.map (Option.map Label.kind) =
      (frame.back.map Node.label).map fun label => stays frame.label.kind label.kind) :
    frame.Lands stays (rewrittenFrame rule frame own first last) := by
  refine ⟨kind, ?_, ?_⟩
  · rw [rewrittenFrame, isLocal.kinds_rewrite]
    exact kinds_relabel kindsFirst
  · rw [rewrittenFrame, isLocal.kinds_rewrite]
    exact kinds_relabel kindsLast

/-- The trees around two nodes that differ below them alone, under labels that a visit from above has
left, are rewritten to the same surroundings. -/
theorem Local.exists_plug (isLocal : Local rule stays) {slot : Slot} {node twin : Node}
    (apart : Apart slot node twin) (around : Context)
    (solid : ∀ frame ∈ around, frame.label.kind.isText = false) (top : Bool) {label other : Label}
    (seen : Seen label other) (same : around ≠ [] → label = other)
    (kind : label.kind = (around.plug node).label.kind) (kindTwin : other.kind = (around.plug twin).label.kind) :
    ∃ after : Context, ∃ made madeTwin : Node,
      Node.rewrite rule top ⟨label, (around.plug node).kids⟩ = after.plug made ∧
      Node.rewrite rule top ⟨other, (around.plug twin).kids⟩ = after.plug madeTwin ∧
      List.Forall₂ (Frame.Lands stays) around after ∧ Apart slot made madeTwin ∧
      made.label.kind = node.label.kind ∧ madeTwin.label.kind = twin.label.kind := by
  induction around generalizing top label other with
  | nil =>
      have underLabels := apart.underLabels seen kind kindTwin
      refine ⟨[], Node.rewrite rule top ⟨label, node.kids⟩, Node.rewrite rule top ⟨other, twin.kids⟩, rfl,
        rfl, .nil, isLocal.apart_rewrite top underLabels, ?_, ?_⟩
      · rw [isLocal.kind_rewrite]
        exact kind
      · rw [isLocal.kind_rewrite]
        exact kindTwin
  | cons frame rest ih =>
      obtain rfl := same (List.cons_ne_nil _ _)
      have solidRest : ∀ frame ∈ rest, frame.label.kind.isText = false :=
        fun frame member => solid frame (List.mem_cons_of_mem _ member)
      obtain ⟨own, first, made, last, madeTwin, rules, rulesTwin, seenMade, kindMade, kindMadeTwin, kindsFirst,
        kindsLast⟩ := isLocal.below top label (frame.front.map Node.label) (frame.back.map Node.label)
          _ _ (seen_plug apart solidRest)
      -- Further down the trees still have the same labels, so the visit has made the same of them.
      have sameBelow : rest ≠ [] → made = madeTwin := by
        intro further
        rw [label_plug further] at rules
        have both := congrArg Prod.snd (rules.symm.trans rulesTwin)
        have tails := List.append_cancel_left both
        exact Option.some.inj (List.cons.inj tails).1
      have count : first.length = frame.front.length := by
        have lengths := congrArg List.length kindsFirst
        simpa only [List.length_map] using lengths
      have ownKind := isLocal.kind top label
        (frame.front.map Node.label ++ (Context.plug rest node).label :: frame.back.map Node.label)
      rw [rules] at ownKind
      have sameKind : label.kind = frame.label.kind := kind
      rw [sameKind] at ownKind kindsFirst kindsLast
      obtain ⟨after, hole, holeTwin, whole, wholeTwin, lands, apart', holeKind, holeTwinKind⟩ :=
        ih solidRest false seenMade sameBelow kindMade kindMadeTwin
      refine ⟨rewrittenFrame rule frame own first last :: after, hole, holeTwin, ?_, ?_,
        .cons (isLocal.lands ownKind kindsFirst kindsLast) lands, apart', holeKind, holeTwinKind⟩
      · rw [Context.plug_cons, rewrite_fill count rules, whole, Context.plug_cons]
      · rw [Context.plug_cons, rewrite_fill count rulesTwin, wholeTwin, Context.plug_cons]

end Rewrite

/-! ## Trees with one context -/

/-- Two trees that are the same but for what is below one node, in children or in the given body. -/
structure Around (around : Context) (slot : Slot) (node twin tree other : Node) : Prop where
  whole : tree = around.plug node
  wholeTwin : other = around.plug twin
  solid : ∀ frame ∈ around, frame.label.kind.isText = false
  apart : Apart slot node twin

section Trees

variable {rule : Rule} {stays : Kind → Kind → Option Kind} {around : Context} {slot : Slot}
  {node twin tree other : Node}

theorem solid_of_lands {after : Context} (lands : List.Forall₂ (Frame.Lands stays) around after)
    (solid : ∀ frame ∈ around, frame.label.kind.isText = false) :
    ∀ frame ∈ after, frame.label.kind.isText = false := by
  intro frame member
  obtain ⟨before, inAround, land⟩ := exists_of_forall₂_right lands member
  rw [land.kind]
  exact solid before inAround

theorem Frame.Lands.trans {before between after : Frame} (first : before.Lands keepAll between)
    (second : between.Lands stays after) : before.Lands stays after := by
  have chain {befores betweens : List Node}
      (kinds : betweens.map (fun kid => kid.label.kind) =
        befores.filterMap fun kid => keepAll before.label.kind kid.label.kind) :
      betweens.filterMap (fun kid => stays between.label.kind kid.label.kind) =
        befores.filterMap fun kid => stays before.label.kind kid.label.kind := by
    have plain : betweens.map (fun kid => kid.label.kind) = befores.map fun kid => kid.label.kind := by
      rw [kinds]
      exact congrFun List.filterMap_eq_map' befores
    have stayed := congrArg (List.filterMap (stays before.label.kind)) plain
    rw [List.filterMap_map, List.filterMap_map] at stayed
    rw [first.kind]
    exact stayed
  exact ⟨second.kind.trans first.kind, second.front.trans (chain first.front),
    second.back.trans (chain first.back)⟩

theorem lands_trans {between after : Context} (first : List.Forall₂ (Frame.Lands keepAll) around between)
    (second : List.Forall₂ (Frame.Lands stays) between after) :
    List.Forall₂ (Frame.Lands stays) around after := by
  induction first generalizing after with
  | nil =>
      cases second
      exact .nil
  | cons here _ ih =>
      cases second with
      | cons next later => exact .cons (here.trans next) (ih later)

theorem Local.around_rewrite (isLocal : Local rule stays) (given : Around around slot node twin tree other) :
    ∃ after : Context, ∃ made madeTwin : Node,
      Around after slot made madeTwin (tree.rewrite rule true) (other.rewrite rule true) ∧
      List.Forall₂ (Frame.Lands stays) around after ∧ made.label.kind = node.label.kind ∧
      madeTwin.label.kind = twin.label.kind := by
  obtain ⟨rfl, rfl, solid, apart⟩ := given
  obtain ⟨after, made, madeTwin, whole, wholeTwin, lands, apart', kind, kindTwin⟩ :=
    isLocal.exists_plug apart around solid true (seen_plug apart solid) label_plug rfl rfl
  rw [Node.mk_label_kids] at whole wholeTwin
  exact ⟨after, made, madeTwin, ⟨whole, wholeTwin, solid_of_lands lands solid, apart'⟩, lands, kind, kindTwin⟩

end Trees

end TemplateSpacing.Tree
