import TemplateSpacing.Proofs.Tree.Rewriting

/-! # Views of trees

A view of a tree forgets part of every label, such as all notes but some.  A pass that changes only
what a view forgets leaves the view as it is.  A tree and what has become of it are compared at every
node that is still there.
-/

set_option autoImplicit false

namespace TemplateSpacing.Tree

/-! ## Some notes alone -/

namespace Notes

def ofValues (value : Note → Option Value) : Notes :=
  ⟨value .display, value .whitespaceSensitive, value .indentationSensitive, value .leadingSensitive,
    value .trailingSensitive, value .danglingSensitive, value .leadingSpaces, value .trailingSpaces,
    value .danglingSpaces⟩

@[simp] theorem get_ofValues (value : Note → Option Value) (note : Note) :
    (ofValues value).get note = value note := by
  cases note <;> rfl

theorem ext_get {notes other : Notes} (same : ∀ note, notes.get note = other.get note) :
    notes = other := by
  have values : ∀ notes : Notes, notes = ofValues notes.get := fun _ => rfl
  rw [values notes, values other, funext same]

def only (kept : List Note) (notes : Notes) : Notes :=
  ofValues fun note => if note ∈ kept then notes.get note else .none

theorem get_only (kept : List Note) (notes : Notes) (note : Note) :
    (notes.only kept).get note = if note ∈ kept then notes.get note else .none := by
  simp only [only, get_ofValues]

theorem only_set (kept : List Note) (notes : Notes) (note : Note) (value : Option Value) :
    (notes.set note value).only kept =
      if note ∈ kept then (notes.only kept).set note value else notes.only kept := by
  apply ext_get
  intro other
  by_cases isKept : note ∈ kept
  · rw [if_pos isKept, get_only, get_set, get_set, get_only]
    by_cases same : note = other
    · subst same
      simp [isKept]
    · simp [same]
  · rw [if_neg isKept, get_only, get_set, get_only]
    by_cases same : note = other
    · subst same
      simp [isKept]
    · simp [same]

end Notes

namespace Label

def only (kept : List Note) (label : Label) : Label :=
  { label with notes := label.notes.only kept }

@[simp] theorem only_kind (kept : List Note) (label : Label) : (label.only kept).kind = label.kind :=
  rfl

@[simp] theorem withFlag_kind (label : Label) (note : Note) (flag : Bool) :
    (label.withFlag note flag).kind = label.kind := rfl

theorem only_note (kept : List Note) (label : Label) (which : Note) (value : Option Value) :
    (label.note which value).only kept =
      if which ∈ kept then (label.only kept).note which value else label.only kept := by
  simp only [only, note, Notes.only_set]
  split <;> rfl

theorem only_note_of_notMem {kept : List Note} {note : Note} (notKept : note ∉ kept) (label : Label)
    (value : Option Value) : (label.note note value).only kept = label.only kept := by
  rw [only_note, if_neg notKept]

theorem only_only (kept : List Note) (label : Label) :
    (label.only kept).only kept = label.only kept := by
  have notes : (label.notes.only kept).only kept = label.notes.only kept := by
    apply Notes.ext_get
    intro note
    rw [Notes.get_only, Notes.get_only]
    split <;> rfl
  rw [only, only, notes]

theorem kind_of_only_eq {kept : List Note} {label other : Label}
    (same : label.only kept = other.only kept) : label.kind = other.kind := by
  have kinds := congrArg Label.kind same
  exact kinds

theorem get_eq_of_only_eq {kept : List Note} (note : Note) {label other : Label}
    (isKept : note ∈ kept) (same : label.only kept = other.only kept) :
    label.notes.get note = other.notes.get note := by
  have notes : (label.notes.only kept).get note = (other.notes.only kept).get note := by
    have := congrArg (fun l => l.notes.get note) same
    exact this
  simpa only [Notes.get_only, if_pos isKept] using notes

/-- Labels that look the same without their notes are told apart by a note. -/
theorem ext_get {label other : Label} (same : label.only [] = other.only [])
    (notes : ∀ note, label.notes.get note = other.notes.get note) : label = other := by
  have sameNotes := Notes.ext_get notes
  cases label
  cases other
  cases sameNotes
  cases same
  rfl

theorem kinds_of_only {kept : List Note} {labels others : List Label}
    (same : labels.map (Label.only kept) = others.map (Label.only kept)) :
    labels.map Label.kind = others.map Label.kind := by
  have kinds := congrArg (List.map Label.kind) same
  simpa only [List.map_map, Function.comp_def, Label.only_kind] using kinds

end Label

/-! ## Trees -/

namespace Node

mutual

def mapLabels (f : Label → Label) : Node → Node
  | ⟨label, kids⟩ => ⟨f label, mapLabelsAll f kids⟩

def mapLabelsAll (f : Label → Label) : List Node → List Node
  | [] => []
  | kid :: kids => mapLabels f kid :: mapLabelsAll f kids

end

theorem mapLabelsAll_eq (f : Label → Label) (kids : List Node) :
    mapLabelsAll f kids = kids.map (mapLabels f) := by
  induction kids with
  | nil => rfl
  | cons first rest ih => rw [mapLabelsAll, ih, List.map_cons]

theorem mapLabels_mk (f : Label → Label) (label : Label) (kids : List Node) :
    mapLabels f ⟨label, kids⟩ = ⟨f label, kids.map (mapLabels f)⟩ := by
  rw [mapLabels, mapLabelsAll_eq]

@[simp] theorem mapLabels_label (f : Label → Label) (node : Node) :
    (node.mapLabels f).label = f node.label := by
  cases node with
  | mk label kids => rw [mapLabels_mk]

@[simp] theorem mapLabels_kids (f : Label → Label) (node : Node) :
    (node.mapLabels f).kids = node.kids.map (mapLabels f) := by
  cases node with
  | mk label kids => rw [mapLabels_mk]

def only (kept : List Note) (node : Node) : Node :=
  node.mapLabels (Label.only kept)

/-- What nodes with the same view share holds everywhere in trees with the same view. -/
theorem Everywhere.of_view {f : Label → Label} {law : Node → Prop}
    (respects : ∀ node other : Node, node.mapLabels f = other.mapLabels f → law node → law other)
    {node other : Node} (same : node.mapLabels f = other.mapLabels f)
    (all : node.Everywhere law) : other.Everywhere law := by
  induction all generalizing other with
  | @intro node here _ ih =>
      refine .intro (respects _ _ same here) ?_
      intro twin member
      have kids := congrArg Node.kids same
      rw [mapLabels_kids, mapLabels_kids] at kids
      have inMapped := List.mem_map_of_mem (f := mapLabels f) member
      rw [← kids] at inMapped
      obtain ⟨kid, inKids, sameKid⟩ := List.mem_map.mp inMapped
      exact ih kid inKids sameKid

theorem mapLabels_mapLabels (f g : Label → Label) (node : Node) :
    (node.mapLabels f).mapLabels g = node.mapLabels fun label => g (f label) := by
  induction node using Node.induction with
  | step label kids below =>
      simp only [mapLabels_mk, List.map_map]
      congr 1
      exact List.map_congr_left below

theorem kidLabels_mapLabels (f : Label → Label) (node : Node) :
    (node.mapLabels f).kidLabels = node.kidLabels.map f := by
  rw [kidLabels, mapLabels_kids, kidLabels, List.map_map, List.map_map]
  apply List.map_congr_left
  intro kid _
  exact mapLabels_label f kid

theorem kidLabels_only (kept : List Note) (node : Node) :
    (node.only kept).kidLabels = node.kidLabels.map (Label.only kept) :=
  kidLabels_mapLabels (Label.only kept) node

theorem kinds_only (kept : List Note) (node : Node) :
    (node.only kept).kidLabels.map Label.kind = node.kidLabels.map Label.kind := by
  rw [kidLabels_only, List.map_map]
  rfl

theorem only_only (kept : List Note) (node : Node) : (node.only kept).only kept = node.only kept := by
  rw [only, only, mapLabels_mapLabels]
  exact congrArg (fun view => node.mapLabels view) (funext (Label.only_only kept))

/-- A law that a view shows at each node holds everywhere in a tree if it does so in the view. -/
theorem Everywhere.only_iff {kept : List Note} {law : Node → Prop}
    (shows : ∀ node : Node, law (node.only kept) ↔ law node) (node : Node) :
    (node.only kept).Everywhere law ↔ node.Everywhere law := by
  have respects : ∀ node other : Node, node.only kept = other.only kept → law node → law other := by
    intro node other same here
    rw [← shows other, ← same, shows node]
    exact here
  constructor
  · exact Everywhere.of_view respects (only_only kept node)
  · exact Everywhere.of_view respects (only_only kept node).symm

/-- A law that a view shows passes to every tree with the same view. -/
theorem Everywhere.of_only {kept : List Note} {law : Node → Prop} {node other : Node}
    (shows : ∀ node : Node, law (node.only kept) ↔ law node) (same : other.only kept = node.only kept)
    (all : node.Everywhere law) : other.Everywhere law := by
  rw [← only_iff shows, same, only_iff shows]
  exact all

/-- Notes have no part in what a tree of templates is. -/
theorem wellFormed_only (kept : List Note) (node : Node) :
    (node.only kept).WellFormed ↔ node.WellFormed := by
  induction node using Node.induction with
  | step label kids below =>
      have kinds := kinds_only kept ⟨label, kids⟩
      constructor
      · intro formed
        refine .intro ?_ ?_
        · have here := Everywhere.here formed
          rw [kinds] at here
          simpa only [only, mapLabels_label, Label.only_kind] using here
        · intro kid member
          apply (below kid member).mp
          apply formed.kid
          rw [only, mapLabels_kids]
          exact List.mem_map_of_mem member
      · intro formed
        refine .intro ?_ ?_
        · rw [kinds, only, mapLabels_label, Label.only_kind]
          exact Everywhere.here formed
        · intro made member
          rw [only, mapLabels_kids] at member
          obtain ⟨kid, inKids, rfl⟩ := List.mem_map.mp member
          exact (below kid inKids).mpr (formed.kid inKids)

/-- New labels that look like the old ones do not show. -/
theorem map_relabel {f : Label → Label} {kids : List Node} {labels : List (Option Label)}
    (same : List.Forall₂ (fun kid label => ∃ made, label = some made ∧ f made = f kid.label)
      kids labels) :
    (relabel kids labels).map (mapLabels f) = kids.map (mapLabels f) := by
  induction same with
  | nil => rfl
  | @cons kid label kids labels first rest ih =>
      obtain ⟨made, rfl, looks⟩ := first
      cases kid with
      | mk old below =>
          simp only [relabel_some, List.map_cons, mapLabels_mk, ih]
          rw [looks]

/-- What holds between the old labels and the new ones holds between the nodes. -/
theorem forall₂_relabel (law : Label → Label → Prop) {kids : List Node} {labels : List (Option Label)}
    (pairs : List.Forall₂ (fun kid label => ∃ made, label = some made ∧ law kid.label made)
      kids labels) :
    List.Forall₂ (fun kid made => made.kids = kid.kids ∧ law kid.label made.label) kids
      (relabel kids labels) := by
  induction pairs with
  | nil => exact .nil
  | cons first _ ih =>
      obtain ⟨made, rfl, related⟩ := first
      exact .cons ⟨rfl, related⟩ ih

theorem forall₂_kidLabels {law : Label → Label → Prop} {node other : Node} :
    List.Forall₂ law node.kidLabels other.kidLabels ↔
      List.Forall₂ (fun kid twin => law kid.label twin.label) node.kids other.kids := by
  rw [kidLabels, kidLabels, List.forall₂_map_left_iff, List.forall₂_map_right_iff]

/-- The labels below a node after a pass look as they did right after the node's visit, if the visits
of the nodes below change only what a view forgets. -/
theorem map_kidLabels_rewrite {f : Label → Label} {rule : Rule}
    (own : ∀ label below, f (rule false label below).1 = f label) (top : Bool) (node : Node) :
    (node.rewrite rule top).kidLabels.map f = (node.visited rule top).kidLabels.map f := by
  rw [kidLabels, kidLabels, rewrite_kids, List.map_map, List.map_map, List.map_map]
  apply List.map_congr_left
  intro kid _
  simp only [Function.comp_apply, rewrite_label]
  exact own kid.label kid.kidLabels

/-- A pass that changes only what a view forgets leaves the view as it is. -/
theorem mapLabels_rewrite {f : Label → Label} {rule : Rule} (Ready : Bool → Node → Prop)
    (stays : ∀ top node, Ready top node → ∀ kid ∈ (node.visited rule top).kids, Ready false kid)
    (own : ∀ top node, Ready top node → f (node.visited rule top).label = f node.label)
    (kids : ∀ top node, Ready top node →
      (node.visited rule top).kids.map (mapLabels f) = node.kids.map (mapLabels f))
    (top : Bool) (node : Node) (ready : Ready top node) :
    (node.rewrite rule top).mapLabels f = node.mapLabels f := by
  induction top, node using Node.visitInduction rule with
  | step top node below =>
      have inside : ((node.visited rule top).kids.map (rewrite rule false)).map (mapLabels f) =
          (node.visited rule top).kids.map (mapLabels f) := by
        rw [List.map_map]
        apply List.map_congr_left
        intro kid member
        exact below kid member (stays top node ready kid member)
      rw [rewrite_eq, mapLabels_mk, inside, own top node ready, kids top node ready]
      cases node with
      | mk label kids => rw [mapLabels_mk]

/-- A pass that writes only notes that are not kept, and removes nothing. -/
theorem only_rewrite {rule : Rule} {kept : List Note}
    (each : ∀ top label below, (rule top label below).1.only kept = label.only kept ∧
      List.Forall₂ (fun old made => ∃ new, made = some new ∧ new.only kept = old.only kept) below
        (rule top label below).2) (top : Bool) (tree : Node) :
    (tree.rewrite rule top).only kept = tree.only kept := by
  apply mapLabels_rewrite fun _ _ => True
  · intros
    trivial
  · intro top node _
    exact (each top node.label node.kidLabels).1
  · intro top node _
    have pairs := (each top node.label node.kidLabels).2
    rw [kidLabels, List.forall₂_map_left_iff] at pairs
    exact map_relabel pairs
  · trivial

/-- New labels that are views of old ones make views of nodes. -/
theorem relabel_mapLabels (f : Label → Label) (kids : List Node) (labels : List (Option Label)) :
    relabel (kids.map (mapLabels f)) (labels.map (Option.map f)) =
      (relabel kids labels).map (mapLabels f) := by
  induction kids generalizing labels with
  | nil => rfl
  | cons kid kids ih =>
      match labels with
      | [] => rfl
      | none :: labels => simpa only [List.map_cons, Option.map_none, relabel_none] using ih labels
      | some label :: labels =>
          simp only [List.map_cons, Option.map_some, relabel_some, mapLabels_kids, mapLabels_mk,
            ih labels]

/-- A rule that sees no more than a view shows makes of a view the view of what it makes. -/
theorem rewrite_mapLabels {f : Label → Label} {rule : Rule}
    (sees : ∀ top label below, rule top (f label) (below.map f) =
      (f (rule top label below).1, (rule top label below).2.map (Option.map f)))
    (top : Bool) (node : Node) :
    (node.mapLabels f).rewrite rule top = (node.rewrite rule top).mapLabels f := by
  induction top, node using visitInduction rule with
  | step top node below =>
      have made : (node.mapLabels f).visited rule top = (node.visited rule top).mapLabels f := by
        rw [visited, kidLabels_mapLabels, mapLabels_label, sees, mapLabels_kids, relabel_mapLabels,
          visited, mapLabels_mk]
      rw [rewrite_eq, made, mapLabels_label, mapLabels_kids, rewrite_eq, mapLabels_mk, List.map_map,
        List.map_map]
      exact congrArg (Node.mk _) (List.map_congr_left below)

end Node

/-! ## A tree and what has become of it -/

/-- A relation that holds between a node and what has become of it, and between every node below it
that is kept and what has become of that one, in order. -/
inductive Throughout (keep : Node → List Node) (law : Node → Node → Prop) : Node → Node → Prop
  | intro {before after : Node} (here : law before after)
      (count : (keep before).length = after.kids.length)
      (below : ∀ old new, (old, new) ∈ (keep before).zip after.kids → Throughout keep law old new) :
      Throughout keep law before after

namespace Throughout

variable {keep : Node → List Node} {law : Node → Node → Prop}

/-- What a rule does to a tree, from what it does at each node.  The relation `Made` is between a node
and what the visit of its parent has made of it. -/
theorem of_rewrite {rule : Rule} (Made : Bool → Node → Node → Prop)
    (here : ∀ top before node, Made top before node → law before (node.rewrite rule top))
    (kids : ∀ top before node, Made top before node →
      List.Forall₂ (Made false) (keep before) (node.visited rule top).kids)
    (top : Bool) (before node : Node) (made : Made top before node) :
    Throughout keep law before (node.rewrite rule top) := by
  induction top, node using Node.visitInduction rule generalizing before with
  | step top node below =>
      have pairs := kids top before node made
      refine .intro (here top before node made) ?_ ?_
      · rw [Node.rewrite_kids, List.length_map]
        exact pairs.length_eq
      · intro old new member
        rw [Node.rewrite_kids, List.zip_map_right, List.mem_map] at member
        obtain ⟨⟨old', kid⟩, inZip, same⟩ := member
        cases same
        exact below kid (List.of_mem_zip inZip).2 _ (List.forall₂_zip pairs inZip)

/-- A relation that depends only on a view of the tree before the change holds of every tree with
that view. -/
theorem of_view (f : Label → Label)
    (respects : ∀ before other after : Node, before.mapLabels f = other.mapLabels f →
      law before after → law other after)
    (keeps : ∀ before other : Node, before.mapLabels f = other.mapLabels f →
      (keep before).map (Node.mapLabels f) = (keep other).map (Node.mapLabels f))
    {before other after : Node} (same : before.mapLabels f = other.mapLabels f)
    (holds : Throughout keep law before after) : Throughout keep law other after := by
  induction holds generalizing other with
  | @intro before after here count below ih =>
      have kept := keeps _ _ same
      have lengths := congrArg List.length kept
      simp only [List.length_map] at lengths
      refine .intro (respects _ _ _ same here) (lengths.symm.trans count) ?_
      intro old new member
      obtain ⟨index, inOther, pair⟩ := List.getElem_of_mem member
      rw [List.length_zip] at inOther
      have inBefore : index < (keep before).length := by omega
      have inAfter : index < after.kids.length := by omega
      rw [List.getElem_zip] at pair
      cases pair
      have sameHere : ((keep before)[index]).mapLabels f = ((keep other)[index]).mapLabels f := by
        have := congrArg (fun kids => kids[index]?) kept
        simpa [inBefore, show index < (keep other).length by omega] using this
      apply ih _ _ _ sameHere
      have inZip : index < ((keep before).zip after.kids).length := by
        rw [List.length_zip]
        omega
      simpa using List.getElem_mem inZip

theorem imp {other : Node → Node → Prop} (implies : ∀ before after, law before after → other before after)
    {before after : Node} (holds : Throughout keep law before after) :
    Throughout keep other before after := by
  induction holds with
  | intro here count _ ih => exact .intro (implies _ _ here) count ih

/-- What a law implies of what has become of a node holds everywhere in the new tree. -/
theorem everywhere {here : Node → Prop} (implies : ∀ before after, law before after → here after)
    {before after : Node} (holds : Throughout keep law before after) : after.Everywhere here := by
  induction holds with
  | @intro before after lawful count _ ih =>
      refine .intro (implies before after lawful) ?_
      intro kid member
      obtain ⟨index, inAfter, rfl⟩ := List.getElem_of_mem member
      have inZip : index < ((keep before).zip after.kids).length := by
        rw [List.length_zip]
        omega
      have pair := List.getElem_mem inZip
      rw [List.getElem_zip] at pair
      exact ih _ _ pair

end Throughout

end TemplateSpacing.Tree
