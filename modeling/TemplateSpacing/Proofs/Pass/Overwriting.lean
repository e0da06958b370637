import TemplateSpacing.Proofs.Pass.Measured
import TemplateSpacing.Proofs.Pass.NormalForm

/-! # What annotating overwrites

Which notes annotating writes at a node is a matter of kinds alone, and so is what it writes there.  All
other notes stay as they were.  So after a run nothing is left of what runs before it have annotated, under
whatever configurations.
-/

set_option autoImplicit false

namespace TemplateSpacing.Pass

open TemplateSpacing.Tree

/-! ## The notes that are written -/

def hasEdges (node : Node) : Bool :=
  node.label.kind.isContainer && !isSoleText node.kidLabels

def hasSoleText (node : Node) : Bool :=
  node.label.kind.isContainer && isSoleText node.kidLabels

def classNotesOf : Kind → List Note
  | .mustache _ => classNotes
  | _ => [.display]

/-- The notes that are written on a node of a kind by the time its own edges are there: the flag says
whether it has any. -/
def outerNotes (edged : Bool) (kind : Kind) : List Note :=
  classNotesOf kind ++ if edged then [.leadingSensitive, .trailingSensitive] else []

def writtenNotes (edged : Bool) (node : Node) : List Note :=
  outerNotes edged node.label.kind ++ if hasSoleText node then [.danglingSensitive] else []

def otherNotes (edged : Bool) (node : Node) : List Note :=
  Note.all.filter fun note => note ∉ writtenNotes edged node

mutual

def unwrittenUnder (edged : Bool) : Node → Node
  | ⟨label, kids⟩ =>
    ⟨label.only (otherNotes edged ⟨label, kids⟩), unwrittenAll (hasEdges ⟨label, kids⟩) kids⟩

def unwrittenAll (edged : Bool) : List Node → List Node
  | [] => []
  | kid :: kids => unwrittenUnder edged kid :: unwrittenAll edged kids

end

def unwritten (tree : Node) : Node :=
  unwrittenUnder false tree

def Agree (notes : List Note) (label other : Label) : Prop :=
  ∀ note ∈ notes, ∃ value, label.notes.get note = some value ∧ other.notes.get note = some value

inductive Agreeing : Bool → Node → Node → Prop
  | intro {edged : Bool} {node twin : Node} (same : node.label.only [] = twin.label.only [])
      (here : Agree (writtenNotes edged node) node.label twin.label)
      (count : node.kids.length = twin.kids.length)
      (below : ∀ kid other, (kid, other) ∈ node.kids.zip twin.kids → Agreeing (hasEdges node) kid other) :
      Agreeing edged node twin

section Views

variable {node other : Node}

theorem unwrittenAll_eq (edged : Bool) (kids : List Node) :
    unwrittenAll edged kids = kids.map (unwrittenUnder edged) := by
  induction kids with
  | nil => rfl
  | cons first rest ih => rw [unwrittenAll, ih, List.map_cons]

theorem unwrittenUnder_eq (edged : Bool) (node : Node) :
    unwrittenUnder edged node =
      ⟨node.label.only (otherNotes edged node), node.kids.map (unwrittenUnder (hasEdges node))⟩ := by
  cases node with
  | mk label kids => rw [unwrittenUnder, unwrittenAll_eq]

structure SameKinds (node other : Node) : Prop where
  own : node.label.kind = other.label.kind
  below : kidKinds node = kidKinds other

theorem SameKinds.of_shape (same : shape node = shape other) : SameKinds node other := by
  refine ⟨?_, ?_⟩
  · have kind := congrArg (fun node => node.label.kind) same
    simpa only [shape, Node.only, Node.mapLabels_label, Label.only_kind] using kind
  · have kinds := congrArg kidKinds same
    simpa only [shape, kidKinds, Node.kinds_only] using kinds

theorem SameKinds.hasEdges (same : SameKinds node other) : hasEdges node = hasEdges other := by
  rw [Pass.hasEdges, Pass.hasEdges, same.own, isSoleText_congr same.below]

theorem SameKinds.hasSoleText (same : SameKinds node other) : hasSoleText node = hasSoleText other := by
  rw [Pass.hasSoleText, Pass.hasSoleText, same.own, isSoleText_congr same.below]

theorem SameKinds.writtenNotes (same : SameKinds node other) (edged : Bool) :
    writtenNotes edged node = writtenNotes edged other := by
  rw [Pass.writtenNotes, Pass.writtenNotes, same.own, same.hasSoleText]

theorem SameKinds.otherNotes (same : SameKinds node other) (edged : Bool) :
    otherNotes edged node = otherNotes edged other := by
  rw [Pass.otherNotes, Pass.otherNotes, same.writtenNotes]

theorem notMem_otherNotes {edged : Bool} {note : Note} (isWritten : note ∈ writtenNotes edged node) :
    note ∉ otherNotes edged node := by
  rw [otherNotes, List.mem_filter]
  rintro ⟨_, other⟩
  exact of_decide_eq_true other isWritten

theorem mem_otherNotes {edged : Bool} {note : Note} (other : note ∉ writtenNotes edged node) :
    note ∈ otherNotes edged node := by
  rw [otherNotes, List.mem_filter]
  refine ⟨?_, decide_eq_true other⟩
  cases note <;> decide

end Views

/-! ## What is left alone -/

/-- A rule that removes nothing and writes only where annotating does. -/
structure Sparing (rule : Rule) : Prop where
  own : ∀ top edged (node : Node), (node.visited rule top).label.only (otherNotes edged node) =
    node.label.only (otherNotes edged node)
  kids : ∀ top (node : Node), List.Forall₂ (fun kid made => made.kids = kid.kids ∧
      made.label.only (otherNotes (hasEdges node) kid) = kid.label.only (otherNotes (hasEdges node) kid))
    node.kids (node.visited rule top).kids

section Sparing

variable {rule : Rule} (config : Config)

theorem Sparing.sameKinds_rewrite (sparing : Sparing rule) (top : Bool) (node : Node) :
    SameKinds (node.rewrite rule top) node := by
  have own (top : Bool) (node : Node) : (node.rewrite rule top).label.kind = node.label.kind := by
    rw [Node.rewrite_label]
    exact Label.kind_of_only_eq (sparing.own top false node)
  refine ⟨own top node, ?_⟩
  rw [kidKinds_eq, kidKinds_eq, Node.rewrite_kids, List.map_map]
  apply map_eq_map_of_forall₂
  refine (sparing.kids top node).imp ?_
  rintro kid made ⟨_, same⟩
  exact (own false made).trans (Label.kind_of_only_eq same)

theorem unwrittenUnder_congr {edged : Bool} {node other : Node} (sameKids : other.kids = node.kids)
    (same : other.label.only (otherNotes edged node) = node.label.only (otherNotes edged node)) :
    unwrittenUnder edged other = unwrittenUnder edged node := by
  have kinds : SameKinds other node := by
    refine ⟨Label.kind_of_only_eq same, ?_⟩
    rw [kidKinds_eq, kidKinds_eq, sameKids]
  rw [unwrittenUnder_eq, unwrittenUnder_eq, kinds.hasEdges, kinds.otherNotes, same, sameKids]

theorem Sparing.unwrittenUnder_rewrite (sparing : Sparing rule) (top edged : Bool) (node : Node) :
    unwrittenUnder edged (node.rewrite rule top) = unwrittenUnder edged node := by
  induction top, node using Node.visitInduction rule generalizing edged with
  | step top node below =>
      have kinds := sparing.sameKinds_rewrite top node
      have label : (node.rewrite rule top).label.only (otherNotes edged node) =
          node.label.only (otherNotes edged node) := by
        rw [Node.rewrite_label]
        exact sparing.own top edged node
      have kids : ((node.visited rule top).kids.map (Node.rewrite rule false)).map
          (unwrittenUnder (hasEdges node)) = node.kids.map (unwrittenUnder (hasEdges node)) := by
        have made := List.map_congr_left fun kid member => below kid member (hasEdges node)
        rw [List.map_map]
        refine made.trans (map_eq_map_of_forall₂ ?_)
        refine (sparing.kids top node).imp ?_
        rintro kid made ⟨sameKids, same⟩
        exact unwrittenUnder_congr sameKids same
      rw [unwrittenUnder_eq, unwrittenUnder_eq, kinds.hasEdges, kinds.otherNotes, label,
        Node.rewrite_kids, kids]

/-- Classification of a label writes on it what it writes on any label of the kind. -/
theorem only_classified_of_notMem {kept : List Note} {label : Label} (pending : Option String)
    (other : ∀ note ∈ classNotesOf label.kind, note ∉ kept) :
    (classified config pending label).only kept = label.only kept := by
  unfold classified
  split
  · next path mustache =>
      rw [mustache, classNotesOf] at other
      have display : Note.display ∉ kept := other _ (by decide)
      have whitespace : Note.whitespaceSensitive ∉ kept := other _ (by decide)
      have indentation : Note.indentationSensitive ∉ kept := other _ (by decide)
      simp only [Label.withDisplay, Label.withFlag, Label.only_note_of_notMem, display, whitespace,
        indentation, not_false_eq_true]
  · next notMustache =>
      have display : Note.display ∉ kept := by
        apply other
        unfold classNotesOf
        split
        · next path mustache => exact absurd mustache (notMustache path)
        · exact List.mem_cons_self
      exact Label.only_note_of_notMem display _ _

theorem classNotesOf_subset (edged : Bool) (node : Node) :
    ∀ note ∈ classNotesOf node.label.kind, note ∉ otherNotes edged node := by
  intro note member
  apply notMem_otherNotes
  exact List.mem_append_left _ (List.mem_append_left _ member)

theorem sparing_displayRule : Sparing (displayRule config) := by
  have rule := forall₂_displayRule config (fun old new => ∀ kept : List Note,
      (∀ note ∈ classNotesOf old.kind, note ∉ kept) → new.only kept = old.only kept)
    (fun _ _ _ => rfl) fun pending label kept other => only_classified_of_notMem config pending other
  refine ⟨?_, ?_⟩
  · intro top edged node
    exact (rule top node.label node.kidLabels).1 _ (classNotesOf_subset edged node)
  · intro top node
    have pairs := (rule top node.label node.kidLabels).2
    rw [Node.kidLabels, List.forall₂_map_left_iff] at pairs
    refine (Node.forall₂_relabel (fun old new => ∀ kept : List Note,
      (∀ note ∈ classNotesOf old.kind, note ∉ kept) → new.only kept = old.only kept) pairs).imp ?_
    rintro kid made ⟨sameKids, written⟩
    exact ⟨sameKids, written _ (classNotesOf_subset (hasEdges node) kid)⟩

theorem kids_visited_of_noEdges {node : Node} (top : Bool) (edges : hasEdges node = false) :
    (node.visited (sensitivityRule config) top).kids = node.kids := by
  have same : (sensitivityRule config top node.label node.kidLabels).2 = node.kidLabels.map some := by
    rw [sensitivityRule]
    split
    · next container =>
        rw [hasEdges, container, Bool.true_and, Bool.not_eq_false'] at edges
        rw [if_pos edges]
    · rfl
  rw [Node.visited, same, Node.kidLabels, Node.relabel_same]

/-- Below a node with edges the second pass writes the notes on edges and nothing else. -/
theorem forall₂_visited_of_edges {node : Node} (top : Bool) (edges : hasEdges node = true) :
    List.Forall₂ (fun kid made => made.kids = kid.kids ∧ ∀ kept : List Note,
        Note.leadingSensitive ∉ kept → Note.trailingSensitive ∉ kept →
          made.label.only kept = kid.label.only kept)
      node.kids (node.visited (sensitivityRule config) top).kids := by
  let law (old new : Label) : Prop := ∀ kept : List Note, Note.leadingSensitive ∉ kept →
    Note.trailingSensitive ∉ kept → new.only kept = old.only kept
  have each : ∀ label leading trailing,
      law label ((label.withFlag .leadingSensitive leading).withFlag .trailingSensitive trailing) := by
    intro label leading trailing kept noLeading noTrailing
    simp only [Label.withFlag, Label.only_note_of_notMem, noLeading, noTrailing, not_false_eq_true]
  rw [hasEdges, Bool.and_eq_true, Bool.not_eq_true'] at edges
  have rule : (sensitivityRule config top node.label node.kidLabels).2 =
      (withEdges (edgesUnder config node.label node.kidLabels) node.kidLabels).map some := by
    rw [sensitivityRule, if_pos edges.1, edges.2]
    rfl
  have pairs := forall₂_withEdges each (@length_edgesUnder config node.label node.kidLabels)
  generalize withEdges (edgesUnder config node.label node.kidLabels) node.kidLabels = made at rule pairs
  rw [Node.kidLabels, List.forall₂_map_left_iff] at pairs
  rw [Node.visited, rule]
  apply Node.forall₂_relabel law
  rw [List.forall₂_map_right_iff]
  refine pairs.imp ?_
  intro kid made written
  exact ⟨made, rfl, written⟩

theorem sparing_sensitivityRule : Sparing (sensitivityRule config) := by
  refine ⟨?_, ?_⟩
  · intro top edged node
    rw [Node.visited, sensitivityRule]
    split
    · next container =>
        split
        · next sole =>
            have isWritten : Note.danglingSensitive ∈ writtenNotes edged node := by
              rw [writtenNotes, hasSoleText, container, sole]
              exact List.mem_append_right _ List.mem_cons_self
            exact Label.only_note_of_notMem (notMem_otherNotes isWritten) _ _
        · rfl
    · rfl
  · intro top node
    cases edges : hasEdges node with
    | false =>
        rw [kids_visited_of_noEdges config top edges]
        exact List.forall₂_same.mpr fun kid _ => ⟨rfl, rfl⟩
    | true =>
        refine (forall₂_visited_of_edges config top edges).imp ?_
        rintro kid made ⟨sameKids, written⟩
        have isWritten : ∀ note ∈ [Note.leadingSensitive, .trailingSensitive],
            note ∈ writtenNotes true kid :=
          fun note member => List.mem_append_left _ (List.mem_append_right _ member)
        refine ⟨sameKids, written _ ?_ ?_⟩
        · exact notMem_otherNotes (isWritten _ (by decide))
        · exact notMem_otherNotes (isWritten _ (by decide))

theorem unwritten_displayed (tree : Node) : unwritten (displayed config tree) = unwritten tree :=
  (sparing_displayRule config).unwrittenUnder_rewrite true false tree

theorem unwritten_annotated (tree : Node) : unwritten (annotated config tree) = unwritten tree :=
  ((sparing_sensitivityRule config).unwrittenUnder_rewrite true false _).trans
    (unwritten_displayed config tree)

end Sparing

/-! ## What is written -/

section Agreement

variable {config : Config}

theorem agree_of_settled {pending : Option String} {label other : Label} (same : label.kind = other.kind)
    (settled : Settled config pending label) (settledOther : Settled config pending other) :
    Agree (classNotesOf label.kind) label other := by
  have display : ∃ value, label.notes.get .display = some value ∧ other.notes.get .display = some value := by
    have own := settledOther.display
    rw [← same] at own
    exact ⟨_, settled.display, own⟩
  intro note member
  unfold classNotesOf at member
  split at member
  · next path mustache =>
      obtain ⟨whitespace, indentation⟩ := settled.mustache path mustache
      obtain ⟨whitespaceOther, indentationOther⟩ := settledOther.mustache path (same ▸ mustache)
      simp only [classNotes, List.mem_cons, List.not_mem_nil, or_false] at member
      rcases member with rfl | rfl | rfl
      · exact display
      · exact ⟨_, whitespace, whitespaceOther⟩
      · exact ⟨_, indentation, indentationOther⟩
  · obtain rfl := List.mem_singleton.mp member
    exact display

/-- Siblings of the same kinds are settled after the same comments, whatever the configurations are. -/
theorem forall₂_settled {other : Config} {pending : Option String} {labels others : List Label}
    (same : labels.map Label.kind = others.map Label.kind) (settled : SettledAll config pending labels)
    (settledOthers : SettledAll other pending others) :
    List.Forall₂ (fun label twin => ∃ pending, Settled config pending label ∧ Settled other pending twin)
      labels others := by
  induction labels generalizing pending others with
  | nil =>
      obtain rfl := List.map_eq_nil_iff.mp same.symm
      exact .nil
  | cons label rest ih =>
      cases others with
      | nil => cases same
      | cons twin later =>
          obtain ⟨own, kinds⟩ := List.cons.inj same
          obtain ⟨here, settledRest⟩ := settled
          obtain ⟨hereTwin, settledLater⟩ := settledOthers
          rw [← own] at settledLater
          exact .cons ⟨pending, here, hereTwin⟩ (ih kinds settledRest settledLater)

theorem display_mem_classNotesOf (kind : Kind) : Note.display ∈ classNotesOf kind := by
  unfold classNotesOf
  split
  · exact List.mem_cons_self
  · exact List.mem_cons_self

theorem sameFace_of_agree {label other : Label} (same : label.kind = other.kind)
    (agree : Agree (classNotesOf label.kind) label other) : SameFace config label other := by
  obtain ⟨value, own, twin⟩ := agree .display (display_mem_classNotesOf label.kind)
  exact .of_alike (.inl same.symm) (twin.trans own.symm)

theorem agree_of_edged {edges : List (Bool × Bool)} {labels others : List Label}
    (edged : List.Forall₂ Edged edges labels) (edgedOthers : List.Forall₂ Edged edges others) :
    List.Forall₂ (Agree [.leadingSensitive, .trailingSensitive]) labels others := by
  induction edged generalizing others with
  | nil =>
      cases edgedOthers
      exact .nil
  | cons first _ ih =>
      cases edgedOthers with
      | cons firstOther later =>
          refine .cons ?_ (ih later)
          intro note member
          rcases List.mem_cons.mp member with rfl | member
          · exact ⟨_, first.leading, firstOther.leading⟩
          · obtain rfl := List.mem_singleton.mp member
            exact ⟨_, first.trailing, firstOther.trailing⟩

structure Annotated (config : Config) (node : Node) : Prop where
  arranged : Arranged config node
  measured : Measured config node

variable {node twin : Node}

theorem forall₂_shape_kids (same : shape node = shape twin) :
    List.Forall₂ (fun kid other => shape kid = shape other) node.kids twin.kids := by
  have kids := congrArg Node.kids same
  simp only [shape, Node.only, Node.mapLabels_kids] at kids
  exact forall₂_of_map_eq_map kids

/-- Siblings are classified together, bodies of blocks each on its own. -/
theorem forall₂_settled_kids {other : Config} (formed : node.WellFormed) (same : shape node = shape twin)
    (annotated : node.Everywhere (Annotated config)) (annotatedTwin : twin.Everywhere (Annotated other)) :
    List.Forall₂ (fun kid twinKid =>
        ∃ pending, Settled config pending kid.label ∧ Settled other pending twinKid.label)
      node.kids twin.kids := by
  have kinds := SameKinds.of_shape same
  cases container : node.label.kind.isContainer with
  | true =>
      have settled := annotated.here.arranged.below container
      have settledTwin := annotatedTwin.here.arranged.below (kinds.own ▸ container)
      exact Node.forall₂_kidLabels.mp (forall₂_settled kinds.below settled settledTwin)
  | false =>
      have shapes := forall₂_shape_kids same
      refine List.forall₂_iff_zip.mpr ⟨shapes.length_eq, ?_⟩
      intro kid twinKid member
      obtain ⟨inNode, inTwin⟩ := List.of_mem_zip member
      have sameKind := (SameKinds.of_shape (List.forall₂_zip shapes member)).own
      have isRoot := formed.isRoot_of_closed container inNode
      exact ⟨none, (annotated.kid inNode).here.arranged.own isRoot,
        (annotatedTwin.kid inTwin).here.arranged.own (sameKind ▸ isRoot)⟩

theorem forall₂_agree_kids (formed : node.WellFormed) (same : shape node = shape twin)
    (annotated : node.Everywhere (Annotated config)) (annotatedTwin : twin.Everywhere (Annotated config)) :
    List.Forall₂ (fun kid other => Agree (classNotesOf kid.label.kind) kid.label other.label) node.kids
      twin.kids := by
  refine (forall₂_shape_kids same).mp ?_ (forall₂_settled_kids formed same annotated annotatedTwin)
  rintro kid other sameShape ⟨pending, settled, settledOther⟩
  exact agree_of_settled (SameKinds.of_shape sameShape).own settled settledOther

theorem forall₂_agree_edges (same : shape node = shape twin) (measured : Measured config node)
    (measuredTwin : Measured config twin) (face : SameFace config node.label twin.label)
    (classes : List.Forall₂ (fun kid other => Agree (classNotesOf kid.label.kind) kid.label other.label)
      node.kids twin.kids) (edges : hasEdges node = true) :
    List.Forall₂ (fun kid other => Agree [.leadingSensitive, .trailingSensitive] kid.label other.label)
      node.kids twin.kids := by
  have kinds := SameKinds.of_shape same
  have faces : List.Forall₂ (SameFace config) node.kidLabels twin.kidLabels := by
    refine Node.forall₂_kidLabels.mpr ((forall₂_shape_kids same).mp ?_ classes)
    intro kid other sameShape agree
    exact sameFace_of_agree (SameKinds.of_shape sameShape).own agree
  have edgesTwin : hasEdges twin = true := kinds.hasEdges ▸ edges
  rw [hasEdges, Bool.and_eq_true, Bool.not_eq_true'] at edges edgesTwin
  have edged := measured.several edges.1 edges.2
  have edgedTwin := measuredTwin.several edgesTwin.1 edgesTwin.2
  rw [edgesUnder_of_faces face faces] at edgedTwin
  exact Node.forall₂_kidLabels.mp (agree_of_edged edged edgedTwin)

/-- Two annotated trees of one shape agree on all that annotating writes, if they do so on what is written
on their top nodes from outside. -/
theorem agreeing_of_annotated {edged : Bool} (formed : node.WellFormed) (same : shape node = shape twin)
    (annotated : node.Everywhere (Annotated config)) (annotatedTwin : twin.Everywhere (Annotated config))
    (outer : Agree (outerNotes edged node.label.kind) node.label twin.label) :
    Agreeing edged node twin := by
  induction node using Node.induction generalizing edged twin with
  | step label kids below =>
      have kinds := SameKinds.of_shape same
      have shapes := forall₂_shape_kids same
      have face : SameFace config label twin.label :=
        sameFace_of_agree kinds.own fun note member => outer note (List.mem_append_left _ member)
      have classes := forall₂_agree_kids formed same annotated annotatedTwin
      refine .intro ?_ ?_ shapes.length_eq ?_
      · have labels := congrArg Node.label same
        simpa only [shape, Node.only, Node.mapLabels_label] using labels
      · intro note member
        rcases List.mem_append.mp member with member | member
        · exact outer note member
        · split at member
          · next sole =>
              obtain rfl := List.mem_singleton.mp member
              have soleTwin : hasSoleText twin = true := kinds.hasSoleText ▸ sole
              rw [hasSoleText, Bool.and_eq_true] at sole soleTwin
              have own := annotated.here.measured.sole sole.1 sole.2
              have ownTwin := annotatedTwin.here.measured.sole soleTwin.1 soleTwin.2
              rw [face.shown] at ownTwin
              exact ⟨_, own, ownTwin⟩
          · cases member
      · intro kid other member
        obtain ⟨inKids, inTwin⟩ := List.of_mem_zip member
        refine below kid inKids (formed.kid inKids) (List.forall₂_zip shapes member) (annotated.kid inKids)
          (annotatedTwin.kid inTwin) ?_
        intro note isOuter
        rcases List.mem_append.mp isOuter with isClass | isEdge
        · exact List.forall₂_zip classes member note isClass
        · split at isEdge
          · next edges =>
              exact List.forall₂_zip (forall₂_agree_edges same annotated.here.measured
                annotatedTwin.here.measured face classes edges) member note isEdge
          · cases isEdge

theorem annotated_annotated (config : Config) (tree : Node) :
    (annotated config tree).Everywhere (Annotated config) := by
  refine ((arranged_annotated config tree).and (measured_sensitivityPass config _)).imp ?_
  rintro node ⟨arranged, measured⟩
  exact ⟨arranged, measured⟩

theorem shape_displayed (config : Config) (tree : Node) : shape (displayed config tree) = shape tree :=
  only_displayPass config (by decide) (by decide) (by decide) tree

theorem shape_annotated (config : Config) (tree : Node) : shape (annotated config tree) = shape tree :=
  only_annotated (by decide) (by decide) (by decide) (by decide) (by decide) (by decide)

theorem agreeing_annotated (config : Config) {tree other : Node} (formed : tree.WellFormed)
    (same : shape tree = shape other) :
    Agreeing false (annotated config tree) (annotated config other) := by
  have shapes : shape (annotated config tree) = shape (annotated config other) := by
    rw [shape_annotated, same, shape_annotated]
  refine agreeing_of_annotated (wellFormed_annotated config formed) shapes
    (annotated_annotated config tree) (annotated_annotated config other) ?_
  rw [outerNotes, if_neg Bool.false_ne_true, List.append_nil]
  exact agree_of_settled (SameKinds.of_shape shapes).own (settled_annotated config tree)
    (settled_annotated config other)

end Agreement

/-! ## Earlier runs -/

theorem Agreeing.own {edged : Bool} {node twin : Node} (agreeing : Agreeing edged node twin) :
    node.label.kind = twin.label.kind := by
  cases agreeing with
  | intro same _ _ _ => exact Label.kind_of_only_eq same

theorem Agreeing.sameKinds {edged : Bool} {node twin : Node} (agreeing : Agreeing edged node twin) :
    SameKinds node twin := by
  refine ⟨agreeing.own, ?_⟩
  cases agreeing with
  | intro _ _ count below =>
      rw [kidKinds_eq, kidKinds_eq]
      refine (map_eq_map_of_forall₂ (List.forall₂_iff_zip.mpr ⟨count, ?_⟩)).symm
      intro kid other member
      exact (below kid other member).own.symm

theorem unwritten_below {edged : Bool} {node twin : Node} (kinds : SameKinds node twin)
    (same : unwrittenUnder edged node = unwrittenUnder edged twin) :
    node.label.only (otherNotes edged node) = twin.label.only (otherNotes edged node) ∧
      List.Forall₂ (fun kid other =>
        unwrittenUnder (hasEdges node) kid = unwrittenUnder (hasEdges node) other) node.kids twin.kids := by
  rw [unwrittenUnder_eq, unwrittenUnder_eq, ← kinds.otherNotes, ← kinds.hasEdges] at same
  have label := congrArg Node.label same
  have kids := congrArg Node.kids same
  exact ⟨label, forall₂_of_map_eq_map kids⟩

/-- Trees that agree where annotating writes, and show nothing different elsewhere, are the same. -/
theorem eq_of_agreeing {edged : Bool} {node twin : Node} (agreeing : Agreeing edged node twin)
    (same : unwrittenUnder edged node = unwrittenUnder edged twin) : node = twin := by
  induction agreeing with
  | @intro edged node twin sameLabel here count below ih =>
      have kinds := (Agreeing.intro sameLabel here count below).sameKinds
      obtain ⟨labels, kids⟩ := unwritten_below kinds same
      have label : node.label = twin.label := by
        refine Label.ext_get sameLabel ?_
        intro note
        by_cases isWritten : note ∈ writtenNotes edged node
        · obtain ⟨value, own, other⟩ := here note isWritten
          exact own.trans other.symm
        · exact Label.get_eq_of_only_eq note (mem_otherNotes isWritten) labels
      have below : node.kids = twin.kids := by
        rw [← List.forall₂_eq_eq_eq, List.forall₂_iff_zip]
        refine ⟨count, ?_⟩
        intro kid other member
        exact ih kid other member (List.forall₂_zip kids member)
      cases node
      cases twin
      cases label
      cases below
      rfl

structure Leaves (tree left : Node) : Prop where
  shape : shape left = shape tree
  unwritten : unwritten left = unwritten tree

section Past

variable {tree : Node}

theorem Leaves.wellFormed {left : Node} (leaves : Leaves tree left) (formed : tree.WellFormed) :
    left.WellFormed :=
  wellFormed_of_shape leaves.shape.symm formed

/-- A run leaves nothing of what was written before it. -/
theorem Leaves.annotated_eq {left : Node} (leaves : Leaves tree left) (formed : tree.WellFormed)
    (config : Config) : annotated config left = annotated config tree := by
  refine eq_of_agreeing (agreeing_annotated config (leaves.wellFormed formed) leaves.shape) ?_
  have unwritten := leaves.unwritten
  rw [← unwritten_annotated config left, ← unwritten_annotated config tree] at unwritten
  exact unwritten

theorem leaves_preprocess (config : Config) {pipeline : Pipeline} (notes : pipeline ≠ .preprocess)
    (formed : tree.WellFormed) :
    (preprocess config pipeline tree).fault = none ∧
      Leaves tree (preprocess config pipeline tree).state := by
  cases pipeline with
  | classify =>
      obtain ⟨done, state⟩ := preprocess_classify config formed
      rw [state]
      exact ⟨done, shape_displayed config tree, unwritten_displayed config tree⟩
  | annotate =>
      obtain ⟨done, state⟩ := preprocess_annotate config formed
      rw [state]
      exact ⟨done, shape_annotated config tree, unwritten_annotated config tree⟩
  | preprocess => exact absurd rfl notes

theorem Leaves.preprocess_eq {left : Node} (leaves : Leaves tree left) (formed : tree.WellFormed)
    (config : Config) {pipeline : Pipeline} (annotates : pipeline ≠ .classify) :
    (preprocess config pipeline left).fault = none ∧
      (preprocess config pipeline left).state = (preprocess config pipeline tree).state := by
  have formedLeft := leaves.wellFormed formed
  cases pipeline with
  | classify => exact absurd rfl annotates
  | annotate =>
      obtain ⟨done, state⟩ := preprocess_annotate config formedLeft
      rw [state, (preprocess_annotate config formed).2, leaves.annotated_eq formed]
      exact ⟨done, rfl⟩
  | preprocess =>
      obtain ⟨done, state⟩ := preprocess_preprocess config formedLeft
      rw [state, (preprocess_preprocess config formed).2, normalized, leaves.annotated_eq formed, normalized]
      exact ⟨done, rfl⟩

def passThrough : List (Config × Pipeline) → Node → Outcome Node
  | [], tree => .done tree
  | (config, pipeline) :: rest, tree => (preprocess config pipeline tree).andThen (passThrough rest)

theorem passThrough_cons {config : Config} {pipeline : Pipeline} (rest : List (Config × Pipeline))
    (done : (preprocess config pipeline tree).fault = none) :
    (passThrough ((config, pipeline) :: rest) tree).fault =
        (passThrough rest (preprocess config pipeline tree).state).fault ∧
      (passThrough ((config, pipeline) :: rest) tree).state =
        (passThrough rest (preprocess config pipeline tree).state).state := by
  rw [passThrough, Outcome.andThen]
  simp only [done]
  exact ⟨trivial, trivial⟩

theorem Leaves.passThrough_eq {left : Node} (leaves : Leaves tree left) (formed : tree.WellFormed)
    (config : Config) {pipeline : Pipeline} (annotates : pipeline ≠ .classify)
    {past : List (Config × Pipeline)} (notes : ∀ run ∈ past, run.2 ≠ .preprocess) :
    (passThrough (past ++ [(config, pipeline)]) left).fault = none ∧
      (passThrough (past ++ [(config, pipeline)]) left).state = (preprocess config pipeline tree).state := by
  induction past generalizing left with
  | nil =>
      obtain ⟨done, state⟩ := leaves.preprocess_eq formed config annotates
      obtain ⟨fault, last⟩ := passThrough_cons [] done
      exact ⟨fault, last.trans state⟩
  | cons run rest ih =>
      obtain ⟨earlier, first⟩ := run
      have formedLeft := leaves.wellFormed formed
      obtain ⟨done, after⟩ := leaves_preprocess earlier (notes _ List.mem_cons_self) formedLeft
      obtain ⟨fault, state⟩ := passThrough_cons (rest ++ [(config, pipeline)]) done
      rw [List.cons_append, fault, state]
      refine ih ?_ fun run member => notes run (List.mem_cons_of_mem _ member)
      exact ⟨after.shape.trans leaves.shape, after.unwritten.trans leaves.unwritten⟩

end Past

/-- Annotating a well-formed tree writes at places that are a matter of its shape, and there the same
values whatever notes the tree carries; it leaves all else as it was.  So a run that annotates leaves what
it leaves of the tree alone, whatever runs without the third pass come before it. -/
theorem annotate_overwrites (config : Config) (tree other : Node) (formed : tree.WellFormed)
    (same : shape tree = shape other) :
    ((preprocess config .annotate tree).fault = none ∧ (preprocess config .annotate other).fault = none) ∧
      Agreeing false (preprocess config .annotate tree).state (preprocess config .annotate other).state ∧
      unwritten (preprocess config .annotate tree).state = unwritten tree ∧
      ∀ past : List (Config × Pipeline), (∀ run ∈ past, run.2 ≠ .preprocess) →
        ∀ pipeline, pipeline ≠ .classify →
          (passThrough (past ++ [(config, pipeline)]) tree).fault = none ∧
            (passThrough (past ++ [(config, pipeline)]) tree).state =
              (preprocess config pipeline tree).state := by
  have formedOther := wellFormed_of_shape same formed
  obtain ⟨done, state⟩ := preprocess_annotate config formed
  obtain ⟨doneOther, stateOther⟩ := preprocess_annotate config formedOther
  have whole : Leaves tree tree := ⟨rfl, rfl⟩
  rw [state, stateOther]
  refine ⟨⟨done, doneOther⟩, agreeing_annotated config formed same, unwritten_annotated config tree, ?_⟩
  intro past notes pipeline annotates
  exact whole.passThrough_eq formed config annotates notes

def staleParagraph : Node :=
  paragraph.mapLabels fun label => ((label.withDisplay "none").withFlag .leadingSensitive true).withFlag
    .danglingSensitive true

theorem annotate_overwrites_paragraph :
    staleParagraph.WellFormed ∧ shape staleParagraph = shape paragraph ∧
      Agreeing false (preprocess Config.builtin .annotate staleParagraph).state
        (preprocess Config.builtin .annotate paragraph).state ∧
      (passThrough ([({ Config.builtin with mode := .strict }, .annotate), (Config.builtin, .classify)] ++
          [(Config.builtin, .preprocess)]) staleParagraph).state =
        (preprocess Config.builtin .preprocess staleParagraph).state := by
  have formed : staleParagraph.WellFormed := by decide
  obtain ⟨_, agreeing, _, earlier⟩ := annotate_overwrites Config.builtin staleParagraph paragraph formed rfl
  exact ⟨formed, rfl, agreeing, (earlier _ (by decide) _ (by decide)).2⟩

end TemplateSpacing.Pass
