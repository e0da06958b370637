import TemplateSpacing.Proofs.Pass.Overwriting

/-! # The order of the modes

A mode that forces a softer display makes white space matter wherever another one does, as long as it does
not take a container out of what is rendered.  So the strict mode keeps all edges of the others, and the
displays of the tags keep those that are left when every element is a block.
-/

set_option autoImplicit false

namespace TemplateSpacing.Pass

open TemplateSpacing.Config (Mode)
open TemplateSpacing.Tree

def inMode (config : Config) (mode : Mode) : Config :=
  { config with mode := mode }

/-! ## Displays -/

/-- White space matters beside a box with the second display and at its edges if it does so with the
first one. -/
structure Softer (display other : String) : Prop where
  beside : Css.besideMatters display = true → Css.besideMatters other = true
  edge : Css.edgeMatters display = true → Css.edgeMatters other = true

structure Softens (config other : Config) : Prop where
  whiteSpace : other.whiteSpace = config.whiteSpace
  display : ∀ pending kind, Softer (displayWord config pending kind) (displayWord other pending kind)

theorem Softer.refl (display : String) : Softer display display :=
  ⟨id, id⟩

theorem displayWord_element (config : Config) (mode : Mode) (pending : Option String) (tag : String)
    (attributes : List Value) :
    displayWord (inMode config mode) pending (.element tag attributes) =
      ((pending.bind override?).or (forcedDisplay? mode)).getD (config.displayOf tag) := rfl

theorem displayWord_other (config : Config) (mode other : Mode) (pending : Option String) {kind : Kind}
    (notElement : kind.isElement = false) :
    displayWord (inMode config other) pending kind = displayWord (inMode config mode) pending kind := by
  cases kind with
  | element _ _ => cases notElement
  | _ => rfl

/-- Another mode gives another display to elements alone, and only where no comment has a say. -/
theorem displayWord_cases {law : String → String → Prop} (config : Config) {mode other : Mode}
    (same : ∀ display, law display display)
    (tag : ∀ tag : String, law ((forcedDisplay? mode).getD (config.displayOf tag))
      ((forcedDisplay? other).getD (config.displayOf tag)))
    (pending : Option String) (kind : Kind) :
    law (displayWord (inMode config mode) pending kind) (displayWord (inMode config other) pending kind) := by
  cases element : kind.isElement with
  | false =>
      rw [displayWord_other config mode other pending element]
      exact same _
  | true =>
      cases kind with
      | element name attributes =>
          rw [displayWord_element, displayWord_element]
          cases pending.bind override? with
          | some display => exact same display
          | none => exact tag name
      | _ => cases element

theorem softer_inline (display : String) : Softer display "inline" :=
  ⟨fun _ => by decide, fun _ => by decide⟩

theorem softer_block (display : String) : Softer "block" display :=
  ⟨fun matters => absurd matters (by decide), fun matters => absurd matters (by decide)⟩

theorem softens_strict (config : Config) (mode : Mode) : Softens (inMode config mode) (inMode config .strict) :=
  ⟨rfl, displayWord_cases config .refl fun _ => softer_inline _⟩

theorem softens_css (config : Config) : Softens (inMode config .ignore) (inMode config .css) :=
  ⟨rfl, displayWord_cases config .refl fun _ => softer_block _⟩

/-- The strict mode hides nothing that another mode does not hide. -/
theorem hidden_strict (config : Config) (mode : Mode) (pending : Option String) (kind : Kind) :
    displayWord (inMode config .strict) pending kind = "none" →
      displayWord (inMode config mode) pending kind = "none" := by
  have inline : ¬"inline" = "none" := by decide
  exact @displayWord_cases (fun display other => other = "none" → display = "none") config mode .strict
    (fun _ => id) (fun _ hidden => absurd hidden inline) pending kind

/-! ## Edges -/

structure Counterparts (config other : Config) (label twin : Label) : Prop where
  kind : label.kind = twin.kind
  words : ∃ pending, shown label = displayWord config pending label.kind ∧
    shown twin = displayWord other pending label.kind

section Edges

variable {config other : Config} {parent newParent left right newLeft newRight : Label}

theorem Softens.isVerbatim (softens : Softens config other) (kind : Kind) :
    isVerbatim other kind = isVerbatim config kind := by
  simp only [Pass.isVerbatim, whiteSpaceOf, Config.whiteSpaceOf, softens.whiteSpace]

theorem Counterparts.softer (counterparts : Counterparts config other left newLeft)
    (softens : Softens config other) : Softer (shown left) (shown newLeft) := by
  obtain ⟨pending, word, newWord⟩ := counterparts.words
  rw [word, newWord]
  exact softens.display pending left.kind

theorem innerEdge_softer (softens : Softens config other) (above : Counterparts config other parent newParent)
    (rendered : shown newParent = "none" → shown parent = "none")
    (first : Counterparts config other left newLeft) (second : Counterparts config other right newRight)
    (matters : innerEdge config parent left right = true) :
    innerEdge other newParent newLeft newRight = true := by
  rw [innerEdge, Bool.or_eq_true] at matters ⊢
  rcases matters with texts | matters
  · rw [← first.kind, ← second.kind]
    exact .inl texts
  · rw [Bool.and_eq_true, decide_eq_true_eq, Bool.or_eq_true] at matters
    obtain ⟨isRendered, how⟩ := matters
    refine .inr ?_
    rw [Bool.and_eq_true, decide_eq_true_eq, Bool.or_eq_true]
    refine ⟨fun hidden => isRendered (rendered hidden), ?_⟩
    rcases how with verbatim | beside
    · rw [softens.isVerbatim, ← above.kind]
      exact .inl verbatim
    · rw [Bool.and_eq_true] at beside ⊢
      exact .inr ⟨(first.softer softens).beside beside.1, (second.softer softens).beside beside.2⟩

theorem outerEdge_softer (softens : Softens config other) (above : Counterparts config other parent newParent)
    (rendered : shown newParent = "none" → shown parent = "none")
    (own : Counterparts config other left newLeft) (matters : outerEdge config parent left = true) :
    outerEdge other newParent newLeft = true := by
  rw [outerEdge, Bool.and_eq_true, decide_eq_true_eq, Bool.or_eq_true] at matters ⊢
  obtain ⟨isRendered, how⟩ := matters
  refine ⟨fun hidden => isRendered (rendered hidden), ?_⟩
  rw [softens.isVerbatim, softens.isVerbatim, ← above.kind, ← own.kind]
  rcases how with verbatim | edge
  · exact .inl verbatim
  · rw [Bool.and_assoc, Bool.and_eq_true] at edge ⊢
    exact .inr ⟨edge.1, (above.softer softens).edge edge.2⟩

theorem onlyContentMatters_softer {display newDisplay : String} (softer : Softer display newDisplay)
    (rendered : newDisplay = "none" → display = "none") (matters : Css.onlyContentMatters display = true) :
    Css.onlyContentMatters newDisplay = true := by
  rw [Css.onlyContentMatters, Bool.and_assoc, Bool.and_eq_true, decide_eq_true_eq] at matters ⊢
  exact ⟨fun hidden => matters.1 (rendered hidden), softer.edge matters.2⟩

/-- The second edge matters on either side where the first one does. -/
structure EdgeKept (edge new : Bool × Bool) : Prop where
  leading : edge.1 = true → new.1 = true
  trailing : edge.2 = true → new.2 = true

theorem edgesFrom_softer (softens : Softens config other) (above : Counterparts config other parent newParent)
    (rendered : shown newParent = "none" → shown parent = "none") {labels news : List Label}
    (pairs : List.Forall₂ (Counterparts config other) labels news) {leading newLeading : Bool}
    (kept : leading = true → newLeading = true) :
    List.Forall₂ EdgeKept (edgesFrom config parent leading labels)
      (edgesFrom other newParent newLeading news) := by
  induction pairs generalizing leading newLeading with
  | nil => exact .nil
  | cons first later ih =>
      cases later with
      | nil => exact .cons ⟨kept, outerEdge_softer softens above rendered first⟩ .nil
      | cons second _ =>
          have between := innerEdge_softer softens above rendered first second
          exact .cons ⟨kept, between⟩ (ih between)

theorem edgesUnder_softer (softens : Softens config other) (above : Counterparts config other parent newParent)
    (rendered : shown newParent = "none" → shown parent = "none") {labels news : List Label}
    (pairs : List.Forall₂ (Counterparts config other) labels news) :
    List.Forall₂ EdgeKept (edgesUnder config parent labels) (edgesUnder other newParent news) := by
  cases pairs with
  | nil => exact .nil
  | cons first later =>
      exact edgesFrom_softer softens above rendered (.cons first later)
        (outerEdge_softer softens above rendered first)

end Edges

/-! ## Flags -/

def EdgesKept (label twin : Label) : Prop :=
  ∀ note ∈ [Note.leadingSensitive, .trailingSensitive], Flagged note label true → Flagged note twin true

/-- Of the flags that a container owns, its own and those on the edges right below it, those that are set
on the first of two nodes are set on the second one. -/
structure FlagsKept (node twin : Node) : Prop where
  dangling : Flagged .danglingSensitive node.label true → Flagged .danglingSensitive twin.label true
  edges : ∀ kid other, (kid, other) ∈ node.kids.zip twin.kids → EdgesKept kid.label other.label

/-- A node and what a configuration with softer displays makes of it: if that does not hide the node, it
keeps the flags that the node owns. -/
structure Eased (config other : Config) (node twin : Node) : Prop where
  counterparts : Counterparts config other node.label twin.label
  flags : (shown twin.label = "none" → shown node.label = "none") → FlagsKept node twin

section Flags

variable {config other : Config} {node twin : Node}

theorem flag_eq {note : Note} {label : Label} {flag : Bool} (written : Flagged note label flag)
    (set : Flagged note label true) : flag = true := by
  rw [Flagged, written] at set
  cases set
  rfl

theorem edgesKept_of_edged {edges news : List (Bool × Bool)} {labels others : List Label}
    (kept : List.Forall₂ EdgeKept edges news) (edged : List.Forall₂ Edged edges labels)
    (edgedOthers : List.Forall₂ Edged news others) : List.Forall₂ EdgesKept labels others := by
  induction kept generalizing labels others with
  | nil =>
      cases edged
      cases edgedOthers
      exact .nil
  | cons edge _ ih =>
      cases edged with
      | cons first rest =>
          cases edgedOthers with
          | cons firstOther later =>
              refine .cons ?_ (ih rest later)
              intro note member set
              rcases List.mem_cons.mp member with rfl | member
              · have flag := firstOther.leading
                rw [edge.leading (flag_eq first.leading set)] at flag
                exact flag
              · obtain rfl := List.mem_singleton.mp member
                have flag := firstOther.trailing
                rw [edge.trailing (flag_eq first.trailing set)] at flag
                exact flag

theorem counterparts_of_settled {pending : Option String} {label other' : Label}
    (same : label.kind = other'.kind) (settled : Settled config pending label)
    (settledOther : Settled other pending other') : Counterparts config other label other' := by
  refine ⟨same, pending, ?_, ?_⟩
  · rw [shown, settled.display]
    rfl
  · rw [shown, settledOther.display, same]
    rfl

theorem notMem_writtenNotes {edged : Bool} {note : Note} (notClass : note ∉ classNotes)
    (notEdge : edged = true → note ∉ [Note.leadingSensitive, .trailingSensitive])
    (notDangling : hasSoleText node = true → note ≠ .danglingSensitive) :
    note ∉ writtenNotes edged node := by
  intro isWritten
  rcases List.mem_append.mp isWritten with outer | dangling
  · rcases List.mem_append.mp outer with ofClass | atEdge
    · unfold classNotesOf at ofClass
      split at ofClass
      · exact notClass ofClass
      · rw [List.mem_singleton.mp ofClass] at notClass
        exact notClass (by decide)
    · split at atEdge
      · next edges => exact notEdge edges atEdge
      · cases atEdge
  · split at dangling
    · next sole => exact notDangling sole (List.mem_singleton.mp dangling)
    · cases dangling

/-- A node that does not stand at edges has none written on it. -/
theorem mem_otherNotes_of_edge {note : Note} (node : Node)
    (isEdge : note ∈ [Note.leadingSensitive, .trailingSensitive]) : note ∈ otherNotes false node := by
  have others : note ∉ classNotes ∧ note ≠ .danglingSensitive := by
    rcases List.mem_cons.mp isEdge with rfl | member
    · decide
    · obtain rfl := List.mem_singleton.mp member
      decide
  exact mem_otherNotes (notMem_writtenNotes others.1 (fun atEdge => absurd atEdge (by decide))
    fun _ => others.2)

theorem dangling_kept {edged : Bool} (softens : Softens config other) (kinds : SameKinds node twin)
    (measured : Measured config node) (measuredTwin : Measured other twin)
    (counterparts : Counterparts config other node.label twin.label)
    (rendered : shown twin.label = "none" → shown node.label = "none")
    (same : node.label.only (otherNotes edged node) = twin.label.only (otherNotes edged node))
    (set : Flagged .danglingSensitive node.label true) : Flagged .danglingSensitive twin.label true := by
  cases sole : hasSoleText node with
  | true =>
      have soleTwin : hasSoleText twin = true := kinds.hasSoleText ▸ sole
      rw [hasSoleText, Bool.and_eq_true] at sole soleTwin
      have matters := flag_eq (measured.sole sole.1 sole.2) set
      have flag := measuredTwin.sole soleTwin.1 soleTwin.2
      rw [onlyContentMatters_softer (counterparts.softer softens) rendered matters] at flag
      exact flag
  | false =>
      have isOther : Note.danglingSensitive ∈ otherNotes edged node := by
        apply mem_otherNotes
        apply notMem_writtenNotes (by decide) (fun _ => by decide)
        rw [sole]
        rintro ⟨⟩
      exact (Label.get_eq_of_only_eq _ isOther same).symm.trans set

theorem edges_kept (softens : Softens config other) (sameShape : shape node = shape twin)
    (measured : Measured config node) (measuredTwin : Measured other twin)
    (counterparts : Counterparts config other node.label twin.label)
    (rendered : shown twin.label = "none" → shown node.label = "none")
    (below : List.Forall₂ (fun kid kidTwin => Counterparts config other kid.label kidTwin.label) node.kids
      twin.kids)
    (same : List.Forall₂ (fun kid kidTwin =>
      unwrittenUnder (hasEdges node) kid = unwrittenUnder (hasEdges node) kidTwin) node.kids twin.kids) :
    List.Forall₂ (fun kid kidTwin => EdgesKept kid.label kidTwin.label) node.kids twin.kids := by
  cases edges : hasEdges node with
  | true =>
      have edgesTwin : hasEdges twin = true := (SameKinds.of_shape sameShape).hasEdges ▸ edges
      rw [hasEdges, Bool.and_eq_true, Bool.not_eq_true'] at edges edgesTwin
      have labels : List.Forall₂ (Counterparts config other) node.kidLabels twin.kidLabels :=
        Node.forall₂_kidLabels.mpr below
      have kept := edgesKept_of_edged (edgesUnder_softer softens counterparts rendered labels)
        (measured.several edges.1 edges.2) (measuredTwin.several edgesTwin.1 edgesTwin.2)
      exact Node.forall₂_kidLabels.mp kept
  | false =>
      rw [edges] at same
      refine (forall₂_shape_kids sameShape).mp ?_ same
      intro kid kidTwin kidShape unwrittenSame note isEdge set
      have labels := (unwritten_below (SameKinds.of_shape kidShape) unwrittenSame).1
      exact (Label.get_eq_of_only_eq note (mem_otherNotes_of_edge kid isEdge) labels).symm.trans set

end Flags

/-! ## Trees -/

section Trees

variable {config other : Config} {node twin : Node}

theorem throughout_eased {edged : Bool} (softens : Softens config other) (formed : node.WellFormed)
    (same : shape node = shape twin) (annotated : node.Everywhere (Annotated config))
    (annotatedTwin : twin.Everywhere (Annotated other))
    (unwrittenSame : unwrittenUnder edged node = unwrittenUnder edged twin)
    (counterparts : Counterparts config other node.label twin.label) :
    Throughout Node.kids (Eased config other) node twin := by
  induction node using Node.induction generalizing edged twin with
  | step label kids below =>
      have kinds := SameKinds.of_shape same
      have shapes := forall₂_shape_kids same
      obtain ⟨labels, unwrittenKids⟩ := unwritten_below kinds unwrittenSame
      have belowCounterparts : List.Forall₂ (fun kid kidTwin =>
          Counterparts config other kid.label kidTwin.label) kids twin.kids := by
        refine shapes.mp ?_ (forall₂_settled_kids formed same annotated annotatedTwin)
        rintro kid kidTwin kidShape ⟨pending, settled, settledTwin⟩
        exact counterparts_of_settled (SameKinds.of_shape kidShape).own settled settledTwin
      have measured := annotated.here.measured
      have measuredTwin := annotatedTwin.here.measured
      refine .intro ⟨counterparts, fun rendered => ⟨?_, ?_⟩⟩ shapes.length_eq ?_
      · exact dangling_kept softens kinds measured measuredTwin counterparts rendered labels
      · intro kid kidTwin member
        exact List.forall₂_zip (edges_kept softens same measured measuredTwin counterparts rendered
          belowCounterparts unwrittenKids) member
      · intro kid kidTwin member
        obtain ⟨inKids, inTwin⟩ := List.of_mem_zip member
        exact below kid inKids (formed.kid inKids) (List.forall₂_zip shapes member) (annotated.kid inKids)
          (annotatedTwin.kid inTwin) (List.forall₂_zip unwrittenKids member)
          (List.forall₂_zip belowCounterparts member)

theorem eased_annotated {tree : Node} (softens : Softens config other) (formed : tree.WellFormed) :
    Throughout Node.kids (Eased config other) (annotated config tree) (annotated other tree) := by
  have same : shape (annotated config tree) = shape (annotated other tree) := by
    rw [shape_annotated, shape_annotated]
  have unwrittenSame : unwritten (annotated config tree) = unwritten (annotated other tree) := by
    rw [unwritten_annotated, unwritten_annotated]
  exact throughout_eased softens (wellFormed_annotated config formed) same (annotated_annotated config tree)
    (annotated_annotated other tree) unwrittenSame (counterparts_of_settled (SameKinds.of_shape same).own
      (settled_annotated config tree) (settled_annotated other tree))

end Trees

/-- Annotating a well-formed tree in the strict mode sets every flag that another mode sets, and the css
mode sets those flags that the ignoring one does on containers that it does not hide.  No mode writes on
the edges of the top node. -/
theorem modes_annotate (config : Config) (tree : Node) (formed : tree.WellFormed) :
    (∀ mode, (preprocess (inMode config mode) .annotate tree).fault = none) ∧
      (∀ mode, Throughout Node.kids FlagsKept (preprocess (inMode config mode) .annotate tree).state
        (preprocess (inMode config .strict) .annotate tree).state) ∧
      Throughout Node.kids (fun ignored styled => shown styled.label ≠ "none" → FlagsKept ignored styled)
        (preprocess (inMode config .ignore) .annotate tree).state
        (preprocess (inMode config .css) .annotate tree).state ∧
      ∀ mode, ∀ note ∈ [Note.leadingSensitive, .trailingSensitive],
        (preprocess (inMode config mode) .annotate tree).state.label.notes.get note =
          tree.label.notes.get note := by
  have state (mode : Mode) := (preprocess_annotate (inMode config mode) formed).2
  refine ⟨fun mode => (preprocess_annotate (inMode config mode) formed).1, ?_, ?_, ?_⟩
  · intro mode
    rw [state mode, state .strict]
    refine (eased_annotated (softens_strict config mode) formed).imp ?_
    rintro node strict ⟨counterparts, flags⟩
    apply flags
    obtain ⟨pending, word, strictWord⟩ := counterparts.words
    rw [word, strictWord]
    exact hidden_strict config mode pending node.label.kind
  · rw [state .ignore, state .css]
    refine (eased_annotated (softens_css config) formed).imp ?_
    intro ignored styled eased isShown
    exact eased.flags fun hidden => absurd hidden isShown
  · intro mode note isEdge
    have kinds := SameKinds.of_shape (shape_annotated (inMode config mode) tree)
    have labels := (unwritten_below kinds (unwritten_annotated (inMode config mode) tree)).1
    rw [state mode]
    exact Label.get_eq_of_only_eq note (mem_otherNotes_of_edge _ isEdge) labels

theorem modes_annotate_paragraph :
    paragraph.WellFormed ∧
      Throughout Node.kids FlagsKept (preprocess (inMode Config.builtin .css) .annotate paragraph).state
        (preprocess (inMode Config.builtin .strict) .annotate paragraph).state := by
  have formed : paragraph.WellFormed := by decide
  exact ⟨formed, (modes_annotate Config.builtin paragraph formed).2.1 .css⟩

end TemplateSpacing.Pass
