import TemplateSpacing.Proofs.Pass.EdgeFlags

/-! # What the first two passes see

Of the notes that are there before, the first pass sees none, and the second one sees displays alone.
So on a view of a tree that keeps what a pass sees and writes, the pass makes the view of what it makes
of the tree.
-/

set_option autoImplicit false

namespace TemplateSpacing.Pass

open TemplateSpacing.Tree

/-! ## The first pass -/

section Displays

variable (config : Config) {kept : List Note}

theorem only_withFlag {note : Note} (isKept : note ∈ kept) (label : Label) (flag : Bool) :
    (label.withFlag note flag).only kept = (label.only kept).withFlag note flag := by
  rw [Label.withFlag, Label.only_note, if_pos isKept]
  rfl

theorem only_withDisplay (isKept : Note.display ∈ kept) (label : Label) (display : String) :
    (label.withDisplay display).only kept = (label.only kept).withDisplay display := by
  rw [Label.withDisplay, Label.only_note, if_pos isKept]
  rfl

theorem classified_only (display : Note.display ∈ kept) (whitespace : Note.whitespaceSensitive ∈ kept)
    (indentation : Note.indentationSensitive ∈ kept) (pending : Option String) (label : Label) :
    classified config pending (label.only kept) = (classified config pending label).only kept := by
  unfold classified
  rw [Label.only_kind]
  split
  · rw [only_withFlag indentation, only_withFlag whitespace, only_withDisplay display]
  · rw [only_withDisplay display]

theorem classifiedAll_only (display : Note.display ∈ kept)
    (whitespace : Note.whitespaceSensitive ∈ kept) (indentation : Note.indentationSensitive ∈ kept)
    (pending : Option String) (labels : List Label) :
    classifiedAll config pending (labels.map (Label.only kept)) =
      (classifiedAll config pending labels).map (Label.only kept) := by
  induction labels generalizing pending with
  | nil => rfl
  | cons label rest ih =>
      rw [List.map_cons, classifiedAll, classified_only config display whitespace indentation,
        Label.only_kind, ih, classifiedAll, List.map_cons]

theorem displayRule_only (display : Note.display ∈ kept)
    (whitespace : Note.whitespaceSensitive ∈ kept) (indentation : Note.indentationSensitive ∈ kept)
    (top : Bool) (label : Label) (below : List Label) :
    displayRule config top (label.only kept) (below.map (Label.only kept)) =
      ((displayRule config top label below).1.only kept,
        (displayRule config top label below).2.map (Option.map (Label.only kept))) := by
  have own : (if top || label.kind.isRoot then classified config none (label.only kept)
      else label.only kept) =
      (if top || label.kind.isRoot then classified config none label else label).only kept := by
    split
    · exact classified_only config display whitespace indentation none label
    · rfl
  have children : (if label.kind.isContainer then classifiedAll config none (below.map (Label.only kept))
      else below.map (Label.only kept)) =
      (if label.kind.isContainer then classifiedAll config none below else below).map
        (Label.only kept) := by
    split
    · exact classifiedAll_only config display whitespace indentation none below
    · rfl
  refine Prod.ext own ?_
  rw [displayRule, Label.only_kind, children, displayRule, List.map_map, List.map_map]
  rfl

theorem displayed_only (display : Note.display ∈ kept)
    (whitespace : Note.whitespaceSensitive ∈ kept) (indentation : Note.indentationSensitive ∈ kept)
    (tree : Node) : displayed config (tree.only kept) = (displayed config tree).only kept :=
  Node.rewrite_mapLabels (displayRule_only config display whitespace indentation) true tree

end Displays

/-! ## The second pass -/

/-- Two labels that the edges next to them do not tell apart. -/
structure SameFace (config : Config) (label other : Label) : Prop where
  shown : shown other = shown label
  textLike : other.kind.isTextLike = label.kind.isTextLike
  root : other.kind.isRoot = label.kind.isRoot
  verbatim : isVerbatim config other.kind = isVerbatim config label.kind

section Faces

variable {config : Config} {parent newParent : Label}

/-- The characters of a text make no difference. -/
theorem SameFace.of_alike {label other : Label} (alike : Kind.Alike label.kind other.kind)
    (display : other.notes.display = label.notes.display) : SameFace config label other := by
  refine ⟨shown_congr display, ?_, Node.isRoot_of_alike alike, ?_⟩
  · rcases alike with same | ⟨oldText, newText⟩
    · rw [same]
    · rw [Node.isTextLike_of_isText oldText, Node.isTextLike_of_isText newText]
  · rcases alike with same | ⟨oldText, newText⟩
    · rw [same]
    · rw [isVerbatim, isVerbatim, whiteSpaceOf, whiteSpaceOf, tag?_of_isText oldText,
        tag?_of_isText newText]

theorem SameFace.refl (label : Label) : SameFace config label label :=
  .of_alike (.inl rfl) rfl

theorem innerEdge_of_faces {left right newLeft newRight : Label}
    (above : SameFace config parent newParent) (first : SameFace config left newLeft)
    (second : SameFace config right newRight) :
    innerEdge config newParent newLeft newRight = innerEdge config parent left right := by
  rw [innerEdge, innerEdge, above.shown, above.verbatim, first.shown, first.textLike, second.shown,
    second.textLike]

theorem outerEdge_of_faces {child new : Label} (above : SameFace config parent newParent)
    (own : SameFace config child new) :
    outerEdge config newParent new = outerEdge config parent child := by
  rw [outerEdge, outerEdge, above.shown, above.verbatim, above.root, own.verbatim]

theorem edgesFrom_of_faces {labels news : List Label} (above : SameFace config parent newParent)
    (faces : List.Forall₂ (SameFace config) labels news) (leading : Bool) :
    edgesFrom config newParent leading news = edgesFrom config parent leading labels := by
  induction faces generalizing leading with
  | nil => rfl
  | cons first later ih =>
      cases later with
      | nil => rw [edgesFrom, edgesFrom, outerEdge_of_faces above first]
      | cons second _ =>
          rw [edgesFrom, edgesFrom, innerEdge_of_faces above first second, ih]

theorem edgesUnder_of_faces {labels news : List Label} (above : SameFace config parent newParent)
    (faces : List.Forall₂ (SameFace config) labels news) :
    edgesUnder config newParent news = edgesUnder config parent labels := by
  cases faces with
  | nil => rfl
  | cons first later =>
      rw [edgesUnder, edgesUnder, outerEdge_of_faces above first,
        edgesFrom_of_faces above (.cons first later)]

end Faces

section Edges

variable (config : Config) {kept : List Note}

theorem get_only_of_mem {note : Note} (isKept : note ∈ kept) (label : Label) :
    (label.only kept).notes.get note = label.notes.get note := by
  have value := Notes.get_only kept label.notes note
  rw [if_pos isKept] at value
  exact value

theorem shown_only (display : Note.display ∈ kept) (label : Label) :
    shown (label.only kept) = shown label :=
  shown_congr (get_only_of_mem display label)

theorem sameFace_only (display : Note.display ∈ kept) (label : Label) :
    SameFace config label (label.only kept) :=
  ⟨shown_only display label, rfl, rfl, rfl⟩

theorem edgesUnder_only (display : Note.display ∈ kept) (parent : Label) (labels : List Label) :
    edgesUnder config (parent.only kept) (labels.map (Label.only kept)) =
      edgesUnder config parent labels := by
  apply edgesUnder_of_faces (sameFace_only config display parent)
  rw [List.forall₂_map_right_iff]
  exact List.forall₂_same.mpr fun label _ => sameFace_only config display label

theorem withEdges_only (leading : Note.leadingSensitive ∈ kept)
    (trailing : Note.trailingSensitive ∈ kept) (edges : List (Bool × Bool)) (labels : List Label) :
    withEdges edges (labels.map (Label.only kept)) =
      (withEdges edges labels).map (Label.only kept) := by
  simp only [withEdges, List.zipWith_map_right, List.map_zipWith]
  simp only [only_withFlag leading, only_withFlag trailing]

theorem isSoleText_only (labels : List Label) :
    isSoleText (labels.map (Label.only kept)) = isSoleText labels := by
  apply isSoleText_congr
  rw [List.map_map]
  rfl

theorem sensitivityRule_only (display : Note.display ∈ kept)
    (leading : Note.leadingSensitive ∈ kept) (trailing : Note.trailingSensitive ∈ kept)
    (dangling : Note.danglingSensitive ∈ kept) (top : Bool) (label : Label) (below : List Label) :
    sensitivityRule config top (label.only kept) (below.map (Label.only kept)) =
      ((sensitivityRule config top label below).1.only kept,
        (sensitivityRule config top label below).2.map (Option.map (Label.only kept))) := by
  simp only [sensitivityRule, Label.only_kind, isSoleText_only, shown_only display,
    edgesUnder_only config display, withEdges_only leading trailing]
  split
  · split
    · simp only [only_withFlag dangling, List.map_map, Function.comp_def, Option.map_some]
    · simp only [List.map_map, Function.comp_def, Option.map_some]
  · simp only [List.map_map, Function.comp_def, Option.map_some]

theorem sensitivityPass_only (display : Note.display ∈ kept)
    (leading : Note.leadingSensitive ∈ kept) (trailing : Note.trailingSensitive ∈ kept)
    (dangling : Note.danglingSensitive ∈ kept) (tree : Node) :
    (tree.only kept).rewrite (sensitivityRule config) true =
      (tree.rewrite (sensitivityRule config) true).only kept :=
  Node.rewrite_mapLabels (sensitivityRule_only config display leading trailing dangling) true tree

end Edges

end TemplateSpacing.Pass
