import TemplateSpacing.Proofs.Pass.Seen
import TemplateSpacing.Proofs.Pass.Settled

/-! # Measuring settles

A node is measured when the second pass would change nothing at it.  The second pass measures all
nodes, because it changes neither the kinds nor the displays that it goes by.
-/

set_option autoImplicit false

namespace TemplateSpacing.Pass

open TemplateSpacing.Tree

structure Edged (edge : Bool × Bool) (label : Label) : Prop where
  leading : Flagged .leadingSensitive label edge.1
  trailing : Flagged .trailingSensitive label edge.2

structure Measured (config : Config) (node : Node) : Prop where
  sole : node.label.kind.isContainer = true → isSoleText node.kidLabels = true →
    Flagged .danglingSensitive node.label (Css.onlyContentMatters (shown node.label))
  several : node.label.kind.isContainer = true → isSoleText node.kidLabels = false →
    List.Forall₂ Edged (edgesUnder config node.label node.kidLabels) node.kidLabels

/-! ## Lists of labels -/

section Labels

variable {config : Config}

theorem withFlag_of_flagged {note : Note} {label : Label} {flag : Bool}
    (flagged : Flagged note label flag) : label.withFlag note flag = label :=
  note_of_get note flagged

theorem withEdges_of_edged {edges : List (Bool × Bool)} {labels : List Label}
    (edged : List.Forall₂ Edged edges labels) : withEdges edges labels = labels := by
  induction edged with
  | nil => rfl
  | @cons edge label edges labels first _ ih =>
      rw [withEdges] at ih ⊢
      rw [List.zipWith_cons_cons, ih, withFlag_of_flagged first.leading,
        withFlag_of_flagged first.trailing]

theorem edged_withEdges {edges : List (Bool × Bool)} {labels : List Label}
    (count : edges.length = labels.length) : List.Forall₂ Edged edges (withEdges edges labels) := by
  induction labels generalizing edges with
  | nil =>
      obtain rfl := List.length_eq_zero_iff.mp count
      exact .nil
  | cons label rest ih =>
      cases edges with
      | nil => cases count
      | cons edge edges => exact .cons ⟨rfl, rfl⟩ (ih (Nat.succ.inj count))

theorem flagged_only {kept : List Note} {note : Note} (isKept : note ∈ kept) (label : Label)
    (flag : Bool) : Flagged note (label.only kept) flag ↔ Flagged note label flag := by
  rw [Flagged, Flagged, get_only_of_mem isKept]

/-- A view that keeps the notes on edges shows which edges are written. -/
theorem edged_only {kept : List Note} (leading : Note.leadingSensitive ∈ kept)
    (trailing : Note.trailingSensitive ∈ kept) (edges : List (Bool × Bool)) (labels : List Label) :
    List.Forall₂ Edged edges (labels.map (Label.only kept)) ↔ List.Forall₂ Edged edges labels := by
  have each : ∀ edge label, Edged edge (label.only kept) ↔ Edged edge label := by
    intro edge label
    constructor
    · intro edged
      exact ⟨(flagged_only leading label edge.1).mp edged.leading,
        (flagged_only trailing label edge.2).mp edged.trailing⟩
    · intro edged
      exact ⟨(flagged_only leading label edge.1).mpr edged.leading,
        (flagged_only trailing label edge.2).mpr edged.trailing⟩
  rw [List.forall₂_map_right_iff]
  exact ⟨fun edged => edged.imp fun edge label => (each edge label).mp,
    fun edged => edged.imp fun edge label => (each edge label).mpr⟩

end Labels

/-! ## One node -/

section Node

variable {config : Config} {node : Node}

/-- Whether a node is measured shows in a view that keeps displays and the notes of the second pass. -/
theorem measured_only {kept : List Note} (display : Note.display ∈ kept)
    (leading : Note.leadingSensitive ∈ kept) (trailing : Note.trailingSensitive ∈ kept)
    (dangling : Note.danglingSensitive ∈ kept) :
    Measured config (node.only kept) ↔ Measured config node := by
  have kind : (node.only kept).label.kind = node.label.kind := by
    rw [Node.only, Node.mapLabels_label, Label.only_kind]
  have label : (node.only kept).label = node.label.only kept := Node.mapLabels_label _ node
  constructor
  · rintro ⟨sole, several⟩
    rw [kind, Node.kidLabels_only, isSoleText_only] at sole several
    rw [label, shown_only display, flagged_only dangling] at sole
    rw [label, edgesUnder_only config display, edged_only leading trailing] at several
    exact ⟨sole, several⟩
  · rintro ⟨sole, several⟩
    refine ⟨?_, ?_⟩
    · rw [kind, Node.kidLabels_only, isSoleText_only, label, shown_only display, flagged_only dangling]
      exact sole
    · rw [kind, Node.kidLabels_only, isSoleText_only, label, edgesUnder_only config display,
        edged_only leading trailing]
      exact several

/-- Both sides of an edge between two siblings say the same. -/
theorem Measured.inner (measured : Measured config node)
    (container : node.label.kind.isContainer = true) {front back : List Label} {left right : Label}
    (split : node.kidLabels = front ++ left :: right :: back) :
    Flagged .trailingSensitive left (innerEdge config node.label left right) ∧
      Flagged .leadingSensitive right (innerEdge config node.label left right) := by
  have here : node.kidLabels[front.length]? = some left := by
    rw [split, List.getElem?_append_right (Nat.le_refl _), Nat.sub_self]
    rfl
  have next : node.kidLabels[front.length + 1]? = some right := by
    rw [split, List.getElem?_append_right (Nat.le_add_right _ 1), Nat.add_sub_cancel_left]
    rfl
  have several : isSoleText node.kidLabels = false := by
    rw [split]
    cases front with
    | nil => rfl
    | cons first rest => cases rest <;> rfl
  have edged := measured.several container several
  cases labels : node.kidLabels with
  | nil => simp [labels] at here
  | cons first rest =>
      rw [labels] at edged here next
      obtain ⟨before, after, ofLeft, ofRight⟩ := edgesFrom_inner config node.label
        (outerEdge config node.label first) here next
      obtain ⟨edge, isEdge, written⟩ := getElem?_of_forall₂_right edged here
      obtain ⟨nextEdge, isNext, nextWritten⟩ := getElem?_of_forall₂_right edged next
      obtain rfl := Option.some.inj (isEdge.symm.trans ofLeft)
      obtain rfl := Option.some.inj (isNext.symm.trans ofRight)
      exact ⟨written.trailing, nextWritten.leading⟩

theorem visited_of_measured (top : Bool) (measured : Measured config node) :
    node.visited (sensitivityRule config) top = node := by
  have rule : sensitivityRule config top node.label node.kidLabels =
      (node.label, node.kidLabels.map some) := by
    rw [sensitivityRule]
    split
    · next container =>
        split
        · next sole => rw [withFlag_of_flagged (measured.sole container sole)]
        · next several =>
            rw [withEdges_of_edged (measured.several container (Bool.not_eq_true _ ▸ several))]
    · rfl
  rw [Node.visited, rule, Node.kidLabels, Node.relabel_same]
  cases node with
  | mk label kids => rfl

/-- Right after the second pass the edges are those of the kinds and displays that are there. -/
theorem edged_of_faces {parent : Label} {labels news : List Label}
    (faces : news.map (Label.only faceNotes) =
      (withEdges (edgesUnder config parent labels) labels).map (Label.only faceNotes)) :
    List.Forall₂ Edged (edgesUnder config parent news) news := by
  have count := @length_edgesUnder config parent labels
  have shows : ∀ others : List Label, edgesUnder config parent others =
      edgesUnder config (parent.only [.display]) (others.map (Label.only [.display])) :=
    fun others => (edgesUnder_only config (by decide) parent others).symm
  have displays : news.map (Label.only [.display]) = labels.map (Label.only [.display]) := by
    have same := congrArg (List.map (Label.only [.display])) faces
    rw [List.map_map, List.map_map] at same
    exact same.trans (map_withEdges (fun _ _ _ => rfl) count)
  have edged := (@edged_only faceNotes (by decide) (by decide) _ _).mpr (edged_withEdges count)
  rw [shows news, displays, ← shows labels]
  rw [← faces] at edged
  exact (edged_only (by decide) (by decide) _ _).mp edged

theorem measured_rewrite (config : Config) (top : Bool) (node : Node) :
    Measured config (node.rewrite (sensitivityRule config) top) := by
  have ownKind : (node.rewrite (sensitivityRule config) top).label.kind = node.label.kind := by
    rw [Node.rewrite_label, Node.visited, (sensitivityRule_tame config).own]
  cases sole : isSoleText node.kidLabels with
  | true =>
      refine ⟨?_, ?_⟩
      · intro container _
        obtain ⟨own, _⟩ := rewrite_soleText config top (ownKind ▸ container) sole
        rw [own]
        rfl
      · intro container several
        obtain ⟨_, faces⟩ := rewrite_soleText config top (ownKind ▸ container) sole
        rw [isSoleText_congr (Label.kinds_of_only faces), sole] at several
        cases several
  | false =>
      refine ⟨?_, ?_⟩
      · intro container soleAfter
        obtain ⟨_, faces⟩ := rewrite_edges config top (ownKind ▸ container) sole
        have kinds := Label.kinds_of_only faces
        rw [kinds_withEdges (length_edgesUnder config)] at kinds
        rw [isSoleText_congr kinds, sole] at soleAfter
        cases soleAfter
      · intro container _
        obtain ⟨own, faces⟩ := rewrite_edges config top (ownKind ▸ container) sole
        rw [own]
        exact edged_of_faces faces

end Node

/-! ## Trees -/

section Tree

variable {config : Config} {tree : Node}

theorem measured_sensitivityPass (config : Config) (tree : Node) :
    (tree.rewrite (sensitivityRule config) true).Everywhere (Measured config) :=
  Node.Everywhere.of_rewrite (fun _ _ => True) (fun top node _ => measured_rewrite config top node)
    (fun _ _ _ _ _ => trivial) true tree trivial

/-- A second measurement changes nothing. -/
theorem sensitivityPass_of_measured (measured : tree.Everywhere (Measured config)) :
    tree.rewrite (sensitivityRule config) true = tree :=
  Node.rewrite_of_fixed (fun _ node => node.Everywhere (Measured config))
    (fun top _ measured => visited_of_measured top measured.here)
    (fun _ _ measured _ member => measured.kid member) true tree measured

end Tree

end TemplateSpacing.Pass
