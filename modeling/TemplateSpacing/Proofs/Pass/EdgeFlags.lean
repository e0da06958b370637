import TemplateSpacing.Proofs.Pass.Runs

/-! # The edges of an annotated tree

After the first two passes the edge notes under every container are those of the closed form, read off
the kinds and displays that the same tree shows.  The only text of a container keeps its own notes, and
the container says whether its content matters.
-/

set_option autoImplicit false

namespace TemplateSpacing.Pass

open TemplateSpacing.Tree

def Flagged (note : Note) (label : Label) (flag : Bool) : Prop :=
  label.notes.get note = some (.bool flag)

def edgeNotes (label : Label) : Option Value × Option Value :=
  (label.notes.leadingSensitive, label.notes.trailingSensitive)

structure EdgeLaw (config : Config) (before after : Node) : Prop where
  kind : after.label.kind = before.label.kind
  displayed : Displayed after.label
  inner : after.label.kind.isContainer = true → ∀ index left right,
    after.kidLabels[index]? = some left → after.kidLabels[index + 1]? = some right →
      Flagged .trailingSensitive left (innerEdge config after.label left right) ∧
        Flagged .leadingSensitive right (innerEdge config after.label left right)
  first : after.label.kind.isContainer = true → isSoleText after.kidLabels = false →
    ∀ child, after.kidLabels.head? = some child →
      Flagged .leadingSensitive child (outerEdge config after.label child)
  last : after.label.kind.isContainer = true → isSoleText after.kidLabels = false →
    ∀ child, after.kidLabels.getLast? = some child →
      Flagged .trailingSensitive child (outerEdge config after.label child)
  soleText : after.label.kind.isContainer = true → isSoleText after.kidLabels = true →
    Flagged .danglingSensitive after.label (shown after.label ≠ "none" &&
        !Css.isBlockLike (shown after.label) && shown after.label ≠ "inline-block") ∧
      after.kidLabels.map edgeNotes = before.kidLabels.map edgeNotes

/-! ## Labels with edges -/

structure EdgeWritten (old : Label) (edge : Bool × Bool) (new : Label) : Prop where
  kind : new.kind = old.kind
  display : new.notes.display = old.notes.display
  leading : Flagged .leadingSensitive new edge.1
  trailing : Flagged .trailingSensitive new edge.2

def faceNotes : List Note := [.display, .leadingSensitive, .trailingSensitive]

section Labels

variable {config : Config}

theorem edgeWritten_of_face {old new : Label} {edge : Bool × Bool}
    (face : new.only faceNotes =
      ((old.withFlag .leadingSensitive edge.1).withFlag .trailingSensitive edge.2).only faceNotes) :
    EdgeWritten old edge new := by
  have kind := Label.kind_of_only_eq face
  have values : ∀ note ∈ faceNotes, _ := fun note isFace => Label.get_eq_of_only_eq note isFace face
  exact ⟨kind, values .display (by decide), values .leadingSensitive (by decide),
    values .trailingSensitive (by decide)⟩

theorem shown_congr {label other : Label} (display : label.notes.display = other.notes.display) :
    shown label = shown other := by
  rw [shown, shown, display]

theorem innerEdge_congr (parent : Label) {left right newLeft newRight : Label}
    {edge next : Bool × Bool} (first : EdgeWritten left edge newLeft)
    (second : EdgeWritten right next newRight) :
    innerEdge config parent newLeft newRight = innerEdge config parent left right := by
  rw [innerEdge, innerEdge, first.kind, second.kind, shown_congr first.display,
    shown_congr second.display]

theorem outerEdge_congr (parent : Label) {child new : Label} {edge : Bool × Bool}
    (written : EdgeWritten child edge new) :
    outerEdge config parent new = outerEdge config parent child := by
  rw [outerEdge, outerEdge, written.kind]

theorem isSoleText_congr {labels others : List Label}
    (kinds : labels.map Label.kind = others.map Label.kind) :
    isSoleText labels = isSoleText others := by
  match labels, others with
  | [], [] => rfl
  | [label], [other] =>
      simp only [List.map_cons, List.map_nil, List.cons.injEq, and_true] at kinds
      rw [isSoleText, isSoleText, kinds]
  | _ :: _ :: _, _ :: _ :: _ => rfl
  | [], _ :: _ => simp at kinds
  | _ :: _, [] => simp at kinds
  | [_], _ :: _ :: _ => simp at kinds
  | _ :: _ :: _, [_] => simp at kinds

theorem written_of_getElem {labels news : List Label} {edges : List (Bool × Bool)}
    (faces : news.map (Label.only faceNotes) = (withEdges edges labels).map (Label.only faceNotes))
    {index : Nat} {new : Label} (here : news[index]? = some new) :
    ∃ old edge, labels[index]? = some old ∧ edges[index]? = some edge ∧ EdgeWritten old edge new := by
  have same := congrArg (fun labels => labels[index]?) faces
  simp only [List.getElem?_map, here, Option.map_some, withEdges, List.getElem?_zipWith] at same
  cases inLabels : labels[index]? with
  | none => simp [inLabels] at same
  | some old =>
      cases inEdges : edges[index]? with
      | none => simp [inEdges] at same
      | some edge =>
          simp only [inLabels, inEdges, Option.map_some, Option.some.injEq] at same
          exact ⟨old, edge, rfl, rfl, edgeWritten_of_face same⟩

end Labels

/-! ## One node -/

section Law

variable {config : Config} {before after : Node}

theorem edgeNotes_of_faces {labels others : List Label}
    (faces : labels.map (Label.only faceNotes) = others.map (Label.only faceNotes)) :
    labels.map edgeNotes = others.map edgeNotes := by
  have notes := congrArg (List.map edgeNotes) faces
  have same : ∀ label : Label, edgeNotes (label.only faceNotes) = edgeNotes label := fun _ => rfl
  simpa only [List.map_map, Function.comp_def, same] using notes

theorem edgeLaw_closed (kind : after.label.kind = before.label.kind)
    (displayed : Displayed after.label) (closed : after.label.kind.isContainer = false) :
    EdgeLaw config before after := by
  have absurd : ∀ {law : Prop}, after.label.kind.isContainer = true → law := by
    intro law container
    rw [closed] at container
    cases container
  exact ⟨kind, displayed, absurd, absurd, absurd, absurd⟩

theorem edgeLaw_soleText (kind : after.label.kind = before.label.kind)
    (displayed : Displayed after.label) (sole : isSoleText after.kidLabels = true)
    (dangling : Flagged .danglingSensitive after.label
      (Css.onlyContentMatters (shown after.label)))
    (same : after.kidLabels.map edgeNotes = before.kidLabels.map edgeNotes) :
    EdgeLaw config before after := by
  refine ⟨kind, displayed, ?_, ?_, ?_, ?_⟩
  · intro _ index left right _ next
    match labels : after.kidLabels with
    | [] => simp [labels] at next
    | [_] => simp [labels] at next
    | _ :: _ :: _ => simp [labels, isSoleText] at sole
  · intro _ several
    rw [sole] at several
    cases several
  · intro _ several
    rw [sole] at several
    cases several
  · intro _ _
    exact ⟨dangling, same⟩

theorem edgeLaw_edges {labels : List Label} (kind : after.label.kind = before.label.kind)
    (displayed : Displayed after.label) (several : isSoleText after.kidLabels = false)
    (faces : after.kidLabels.map (Label.only faceNotes) =
      (withEdges (edgesUnder config after.label labels) labels).map (Label.only faceNotes)) :
    EdgeLaw config before after := by
  have count : after.kidLabels.length = labels.length := by
    have lengths := congrArg List.length faces
    simpa only [List.length_map, withEdges, List.length_zipWith, length_edgesUnder, Nat.min_self]
      using lengths
  obtain ⟨leading, edges⟩ : ∃ leading, edgesUnder config after.label labels =
      edgesFrom config after.label leading labels := by
    cases labels with
    | nil => exact ⟨true, rfl⟩
    | cons first rest => exact ⟨_, rfl⟩
  refine ⟨kind, displayed, ?_, ?_, ?_, ?_⟩
  · intro _ index left right here next
    obtain ⟨oldLeft, edge, inLabels, inEdges, written⟩ := written_of_getElem faces here
    obtain ⟨oldRight, nextEdge, nextInLabels, nextInEdges, nextWritten⟩ :=
      written_of_getElem faces next
    obtain ⟨before, later, edgeHere, edgeNext⟩ :=
      edgesFrom_inner config after.label leading inLabels nextInLabels
    rw [← edges, inEdges] at edgeHere
    rw [← edges, nextInEdges] at edgeNext
    cases edgeHere
    cases edgeNext
    rw [innerEdge_congr after.label written nextWritten]
    exact ⟨written.trailing, nextWritten.leading⟩
  · intro _ _ child first
    rw [List.head?_eq_getElem?] at first
    obtain ⟨old, edge, inLabels, inEdges, written⟩ := written_of_getElem faces first
    rw [outerEdge_congr after.label written]
    cases labels with
    | nil => simp at inLabels
    | cons first rest =>
        obtain ⟨trailing, edgeHere⟩ := edgesFrom_first config after.label
          (outerEdge config after.label first) first rest
        rw [edgesUnder, edgeHere] at inEdges
        obtain rfl := Option.some.inj inEdges
        obtain rfl := Option.some.inj inLabels
        exact written.leading
  · intro _ _ child last
    rw [List.getLast?_eq_getElem?] at last
    obtain ⟨old, edge, inLabels, inEdges, written⟩ := written_of_getElem faces last
    rw [outerEdge_congr after.label written]
    have isLast : after.kidLabels.length - 1 + 1 = labels.length := by
      have inside := (List.getElem?_eq_some_iff.mp inLabels).1
      omega
    obtain ⟨before, edgeHere⟩ := edgesFrom_last config after.label leading inLabels isLast
    rw [← edges, inEdges] at edgeHere
    obtain rfl := Option.some.inj edgeHere
    exact written.trailing
  · intro _ sole
    rw [sole] at several
    cases several

end Law

section Node

variable {config : Config} {top : Bool} {node : Node}

/-- Of the notes of a node its own visit writes whether its only text matters. -/
theorem only_sensitivityRule (config : Config) {kept : List Note}
    (dangling : Note.danglingSensitive ∉ kept) (top : Bool) (label : Label) (below : List Label) :
    (sensitivityRule config top label below).1.only kept = label.only kept := by
  simp only [sensitivityRule]
  split
  · split
    · exact Label.only_note_of_notMem dangling _ _
    · rfl
  · rfl

/-- What is below a node after the second pass shows what it showed right after the node's visit. -/
theorem faces_rewrite (config : Config) (top : Bool) (node : Node) :
    (node.rewrite (sensitivityRule config) top).kidLabels.map (Label.only faceNotes) =
      (node.visited (sensitivityRule config) top).kidLabels.map (Label.only faceNotes) :=
  Node.map_kidLabels_rewrite (only_sensitivityRule config (by decide) false) top node

theorem length_withEdges {edges : List (Bool × Bool)} {labels : List Label}
    (count : edges.length = labels.length) : (withEdges edges labels).length = labels.length := by
  rw [withEdges, List.length_zipWith, count, Nat.min_self]

/-- Whatever does not see the edges sees no difference. -/
theorem map_withEdges {α : Type} {f : Label → α} {edges : List (Bool × Bool)} {labels : List Label}
    (same : ∀ (label : Label) (leading trailing : Bool),
      f ((label.withFlag .leadingSensitive leading).withFlag .trailingSensitive trailing) = f label)
    (count : edges.length = labels.length) : (withEdges edges labels).map f = labels.map f := by
  induction labels generalizing edges with
  | nil => cases edges <;> rfl
  | cons label rest ih =>
      cases edges with
      | nil => cases count
      | cons edge edges =>
          have later := ih (Nat.succ.inj count)
          simp only [withEdges, List.zipWith_cons_cons, List.map_cons, same] at later ⊢
          rw [later]

theorem kinds_withEdges {edges : List (Bool × Bool)} {labels : List Label}
    (count : edges.length = labels.length) :
    (withEdges edges labels).map Label.kind = labels.map Label.kind :=
  map_withEdges (fun _ _ _ => rfl) count

theorem rewrite_soleText (config : Config) (top : Bool) (container : node.label.kind.isContainer = true)
    (sole : isSoleText node.kidLabels = true) :
    (node.rewrite (sensitivityRule config) top).label =
        node.label.withFlag .danglingSensitive (Css.onlyContentMatters (shown node.label)) ∧
      (node.rewrite (sensitivityRule config) top).kidLabels.map (Label.only faceNotes) =
        node.kidLabels.map (Label.only faceNotes) := by
  have rule : sensitivityRule config top node.label node.kidLabels =
      (node.label.withFlag .danglingSensitive (Css.onlyContentMatters (shown node.label)),
        node.kidLabels.map some) := by
    rw [sensitivityRule, if_pos container, if_pos sole]
  obtain ⟨own, below⟩ := Node.visited_of_keeping rule (List.length_map _)
  rw [Node.rewrite_label, faces_rewrite, own, below]
  exact ⟨rfl, rfl⟩

theorem rewrite_edges (config : Config) (top : Bool) (container : node.label.kind.isContainer = true)
    (several : isSoleText node.kidLabels = false) :
    (node.rewrite (sensitivityRule config) top).label = node.label ∧
      (node.rewrite (sensitivityRule config) top).kidLabels.map (Label.only faceNotes) =
        (withEdges (edgesUnder config node.label node.kidLabels) node.kidLabels).map
          (Label.only faceNotes) := by
  have rule : sensitivityRule config top node.label node.kidLabels =
      (node.label, (withEdges (edgesUnder config node.label node.kidLabels) node.kidLabels).map
        some) := by
    rw [sensitivityRule, if_pos container, several]
    rfl
  have count : (withEdges (edgesUnder config node.label node.kidLabels) node.kidLabels).length =
      node.kids.length := by
    rw [length_withEdges (length_edgesUnder config), Node.kidLabels, List.length_map]
  obtain ⟨own, below⟩ := Node.visited_of_keeping rule count
  rw [Node.rewrite_label, faces_rewrite, own, below]
  exact ⟨rfl, rfl⟩

theorem edgeLaw_rewrite (top : Bool) {before : Node} (ready : ReadyForEdges node)
    (kind : node.label.kind = before.label.kind) (kids : node.kids = before.kids) :
    EdgeLaw config before (node.rewrite (sensitivityRule config) top) := by
  have ownKind : (node.rewrite (sensitivityRule config) top).label.kind = node.label.kind := by
    rw [Node.rewrite_label, Node.visited, (sensitivityRule_tame config).own]
  have displayed : Displayed (node.rewrite (sensitivityRule config) top).label := by
    have same : (sensitivityRule config top node.label node.kidLabels).1.only [.display] =
        node.label.only [.display] :=
      (forall₂_only_sensitivityRule config (by decide) (by decide) (by decide) top node.label
        node.kidLabels).1
    obtain ⟨word, assigned⟩ := ready.displayed.here
    rw [Node.rewrite_label]
    exact ⟨word, (Label.get_eq_of_only_eq .display (by decide) same).trans assigned⟩
  have sameKids : node.kidLabels = before.kidLabels := by
    rw [Node.kidLabels, Node.kidLabels, kids]
  cases container : node.label.kind.isContainer with
  | false => exact edgeLaw_closed (ownKind.trans kind) displayed (ownKind ▸ container)
  | true =>
      cases sole : isSoleText node.kidLabels with
      | true =>
          obtain ⟨own, faces⟩ := rewrite_soleText config top container sole
          have shownSame : shown (node.rewrite (sensitivityRule config) top).label =
              shown node.label := by
            rw [own]
            rfl
          refine edgeLaw_soleText (ownKind.trans kind) displayed ?_ ?_ ?_
          · rw [isSoleText_congr (Label.kinds_of_only faces), sole]
          · rw [shownSame, own]
            rfl
          · rw [← sameKids]
            exact edgeNotes_of_faces faces
      | false =>
          obtain ⟨own, faces⟩ := rewrite_edges config top container sole
          refine edgeLaw_edges (ownKind.trans kind) displayed ?_ (own ▸ faces)
          have kinds := Label.kinds_of_only faces
          rw [kinds_withEdges (length_edgesUnder config)] at kinds
          rw [isSoleText_congr kinds, sole]

end Node

/-! ## The tree -/

section Tree

variable {config : Config} {tree : Node}

theorem throughout_annotated (config : Config) (formed : tree.WellFormed) :
    Throughout Node.kids (EdgeLaw config) (displayed config tree) (annotated config tree) := by
  apply Throughout.of_rewrite fun _ before node =>
    ReadyForEdges node ∧ node.label.kind = before.label.kind ∧ node.kids = before.kids
  · rintro top before node ⟨ready, kind, kids⟩
    exact edgeLaw_rewrite top ready kind kids
  · rintro top before node ⟨ready, _, kids⟩
    have pairs := kids_visited_sensitivityRule config [] (by decide) (by decide) (by decide) top node
    rw [kids] at pairs
    refine (forall₂_and_right pairs fun made member => ready.visitedKid config member).imp ?_
    rintro kid made ⟨⟨sameKids, sameLabel⟩, readyKid⟩
    exact ⟨readyKid, Label.kind_of_only_eq sameLabel, sameKids⟩
  · exact ⟨readyForEdges_displayed config formed, rfl, rfl⟩

/-- The law compares a node with the tree before by its kind and by the edge notes below it. -/
theorem EdgeLaw.of_view {before other after : Node}
    (same : before.only [.leadingSensitive, .trailingSensitive] =
      other.only [.leadingSensitive, .trailingSensitive])
    (law : EdgeLaw config before after) : EdgeLaw config other after := by
  have kind := congrArg (fun node => node.label.kind) same
  simp only [Node.only, Node.mapLabels_label, Label.only_kind] at kind
  have notes := congrArg (fun node => node.kids.map fun kid => edgeNotes kid.label) same
  have shows : ∀ label : Label,
      edgeNotes (label.only [.leadingSensitive, .trailingSensitive]) = edgeNotes label :=
    fun _ => rfl
  simp only [Node.only, Node.mapLabels_kids, List.map_map, Function.comp_def, Node.mapLabels_label,
    shows] at notes
  refine { law with kind := law.kind.trans kind, soleText := ?_ }
  intro container sole
  obtain ⟨dangling, kept⟩ := law.soleText container sole
  refine ⟨dangling, kept.trans ?_⟩
  simpa only [Node.kidLabels, List.map_map, Function.comp_def] using notes

/-- Annotating a well-formed tree never fails, keeps its nodes and puts every edge note in its closed
form. -/
theorem edgeLaw_annotate (config : Config) (tree : Node) (formed : tree.WellFormed) :
    (preprocess config .annotate tree).fault = none ∧
      Throughout Node.kids (EdgeLaw config) tree (preprocess config .annotate tree).state := by
  obtain ⟨done, state⟩ := preprocess_annotate config formed
  rw [state]
  refine ⟨done, ?_⟩
  refine Throughout.of_view (Label.only [.leadingSensitive, .trailingSensitive]) ?_ ?_ ?_
    (throughout_annotated config formed)
  · intro before other after same law
    exact law.of_view same
  · intro before other same
    have kids := congrArg Node.kids same
    simpa only [Node.mapLabels_kids] using kids
  · exact only_displayPass config (by decide) (by decide) (by decide) tree

theorem edgeLaw_annotate_paragraph :
    paragraph.WellFormed ∧
      (preprocess Config.builtin .annotate paragraph).fault = none ∧
      Throughout Node.kids (EdgeLaw Config.builtin) paragraph
        (preprocess Config.builtin .annotate paragraph).state :=
  ⟨by decide, edgeLaw_annotate Config.builtin paragraph (by decide)⟩

end Tree

end TemplateSpacing.Pass
