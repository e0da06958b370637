import TemplateSpacing.Proofs.Pass.Runs
import TemplateSpacing.Proofs.Pass.Stream
import TemplateSpacing.Proofs.Tree.Decoded

/-! # What is next to content

After a full pipeline on a decoded tree the notes on white space next to a child say what the stream of
the original children has there.
-/

set_option autoImplicit false

namespace TemplateSpacing.Pass

open TemplateSpacing.Tree

structure SpaceLaw (config : Config) (before after : Node) : Prop where
  placed : isLoose config before.label.kind = true → isHollow (kidKinds before) = false →
    ∀ index child, after.kidLabels[index]? = some child →
      ∃ place : Place (kidKinds before), place.index = index ∧
        child.kind = trimmedKind place.kind ∧
        child.notes.leadingSpaces = some (.bool (endsBlank place.before)) ∧
        child.notes.trailingSpaces = some (.bool (startsBlank place.after))
  agree : isLoose config before.label.kind = true → isHollow (kidKinds before) = false →
    ∀ index left right, after.kidLabels[index]? = some left →
      after.kidLabels[index + 1]? = some right →
        left.notes.trailingSpaces = right.notes.leadingSpaces
  silent : isLoose config before.label.kind = false →
    ∀ child ∈ after.kidLabels, child.notes.leadingSpaces = none ∧ child.notes.trailingSpaces = none

/-! ## One node -/

section Node

variable {config : Config} {top : Bool} {node : Node}

theorem kidLabels_keptLabels (kids : List Node) :
    (Node.relabel kids (keptLabels (kids.map Node.label))).map Node.label =
      (keptOnly false (kids.map Node.label)).map Kept.written := by
  have count := (forall₂_keptLabels (kids.map Node.label)).length_eq
  rw [List.length_map] at count
  rw [Node.map_label_relabel count.symm, keptLabels, keptOnly, List.filterMap_map,
    List.map_filterMap]
  rfl

theorem sides_written (kept : Kept) (unspaced : Unspaced kept.label) :
    kept.written.notes.leadingSpaces = some (.bool kept.spaceBefore) ∧
      kept.written.notes.trailingSpaces = some (.bool kept.spaceAfter) := by
  have leading : kept.label.notes.leadingSpaces = none := unspaced .leadingSpaces rfl
  have trailing : kept.label.notes.trailingSpaces = none := unspaced .trailingSpaces rfl
  rw [Kept.written, leading, trailing]
  exact ⟨rfl, rfl⟩

theorem sides_loose (top : Bool) (loose : isLoose config node.label.kind = true)
    (filled : isHollow (kidKinds node) = false) :
    (node.rewrite (whitespaceRule config) top).kidLabels.map (Label.only sideNotes) =
      ((keptOnly false node.kidLabels).map Kept.written).map (Label.only sideNotes) := by
  rw [isLoose, Bool.and_eq_true, Bool.not_eq_true'] at loose
  rw [sides_rewrite, Node.visited, whitespaceRule_loose top loose.1 filled loose.2, Node.kidLabels,
    Node.kidLabels, kidLabels_keptLabels]

theorem exists_kept {after : Node} {labels : List Label}
    (sides : after.kidLabels.map (Label.only sideNotes) =
      ((keptOnly false labels).map Kept.written).map (Label.only sideNotes))
    (unspaced : ∀ label ∈ labels, Unspaced label) {index : Nat} {child : Label}
    (here : after.kidLabels[index]? = some child) :
    ∃ kept, (keptOnly false labels)[index]? = some kept ∧
      ∃ place : Place (labels.map Label.kind), place.index = index ∧
        child.kind = trimmedKind place.kind ∧
        kept.spaceBefore = endsBlank place.before ∧ kept.spaceAfter = startsBlank place.after ∧
        child.notes.leadingSpaces = some (.bool kept.spaceBefore) ∧
        child.notes.trailingSpaces = some (.bool kept.spaceAfter) := by
  have same := congrArg (fun labels => labels[index]?) sides
  simp only [List.getElem?_map, here, Option.map_some] at same
  cases inKept : (keptOnly false labels)[index]? with
  | none => simp [inKept] at same
  | some kept =>
      simp only [inKept, Option.map_some, Option.some.injEq] at same
      obtain ⟨kind, leading, trailing⟩ := sides_of_only same
      obtain ⟨label, member, place, position, placeKind, rfl⟩ := place_of_keptOnly [] inKept
      obtain ⟨before, after⟩ := sides_written ⟨trimmed label, _, _⟩ (unspaced label member)
      refine ⟨_, rfl, place, position, ?_, rfl, rfl, leading.trans before, trailing.trans after⟩
      rw [kind, placeKind]
      rfl

theorem spaceLaw_rewrite (top : Bool) {before : Node}
    (kind : Kind.Alike before.label.kind node.label.kind) (kids : node.kids = before.kids)
    (unspaced : ∀ label ∈ before.kidLabels, Unspaced label) :
    SpaceLaw config before (node.rewrite (whitespaceRule config) top) := by
  have labels : node.kidLabels = before.kidLabels := congrArg (List.map Node.label) kids
  have kinds : kidKinds node = kidKinds before := congrArg (List.map Label.kind) labels
  refine ⟨?_, ?_, ?_⟩
  · intro loose filled index child here
    have sides := sides_loose top ((isLoose_alike kind).trans loose) (kinds ▸ filled)
    rw [labels] at sides
    obtain ⟨kept, _, place, position, same, before, after, leading, trailing⟩ :=
      exists_kept sides unspaced here
    exact ⟨place, position, same, before ▸ leading, after ▸ trailing⟩
  · intro loose filled index left right here next
    have sides := sides_loose top ((isLoose_alike kind).trans loose) (kinds ▸ filled)
    rw [labels] at sides
    obtain ⟨kept, inKept, _, _, _, _, _, _, trailing⟩ := exists_kept sides unspaced here
    obtain ⟨nextKept, nextInKept, _, _, _, _, _, leading, _⟩ := exists_kept sides unspaced next
    rw [trailing, leading, agree_keptOnly [] inKept nextInKept]
  · intro other child member
    obtain ⟨kid, survives, made, same, unchanged⟩ := exists_survivor member
    have closed : ¬isLoose config node.label.kind = true := by
      rw [isLoose_alike kind, other]
      exact Bool.false_ne_true
    rw [if_neg closed] at unchanged
    have inBefore := mem_of_mem_survivors survives
    rw [kids] at inBefore
    have clean := unspaced kid.label (List.mem_map_of_mem inBefore)
    obtain ⟨_, leading, trailing⟩ := sides_of_only same
    rw [leading, trailing, unchanged]
    exact ⟨clean .leadingSpaces rfl, clean .trailingSpaces rfl⟩

end Node

/-! ## The tree -/

section Tree

variable {config : Config} {tree : Node}

def keptKids (config : Config) (node : Node) : List Node :=
  survivors config node.label.kind node.kids

/-- What holds between a node and what the third pass makes of it, under whatever label the visit of its
parent has left on it, holds throughout the tree. -/
theorem throughout_whitespacePass {fact : Node → Prop} {law : Node → Node → Prop}
    (here : ∀ top before label, before.Everywhere fact → Touched before.label label →
      law before (Node.rewrite (whitespaceRule config) top ⟨label, before.kids⟩))
    (all : tree.Everywhere fact) :
    Throughout (keptKids config) law tree (tree.rewrite (whitespaceRule config) true) := by
  apply Throughout.of_rewrite fun _ before node =>
    before.Everywhere fact ∧ Touched before.label node.label ∧ node.kids = before.kids
  · rintro top before ⟨label, _⟩ ⟨all, touched, rfl⟩
    exact here top before label all touched
  · rintro top before node ⟨all, touched, kids⟩
    have pairs := forall₂_touched config top node
    rw [survivors_alike config touched.alike, kids] at pairs
    have below : ∀ kid ∈ keptKids config before, kid.Everywhere fact :=
      fun kid member => all.kid (mem_of_mem_survivors member)
    refine ((List.forall₂_and_left _ _).mpr ⟨below, pairs⟩).imp ?_
    rintro kid made ⟨allBelow, sameKids, touchedBelow⟩
    exact ⟨allBelow, touchedBelow, sameKids⟩
  · exact ⟨all, .inl rfl, rfl⟩

theorem throughout_normalized (config : Config)
    (unspaced : (annotated config tree).Everywhere fun node => Unspaced node.label) :
    Throughout (keptKids config) (SpaceLaw config) (annotated config tree)
      (normalized config tree) := by
  refine throughout_whitespacePass ?_ unspaced
  intro top before label unspaced touched
  have kids : (Node.mk label before.kids).kids = before.kids := rfl
  refine spaceLaw_rewrite top touched.alike kids ?_
  intro kidLabel member
  obtain ⟨kid, inKids, rfl⟩ := List.mem_map.mp member
  exact (unspaced.kid inKids).here

theorem unspaced_annotated (config : Config) (fresh : Fresh tree) :
    (annotated config tree).Everywhere fun node => Unspaced node.label := by
  have same : tree.only [.leadingSpaces, .trailingSpaces, .danglingSpaces] =
      (annotated config tree).only [.leadingSpaces, .trailingSpaces, .danglingSpaces] :=
    (only_annotated (by decide) (by decide) (by decide) (by decide) (by decide) (by decide)).symm
  refine Node.Everywhere.of_view ?_ same fresh.unspaced
  intro node other same unspaced note recomputed
  have isKept : note ∈ [Note.leadingSpaces, .trailingSpaces, .danglingSpaces] := by
    cases note with
    | leadingSpaces => decide
    | trailingSpaces => decide
    | danglingSpaces => decide
    | _ => cases recomputed
  have labels := congrArg Node.label same
  rw [Node.mapLabels_label, Node.mapLabels_label] at labels
  exact (Label.get_eq_of_only_eq note isKept labels).symm.trans (unspaced note recomputed)

theorem kinds_of_view {before other : Node} (same : before.only [] = other.only []) :
    before.label.kind = other.label.kind ∧ kidKinds before = kidKinds other := by
  have kind := congrArg (fun node => node.label.kind) same
  have kinds := congrArg kidKinds same
  simp only [kidKinds, Node.kinds_only] at kinds
  simp only [Node.only, Node.mapLabels_label, Label.only_kind] at kind
  exact ⟨kind, kinds⟩

/-- The law sees of the tree before nothing but kinds. -/
theorem SpaceLaw.of_view {before other after : Node} (same : before.only [] = other.only [])
    (law : SpaceLaw config before after) : SpaceLaw config other after := by
  obtain ⟨kind, kinds⟩ := kinds_of_view same
  obtain ⟨placed, agree, silent⟩ := law
  rw [kind] at placed agree silent
  rw [kinds] at placed agree
  exact ⟨placed, agree, silent⟩

theorem keptKids_of_view {before other : Node} (same : before.only [] = other.only []) :
    (keptKids config before).map (Node.only []) = (keptKids config other).map (Node.only []) := by
  have sameKind : ∀ kid : Node, (kid.only []).label.kind = kid.label.kind := by
    intro kid
    rw [Node.only, Node.mapLabels_label, Label.only_kind]
  have kind := congrArg (fun node => node.label.kind) same
  have kids := congrArg Node.kids same
  simp only [sameKind] at kind
  simp only [Node.only, Node.mapLabels_kids] at kids
  rw [keptKids, keptKids, ← survivors_map config _ _ sameKind, ← survivors_map config _ _ sameKind,
    kind]
  exact congrArg (survivors config other.label.kind) kids

/-- A law that the third pass keeps to holds of a full pipeline, if it sees of the tree before nothing but
what the first two passes leave alone. -/
theorem throughout_pipeline {law : Node → Node → Prop}
    (sees : ∀ before other after : Node, before.only [] = other.only [] → law before after →
      law other after)
    (third : Throughout (keptKids config) law (annotated config tree) (normalized config tree)) :
    Throughout (keptKids config) law tree (normalized config tree) :=
  Throughout.of_view (Label.only []) sees (fun _ _ => keptKids_of_view)
    (only_annotated (by decide) (by decide) (by decide) (by decide) (by decide) (by decide)) third

/-- A full pipeline never fails on a decoded tree, and what it notes on the sides of a child is what the
stream of the original children has there. -/
theorem spaceLaw_preprocess (config : Config) (document : Value) (tree : Node)
    (decoded : decode document = .ok tree) :
    (preprocess config .preprocess tree).fault = none ∧
      Throughout (keptKids config) (SpaceLaw config) tree
        (preprocess config .preprocess tree).state := by
  have fresh := fresh_of_decode decoded
  obtain ⟨done, state⟩ := preprocess_preprocess config fresh.wellFormed
  rw [state]
  refine ⟨done, ?_⟩
  refine Throughout.of_view (Label.only []) ?_ ?_ ?_
    (throughout_normalized config (unspaced_annotated config fresh))
  · intro before other after same law
    exact law.of_view same
  · intro before other same
    exact keptKids_of_view same
  · exact only_annotated (by decide) (by decide) (by decide) (by decide) (by decide) (by decide)

theorem spaceLaw_preprocess_greeting :
    decode greetingDocument = .ok greeting ∧
      (preprocess Config.builtin .preprocess greeting).fault = none ∧
      Throughout (keptKids Config.builtin) (SpaceLaw Config.builtin) greeting
        (preprocess Config.builtin .preprocess greeting).state :=
  ⟨decode_greeting,
    spaceLaw_preprocess Config.builtin greetingDocument greeting decode_greeting⟩

end Tree

end TemplateSpacing.Pass
