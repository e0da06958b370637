import TemplateSpacing.Proofs.Pass.Edges

/-! # What the second pass does

On a well-formed tree whose nodes all have a display the second pass never fails: it rewrites the tree
by a rule that writes the edges under every container.  Nothing but the three sensitivity notes
changes.
-/

set_option autoImplicit false

namespace TemplateSpacing.Pass

open TemplateSpacing.Tree

def sensitivityRule (config : Config) : Rule := fun _ label below =>
  if label.kind.isContainer then
    if isSoleText below then
      (label.withFlag .danglingSensitive (Css.onlyContentMatters (shown label)), below.map some)
    else (label, (withEdges (edgesUnder config label below) below).map some)
  else (label, below.map some)

structure ReadyForEdges (node : Node) : Prop where
  formed : node.WellFormed
  displayed : node.Everywhere fun node => Displayed node.label

section

variable (config : Config)

theorem ReadyForEdges.classified {node : Node} (ready : ReadyForEdges node) :
    Classified node.label :=
  ⟨ready.formed.isKnown, ready.displayed.here⟩

theorem ReadyForEdges.classified_kidLabels {node : Node} (ready : ReadyForEdges node) :
    ∀ label ∈ node.kidLabels, Classified label := by
  intro label member
  obtain ⟨kid, inKids, rfl⟩ := List.mem_map.mp member
  exact ⟨(ready.formed.kid inKids).isKnown, (ready.displayed.kid inKids).here⟩

theorem forall₂_withEdges {law : Label → Label → Prop}
    (each : ∀ label leading trailing,
      law label ((label.withFlag .leadingSensitive leading).withFlag .trailingSensitive trailing))
    {flags : List (Bool × Bool)} {labels : List Label} (count : flags.length = labels.length) :
    List.Forall₂ law labels (withEdges flags labels) := by
  induction labels generalizing flags with
  | nil => cases flags <;> exact .nil
  | cons first rest ih =>
      cases flags with
      | nil => cases count
      | cons flag flags => exact .cons (each first flag.1 flag.2) (ih (Nat.succ.inj count))

/-- The rule writes its three notes on labels and does nothing else. -/
theorem forall₂_sensitivityRule (law : Label → Label → Prop) (same : ∀ label, law label label)
    (dangling : ∀ label flag, law label (label.withFlag .danglingSensitive flag))
    (edges : ∀ label leading trailing,
      law label ((label.withFlag .leadingSensitive leading).withFlag .trailingSensitive trailing))
    (top : Bool) (label : Label) (below : List Label) :
    law label (sensitivityRule config top label below).1 ∧
      List.Forall₂ (fun old made => ∃ new, made = some new ∧ law old new) below
        (sensitivityRule config top label below).2 := by
  have unchanged : List.Forall₂ (fun old made => ∃ new, made = some new ∧ law old new) below
      (below.map some) := forall₂_map_some fun label _ => ⟨label, rfl, same label⟩
  simp only [sensitivityRule]
  split
  · split
    · exact ⟨dangling label _, unchanged⟩
    · refine ⟨same label, ?_⟩
      simp only [List.forall₂_map_right_iff, Option.some.injEq, exists_eq_left']
      exact forall₂_withEdges edges (length_edgesUnder config)
  · exact ⟨same label, unchanged⟩

theorem sensitivityRule_tame : Tame (sensitivityRule config) :=
  .of_kinds (forall₂_sensitivityRule config (fun old new => new.kind = old.kind) (fun _ => rfl)
    (fun _ _ => rfl) fun _ _ _ => rfl)

theorem forall₂_only_sensitivityRule {kept : List Note} (leading : Note.leadingSensitive ∉ kept)
    (trailing : Note.trailingSensitive ∉ kept) (dangling : Note.danglingSensitive ∉ kept)
    (top : Bool) (label : Label) (below : List Label) :
    (sensitivityRule config top label below).1.only kept = label.only kept ∧
      List.Forall₂ (fun old made => ∃ new, made = some new ∧ new.only kept = old.only kept) below
        (sensitivityRule config top label below).2 := by
  apply forall₂_sensitivityRule config fun old new => new.only kept = old.only kept
  · intro label
    rfl
  · intro label flag
    exact Label.only_note_of_notMem dangling _ _
  · intro label before after
    simp only [Label.withFlag, Label.only_note_of_notMem, leading, trailing, not_false_eq_true]

theorem kids_visited_sensitivityRule (kept : List Note) (leading : Note.leadingSensitive ∉ kept)
    (trailing : Note.trailingSensitive ∉ kept) (dangling : Note.danglingSensitive ∉ kept)
    (top : Bool) (node : Node) :
    List.Forall₂ (fun kid made => made.kids = kid.kids ∧ made.label.only kept = kid.label.only kept)
      node.kids (node.visited (sensitivityRule config) top).kids := by
  have pairs := (forall₂_only_sensitivityRule config leading trailing dangling top
    node.label node.kidLabels).2
  rw [Node.kidLabels, List.forall₂_map_left_iff] at pairs
  exact Node.forall₂_relabel (fun old new => new.only kept = old.only kept) pairs

theorem ReadyForEdges.visitedKid {top : Bool} {node made : Node} (ready : ReadyForEdges node)
    (member : made ∈ (node.visited (sensitivityRule config) top).kids) : ReadyForEdges made := by
  refine ⟨ready.formed.visitedKid (sensitivityRule_tame config) member, ?_⟩
  have pairs := kids_visited_sensitivityRule config [.display] (by decide)
    (by decide) (by decide) top node
  obtain ⟨kid, inKids, sameKids, sameNotes⟩ := exists_of_forall₂_right pairs member
  have display := Label.get_eq_of_only_eq .display (by decide) sameNotes
  have displayed := ready.displayed.kid inKids
  refine .intro ?_ ?_
  · obtain ⟨word, assigned⟩ := displayed.here
    exact ⟨word, display.trans assigned⟩
  · rw [sameKids]
    exact fun _ below => displayed.kid below

/-- On a node and children that have their displays the edges are written, or the flag of the only
text. -/
theorem applySensitivity_eq {label : Label} {below : List Label} (classified : Classified label)
    (all : ∀ child ∈ below, Classified child) :
    (applySensitivity config label below).fault = none ∧
      (applySensitivity config label below).state =
        if isSoleText below then
          (label.withFlag .danglingSensitive (Css.onlyContentMatters (shown label)), below)
        else (label, withEdges (edgesUnder config label below) below) := by
  rw [applySensitivity]
  cases below with
  | nil => exact ⟨rfl, rfl⟩
  | cons first rest =>
      simp only [List.isEmpty_cons, Bool.false_eq_true, if_false]
      split
      · rw [displayOf_eq classified]
        exact ⟨rfl, rfl⟩
      · rw [edges_eq config classified all]
        obtain ⟨done, state⟩ := writeEdges_eq (edgesUnder config label (first :: rest))
          (fun child member => (all child member).hasNotes) (length_edgesUnder config)
        exact ⟨done, by simp only [Outcome.map, state]⟩

theorem assignSensitivity_eq {top : Bool} {label : Label} {below : List Label}
    (classified : Classified label) (all : ∀ child ∈ below, Classified child) :
    (assignSensitivity config top label below).fault = none ∧
      (assignSensitivity config top label below).state = sensitivityRule config top label below := by
  obtain ⟨done, state⟩ := applySensitivity_eq config classified all
  rw [assignSensitivity, sensitivityRule]
  split
  · refine ⟨done, ?_⟩
    simp only [state]
    split <;> rfl
  · exact ⟨rfl, rfl⟩

theorem sensitivityPass_follows :
    Follows (ofLabels (assignSensitivity config)) (sensitivityRule config)
      fun _ node => ReadyForEdges node :=
  .ofLabels (sensitivityRule_tame config) (fun _ _ ready => ready.formed)
    (fun _ _ ready => assignSensitivity_eq config ready.classified ready.classified_kidLabels)
    (fun _ _ ready _ member => ready.visitedKid config member)

/-- The second pass changes nothing but its own notes. -/
theorem only_sensitivityPass {kept : List Note} (leading : Note.leadingSensitive ∉ kept)
    (trailing : Note.trailingSensitive ∉ kept) (dangling : Note.danglingSensitive ∉ kept)
    (tree : Node) : (tree.rewrite (sensitivityRule config) true).only kept = tree.only kept := by
  exact Node.only_rewrite (forall₂_only_sensitivityRule config leading trailing dangling) true tree

end

end TemplateSpacing.Pass
