import TemplateSpacing.Pass.Display
import TemplateSpacing.Proofs.Tree.View

/-! # What the first pass does

On a well-formed tree the first pass never fails: it rewrites the tree by a rule that folds the pending
comment through the children of every container.  Afterwards every node has a display word, and
nothing but displays and the two notes on mustache expressions has changed.
-/

set_option autoImplicit false

namespace TemplateSpacing.Pass

open TemplateSpacing.Tree

def displayWord (config : Config) (pending : Option String) : Kind → String
  | .element tag _ => elementDisplay config pending tag
  | .text _ => "inline"
  | _ => "block"

def pendingAfter (pending : Option String) : Kind → Option String
  | .comment value => some value
  | .mustacheComment value => some value
  | .text chars => if Text.isAllBlank chars then pending else none
  | _ => none

def classified (config : Config) (pending : Option String) (label : Label) : Label :=
  match label.kind with
  | .mustache _ =>
    ((label.withDisplay "block").withFlag .whitespaceSensitive true).withFlag
      .indentationSensitive false
  | kind => label.withDisplay (displayWord config pending kind)

def classifiedAll (config : Config) : Option String → List Label → List Label
  | _, [] => []
  | pending, label :: rest =>
    classified config pending label :: classifiedAll config (pendingAfter pending label.kind) rest

def displayRule (config : Config) : Rule := fun top label below =>
  (if top || label.kind.isRoot then classified config none label else label,
    (if label.kind.isContainer then classifiedAll config none below else below).map some)

def Displayed (label : Label) : Prop :=
  ∃ display, label.notes.display = some (.text display)

/-! ## One label -/

section Label

variable (config : Config) (pending : Option String) {label : Label}

@[simp] theorem classified_kind : (classified config pending label).kind = label.kind := by
  unfold classified
  split <;> rfl

theorem classified_display :
    (classified config pending label).notes.display =
      some (.text (displayWord config pending label.kind)) := by
  unfold classified
  split
  · next isMustache =>
      rw [isMustache]
      rfl
  · rfl

theorem classified_displayed : Displayed (classified config pending label) :=
  ⟨_, classified_display config pending⟩

theorem only_classified {kept : List Note} (display : Note.display ∉ kept)
    (whitespace : Note.whitespaceSensitive ∉ kept) (indentation : Note.indentationSensitive ∉ kept) :
    (classified config pending label).only kept = label.only kept := by
  unfold classified
  split
  · simp only [Label.withDisplay, Label.withFlag, Label.only_note_of_notMem, display, whitespace,
      indentation, not_false_eq_true]
  · exact Label.only_note_of_notMem display _ _

theorem classify_eq (known : label.kind.isKnown = true) :
    classify config pending label =
      .ok (classified config pending label, pendingAfter pending label.kind) := by
  unfold classify classified
  cases kind : label.kind with
  | bare => rw [kind] at known; cases known
  | bodyLabel _ => rw [kind] at known; cases known
  | foreign _ => rw [kind] at known; cases known
  | _ => rfl

end Label

/-! ## Siblings -/

section Siblings

variable (config : Config)

theorem classifyAll_eq {labels : List Label} (known : ∀ label ∈ labels, label.kind.isKnown = true)
    (pending : Option String) :
    (classifyAll config pending labels).fault = none ∧
      (classifyAll config pending labels).state = classifiedAll config pending labels := by
  induction labels generalizing pending with
  | nil => exact ⟨rfl, rfl⟩
  | cons label rest ih =>
      have first := classify_eq config pending
        (known label List.mem_cons_self)
      obtain ⟨restDone, restState⟩ := ih (fun label member => known label (List.mem_cons_of_mem _ member))
        (pendingAfter pending label.kind)
      simp only [classifyAll, first, classifiedAll]
      exact ⟨restDone, by rw [restState]⟩

/-- Classification goes label by label: what it writes does not depend on the notes. -/
theorem forall₂_classifiedAll {law : Label → Label → Prop}
    (each : ∀ pending label, law label (classified config pending label)) (pending : Option String)
    (labels : List Label) : List.Forall₂ law labels (classifiedAll config pending labels) := by
  induction labels generalizing pending with
  | nil => exact .nil
  | cons label rest ih => exact .cons (each pending label) (ih _)

theorem length_classifiedAll (pending : Option String) (labels : List Label) :
    (classifiedAll config pending labels).length = labels.length := by
  induction labels generalizing pending with
  | nil => rfl
  | cons label rest ih => rw [classifiedAll, List.length_cons, ih, List.length_cons]

theorem displayed_of_mem_classifiedAll {labels : List Label} (pending : Option String) {label : Label}
    (member : label ∈ classifiedAll config pending labels) : Displayed label := by
  induction labels generalizing pending with
  | nil => cases member
  | cons first rest ih =>
      rcases List.mem_cons.mp member with rfl | member
      · exact classified_displayed config pending
      · exact ih _ member

end Siblings

/-! ## The tree -/

section Tree

variable (config : Config)

/-- At each node the rule relates every label to its classified one, or leaves all as they are. -/
theorem forall₂_displayRule (law : Label → Label → Prop) (same : ∀ label, law label label)
    (each : ∀ pending label, law label (classified config pending label)) (top : Bool) (label : Label)
    (below : List Label) :
    law label (displayRule config top label below).1 ∧
      List.Forall₂ (fun old made => ∃ new, made = some new ∧ law old new) below
        (displayRule config top label below).2 := by
  refine ⟨?_, ?_⟩
  · simp only [displayRule]
    split
    · exact each none label
    · exact same label
  · simp only [displayRule, List.forall₂_map_right_iff, Option.some.injEq, exists_eq_left']
    split
    · exact forall₂_classifiedAll config each none below
    · exact List.forall₂_same.mpr fun label _ => same label

theorem displayRule_tame : Tame (displayRule config) :=
  .of_kinds (forall₂_displayRule config (fun old new => new.kind = old.kind) (fun _ => rfl)
    fun pending _ => classified_kind config pending)

theorem assignDisplays_eq {top : Bool} {label : Label} {below : List Label}
    (known : label.kind.isKnown = true) (knownBelow : ∀ label ∈ below, label.kind.isKnown = true) :
    (assignDisplays config top label below).fault = none ∧
      (assignDisplays config top label below).state = displayRule config top label below := by
  have own : ∃ log, (if top || label.kind.isRoot then (classifyOne config none label).map Prod.fst
      else .done label) = Outcome.logged (displayRule config top label below).1 log := by
    simp only [displayRule, classifyOne, classify_eq config none known]
    split
    · exact ⟨_, rfl⟩
    · exact ⟨[], rfl⟩
  obtain ⟨log, own⟩ := own
  obtain ⟨belowDone, belowState⟩ := classifyAll_eq config knownBelow none
  have ownKind := (displayRule_tame config).own top label below
  simp only [assignDisplays, own, Outcome.logged, ownKind]
  cases isContainer : label.kind.isContainer with
  | true => exact ⟨belowDone, by simp [belowState, displayRule, isContainer]⟩
  | false => exact ⟨rfl, by simp [Outcome.map, displayRule, isContainer]⟩

theorem displayPass_follows :
    Follows (ofLabels (assignDisplays config)) (displayRule config) fun _ node => node.WellFormed :=
  .ofLabels (displayRule_tame config) (fun _ _ formed => formed)
    (fun _ _ formed => assignDisplays_eq config formed.isKnown formed.isKnown_kidLabels)
    (fun _ _ formed _ member => formed.visitedKid (displayRule_tame config) member)

/-- The first pass changes nothing but its own notes. -/
theorem only_displayPass {kept : List Note} (display : Note.display ∉ kept)
    (whitespace : Note.whitespaceSensitive ∉ kept) (indentation : Note.indentationSensitive ∉ kept)
    (tree : Node) : (tree.rewrite (displayRule config) true).only kept = tree.only kept := by
  have each : ∀ pending label,
      (classified config pending label).only kept = label.only kept := fun pending _ =>
    only_classified config pending display whitespace indentation
  have rule := forall₂_displayRule config (fun old new => new.only kept = old.only kept)
    (fun _ => rfl) each
  exact Node.only_rewrite rule true tree

/-- After the first pass every node has a display. -/
theorem displayed_displayPass {tree : Node} (formed : tree.WellFormed) :
    (tree.rewrite (displayRule config) true).Everywhere fun node => Displayed node.label := by
  refine Node.Everywhere.of_rewrite (fun top node =>
    node.WellFormed ∧ (top = true ∨ node.label.kind.isRoot = true ∨ Displayed node.label))
    ?_ ?_ true tree ⟨formed, .inl rfl⟩
  · rintro top node ⟨-, given⟩
    rw [Node.rewrite_label]
    simp only [Node.visited, displayRule]
    split
    · exact classified_displayed config none
    · next other =>
        simp only [Bool.or_eq_true, not_or] at other
        rcases given with given | given | given
        · exact (other.1 given).elim
        · exact (other.2 given).elim
        · exact given
  · rintro top node ⟨formed, -⟩ made member
    refine ⟨formed.visitedKid (displayRule_tame config) member, .inr ?_⟩
    cases isContainer : node.label.kind.isContainer with
    | true =>
        have inLabels := Node.label_of_mem_visited member
        simp only [displayRule, isContainer, if_true, List.mem_map, Option.some.injEq,
          exists_eq_right] at inLabels
        exact .inr (displayed_of_mem_classifiedAll config none inLabels)
    | false =>
        obtain ⟨kid, inKids, _, alike⟩ := Node.alike_of_mem_visited (displayRule_tame config) member
        exact .inl (Node.isRoot_of_alike alike ▸ formed.isRoot_of_closed isContainer inKids)

end Tree

end TemplateSpacing.Pass
