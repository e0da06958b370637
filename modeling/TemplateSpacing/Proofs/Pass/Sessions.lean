import TemplateSpacing.Pass.Session
import TemplateSpacing.Proofs.Pass.Stages
import TemplateSpacing.Proofs.Tree.Reencoded

/-! # What a session leaves

No step ever fails in a session, and the document of the tree that it leaves reads back as that tree without the
notes on removed white space.
-/

set_option autoImplicit false

namespace TemplateSpacing.Pass

open TemplateSpacing.Tree

/-- A tree that the steps of its stage can be taken with, and that its document says everything about,
whatever the configuration is. -/
structure Writable (progress : Progress) : Prop where
  formed : progress.root.WellFormed
  displayed : Stage.displayAssigned.rank ≤ progress.stage.rank →
    progress.root.Everywhere fun node => Displayed node.label
  plain : progress.root.Everywhere fun node => Plain node.label

structure LeavesWritable (outcome : Outcome Progress) : Prop where
  done : outcome.fault = none
  writable : Writable outcome.state

section Steps

variable {progress : Progress}

theorem leavesWritable_of_reaches {outcome : Outcome Progress} {root : Node} {config : Config}
    {stage : Stage} (reaches : Reaches outcome root config stage) (formed : root.WellFormed)
    (displayed : Stage.displayAssigned.rank ≤ stage.rank →
      root.Everywhere fun node => Displayed node.label)
    (plain : root.Everywhere fun node => Plain node.label) : LeavesWritable outcome := by
  obtain ⟨done, sameRoot, _, sameStage⟩ := reaches
  refine ⟨done, ?_, ?_, ?_⟩
  · rw [sameRoot]
    exact formed
  · rw [sameRoot, sameStage]
    exact displayed
  · rw [sameRoot]
    exact plain

theorem leavesWritable_invoke (step : Step) (writable : Writable progress) :
    LeavesWritable (Progress.invoke step progress) := by
  obtain ⟨formed, displayed, plain⟩ := writable
  by_cases early : progress.stage.rank < step.requires.rank
  -- a step that comes too early is skipped, so each step may count on the notes it requires
  · rw [Progress.invoke, if_pos early]
    exact ⟨rfl, formed, displayed, plain⟩
  · have reached := Nat.le_of_not_lt early
    cases step with
    | base =>
        have stays : Reaches (Progress.invoke .base progress) (progress.root.rewrite idleRule true)
            progress.config (progress.stage.later Step.base.produces) :=
          reaches_invoke idle_follows formed reached
        rw [rewrite_idleRule, show Step.base.produces = .unclassified from rfl, later_base] at stays
        exact leavesWritable_of_reaches stays formed displayed plain
    | display =>
        exact leavesWritable_of_reaches (reaches_display formed) (wellFormed_displayed _ formed)
          (fun _ => displayed_displayPass _ formed) (enduring_plain.displayed plain)
    | sensitivity =>
        have shown := displayed reached
        exact leavesWritable_of_reaches (reaches_sensitivity ⟨formed, shown⟩ reached)
          (formed.rewrite (sensitivityRule_tame _)) (fun _ => displayed_sensitivityPass _ shown)
          (enduring_plain.sensitivityPass plain)
    | whitespace =>
        have shown := displayed (Nat.le_trans (by decide) reached)
        exact leavesWritable_of_reaches (reaches_whitespace formed reached)
          (formed.rewrite (whitespaceRule_tame _)) (fun _ => displayed_whitespacePass _ shown)
          (enduring_plain.whitespacePass plain)

theorem LeavesWritable.andThen {outcome : Outcome Progress} {next : Progress → Outcome Progress}
    (first : LeavesWritable outcome)
    (later : ∀ progress, Writable progress → LeavesWritable (next progress)) :
    LeavesWritable (outcome.andThen next) := by
  obtain ⟨done, writable⟩ := first
  rw [Outcome.andThen]
  simp only [done]
  exact ⟨(later _ writable).done, (later _ writable).writable⟩

theorem leavesWritable_invokeAll (steps : List Step) (writable : Writable progress) :
    LeavesWritable (Progress.invokeAll steps progress) := by
  induction steps generalizing progress with
  | nil => exact ⟨rfl, writable⟩
  | cons step rest ih => exact (leavesWritable_invoke step writable).andThen fun _ => ih

/-- No displays are known at the first stage, so a tree may start there whatever notes it carries. -/
theorem writable_start {root : Node} (config : Config) (formed : root.WellFormed)
    (plain : root.Everywhere fun node => Plain node.label) : Writable (.start root config) := by
  refine ⟨formed, ?_, plain⟩
  intro reached
  have first : (Progress.start root config).stage.rank = 0 := rfl
  have later : Stage.displayAssigned.rank = 1 := rfl
  omega

theorem leavesWritable_play (move : Move) (writable : Writable progress) :
    LeavesWritable (move.play progress) := by
  cases move with
  | run steps =>
      obtain ⟨done, left⟩ := leavesWritable_invokeAll steps writable
      exact ⟨done, left⟩
  | configure config => exact ⟨rfl, writable.formed, writable.displayed, writable.plain⟩
  | restart config => exact ⟨rfl, writable_start config writable.formed writable.plain⟩

theorem leavesWritable_playAll (moves : List Move) (writable : Writable progress) :
    LeavesWritable (playAll moves progress) := by
  induction moves generalizing progress with
  | nil => exact ⟨rfl, writable⟩
  | cons move rest ih => exact (leavesWritable_play move writable).andThen fun _ => ih

end Steps

/-- After any session on a decoded tree, the tree can be written, and its document reads back as the tree
with the notes that documents are believed on. -/
theorem decode_encode_session (document : Value) (tree : Node) (decoded : decode document = .ok tree)
    (config : Config) (moves : List Move) :
    (playAll moves (.start tree config)).fault = none ∧
      ∃ written, encode (playAll moves (.start tree config)).state.root = .ok written ∧
        decode written = .ok ((playAll moves (.start tree config)).state.root.only readNotes) := by
  have start : Writable (.start tree config) :=
    writable_start config (wellFormed_of_decode decoded) (plain_of_decode decoded)
  obtain ⟨done, formed, _, plain⟩ := leavesWritable_playAll moves start
  exact ⟨done, _, encode_eq formed, decode_document formed plain⟩

def greetingMoves : List Move :=
  [.run [.display, .sensitivity], .configure { Config.builtin with mode := .strict },
    .run [.whitespace, .display], .restart Config.builtin, .run [.whitespace]]

theorem decode_encode_session_greeting :
    decode greetingDocument = .ok greeting ∧
      (playAll greetingMoves (.start greeting Config.builtin)).fault = none ∧
      ∃ written, encode (playAll greetingMoves (.start greeting Config.builtin)).state.root = .ok written ∧
        decode written =
          .ok ((playAll greetingMoves (.start greeting Config.builtin)).state.root.only readNotes) :=
  ⟨decode_greeting,
    decode_encode_session greetingDocument greeting decode_greeting Config.builtin greetingMoves⟩

end TemplateSpacing.Pass
