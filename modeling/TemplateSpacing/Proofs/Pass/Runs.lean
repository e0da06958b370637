import TemplateSpacing.Pass.Run
import TemplateSpacing.Proofs.Pass.Sensitivities
import TemplateSpacing.Proofs.Pass.Spaces

/-! # What pipelines do

A step whose stage has been reached and whose walk does not fail moves the run on.  On a well-formed
tree the pipelines therefore never fail, and the tree that they leave is the tree rewritten by the
rules of their passes one after the other.
-/

set_option autoImplicit false

namespace TemplateSpacing.Pass

open TemplateSpacing.Tree

def displayed (config : Config) (tree : Node) : Node :=
  tree.rewrite (displayRule config) true

def annotated (config : Config) (tree : Node) : Node :=
  (displayed config tree).rewrite (sensitivityRule config) true

def normalized (config : Config) (tree : Node) : Node :=
  (annotated config tree).rewrite (whitespaceRule config) true

section

variable {config : Config} {tree : Node}

theorem wellFormed_displayed (config : Config) (formed : tree.WellFormed) :
    (displayed config tree).WellFormed :=
  formed.rewrite (displayRule_tame config)

theorem wellFormed_annotated (config : Config) (formed : tree.WellFormed) :
    (annotated config tree).WellFormed :=
  (wellFormed_displayed config formed).rewrite (sensitivityRule_tame config)

theorem wellFormed_normalized (config : Config) (formed : tree.WellFormed) :
    (normalized config tree).WellFormed :=
  (wellFormed_annotated config formed).rewrite (whitespaceRule_tame config)

theorem readyForEdges_displayed (config : Config) (formed : tree.WellFormed) :
    ReadyForEdges (displayed config tree) :=
  ⟨wellFormed_displayed config formed, displayed_displayPass config formed⟩

/-- The first two passes keep all notes but their own. -/
theorem only_annotated {kept : List Note} (display : Note.display ∉ kept)
    (whitespace : Note.whitespaceSensitive ∉ kept) (indentation : Note.indentationSensitive ∉ kept)
    (leading : Note.leadingSensitive ∉ kept) (trailing : Note.trailingSensitive ∉ kept)
    (dangling : Note.danglingSensitive ∉ kept) :
    (annotated config tree).only kept = tree.only kept := by
  rw [annotated, only_sensitivityPass config leading trailing dangling]
  exact only_displayPass config display whitespace indentation tree

end

/-! ## Steps -/

structure Reaches (outcome : Outcome Progress) (root : Node) (config : Config) (stage : Stage) :
    Prop where
  done : outcome.fault = none
  root : outcome.state.root = root
  config : outcome.state.config = config
  stage : outcome.state.stage = stage

section Steps

variable {progress : Progress}

/-- A step whose stage has been reached rewrites the tree by the rule that its visits follow. -/
theorem reaches_invoke {step : Step} {rule : Rule} {Ready : Bool → Node → Prop}
    (follows : Follows (step.visit progress.config) rule Ready) (ready : Ready true progress.root)
    (reached : step.requires.rank ≤ progress.stage.rank) :
    Reaches (Progress.invoke step progress) (progress.root.rewrite rule true) progress.config
      (progress.stage.later step.produces) := by
  obtain ⟨done, state⟩ := follows.traverse progress.root ready
  have early : ¬progress.stage.rank < step.requires.rank := Nat.not_lt.mpr reached
  rw [Progress.invoke, if_neg early, Progress.perform]
  simp only [done]
  exact ⟨rfl, state, rfl, rfl⟩

theorem reaches_display (formed : progress.root.WellFormed) :
    Reaches (Progress.invoke .display progress) (displayed progress.config progress.root)
      progress.config (progress.stage.later .displayAssigned) :=
  reaches_invoke (displayPass_follows progress.config) formed (Nat.zero_le _)

theorem reaches_sensitivity (ready : ReadyForEdges progress.root)
    (reached : Stage.displayAssigned.rank ≤ progress.stage.rank) :
    Reaches (Progress.invoke .sensitivity progress)
      (progress.root.rewrite (sensitivityRule progress.config) true) progress.config
      (progress.stage.later .sensitivityAssigned) :=
  reaches_invoke (sensitivityPass_follows progress.config) ready reached

theorem reaches_whitespace (formed : progress.root.WellFormed)
    (reached : Stage.sensitivityAssigned.rank ≤ progress.stage.rank) :
    Reaches (Progress.invoke .whitespace progress)
      (progress.root.rewrite (whitespaceRule progress.config) true) progress.config
      (progress.stage.later .normalized) :=
  reaches_invoke (whitespacePass_follows progress.config) formed reached

/-- A run goes on from wherever its first step has come to. -/
theorem Reaches.cons {step : Step} {rest : List Step} {root made : Node} {config last : Config}
    {stage final : Stage} (first : Reaches (Progress.invoke step progress) root config stage)
    (later : ∀ steps visits,
      Reaches (Progress.invokeAll rest ⟨root, config, stage, steps, visits⟩) made last final) :
    Reaches (Progress.invokeAll (step :: rest) progress) made last final := by
  obtain ⟨done, sameRoot, sameConfig, sameStage⟩ := first
  rw [Progress.invokeAll, Outcome.andThen]
  simp only [done]
  generalize (Progress.invoke step progress).state = next at *
  cases next with
  | mk _ _ _ steps visits =>
      cases sameRoot
      cases sameConfig
      cases sameStage
      obtain ⟨done, sameRoot, sameConfig, sameStage⟩ := later steps visits
      exact ⟨done, sameRoot, sameConfig, sameStage⟩

end Steps

/-! ## Pipelines -/

section Pipelines

variable {config : Config} {tree : Node}

/-- The first two steps bring a well-formed tree to the third one. -/
theorem reaches_annotated (formed : tree.WellFormed) {rest : List Step} {made : Node}
    {final : Stage}
    (later : ∀ steps visits, Reaches (Progress.invokeAll rest
      ⟨annotated config tree, config, .sensitivityAssigned, steps, visits⟩) made config final) :
    Reaches (Progress.invokeAll (.display :: .sensitivity :: rest) (.start tree config)) made config
      final := by
  have first : Reaches (Progress.invoke .display (.start tree config)) (displayed config tree) config
      .displayAssigned := reaches_display formed
  refine first.cons ?_
  intro steps visits
  have ready := readyForEdges_displayed config formed
  have second : Reaches (Progress.invoke .sensitivity
      ⟨displayed config tree, config, .displayAssigned, steps, visits⟩) (annotated config tree) config
      .sensitivityAssigned := reaches_sensitivity ready (Nat.le_refl _)
  exact second.cons later

theorem preprocess_of_reaches {pipeline : Pipeline} {made : Node} {stage : Stage}
    (reaches : Reaches (Progress.invokeAll pipeline.steps (.start tree config)) made config stage) :
    (preprocess config pipeline tree).fault = none ∧
      (preprocess config pipeline tree).state = made :=
  ⟨reaches.done, reaches.root⟩

theorem preprocess_classify (config : Config) (formed : tree.WellFormed) :
    (preprocess config .classify tree).fault = none ∧
      (preprocess config .classify tree).state = displayed config tree := by
  have reaches : Reaches (Progress.invokeAll Pipeline.classify.steps (.start tree config))
      (displayed config tree) config .displayAssigned := by
    have first : Reaches (Progress.invoke .display (.start tree config)) (displayed config tree) config
        .displayAssigned := reaches_display formed
    refine first.cons ?_
    intro steps visits
    exact ⟨rfl, rfl, rfl, rfl⟩
  exact preprocess_of_reaches reaches

theorem preprocess_annotate (config : Config) (formed : tree.WellFormed) :
    (preprocess config .annotate tree).fault = none ∧
      (preprocess config .annotate tree).state = annotated config tree := by
  have reaches : Reaches (Progress.invokeAll Pipeline.annotate.steps (.start tree config))
      (annotated config tree) config .sensitivityAssigned := by
    apply reaches_annotated formed
    intro steps visits
    exact ⟨rfl, rfl, rfl, rfl⟩
  exact preprocess_of_reaches reaches

theorem preprocess_preprocess (config : Config) (formed : tree.WellFormed) :
    (preprocess config .preprocess tree).fault = none ∧
      (preprocess config .preprocess tree).state = normalized config tree := by
  have reaches : Reaches (Progress.invokeAll Pipeline.preprocess.steps (.start tree config))
      (normalized config tree) config .normalized := by
    apply reaches_annotated formed
    intro steps visits
    have third : Reaches (Progress.invoke .whitespace
        ⟨annotated config tree, config, .sensitivityAssigned, steps, visits⟩)
        (normalized config tree) config .normalized :=
      reaches_whitespace (wellFormed_annotated config formed) (Nat.le_refl _)
    refine third.cons ?_
    intro steps visits
    exact ⟨rfl, rfl, rfl, rfl⟩
  exact preprocess_of_reaches reaches

end Pipelines

/-! ## A tree -/

def paragraph : Node :=
  let leaf := fun kind => Node.mk (.ofKind kind) []
  ⟨.ofKind (.root .template), [
    leaf (.text "\n"),
    ⟨.ofKind (.element "p" []), [
      leaf (.text " Dear "),
      leaf (.mustache (.text "name")),
      leaf (.text ",\n"),
      leaf (.comment "display: none"),
      leaf (.text " "),
      ⟨.ofKind (.element "em" []), [leaf (.text " hidden ")]⟩,
      leaf (.text "")]⟩,
    ⟨.ofKind (.block (.text "if") true false), [
      ⟨.ofKind (.root .block), [⟨.ofKind (.element "pre" []), [leaf (.text " kept ")]⟩]⟩]⟩]⟩

end TemplateSpacing.Pass
