import TemplateSpacing.Config.Reading
import TemplateSpacing.Pass.Stage
import TemplateSpacing.Tree.Decode
import TemplateSpacing.Tree.Encode

/-! # Runs

A run takes a tree through the steps of a pipeline.  A step whose stage has not been reached is
skipped, and the stage never goes back.
-/

set_option autoImplicit false

namespace TemplateSpacing.Pass

open TemplateSpacing.Tree

/-- A tree on its way through a pipeline: the steps that were invoked, and how many nodes each step
visited when it last ran. -/
structure Progress where
  root : Node
  config : Config
  stage : Stage
  steps : List Step
  visits : Entries Nat

namespace Progress

def start (root : Node) (config : Config) : Progress :=
  ⟨root, config, .unclassified, [], []⟩

def perform (step : Step) (progress : Progress) : Outcome Progress :=
  let walked := traverse (step.visit progress.config) progress.root
  let running := Log.informed ("BaseStep: Pipeline step " ++ step.name ++ " - running")
  let moved := { progress with root := walked.state.node }
  match walked.fault with
  | some fault => ⟨moved, running :: walked.log, some fault⟩
  | none =>
    let count := walked.state.visited.length
    let visited := Log.debugged ("BaseStep: " ++ step.name ++ " visited " ++ toString count ++
      " node(s)")
    .logged
      { moved with
        stage := progress.stage.later step.produces
        visits := progress.visits.put step.name count }
      (running :: walked.log ++ [visited])

/-- Invokes a step: runs it, or skips it when its stage has not been reached. -/
def invoke (step : Step) (progress : Progress) : Outcome Progress :=
  let invoked := { progress with steps := progress.steps ++ [step] }
  if progress.stage.rank < step.requires.rank then
    .logged invoked [Log.warned ("BaseStep: Pipeline step " ++ step.name ++
      " skipped: requires stage " ++ step.requires.name ++ ", tree is at " ++ progress.stage.name)]
  else perform step invoked

def invokeAll : List Step → Progress → Outcome Progress
  | [], progress => .done progress
  | step :: rest, progress => (invoke step progress).andThen (invokeAll rest)

def run (steps : List Step) (progress : Progress) : Outcome Progress :=
  let before := Log.informed ("whitespace_sensitivity: " ++ progress.config.mode.key)
  let invoked := invokeAll steps progress
  let after :=
    match invoked.fault with
    | some _ => []
    | none => [Log.debugged ("pipeline finished at stage " ++ invoked.state.stage.name)]
  ⟨invoked.state, before :: invoked.log ++ after, invoked.fault⟩

end Progress

def preprocess (config : Config) (pipeline : Pipeline) (root : Node) : Outcome Node :=
  (Progress.run pipeline.steps (.start root config)).map Progress.root

inductive PreprocessError
  | notATree (e : DecodeError)
  | badConfig (e : Config.ConfigError)
  | fault (f : Fault)

def preprocessTree (config : Config) (pipeline : Pipeline) (root : Node) :
    List Log.Record × Except PreprocessError Value :=
  let outcome := preprocess config pipeline root
  match outcome.fault with
  | some fault => (outcome.log, .error (.fault fault))
  | none => (outcome.log, (encode outcome.state).mapError .fault)

def preprocessDocument (config : Config) (pipeline : Pipeline) (document : Value) :
    List Log.Record × Except PreprocessError Value :=
  match decode document with
  | .error e => ([], .error (.notATree e))
  | .ok root => preprocessTree config pipeline root

def preprocessConfigured (fields : Option (Entries Value)) (pipeline : Pipeline) (document : Value) :
    List Log.Record × Except PreprocessError Value :=
  match decode document with
  | .error e => ([], .error (.notATree e))
  | .ok root =>
    let (reports, config) := Config.resolve fields
    match config with
    | .error e => (reports, .error (.badConfig e))
    | .ok config =>
      let (log, result) := preprocessTree config pipeline root
      (reports ++ log, result)

end TemplateSpacing.Pass
