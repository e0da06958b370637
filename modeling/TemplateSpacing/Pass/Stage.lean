import TemplateSpacing.Pass.Display
import TemplateSpacing.Pass.Sensitivity
import TemplateSpacing.Pass.Whitespace

/-! # Stages and steps

A tree goes through stages in order.  A step needs one stage and leads to another; a pipeline is a
sequence of steps.
-/

set_option autoImplicit false

namespace TemplateSpacing.Pass

open TemplateSpacing.Tree

inductive Stage
  | unclassified
  | displayAssigned
  | sensitivityAssigned
  | normalized
deriving DecidableEq, Repr

namespace Stage

def rank : Stage → Nat
  | .unclassified => 0
  | .displayAssigned => 1
  | .sensitivityAssigned => 2
  | .normalized => 3

def name : Stage → String
  | .unclassified => "UNCLASSIFIED"
  | .displayAssigned => "DISPLAY_ASSIGNED"
  | .sensitivityAssigned => "SENSITIVITY_ASSIGNED"
  | .normalized => "NORMALIZED"

def all : List Stage :=
  [.unclassified, .displayAssigned, .sensitivityAssigned, .normalized]

def later (stage other : Stage) : Stage :=
  if stage.rank < other.rank then other else stage

end Stage

/-- A step of a pipeline; the base step walks through the tree and changes nothing. -/
inductive Step
  | base
  | display
  | sensitivity
  | whitespace
deriving DecidableEq, Repr

namespace Step

def name : Step → String
  | .base => "BaseStep"
  | .display => "DisplayStep"
  | .sensitivity => "SensitivityStep"
  | .whitespace => "WhitespaceStep"

def all : List Step := [.base, .display, .sensitivity, .whitespace]

def requires : Step → Stage
  | .base => .unclassified
  | .display => .unclassified
  | .sensitivity => .displayAssigned
  | .whitespace => .sensitivityAssigned

def produces : Step → Stage
  | .base => .unclassified
  | .display => .displayAssigned
  | .sensitivity => .sensitivityAssigned
  | .whitespace => .normalized

def visit (config : Config) : Step → Visit
  | .base => idle
  | .display => ofLabels (assignDisplays config)
  | .sensitivity => ofLabels (assignSensitivity config)
  | .whitespace => ofLabels (extractFromElements config)

end Step

inductive Pipeline
  | classify
  | annotate
  | preprocess
deriving DecidableEq, Repr

namespace Pipeline

def name : Pipeline → String
  | .classify => "classify"
  | .annotate => "annotate"
  | .preprocess => "preprocess"

def all : List Pipeline := [.classify, .annotate, .preprocess]

def ofName? (name : String) : Option Pipeline :=
  all.find? (·.name = name)

def steps : Pipeline → List Step
  | .classify => [.display]
  | .annotate => [.display, .sensitivity]
  | .preprocess => [.display, .sensitivity, .whitespace]

end Pipeline

end TemplateSpacing.Pass
