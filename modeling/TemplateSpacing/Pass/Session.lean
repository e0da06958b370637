import TemplateSpacing.Pass.Run

/-! # Sessions with a tree

A tree may be taken through steps more than once, under one configuration after another, going on from the
stage that it has come to or starting again from the first one.
-/

set_option autoImplicit false

namespace TemplateSpacing.Pass

open TemplateSpacing.Tree

/-- What may be done next with a tree: it goes through steps, the configuration is replaced, or the tree
starts again from the first stage. -/
inductive Move
  | run (steps : List Step)
  | configure (config : Config)
  | restart (config : Config)

def Move.play : Move → Progress → Outcome Progress
  | .run steps, progress => Progress.run steps progress
  | .configure config, progress => .done { progress with config := config }
  | .restart config, progress => .done (.start progress.root config)

def playAll : List Move → Progress → Outcome Progress
  | [], progress => .done progress
  | move :: rest, progress => (move.play progress).andThen (playAll rest)

end TemplateSpacing.Pass
