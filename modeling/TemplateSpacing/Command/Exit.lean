/-! # Exit codes

What the exit code of a run tells, by the conventions for system programs.
-/

set_option autoImplicit false

namespace TemplateSpacing.Command

inductive Exit
  | success
  | failure
  | usage
  | input
  | noInput
  | pipeline
  | io
  | config
deriving DecidableEq, Repr

namespace Exit

def code : Exit → Nat
  | .success => 0
  | .failure => 1
  | .usage => 64
  | .input => 65
  | .noInput => 66
  | .pipeline => 70
  | .io => 74
  | .config => 78

def name : Exit → String
  | .success => "SUCCESS"
  | .failure => "FAILURE"
  | .usage => "USAGE_ERROR"
  | .input => "INPUT_ERROR"
  | .noInput => "FILE_NOT_FOUND"
  | .pipeline => "PIPELINE_ERROR"
  | .io => "IO_ERROR"
  | .config => "CONFIG_ERROR"

def all : List Exit :=
  [.success, .failure, .usage, .input, .noInput, .pipeline, .io, .config]

end Exit

def misuseCode : Nat := 2

end TemplateSpacing.Command
