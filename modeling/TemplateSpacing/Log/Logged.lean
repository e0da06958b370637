import TemplateSpacing.Log.Record

/-! # Logged computations

A computation that keeps a log and may fail.  What was logged before a failure stays in the log.
-/

set_option autoImplicit false

namespace TemplateSpacing.Log

abbrev Logged (ε : Type) := ExceptT ε (StateM (List Record))

def emit {ε : Type} (record : Record) : Logged ε Unit :=
  modify (· ++ [record])

/-- A result, after the records that came with it. -/
def ofRecords {ε α : Type} (outcome : List Record × Except ε α) : Logged ε α := do
  modify (· ++ outcome.1)
  match outcome.2 with
  | .ok value => return value
  | .error fault => throw fault

def runLogged {ε α : Type} (computation : Logged ε α) : List Record × Except ε α :=
  let (result, records) := computation.run.run []
  (records, result)

end TemplateSpacing.Log
