import TemplateSpacing.Log.Level

/-! # Log records

A record is a level with a message.
-/

set_option autoImplicit false

namespace TemplateSpacing.Log

structure Record where
  severity : Severity
  message : String
deriving DecidableEq, Repr

def traced (message : String) : Record := ⟨.trace, message⟩

def debugged (message : String) : Record := ⟨.debug, message⟩

def informed (message : String) : Record := ⟨.info, message⟩

def warned (message : String) : Record := ⟨.warning, message⟩

def failed (message : String) : Record := ⟨.error, message⟩

def above (level : Nat) (records : List Record) : List Record :=
  records.filter fun r => level ≤ r.severity.level

end TemplateSpacing.Log
