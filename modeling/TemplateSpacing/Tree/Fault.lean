import TemplateSpacing.Log.Record
import TemplateSpacing.Value.Basic

/-! # Faults and outcomes

What can go wrong with a tree that was built by hand, and what an operation leaves behind: the state
that it reached, what it logged, and the fault that stopped it.
-/

set_option autoImplicit false

namespace TemplateSpacing.Tree

inductive Fault
  /-- An object is of none of the known kinds. -/
  | unknownType (typeName : String)
  /-- A display is consulted that has not been assigned. -/
  | noDisplay (className : String)
  /-- A node is none of the children of the given parent. -/
  | notAChild (className : String)
  /-- An object lacks what the operation is about. -/
  | missingPart
  /-- There is no child at a position. -/
  | noSuchChild
  /-- A note cannot be written. -/
  | unwritable (e : Value.LiteralError)
deriving DecidableEq, Repr

def Fault.message : Fault → String
  | .unknownType typeName => "Unknown template node type: " ++ Text.quoted typeName
  | .noDisplay className => className ++ " has no display; run the display step first"
  | .notAChild className => className ++ " is not a child of the given parent"
  | .missingPart => "the object lacks a part"
  | .noSuchChild => "there is no such child"
  | .unwritable e => e.message

structure Outcome (α : Type) where
  state : α
  log : List Log.Record
  fault : Option Fault

namespace Outcome

variable {α β : Type}

def done (state : α) : Outcome α := ⟨state, [], none⟩

def logged (state : α) (log : List Log.Record) : Outcome α := ⟨state, log, none⟩

def failed (state : α) (fault : Fault) : Outcome α := ⟨state, [], some fault⟩

def map (f : α → β) (outcome : Outcome α) : Outcome β :=
  ⟨f outcome.state, outcome.log, outcome.fault⟩

/-- A second operation on the state of the first one, unless that failed. -/
def andThen (outcome : Outcome α) (next : α → Outcome α) : Outcome α :=
  match outcome.fault with
  | some _ => outcome
  | none =>
    let later := next outcome.state
    ⟨later.state, outcome.log ++ later.log, later.fault⟩

def ofExcept (state : α) (result : Except Fault α) : Outcome α :=
  match result with
  | .ok changed => done changed
  | .error fault => failed state fault

end Outcome

end TemplateSpacing.Tree
