import TemplateSpacing.Config.Reading

/-! # Sessions with configurations

Drafts and frozen configurations are made one after the other, and an override changes a draft that is there.
-/

set_option autoImplicit false

namespace TemplateSpacing.Config

inductive Item
  | draft (held : Draft)
  | frozen (held : Config)
deriving DecidableEq, Repr

/-- What can be done in a session; items are named by their places. -/
inductive Operation
  | empty
  | defaults
  | bare
  | read (file : Option String) (fields : Entries Value)
  | resolve (fields : Option (Entries Value))
  | resolveFrozen (place : Nat)
  | merge (place other : Nat)
  | override (place : Nat) (overrides : Overrides)
  | freeze (place : Nat)
  | thaw (place : Nat)

def draftAt? (items : List Item) (place : Nat) : Option Draft :=
  match items[place]? with
  | some (.draft draft) => some draft
  | _ => none

def frozenAt? (items : List Item) (place : Nat) : Option Config :=
  match items[place]? with
  | some (.frozen config) => some config
  | _ => none

def adding (items : List Item) : Except ConfigError Item → List Item × Option ConfigError
  | .ok item => (items ++ [item], none)
  | .error e => (items, some e)

/-- Items after an operation, and its refusal.  An operation on an item that is not there, or that is of the
other sort, does nothing. -/
def perform (items : List Item) : Operation → List Item × Option ConfigError
  | .empty => adding items (.ok (.draft .empty))
  | .defaults => adding items (.ok (.draft .defaults))
  | .bare => adding items (.ok (.frozen builtin))
  | .read file fields => adding items ((readDocument file fields).2.map .draft)
  | .resolve fields => adding items ((Config.resolve fields).2.map .frozen)
  | .resolveFrozen place =>
    match frozenAt? items place with
    | some config => adding items (.ok (.frozen config))
    | none => (items, none)
  | .merge place other =>
    match draftAt? items place, draftAt? items other with
    | some draft, some layer => adding items (.ok (.draft (draft.merge layer)))
    | _, _ => (items, none)
  | .override place overrides =>
    match draftAt? items place with
    | some draft => (items.set place (.draft (draft.override overrides).1), (draft.override overrides).2)
    | none => (items, none)
  | .freeze place =>
    match draftAt? items place with
    | some draft => adding items (.ok (.frozen draft.freeze))
    | none => (items, none)
  | .thaw place =>
    match frozenAt? items place with
    | some config => adding items (.ok (.draft config.thaw))
    | none => (items, none)

def session (operations : List Operation) : List Item :=
  operations.foldl (fun items operation => (perform items operation).1) []

end TemplateSpacing.Config
