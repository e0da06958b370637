/-! # Entries in order

Keyed entries that remember the order in which their keys first came.  Writing a key that is already
there keeps its place; the last write of a key wins.
-/

set_option autoImplicit false

namespace TemplateSpacing

abbrev Entries (α : Type) := List (String × α)

namespace Entries

variable {α : Type}

def find? (key : String) : Entries α → Option α
  | [] => none
  | (k, value) :: rest => if k = key then some value else find? key rest

def has (key : String) (entries : Entries α) : Bool :=
  (find? key entries).isSome

/-- Writes a value under a key, in the place of an earlier one or at the end. -/
def put (key : String) (value : α) : Entries α → Entries α
  | [] => [(key, value)]
  | (k, old) :: rest => if k = key then (k, value) :: rest else (k, old) :: put key value rest

def putAll (entries later : Entries α) : Entries α :=
  later.foldl (fun sum entry => put entry.1 entry.2 sum) entries

def ofWrites (writes : List (String × α)) : Entries α :=
  putAll [] writes

/-- The entries whose key is none of the given ones. -/
def without (keys : List String) (entries : Entries α) : Entries α :=
  entries.filter fun entry => !keys.contains entry.1

def sorted (entries : Entries α) : Entries α :=
  entries.mergeSort fun a b => !(b.1 < a.1)

/-- A write is found under its own key and changes what is found under no other. -/
theorem find?_put (key other : String) (value : α) (entries : Entries α) :
    find? other (put key value entries) = if key = other then some value else find? other entries := by
  induction entries with
  | nil => simp [put, find?]
  | cons entry rest ih =>
    obtain ⟨k, old⟩ := entry
    by_cases same : k = key
    · subst same
      by_cases hit : k = other <;> simp [put, find?, hit]
    · by_cases hit : k = other
      · subst hit
        simp [put, find?, same, Ne.symm same]
      · simp [put, find?, same, hit, ih]

end Entries

end TemplateSpacing
