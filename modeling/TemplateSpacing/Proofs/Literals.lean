import Mathlib.Order.MinMax
import TemplateSpacing.Proofs.Basic
import TemplateSpacing.Value.Basic

/-! # Which values can be written

A value has a literal exactly when no integer in it is too long and its lists and tables are not too deep inside
one another.  What keeps it from having one is one of these two.
-/

set_option autoImplicit false

namespace TemplateSpacing.Value

mutual

def isShort : Value → Bool
  | .int n => !isLong n
  | .list items => areShort items
  | .table fields => haveShort fields
  | _ => true

def areShort : List Value → Bool
  | [] => true
  | item :: rest => item.isShort && areShort rest

def haveShort : List (String × Value) → Bool
  | [] => true
  | (_, value) :: rest => value.isShort && haveShort rest

end

mutual

def levels : Value → Nat
  | .list items => levelsOfItems items + 1
  | .table fields => levelsOfFields fields + 1
  | _ => 0

def levelsOfItems : List Value → Nat
  | [] => 0
  | item :: rest => max item.levels (levelsOfItems rest)

def levelsOfFields : List (String × Value) → Nat
  | [] => 0
  | (_, value) :: rest => max value.levels (levelsOfFields rest)

end

def Fits (room : Nat) (value : Value) : Prop :=
  value.isShort = true ∧ value.levels ≤ room

instance (room : Nat) (value : Value) : Decidable (value.Fits room) :=
  inferInstanceAs (Decidable (_ ∧ _))

def Writable (value : Value) : Prop :=
  value.Fits deepestNesting

instance (value : Value) : Decidable value.Writable :=
  inferInstanceAs (Decidable (value.Fits deepestNesting))

/-! ## Parts -/

section Parts

variable {items : List Value} {fields : Entries Value} {room : Nat}

theorem areShort_iff : areShort items = true ↔ ∀ item ∈ items, item.isShort = true := by
  induction items with
  | nil => exact iff_of_true rfl nofun
  | cons item rest ih => rw [areShort, Bool.and_eq_true, ih, List.forall_mem_cons]

theorem haveShort_iff : haveShort fields = true ↔ ∀ entry ∈ fields, entry.2.isShort = true := by
  induction fields with
  | nil => exact iff_of_true rfl nofun
  | cons entry rest ih =>
      rw [haveShort, Bool.and_eq_true, ih, List.forall_mem_cons]

theorem levelsOfItems_le_iff : levelsOfItems items ≤ room ↔ ∀ item ∈ items, item.levels ≤ room := by
  induction items with
  | nil => exact iff_of_true (Nat.zero_le room) nofun
  | cons item rest ih => rw [levelsOfItems, max_le_iff, ih, List.forall_mem_cons]

theorem levelsOfFields_le_iff : levelsOfFields fields ≤ room ↔ ∀ entry ∈ fields, entry.2.levels ≤ room := by
  induction fields with
  | nil => exact iff_of_true (Nat.zero_le room) nofun
  | cons entry rest ih => rw [levelsOfFields, max_le_iff, ih, List.forall_mem_cons]

/-- A list takes one level more than its items. -/
theorem fits_list : (Value.list items).Fits (room + 1) ↔ ∀ item ∈ items, item.Fits room := by
  rw [Fits, isShort, levels, Nat.add_le_add_iff_right, areShort_iff, levelsOfItems_le_iff, ← forall₂_and]
  exact Iff.rfl

theorem fits_table : (Value.table fields).Fits (room + 1) ↔ ∀ entry ∈ fields, entry.2.Fits room := by
  rw [Fits, isShort, levels, Nat.add_le_add_iff_right, haveShort_iff, levelsOfFields_le_iff, ← forall₂_and]
  exact Iff.rfl

structure Hereditary (law : Value → Prop) : Prop where
  items : ∀ items, law (.list items) → ∀ item ∈ items, law item
  fields : ∀ fields : Entries Value, law (.table fields) → ∀ entry ∈ fields, law entry.2

theorem hereditary_isShort : Hereditary fun value => value.isShort = true where
  items := fun _ short => areShort_iff.mp short
  fields := fun _ short => haveShort_iff.mp short

theorem hereditary_levels (room : Nat) : Hereditary fun value => value.levels ≤ room where
  items := fun _ fits => levelsOfItems_le_iff.mp (Nat.le_of_succ_le fits)
  fields := fun _ fits => levelsOfFields_le_iff.mp (Nat.le_of_succ_le fits)

end Parts

/-- What writing comes to, given whether all integers are short, and how deep the value and the room for it
are. -/
inductive Accounts {α : Type} (short : Bool) (levels room : Nat) : Except LiteralError α → Prop
  | written {text : α} (isShort : short = true) (fits : levels ≤ room) : Accounts short levels room (.ok text)
  | longInteger (long : short = false) : Accounts short levels room (.error .longInteger)
  | tooDeep (deep : room < levels) : Accounts short levels room (.error .tooDeep)

section Accounts

variable {α β : Type} {short shortRest : Bool} {levels levelsRest room : Nat}

theorem Accounts.map {result : Except LiteralError α} (f : α → β) (own : Accounts short levels room result) :
    Accounts short levels room (result.map f) := by
  cases own with
  | written isShort fits => exact .written isShort fits
  | longInteger long => exact .longInteger long
  | tooDeep deep => exact .tooDeep deep

/-- What is inside a list or a table has one level less of room. -/
theorem Accounts.inside {result : Except LiteralError α} (inner : Accounts short levels room result) :
    Accounts short (levels + 1) (room + 1) result := by
  cases inner with
  | written isShort fits => exact .written isShort (Nat.add_le_add_right fits 1)
  | longInteger long => exact .longInteger long
  | tooDeep deep => exact .tooDeep (Nat.add_lt_add_right deep 1)

theorem Accounts.cons {first : Except LiteralError α} {later : Except LiteralError (List β)} (f : α → β)
    (own : Accounts short levels room first) (rest : Accounts shortRest levelsRest room later) :
    Accounts (short && shortRest) (max levels levelsRest) room
      (first.bind fun written => later.map (f written :: ·)) := by
  cases own with
  | longInteger long => exact .longInteger (by rw [long, Bool.false_and])
  | tooDeep deep => exact .tooDeep (lt_max_of_lt_left deep)
  | written isShort fits =>
      cases rest with
      | longInteger long => exact .longInteger (by rw [long, Bool.and_false])
      | tooDeep deep => exact .tooDeep (lt_max_of_lt_right deep)
      | written restShort restFits =>
          exact .written (Bool.and_eq_true_iff.mpr ⟨isShort, restShort⟩) (max_le fits restFits)

end Accounts

theorem isLong_eq_false_iff {n : Int} : isLong n = false ↔ n.natAbs < Nat.pow 10 Text.longestInteger := by
  rw [isLong, decide_eq_false_iff_not, Nat.not_le]

theorem accounts_intLiteral (n : Int) (room : Nat) : Accounts (!isLong n) 0 room (intLiteral n) := by
  rw [intLiteral]
  cases isLong n with
  | true => exact .longInteger rfl
  | false => exact .written rfl (Nat.zero_le room)

mutual

theorem accounts_literalWithin (room : Nat) (value : Value) :
    Accounts value.isShort value.levels room (value.literalWithin room) := by
  cases value with
  | int n =>
      simp only [isShort, levels, literalWithin]
      exact accounts_intLiteral n room
  | list items =>
      rw [isShort, levels]
      cases room with
      | zero => exact .tooDeep (Nat.succ_pos _)
      | succ room => exact (accounts_itemLiterals room items).inside.map _
  | table fields =>
      rw [isShort, levels]
      cases room with
      | zero => exact .tooDeep (Nat.succ_pos _)
      | succ room => exact (accounts_fieldLiterals room fields).inside.map _
  | _ =>
      simp only [isShort, levels, literalWithin]
      exact .written rfl (Nat.zero_le room)

theorem accounts_itemLiterals (room : Nat) (items : List Value) :
    Accounts (areShort items) (levelsOfItems items) room (itemLiterals room items) := by
  cases items with
  | nil => exact .written rfl (Nat.zero_le room)
  | cons item rest =>
      rw [areShort, levelsOfItems, itemLiterals]
      exact (accounts_literalWithin room item).cons (fun written => written) (accounts_itemLiterals room rest)

theorem accounts_fieldLiterals (room : Nat) (fields : List (String × Value)) :
    Accounts (haveShort fields) (levelsOfFields fields) room (fieldLiterals room fields) := by
  cases fields with
  | nil => exact .written rfl (Nat.zero_le room)
  | cons field rest =>
      obtain ⟨key, value⟩ := field
      rw [haveShort, levelsOfFields, fieldLiterals]
      exact (accounts_literalWithin room value).cons (fun written => Text.quoted key ++ ": " ++ written)
        (accounts_fieldLiterals room rest)

end

section Literal

variable {value : Value}

theorem accounts_literal (value : Value) :
    Accounts value.isShort value.levels deepestNesting value.literal :=
  accounts_literalWithin deepestNesting value

theorem writable_iff : value.Writable ↔ ∃ text, value.literal = .ok text := by
  have own := accounts_literal value
  generalize value.literal = written at own
  cases own with
  | written isShort fits => exact iff_of_true ⟨isShort, fits⟩ ⟨_, rfl⟩
  | longInteger long => exact iff_of_false (fun writable => Bool.noConfusion (long.symm.trans writable.1)) nofun
  | tooDeep deep => exact iff_of_false (fun writable => Nat.not_le.mpr deep writable.2) nofun

theorem isShort_of_literal (failed : value.literal = .error .longInteger) : value.isShort = false := by
  have own := accounts_literal value
  rw [failed] at own
  cases own with
  | longInteger long => exact long

theorem levels_of_literal (failed : value.literal = .error .tooDeep) : deepestNesting < value.levels := by
  have own := accounts_literal value
  rw [failed] at own
  cases own with
  | tooDeep deep => exact deep

theorem shown_writable_iff : (∃ text, value.shown = .ok text) ↔ value.Writable := by
  cases value with
  | text s => exact iff_of_true ⟨s, rfl⟩ ⟨rfl, Nat.zero_le _⟩
  | moment m => exact iff_of_true ⟨m.text, rfl⟩ ⟨rfl, Nat.zero_le _⟩
  | _ => exact writable_iff.symm

end Literal

end TemplateSpacing.Value
