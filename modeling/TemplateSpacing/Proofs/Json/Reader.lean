import Mathlib.Data.List.Induction
import Mathlib.Data.List.TakeWhile
import TemplateSpacing.Json.Reader
import TemplateSpacing.Proofs.Entries
import TemplateSpacing.Proofs.Literals

/-! # What is read from JSON

A text is read into a value without integers that are too long to be written, and with no more levels of lists
and objects than were allowed.
-/

set_option autoImplicit false

namespace TemplateSpacing.Json

open TemplateSpacing.Value (isLong_eq_false_iff fits_list fits_table)

/-! ## Numbers -/

section Numbers

theorem digit_le {c : Char} (digit : isDigit c = true) : c.toNat - 48 ≤ 9 := by
  rw [isDigit, Bool.and_eq_true, decide_eq_true_eq, decide_eq_true_eq] at digit
  have last : c.toNat ≤ '9'.toNat := digit.2
  have nine : '9'.toNat = 57 := rfl
  omega

theorem digitsNumber_lt {cs : List Char} (digits : ∀ c ∈ cs, isDigit c = true) :
    digitsNumber cs < Nat.pow 10 cs.length := by
  induction cs using List.reverseRecOn with
  | nil => decide
  | append_singleton cs c ih =>
      have others := ih fun c member => digits c (List.mem_append_left _ member)
      have last := digit_le (digits c (List.mem_append_right _ List.mem_cons_self))
      have more : Nat.pow 10 (cs.length + 1) = Nat.pow 10 cs.length * 10 := rfl
      rw [digitsNumber, List.foldl_append, List.foldl_cons, List.foldl_nil, ← digitsNumber, List.length_append,
        List.length_singleton, more]
      omega

theorem digitsNumber_lt_of_le (most : Nat) {cs : List Char} (digits : ∀ c ∈ cs, isDigit c = true)
    (count : cs.length ≤ most) : digitsNumber cs < Nat.pow 10 most :=
  Nat.lt_of_lt_of_le (digitsNumber_lt digits) (Nat.pow_le_pow_right (by decide) count)

theorem isDigit_of_mem_wholeDigits {cs : List Char} {c : Char} (member : c ∈ (wholeDigits cs).1) :
    isDigit c = true := by
  unfold wholeDigits at member
  split at member
  · rw [List.mem_singleton.mp member]
    rfl
  · exact List.mem_takeWhile_imp member

theorem fits_int {negative : Bool} {digits : List Char} (room : Nat) (all : ∀ c ∈ digits, isDigit c = true)
    (count : digits.length ≤ Text.longestInteger) :
    (Value.int (if negative then -(digitsNumber digits : Int) else digitsNumber digits)).Fits room := by
  have size : (if negative then -(digitsNumber digits : Int) else digitsNumber digits).natAbs =
      digitsNumber digits := by
    split
    · rw [Int.natAbs_neg, Int.natAbs_natCast]
    · rw [Int.natAbs_natCast]
  refine ⟨?_, Nat.zero_le room⟩
  rw [Value.isShort, Bool.not_eq_true', isLong_eq_false_iff, size]
  exact digitsNumber_lt_of_le Text.longestInteger all count

theorem fits_readNumber {start left : List Char} {value : Value} (room : Nat)
    (read : readNumber start = .ok (value, left)) : value.Fits room := by
  unfold readNumber at read
  split at read
  next negative body _ =>
  split at read
  · cases read
  next whole afterWhole _ found =>
  have digits : ∀ c ∈ whole, isDigit c = true := by
    intro c member
    rw [← show (wholeDigits body).1 = whole from congrArg Prod.fst found] at member
    exact isDigit_of_mem_wholeDigits member
  simp only at read
  split at read
  · split at read
    · cases read
    · next count =>
        cases read
        exact fits_int room digits (Nat.le_of_not_lt count)
  · cases read
    exact ⟨rfl, Nat.zero_le room⟩

theorem fits_readWord? {cs left : List Char} {value : Value} (room : Nat)
    (read : readWord? cs = some (value, left)) : value.Fits room := by
  obtain ⟨⟨word, held⟩, member, found⟩ := List.exists_of_findSome?_eq_some read
  have plain : ∀ entry ∈ words, entry.2.isShort = true ∧ entry.2.levels = 0 := by decide
  obtain ⟨short, flat⟩ := plain _ member
  simp only at found
  split at found
  · cases found
    exact ⟨short, flat ▸ Nat.zero_le room⟩
  · cases found

end Numbers

/-! ## Values -/

mutual

/-- The recursion is that of the reader, on the fuel that is left. -/
theorem fits_readValue (fuel depth : Nat) {cs left : List Char} {value : Value}
    (read : readValue fuel depth cs = .ok (value, left)) : value.Fits depth := by
  cases fuel with
  | zero => cases read
  | succ fuel =>
      unfold readValue at read
      split at read
      · split at read
        · cases read
          exact ⟨rfl, Nat.zero_le depth⟩
        · cases read
      · cases depth with
        | zero => cases read
        | succ depth =>
            rw [if_neg (Nat.succ_ne_zero depth)] at read
            split at read
            · cases read
              exact fits_table.mpr (List.forall_mem_nil _)
            · exact fits_readFields fuel depth (List.forall_mem_nil _) read
      · cases depth with
        | zero => cases read
        | succ depth =>
            rw [if_neg (Nat.succ_ne_zero depth)] at read
            split at read
            · cases read
              exact fits_list.mpr (List.forall_mem_nil _)
            · exact fits_readItems fuel depth (List.forall_mem_nil _) read
      · split at read
        · next found =>
            cases read
            exact fits_readWord? depth found
        · exact fits_readNumber depth read

theorem fits_readItems (fuel depth : Nat) {items : List Value} (before : ∀ item ∈ items, item.Fits depth)
    {cs left : List Char} {value : Value} (read : readItems fuel depth items cs = .ok (value, left)) :
    value.Fits (depth + 1) := by
  cases fuel with
  | zero => cases read
  | succ fuel =>
      unfold readItems at read
      split at read
      · cases read
      · next item rest own =>
          have all := List.forall_mem_cons.mpr ⟨fits_readValue fuel depth own, before⟩
          split at read
          · cases read
            exact fits_list.mpr fun item member => all item (List.mem_reverse.mp member)
          · exact fits_readItems fuel depth all read
          · cases read

theorem fits_readFields (fuel depth : Nat) {fields : List (String × Value)}
    (before : ∀ entry ∈ fields, entry.2.Fits depth) {cs left : List Char} {value : Value}
    (read : readFields fuel depth fields cs = .ok (value, left)) : value.Fits (depth + 1) := by
  cases fuel with
  | zero => cases read
  | succ fuel =>
      unfold readFields at read
      split at read
      · split at read
        · cases read
        · next key rest _ =>
            split at read
            · split at read
              · cases read
              · next held after own =>
                  have all : ∀ entry ∈ (key, held) :: fields, entry.2.Fits depth :=
                    List.forall_mem_cons.mpr ⟨fits_readValue fuel depth own, before⟩
                  split at read
                  · cases read
                    refine fits_table.mpr fun entry member => all entry ?_
                    rcases Entries.mem_putAll member with written | nowhere
                    · exact List.mem_reverse.mp written
                    · cases nowhere
                  · exact fits_readFields fuel depth all read
                  · cases read
            · cases read
      · cases read

end

/-- A document has no integer that is too long, and no more levels than were allowed. -/
theorem fits_of_read {depth : Nat} {text : String} {document : Value} (read : Json.read depth text = .ok document) :
    document.Fits depth := by
  have whole : readDocument depth text.toList = .ok document := by
    cases own : readDocument depth text.toList with
    | error stop =>
        rw [Json.read, own] at read
        cases read
    | ok value =>
        rw [Json.read, own] at read
        cases read
        rfl
  unfold readDocument at whole
  split at whole
  · cases whole
  · split at whole
    · cases whole
    · next own =>
        split at whole
        · cases whole
          exact fits_readValue _ depth own
        · cases whole

end TemplateSpacing.Json
