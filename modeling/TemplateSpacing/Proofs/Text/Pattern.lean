import Mathlib.Data.List.Basic
import TemplateSpacing.Text.Pattern

/-! # What the search for a pattern finds

The search finds what it looks for exactly when the pattern fits the text in some way.
-/

set_option autoImplicit false

namespace TemplateSpacing.Text

/-- Ways in which pieces fit the start of a text, with what each piece stands for. -/
inductive Fits : List Atom → List Char → List (List Char) → Prop
  | done (rest : List Char) : Fits [] rest []
  | run {test : Char → Bool} {least : Nat} {pieces : List Atom} {taken rest : List Char}
      {parts : List (List Char)} (passes : taken.all test = true) (enough : least ≤ taken.length)
      (later : Fits pieces rest parts) :
      Fits (.run test least :: pieces) (taken ++ rest) (taken :: parts)
  | word {chars : List Char} {pieces : List Atom} {rest : List Char} {parts : List (List Char)}
      (later : Fits pieces rest parts) : Fits (.word chars :: pieces) (chars ++ rest) (chars :: parts)
  | ending {pieces : List Atom} {rest : List Char} {parts : List (List Char)}
      (ends : rest = [] ∨ rest = ['\n']) (later : Fits pieces rest parts) :
      Fits (.ending :: pieces) rest ([] :: parts)

section Runs

variable {test : Char → Bool} {least count : Nat}

theorem mem_runLengths {cs : List Char} :
    count ∈ runLengths test least cs ↔ least ≤ count ∧ count ≤ (cs.takeWhile test).length := by
  rw [runLengths, List.mem_reverse, List.mem_range'_1]
  omega

theorem all_take_of_le {cs : List Char} (short : count ≤ (cs.takeWhile test).length) :
    (cs.take count).all test = true := by
  have whole : cs.takeWhile test ++ cs.dropWhile test = cs := List.takeWhile_append_dropWhile
  have start : cs.take count = (cs.takeWhile test).take count := by
    rw [← List.take_append_of_le_length short, whole]
  rw [start, List.all_eq_true]
  intro c member
  exact List.all_eq_true.mp List.all_takeWhile c (List.mem_of_mem_take member)

theorem length_le_takeWhile {taken rest : List Char} (passes : taken.all test = true) :
    taken.length ≤ ((taken ++ rest).takeWhile test).length := by
  rw [List.takeWhile_append_of_pos (List.all_eq_true.mp passes), List.length_append]
  exact Nat.le_add_right _ _

end Runs

section Search

variable {pieces : List Atom} {cs : List Char} {parts : List (List Char)}

theorem fits_of_attempt (found : attempt pieces cs = some parts) : Fits pieces cs parts := by
  induction pieces generalizing cs parts with
  | nil =>
      obtain rfl := Option.some.inj found
      exact .done cs
  | cons piece pieces ih =>
      cases piece with
      | run test least =>
          obtain ⟨count, member, here⟩ := List.exists_of_findSome?_eq_some found
          obtain ⟨later, rest, rfl⟩ := Option.map_eq_some_iff.mp here
          obtain ⟨enough, short⟩ := mem_runLengths.mp member
          have length : (cs.take count).length = count := by
            rw [List.length_take]
            have := (List.takeWhile_prefix test (l := cs)).length_le
            omega
          have whole : Fits (.run test least :: pieces) (cs.take count ++ cs.drop count)
              (cs.take count :: later) :=
            .run (all_take_of_le short) (length.symm ▸ enough) (ih rest)
          rwa [List.take_append_drop] at whole
      | word chars =>
          rw [attempt] at found
          split at found
          · next isPrefix =>
              obtain ⟨later, rest, rfl⟩ := Option.map_eq_some_iff.mp found
              obtain ⟨back, rfl⟩ := List.isPrefixOf_iff_prefix.mp isPrefix
              rw [List.drop_left] at rest
              exact .word (ih rest)
          · cases found
      | ending =>
          rw [attempt] at found
          split at found
          · next ends =>
              obtain ⟨later, rest, rfl⟩ := Option.map_eq_some_iff.mp found
              exact .ending ends (ih rest)
          · cases found

/-- The search finds something whenever the pattern fits. -/
theorem exists_attempt (fits : Fits pieces cs parts) : ∃ found, attempt pieces cs = some found := by
  induction fits with
  | done rest => exact ⟨[], rfl⟩
  | @run test least pieces taken rest parts passes enough later ih =>
      obtain ⟨found, searched⟩ := ih
      have member : taken.length ∈ runLengths test least (taken ++ rest) :=
        mem_runLengths.mpr ⟨enough, length_le_takeWhile passes⟩
      rw [attempt, ← Option.isSome_iff_exists, List.findSome?_isSome_iff]
      refine ⟨taken.length, member, ?_⟩
      rw [List.drop_left, searched]
      rfl
  | @word chars pieces rest parts later ih =>
      obtain ⟨found, searched⟩ := ih
      refine ⟨chars :: found, ?_⟩
      rw [attempt, if_pos (List.isPrefixOf_iff_prefix.mpr (List.prefix_append _ _)), List.drop_left,
        searched]
      rfl
  | ending ends later ih =>
      obtain ⟨found, searched⟩ := ih
      exact ⟨[] :: found, by rw [attempt, if_pos ends, searched]; rfl⟩

end Search

end TemplateSpacing.Text
