import Mathlib.Data.List.DropRight
import TemplateSpacing.Text.Blank

/-! # Trimmed texts

A trimmed text is empty exactly when the text is blank, and has no blank at either end; so trimming
again changes nothing.  The lead and the trail of a division are blank, and they change places when
the text is read backwards.
-/

set_option autoImplicit false

namespace TemplateSpacing.Text

theorem trim_eq (cs : List Char) : trim cs = (cs.dropWhile isBlank).rdropWhile isBlank := rfl

theorem head?_dropWhile_isBlank {cs : List Char} {c : Char}
    (first : (cs.dropWhile isBlank).head? = some c) : isBlank c = false := by
  have notBlank := List.head?_dropWhile_not isBlank cs
  rw [first] at notBlank
  simpa using notBlank

theorem trim_eq_nil_iff (cs : List Char) : trim cs = [] ↔ cs.all isBlank = true := by
  rw [trim_eq, List.rdropWhile_eq_nil_iff, List.all_eq_true]
  constructor
  · intro allBlank
    rw [← List.dropWhile_eq_nil_iff]
    cases rest : cs.dropWhile isBlank with
    | nil => rfl
    | cons c later =>
        have first : (cs.dropWhile isBlank).head? = some c := by
          rw [rest]
          rfl
        have notBlank := head?_dropWhile_isBlank first
        rw [allBlank c (by rw [rest]; exact List.mem_cons_self)] at notBlank
        cases notBlank
  · intro allBlank c member
    exact allBlank c (List.dropWhile_subset _ member)

theorem head?_trim {cs : List Char} {c : Char} (first : (trim cs).head? = some c) :
    isBlank c = false := by
  obtain ⟨rest, same⟩ := List.rdropWhile_prefix isBlank (l := cs.dropWhile isBlank)
  apply head?_dropWhile_isBlank
  rw [← same, List.head?_append, ← trim_eq, first]
  rfl

theorem getLast?_trim {cs : List Char} {c : Char} (last : (trim cs).getLast? = some c) :
    isBlank c = false := by
  have notEmpty : trim cs ≠ [] := by
    intro empty
    rw [empty] at last
    cases last
  rw [trim_eq] at last notEmpty
  rw [List.getLast?_eq_some_getLast notEmpty] at last
  have notBlank := List.rdropWhile_last_not isBlank (cs.dropWhile isBlank) notEmpty
  rw [Option.some.inj last] at notBlank
  simpa using notBlank

theorem dropWhile_eq_self {cs : List Char} (first : ∀ c, cs.head? = some c → isBlank c = false) :
    cs.dropWhile isBlank = cs := by
  cases cs with
  | nil => rfl
  | cons c rest => rw [List.dropWhile_cons_of_neg (by rw [first c rfl]; decide)]

theorem trimStart_append {blanks cs : List Char} (blank : blanks.all isBlank = true)
    (first : ∀ c, cs.head? = some c → isBlank c = false) : trimStart (blanks ++ cs) = cs := by
  rw [trimStart, List.dropWhile_append_of_pos (List.all_eq_true.mp blank)]
  exact dropWhile_eq_self first

theorem trimEnd_append {blanks cs : List Char} (blank : blanks.all isBlank = true)
    (last : ∀ c, cs.getLast? = some c → isBlank c = false) : trimEnd (cs ++ blanks) = cs := by
  have inverse : trimStart (blanks.reverse ++ cs.reverse) = cs.reverse := by
    apply trimStart_append
    · rw [List.all_reverse]
      exact blank
    · intro c first
      rw [List.head?_reverse] at first
      exact last c first
  rw [trimEnd, List.reverse_append, ← trimStart, inverse, List.reverse_reverse]

theorem takeWhile_isBlank {blanks cs : List Char} (blank : blanks.all isBlank = true)
    (first : ∀ c, cs.head? = some c → isBlank c = false) :
    (blanks ++ cs).takeWhile isBlank = blanks := by
  rw [List.takeWhile_append_of_pos (List.all_eq_true.mp blank)]
  cases cs with
  | nil => exact List.append_nil blanks
  | cons c rest =>
      rw [List.takeWhile_cons_of_neg (by rw [first c rfl]; decide), List.append_nil]

theorem trimStart_trim (cs : List Char) : trimStart (trim cs) = trim cs :=
  dropWhile_eq_self fun _ => head?_trim

theorem trim_eq_self {cs : List Char} (first : ∀ c, cs.head? = some c → isBlank c = false)
    (last : ∀ c, cs.getLast? = some c → isBlank c = false) : trim cs = cs := by
  have start : trimStart cs = cs := dropWhile_eq_self first
  have back : trimEnd (cs ++ []) = cs := trimEnd_append rfl last
  rw [List.append_nil] at back
  rw [trim, start, back]

theorem trim_trim (cs : List Char) : trim (trim cs) = trim cs := by
  rw [trim, trimStart_trim]
  exact List.rdropWhile_idempotent _ _

theorem divide_trim (cs : List Char) : divide (trim cs) = ⟨[], trim cs, []⟩ := by
  have noLead : (trim cs).takeWhile isBlank = [] := by
    have parts := List.takeWhile_append_dropWhile (p := isBlank) (l := trim cs)
    rw [show (trim cs).dropWhile isBlank = trim cs from trimStart_trim cs] at parts
    exact List.append_left_eq_self.mp parts
  have whole := divide_append (trim cs)
  simp only [divide, noLead, trim_trim, List.nil_append] at whole ⊢
  rw [List.append_right_eq_self.mp whole]

/-- Blanks around a trimmed text are its division. -/
theorem divide_of_parts {lead content trail : List Char} (blankLead : lead.all isBlank = true)
    (blankTrail : trail.all isBlank = true) (trimmed : trim content = content)
    (filled : content ≠ []) : divide (lead ++ (content ++ trail)) = ⟨lead, content, trail⟩ := by
  have last : ∀ c, content.getLast? = some c → isBlank c = false := by
    rw [← trimmed]
    exact fun _ => getLast?_trim
  have first : ∀ c, (content ++ trail).head? = some c → isBlank c = false := by
    intro c
    rw [List.head?_append_of_ne_nil content filled, ← trimmed]
    exact head?_trim
  have start : trimStart (lead ++ (content ++ trail)) = content ++ trail :=
    trimStart_append blankLead first
  have back : ((content ++ trail).reverse.takeWhile isBlank).reverse = trail := by
    rw [List.reverse_append, takeWhile_isBlank, List.reverse_reverse]
    · rw [List.all_reverse]
      exact blankTrail
    · intro c head
      rw [List.head?_reverse] at head
      exact last c head
  rw [divide, trim, start, back, trimEnd_append blankTrail last, takeWhile_isBlank blankLead first]

theorem toList_strip (chars : String) : (strip chars).toList = trim chars.toList := by
  rw [strip, String.toList_ofList]

theorem strip_strip (chars : String) : strip (strip chars) = strip chars := by
  rw [strip, toList_strip, trim_trim, strip]

theorem divide_of_blank {cs : List Char} (blank : cs.all isBlank = true) :
    divide cs = ⟨cs, [], []⟩ := by
  have noRest : cs.dropWhile isBlank = [] :=
    List.dropWhile_eq_nil_iff.mpr (List.all_eq_true.mp blank)
  have lead : cs.takeWhile isBlank = cs :=
    List.takeWhile_eq_self_iff.mpr (List.all_eq_true.mp blank)
  simp [divide, trim, trimStart, trimEnd, noRest, lead]

theorem isAllBlank_strip (chars : String) : isAllBlank (strip chars) = isAllBlank chars := by
  rw [Bool.eq_iff_iff, isAllBlank, isAllBlank, toList_strip, ← trim_eq_nil_iff, trim_trim,
    trim_eq_nil_iff]

theorem all_lead (cs : List Char) : (divide cs).lead.all isBlank = true :=
  List.all_takeWhile

theorem all_trail (cs : List Char) : (divide cs).trail.all isBlank = true := by
  simp only [divide, List.all_reverse]
  exact List.all_takeWhile

/-- A text with content, read backwards, divides into its parts backwards. -/
theorem divide_reverse {cs : List Char} (filled : trim cs ≠ []) :
    divide cs.reverse =
      ⟨(divide cs).trail.reverse, (divide cs).content.reverse, (divide cs).lead.reverse⟩ := by
  have trimmed : trim (divide cs).content.reverse = (divide cs).content.reverse := by
    apply trim_eq_self
    · intro c first
      rw [List.head?_reverse] at first
      exact getLast?_trim first
    · intro c last
      rw [List.getLast?_reverse] at last
      exact head?_trim last
  have whole : cs.reverse = (divide cs).trail.reverse ++
      ((divide cs).content.reverse ++ (divide cs).lead.reverse) := by
    rw [← List.reverse_append, ← List.reverse_append, divide_append]
  rw [whole]
  exact divide_of_parts (List.all_reverse.trans (all_trail cs)) (List.all_reverse.trans (all_lead cs))
    trimmed (List.reverse_ne_nil_iff.mpr filled)

theorem trim_reverse (cs : List Char) : trim cs.reverse = (trim cs).reverse := by
  by_cases filled : trim cs = []
  · have blank := (trim_eq_nil_iff cs).mp filled
    rw [filled, List.reverse_nil, trim_eq_nil_iff, List.all_reverse, blank]
  · exact congrArg Division.content (divide_reverse filled)

end TemplateSpacing.Text
