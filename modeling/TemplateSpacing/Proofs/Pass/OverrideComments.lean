import TemplateSpacing.Proofs.Pass.Overrides
import TemplateSpacing.Proofs.Text.Pattern

/-! # Comments that name a display

A comment names a display if it reads as blanks, the word that starts it, blanks, the display and blanks.
It can be read so in one way only.  The pattern for it leaves the search more than one way, since the last
blanks may end before a final line break; all ways agree on the display.
-/

set_option autoImplicit false

namespace TemplateSpacing.Pass

open TemplateSpacing.Text (Fits attempt)

/-! ## The pattern -/

section Pattern

variable {comment : List Char} {parts : List (List Char)}

/-- All that may stand at the end of the pattern is blank. -/
theorem blank_of_ending (fits : Fits [.ending] comment parts) :
    comment.all Text.isBlank = true := by
  cases fits with
  | ending ends _ => rcases ends with rfl | rfl <;> rfl

theorem overrideChars?_of_fits (fits : Fits overridePattern comment parts) :
    overrideChars? comment = parts[3]? := by
  cases fits with
  | run blankFront _ fits =>
  cases fits with
  | word fits =>
  cases fits with
  | run blankBetween _ fits =>
  cases fits with
  | run isWord given fits =>
  cases fits with
  | run blankBack _ fits =>
      -- The search may have stopped before the last line break, which is one of the last blanks.
      have blankRest := blank_of_ending fits
      rw [overrideChars?_eq_some.mpr ⟨_, _, _, rfl, blankFront, blankBetween, ?_, isWord, ?_⟩]
      · rfl
      · rw [List.all_append, blankBack, blankRest]
        rfl
      · exact List.ne_nil_of_length_pos given

theorem exists_fits_of_overrideChars? {word : List Char} (named : overrideChars? comment = some word) :
    ∃ parts, Fits overridePattern comment parts := by
  obtain ⟨front, between, back, rfl, blankFront, blankBetween, blankBack, isWord, given⟩ :=
    overrideChars?_eq_some.mp named
  rw [← List.append_nil back]
  exact ⟨_, .run blankFront (Nat.zero_le _) (.word (.run blankBetween (Nat.zero_le _)
    (.run isWord (List.length_pos_of_ne_nil given) (.run blankBack (Nat.zero_le _)
      (.ending (.inl rfl) (.done []))))))⟩

/-- The search for the pattern finds the display that a comment names, if it names one. -/
theorem overrideChars?_eq_attempt (comment : List Char) :
    overrideChars? comment = (attempt overridePattern comment).bind (·[3]?) := by
  cases found : attempt overridePattern comment with
  | some parts => exact overrideChars?_of_fits (Text.fits_of_attempt found)
  | none =>
      cases named : overrideChars? comment with
      | none => rfl
      | some word =>
          obtain ⟨parts, fits⟩ := exists_fits_of_overrideChars? named
          obtain ⟨parts, searched⟩ := Text.exists_attempt fits
          rw [found] at searched
          cases searched

end Pattern

/-! ## Readings -/

structure Reading (comment front between display back : String) : Prop where
  whole : comment = front ++ "display:" ++ between ++ display ++ back
  blankFront : Text.isAllBlank front = true
  blankBetween : Text.isAllBlank between = true
  blankBack : Text.isAllBlank back = true
  letters : ∀ c ∈ display.toList, ('a' ≤ c ∧ c ≤ 'z') ∨ c = '-'
  given : display ≠ ""

section Readings

variable {comment front between display back : String}

theorem all_isWordChar_iff (chars : List Char) :
    chars.all isWordChar = true ↔ ∀ c ∈ chars, ('a' ≤ c ∧ c ≤ 'z') ∨ c = '-' := by
  simp only [List.all_eq_true, isWordChar, Bool.or_eq_true, Bool.and_eq_true, decide_eq_true_eq]

theorem toList_whole (front between display back : String) :
    (front ++ "display:" ++ between ++ display ++ back).toList =
      front.toList ++ (overrideWord ++ (between.toList ++ (display.toList ++ back.toList))) := by
  have word : "display:".toList = overrideWord := rfl
  simp only [String.toList_append, word, List.append_assoc]

theorem Reading.toList (reading : Reading comment front between display back) :
    comment.toList =
      front.toList ++ (overrideWord ++ (between.toList ++ (display.toList ++ back.toList))) := by
  rw [reading.whole, toList_whole]

theorem override?_eq_some_iff :
    override? comment = some display ↔
      ∃ front between back, Reading comment front between display back := by
  rw [override?_eq_some]
  constructor
  · rintro ⟨⟨front, between, back, whole, blankFront, blankBetween, blankBack⟩, word, given⟩
    refine ⟨String.ofList front, String.ofList between, String.ofList back, ?_, ?_, ?_, ?_,
      (all_isWordChar_iff _).mp word, given⟩
    · rw [← String.toList_inj, whole, toList_whole]
      simp only [String.toList_ofList]
    · rwa [Text.isAllBlank, String.toList_ofList]
    · rwa [Text.isAllBlank, String.toList_ofList]
    · rwa [Text.isAllBlank, String.toList_ofList]
  · rintro ⟨front, between, back, reading⟩
    exact ⟨⟨_, _, _, reading.toList, reading.blankFront, reading.blankBetween, reading.blankBack⟩,
      (all_isWordChar_iff _).mpr reading.letters, reading.given⟩

/-- Blanks before something that does not start with a blank can be told from it. -/
theorem append_inj_of_blank {blanks others cs ds : List Char} (blank : blanks.all Text.isBlank = true)
    (alsoBlank : others.all Text.isBlank = true)
    (first : ∀ c, cs.head? = some c → Text.isBlank c = false)
    (alsoFirst : ∀ c, ds.head? = some c → Text.isBlank c = false)
    (same : blanks ++ cs = others ++ ds) : blanks = others ∧ cs = ds := by
  have taken := congrArg (List.takeWhile Text.isBlank) same
  rw [Text.takeWhile_isBlank blank first, Text.takeWhile_isBlank alsoBlank alsoFirst] at taken
  subst taken
  exact ⟨rfl, List.append_cancel_left same⟩

theorem Reading.head?_display (reading : Reading comment front between display back) (c : Char)
    (first : (display.toList ++ back.toList).head? = some c) : Text.isBlank c = false := by
  have filled : display.toList ≠ [] := fun empty => reading.given (String.toList_eq_nil_iff.mp empty)
  rw [List.head?_append_of_ne_nil _ filled] at first
  exact isBlank_of_isWordChar (List.all_eq_true.mp ((all_isWordChar_iff _).mpr reading.letters) c
    (List.mem_of_mem_head? first))

theorem overrideWord_notBlank {rest : List Char} (c : Char)
    (first : (overrideWord ++ rest).head? = some c) : Text.isBlank c = false := by
  cases first
  rfl

/-- A comment can be read as one that names a display in one way only. -/
theorem Reading.unique {other gap word rest : String}
    (reading : Reading comment front between display back) (again : Reading comment other gap word rest) :
    front = other ∧ between = gap ∧ display = word ∧ back = rest := by
  obtain ⟨sameFront, fromWord⟩ := append_inj_of_blank reading.blankFront again.blankFront
    overrideWord_notBlank overrideWord_notBlank (reading.toList.symm.trans again.toList)
  obtain ⟨sameBetween, fromDisplay⟩ := append_inj_of_blank reading.blankBetween again.blankBetween
    reading.head?_display again.head?_display (List.append_cancel_left fromWord)
  obtain ⟨taken, dropped⟩ :=
    takeWhile_isWordChar ((all_isWordChar_iff _).mpr reading.letters) reading.blankBack
  obtain ⟨alsoTaken, alsoDropped⟩ :=
    takeWhile_isWordChar ((all_isWordChar_iff _).mpr again.letters) again.blankBack
  rw [fromDisplay] at taken dropped
  exact ⟨String.toList_inj.mp sameFront, String.toList_inj.mp sameBetween,
    String.toList_inj.mp (taken.symm.trans alsoTaken), String.toList_inj.mp (dropped.symm.trans alsoDropped)⟩

/-- A pending comment names a display exactly when it can be read as one that does, and then it can be read
in one way only; no comment, the empty one and all others name none.  What is named is what the search for
the pattern finds. -/
theorem override_iff_reading (pending : Option String) :
    (∀ display, pending.bind override? = some display ↔
        ∃ comment front between back, pending = some comment ∧
          Reading comment front between display back) ∧
      (∀ comment front between display back other gap word rest,
        Reading comment front between display back → Reading comment other gap word rest →
          front = other ∧ between = gap ∧ display = word ∧ back = rest) ∧
      (pending.bind override? = none ↔ ∀ comment, pending = some comment →
        ¬∃ front between display back, Reading comment front between display back) ∧
      override? "" = none ∧
      ∀ comment, override? comment =
        ((attempt overridePattern comment.toList).bind (·[3]?)).map String.ofList := by
  have named : ∀ display, pending.bind override? = some display ↔
      ∃ comment front between back, pending = some comment ∧
        Reading comment front between display back := by
    intro display
    rw [Option.bind_eq_some_iff]
    constructor
    · rintro ⟨comment, held, names⟩
      obtain ⟨front, between, back, reading⟩ := override?_eq_some_iff.mp names
      exact ⟨comment, front, between, back, held, reading⟩
    · rintro ⟨comment, front, between, back, held, reading⟩
      exact ⟨comment, held, override?_eq_some_iff.mpr ⟨front, between, back, reading⟩⟩
  refine ⟨named, fun _ _ _ _ _ _ _ _ _ => Reading.unique, ?_, rfl, fun comment => ?_⟩
  · rw [Option.eq_none_iff_forall_ne_some]
    constructor
    · rintro none comment held ⟨front, between, display, back, reading⟩
      exact none display ((named display).mpr ⟨comment, front, between, back, held, reading⟩)
    · intro unread display names
      obtain ⟨comment, front, between, back, held, reading⟩ := (named display).mp names
      exact unread comment held ⟨front, between, display, back, reading⟩
  · rw [override?, overrideChars?_eq_attempt]

end Readings

/-- A wide blank, and a display that is hyphens alone, before a line break. -/
example : override? "\u2003display:--\n" = some "--" := by decide

end TemplateSpacing.Pass
