import TemplateSpacing.Proofs.Text.Trim
import TemplateSpacing.Text.Case

/-! # Texts in lower case

No mapping of the table leads to a code point that the table maps again, and none leads to a blank.  So the
lower case of a text stays as it is when it is put in lower case once more, whatever stands around its
characters, and a text without outer blanks gets none.
-/

set_option autoImplicit false

namespace TemplateSpacing.Text

/-! ## The table -/

def covers : CaseRun → Nat → Bool
  | (first, last, step, _), n => first ≤ n && n ≤ last && (n - first) % step == 0

def imageIn : CaseRun → Nat → Nat
  | (first, _, _, image), n => image + (n - first)

/-- Whether no image in a run is a code point of another one: the images all come before it or after it, or
every second code point is skipped in both and they take the others. -/
def apart (run other : CaseRun) : Bool :=
  Nat.blt (run.2.2.2 + (run.2.1 - run.1)) other.1 || Nat.blt other.2.1 run.2.2.2 ||
    (other.2.2.1 == 2 && (run.2.2.1 == 2 || run.1 == run.2.1) && (run.2.2.2 + other.1) % 2 == 1)

def blankRuns : List CaseRun :=
  [(9, 13, 1, 0), (28, 32, 1, 0), (0x85, 0x85, 1, 0), (0xA0, 0xA0, 1, 0), (0x1680, 0x1680, 1, 0),
    (0x2000, 0x200A, 1, 0), (0x2028, 0x2029, 1, 0), (0x202F, 0x202F, 1, 0), (0x205F, 0x205F, 1, 0),
    (0x3000, 0x3000, 1, 0)]

def expandedRuns : List CaseRun :=
  lowerExpansions.map fun (n, _) => (n, n, 1, 0)

def isLow (n : Nat) : Bool :=
  (runImage lowerRuns n).isNone && (lowerExpansions.lookup n).isNone

theorem covers_iff {first last step image n : Nat} :
    covers (first, last, step, image) n = true ↔ first ≤ n ∧ n ≤ last ∧ (n - first) % step = 0 := by
  simp only [covers, Bool.and_eq_true, decide_eq_true_eq, beq_iff_eq, and_assoc]

theorem not_covers_of_apart {run other : CaseRun} (separate : apart run other = true) {n : Nat}
    (covered : covers run n = true) : covers other (imageIn run n) = false := by
  obtain ⟨first, last, step, image⟩ := run
  obtain ⟨start, stop, stride, _⟩ := other
  obtain ⟨above, below, onStep⟩ := covers_iff.mp covered
  simp only [apart, Bool.or_eq_true, Bool.and_eq_true, Nat.blt_eq, beq_iff_eq] at separate
  apply Bool.eq_false_iff.mpr
  intro met
  obtain ⟨aboveStart, belowStop, onStride⟩ := covers_iff.mp met
  rw [imageIn] at aboveStart belowStop onStride
  -- where both runs step by two, the images are of one parity and the other run is of the other
  rcases separate with (before | after) | ⟨⟨rfl, rfl | single⟩, odd⟩ <;> omega

theorem lowerRuns_apart :
    (lowerRuns.all fun run => (lowerRuns ++ expandedRuns ++ blankRuns).all (apart run)) = true := by
  decide +kernel

theorem isBlank_eq (c : Char) : isBlank c = blankRuns.any fun run => covers run c.toNat := by
  rw [Bool.eq_iff_iff]
  simp only [isBlank, blankRuns, covers, List.any_cons, List.any_nil, Nat.mod_one, beq_self_eq_true,
    Bool.and_true, Bool.or_false, Bool.or_eq_true, Bool.and_eq_true, decide_eq_true_eq, beq_iff_eq]
  omega

theorem runImage_eq_none_iff {runs : List CaseRun} {n : Nat} :
    runImage runs n = none ↔ ∀ run ∈ runs, covers run n = false := by
  rw [runImage, Option.map_eq_none_iff, List.find?_eq_none]
  exact forall₂_congr fun run _ => Bool.not_eq_true (covers run n) ▸ Iff.rfl

theorem covers_of_runImage {runs : List CaseRun} {n image : Nat} (mapped : runImage runs n = some image) :
    ∃ run ∈ runs, covers run n = true ∧ image = imageIn run n := by
  obtain ⟨run, found, same⟩ := Option.map_eq_some_iff.mp mapped
  have covered : covers run n = true := List.find?_some (p := fun run => covers run n) found
  exact ⟨run, List.mem_of_find?_eq_some found, covered, same.symm⟩

theorem isLow_iff {n : Nat} :
    isLow n = true ↔ runImage lowerRuns n = none ∧ lowerExpansions.lookup n = none := by
  rw [isLow, Bool.and_eq_true, Option.isNone_iff_eq_none, Option.isNone_iff_eq_none]

section Images

variable {run : CaseRun} {n : Nat}

theorem not_covers_imageIn {other : CaseRun} (member : run ∈ lowerRuns)
    (among : other ∈ lowerRuns ++ expandedRuns ++ blankRuns) (covered : covers run n = true) :
    covers other (imageIn run n) = false :=
  not_covers_of_apart (List.all_eq_true.mp (List.all_eq_true.mp lowerRuns_apart run member) other among)
    covered

theorem isLow_imageIn (member : run ∈ lowerRuns) (covered : covers run n = true) :
    isLow (imageIn run n) = true := by
  apply isLow_iff.mpr
  refine ⟨?_, ?_⟩
  · apply runImage_eq_none_iff.mpr
    intro other among
    exact not_covers_imageIn member (List.mem_append_left _ (List.mem_append_left _ among)) covered
  · apply List.lookup_eq_none_iff.mpr
    rintro ⟨key, images⟩ among
    have asRun : (key, key, 1, 0) ∈ expandedRuns := List.mem_map_of_mem among
    have outside :=
      not_covers_imageIn member (List.mem_append_left _ (List.mem_append_right _ asRun)) covered
    apply bne_iff_ne.mpr
    rintro rfl
    rw [covers_iff.mpr ⟨Nat.le_refl _, Nat.le_refl _, Nat.mod_one _⟩] at outside
    cases outside

theorem not_isBlank_imageIn (member : run ∈ lowerRuns) (covered : covers run n = true) {c : Char}
    (same : c.toNat = imageIn run n) : isBlank c = false := by
  rw [isBlank_eq, same]
  apply List.any_eq_false.mpr
  intro other among
  rw [not_covers_imageIn member (List.mem_append_right _ among) covered]
  decide

end Images

/-! ## One character -/

/-- The lower case of a character between the characters before it, nearest first, and those after it. -/
def lowerChar (before : List Char) (c : Char) (after : List Char) : List Char :=
  if c = capitalSigma then [lowerSigma before after]
  else if c.toNat < 128 then [c.toLower]
  else mapCase lowerRuns lowerExpansions c

theorem lowerAfter_cons (before : List Char) (c : Char) (rest : List Char) :
    lowerAfter before (c :: rest) = lowerChar before c rest ++ lowerAfter (c :: before) rest := rfl

theorem lowerRuns_tail : ∀ run ∈ lowerRuns.tail, 128 ≤ run.1 := by
  decide +kernel

theorem isLow_ascii {n : Nat} (ascii : n < 128) (small : ¬(65 ≤ n ∧ n ≤ 90)) : isLow n = true := by
  apply isLow_iff.mpr
  refine ⟨?_, ?_⟩
  · apply runImage_eq_none_iff.mpr
    intro run member
    apply Bool.eq_false_iff.mpr
    intro covered
    rcases List.mem_cons.mp member with rfl | later
    · obtain ⟨above, below, _⟩ := covers_iff.mp covered
      exact small ⟨above, below⟩
    · have above := lowerRuns_tail run later
      have reached := (covers_iff.mp covered).1
      omega
  · apply List.lookup_eq_none_iff.mpr
    intro entry among
    obtain rfl := List.mem_singleton.mp among
    exact bne_iff_ne.mpr (by omega)

theorem covers_capital {n : Nat} (capital : 65 ≤ n ∧ n ≤ 90) : covers (65, 90, 1, 97) n = true :=
  covers_iff.mpr ⟨capital.1, capital.2, Nat.mod_one _⟩

theorem toLower_eq_self {c : Char} (small : ¬(65 ≤ c.toNat ∧ c.toNat ≤ 90)) : c.toLower = c :=
  dif_neg small

theorem toNat_toLower {c : Char} (capital : 65 ≤ c.toNat ∧ c.toNat ≤ 90) :
    c.toLower.toNat = c.toNat + 32 := by
  have image : c.toLower.val = c.val + 32 := congrArg Char.val (dif_pos capital)
  have sum : c.toLower.toNat = (c.toNat + 32) % 2 ^ 32 := by
    rw [Char.toNat, image, UInt32.toNat_add]
    rfl
  omega

/-- A character of an image is in lower case whatever stands around it, and is a blank only if the character
that it comes from is that blank. -/
structure Lowered (c image : Char) : Prop where
  low : isLow image.toNat = true
  blank : isBlank image = true → image = c

theorem lowered_self {c : Char} (low : isLow c.toNat = true) : Lowered c c := ⟨low, fun _ => rfl⟩

theorem Lowered.notBlank {c image : Char} (lowered : Lowered c image) (notBlank : isBlank c = false) :
    isBlank image = false := by
  rw [← Bool.not_eq_true]
  intro blank
  rw [lowered.blank blank, notBlank] at blank
  cases blank

theorem lowered_of_notBlank {c image : Char} (low : isLow image.toNat = true)
    (notBlank : isBlank image = false) : Lowered c image := by
  refine ⟨low, ?_⟩
  intro blank
  rw [notBlank] at blank
  cases blank

theorem lowered_of_run {c image : Char} {run : CaseRun} (member : run ∈ lowerRuns)
    (covered : covers run c.toNat = true) (same : image.toNat = imageIn run c.toNat) : Lowered c image := by
  apply lowered_of_notBlank
  · rw [same]
    exact isLow_imageIn member covered
  · exact not_isBlank_imageIn member covered same

theorem lowered_ofNat {c : Char} {run : CaseRun} (member : run ∈ lowerRuns)
    (covered : covers run c.toNat = true) : Lowered c (Char.ofNat (imageIn run c.toNat)) := by
  by_cases valid : (imageIn run c.toNat).isValidChar
  · apply lowered_of_run member covered
    rw [Char.ofNat, dif_pos valid]
    rfl
  · -- there are no such images, but then the character would be the one at zero
    have zero : Char.ofNat (imageIn run c.toNat) = Char.ofNat 0 := by
      rw [Char.ofNat, dif_neg valid]
      rfl
    rw [zero]
    exact lowered_of_notBlank (by decide +kernel) (by decide)

theorem lowerExpansions_low : ∀ entry ∈ lowerExpansions, entry.2 ≠ [] ∧
    ∀ n ∈ entry.2, isLow (Char.ofNat n).toNat = true ∧ isBlank (Char.ofNat n) = false := by
  decide +kernel

theorem low_of_lookup {n : Nat} {images : List Nat} (expanded : lowerExpansions.lookup n = some images) :
    images ≠ [] ∧ ∀ image ∈ images,
      isLow (Char.ofNat image).toNat = true ∧ isBlank (Char.ofNat image) = false := by
  obtain ⟨earlier, later, table, _⟩ := List.lookup_eq_some_iff.mp expanded
  apply lowerExpansions_low (n, images)
  rw [table]
  exact List.mem_append_right _ List.mem_cons_self

theorem lowered_of_mem_mapCase {c image : Char} (member : image ∈ mapCase lowerRuns lowerExpansions c) :
    Lowered c image := by
  rw [mapCase] at member
  split at member
  · next images expanded =>
      obtain ⟨n, among, rfl⟩ := List.mem_map.mp member
      obtain ⟨low, notBlank⟩ := (low_of_lookup expanded).2 n among
      exact lowered_of_notBlank low notBlank
  · next unexpanded =>
      split at member
      · next mapped =>
          obtain ⟨run, among, covered, rfl⟩ := covers_of_runImage mapped
          rw [List.mem_singleton.mp member]
          exact lowered_ofNat among covered
      · next unmapped =>
          rw [List.mem_singleton.mp member]
          exact lowered_self (isLow_iff.mpr ⟨unmapped, unexpanded⟩)

theorem lowered_of_mem {before after : List Char} {c image : Char}
    (member : image ∈ lowerChar before c after) : Lowered c image := by
  rw [lowerChar] at member
  split at member
  · rw [List.mem_singleton.mp member, lowerSigma]
    split
    · exact lowered_of_notBlank (by decide +kernel) (by decide)
    · exact lowered_of_notBlank (by decide +kernel) (by decide)
  · split at member
    · next ascii =>
        obtain rfl := List.mem_singleton.mp member
        by_cases capital : 65 ≤ c.toNat ∧ c.toNat ≤ 90
        · apply lowered_of_run List.mem_cons_self (covers_capital capital)
          rw [toNat_toLower capital, imageIn]
          omega
        · rw [toLower_eq_self capital]
          exact lowered_self (isLow_ascii ascii capital)
    · exact lowered_of_mem_mapCase member

theorem lowerChar_ne_nil (before : List Char) (c : Char) (after : List Char) :
    lowerChar before c after ≠ [] := by
  rw [lowerChar]
  split
  · exact List.cons_ne_nil _ _
  · split
    · exact List.cons_ne_nil _ _
    · rw [mapCase]
      split
      · next images expanded =>
          exact mt List.map_eq_nil_iff.mp (low_of_lookup expanded).1
      · split
        · exact List.cons_ne_nil _ _
        · exact List.cons_ne_nil _ _

theorem lowerChar_of_isLow {c : Char} (low : isLow c.toNat = true) (before after : List Char) :
    lowerChar before c after = [c] := by
  obtain ⟨unmapped, unexpanded⟩ := isLow_iff.mp low
  rw [lowerChar]
  split
  · next sigma =>
      rw [sigma] at low
      exact absurd low (by decide +kernel)
  · split
    · rw [toLower_eq_self]
      intro capital
      have covered := runImage_eq_none_iff.mp unmapped (65, 90, 1, 97) List.mem_cons_self
      rw [covers_capital capital] at covered
      cases covered
    · rw [mapCase, unexpanded, unmapped]

/-! ## Whole texts -/

theorem isLow_of_mem_lowerAfter {before cs : List Char} {image : Char}
    (member : image ∈ lowerAfter before cs) : isLow image.toNat = true := by
  induction cs generalizing before with
  | nil => cases member
  | cons c rest ih =>
      rw [lowerAfter_cons] at member
      rcases List.mem_append.mp member with own | later
      · exact (lowered_of_mem own).low
      · exact ih later

theorem lowerAfter_of_isLow {before cs : List Char} (low : ∀ c ∈ cs, isLow c.toNat = true) :
    lowerAfter before cs = cs := by
  induction cs generalizing before with
  | nil => rfl
  | cons c rest ih =>
      rw [lowerAfter_cons, lowerChar_of_isLow (low c List.mem_cons_self),
        ih fun c member => low c (List.mem_cons_of_mem _ member)]
      rfl

theorem lowerAfter_eq_nil_iff {before cs : List Char} : lowerAfter before cs = [] ↔ cs = [] := by
  cases cs with
  | nil => exact Iff.rfl
  | cons c rest =>
      rw [lowerAfter_cons, List.append_eq_nil_iff]
      constructor
      · rintro ⟨own, _⟩
        exact (lowerChar_ne_nil before c rest own).elim
      · rintro ⟨⟩

theorem head?_lowerAfter {before cs : List Char} {image : Char}
    (first : (lowerAfter before cs).head? = some image) : ∃ c, cs.head? = some c ∧ Lowered c image := by
  cases cs with
  | nil => cases first
  | cons c rest =>
      rw [lowerAfter_cons, List.head?_append_of_ne_nil _ (lowerChar_ne_nil before c rest)] at first
      exact ⟨c, rfl, lowered_of_mem (List.mem_of_mem_head? first)⟩

theorem getLast?_lowerAfter {before cs : List Char} {image : Char}
    (last : (lowerAfter before cs).getLast? = some image) :
    ∃ c, cs.getLast? = some c ∧ Lowered c image := by
  induction cs generalizing before with
  | nil => cases last
  | cons c rest ih =>
      rw [lowerAfter_cons] at last
      -- no image is empty, so the last one comes from the last character
      cases rest with
      | nil =>
          rw [lowerAfter, List.append_nil] at last
          exact ⟨c, rfl, lowered_of_mem (List.mem_of_getLast? last)⟩
      | cons next later =>
          have more : lowerAfter (c :: before) (next :: later) ≠ [] := mt lowerAfter_eq_nil_iff.mp
            (List.cons_ne_nil _ _)
          rw [List.getLast?_append_of_ne_nil _ more] at last
          obtain ⟨own, ends, lowered⟩ := ih last
          exact ⟨own, by rw [List.getLast?_cons_cons, ends], lowered⟩

theorem toList_lower (s : String) : (lower s).toList = lowerAfter [] s.toList :=
  String.toList_ofList

theorem lower_lower (s : String) : lower (lower s) = lower s := by
  rw [lower, toList_lower, lowerAfter_of_isLow fun _ => isLow_of_mem_lowerAfter, lower]

theorem lower_eq_empty_iff (s : String) : lower s = "" ↔ s = "" := by
  rw [← String.toList_eq_nil_iff, toList_lower, lowerAfter_eq_nil_iff, String.toList_eq_nil_iff]

theorem strip_lower {s : String} (stripped : strip s = s) : strip (lower s) = lower s := by
  have trimmed : trim s.toList = s.toList := by rw [← toList_strip, stripped]
  have whole : trim (lower s).toList = (lower s).toList := by
    rw [toList_lower]
    apply trim_eq_self
    · intro image first
      obtain ⟨c, own, lowered⟩ := head?_lowerAfter first
      rw [← trimmed] at own
      exact lowered.notBlank (head?_trim own)
    · intro image last
      obtain ⟨c, own, lowered⟩ := getLast?_lowerAfter last
      rw [← trimmed] at own
      exact lowered.notBlank (getLast?_trim own)
  rw [strip, whole, String.ofList_toList]

end TemplateSpacing.Text
