import TemplateSpacing.Pass.Display
import TemplateSpacing.Proofs.Pass.Spaces
import TemplateSpacing.Proofs.Text.Pattern

/-! # The division of a text

Three runs make up every text: blanks, as many as can be; whatever comes next, as little as can be; and
blanks to the end.  The search for them goes back whenever the runs that follow do not fit, but it never comes
to nothing, and what it finds is the division that the passes work with.  All blank tests of the passes agree
with the division, so none of them takes for content what another one takes for white space.
-/

set_option autoImplicit false

namespace TemplateSpacing.Text

section Search

variable {test : Char → Bool} {runs : List Run} {cs : List Char} {parts : List (List Char)}

theorem lengths_longest (test : Char → Bool) (cs : List Char) :
    (Run.mk test .longest).lengths cs =
      (cs.takeWhile test).length :: (List.range (cs.takeWhile test).length).reverse := by
  rw [Run.lengths, runLengths, Nat.sub_zero, ← List.range_eq_range', List.range_succ,
    List.reverse_append, List.reverse_singleton, List.singleton_append]

theorem lengths_anything (cs : List Char) :
    (Run.mk (fun _ => true) .shortest).lengths cs = List.range (cs.length + 1) := by
  have all : cs.takeWhile (fun _ => true) = cs := List.takeWhile_eq_self_iff.mpr fun _ _ => rfl
  rw [Run.lengths, runLengths, List.reverse_reverse, all, Nat.sub_zero, List.range_eq_range']

/-- The longest run is taken when the runs after it make up the rest. -/
theorem matchRuns_longest (rest : matchRuns runs (cs.dropWhile test) = some parts) :
    matchRuns (⟨test, .longest⟩ :: runs) cs = some (cs.takeWhile test :: parts) := by
  have whole : cs.takeWhile test ++ cs.dropWhile test = cs := List.takeWhile_append_dropWhile
  have taken : cs.take (cs.takeWhile test).length = cs.takeWhile test :=
    (congrArg (List.take _) whole).symm.trans List.take_left
  have dropped : cs.drop (cs.takeWhile test).length = cs.dropWhile test :=
    (congrArg (List.drop _) whole).symm.trans List.drop_left
  rw [matchRuns, lengths_longest, List.findSome?_cons, taken, dropped, rest]
  rfl

/-- Blanks make up a text to its end, or they do not. -/
theorem matchRuns_blanks (cs : List Char) :
    matchRuns [⟨isBlank, .longest⟩] cs = if cs.all isBlank then some [cs] else none := by
  split
  · next blank =>
      have whole := List.takeWhile_eq_self_iff.mpr (List.all_eq_true.mp blank)
      have none := List.dropWhile_eq_nil_iff.mpr (List.all_eq_true.mp blank)
      have filled : matchRuns [] (cs.dropWhile isBlank) = some [] := by rw [none, matchRuns, if_pos rfl]
      rw [matchRuns_longest filled, whole]
  · next notBlank =>
      rw [matchRuns, List.findSome?_eq_none_iff]
      intro count tried
      have short := (mem_runLengths.mp tried).2
      have left : cs.drop count ≠ [] := by
        intro empty
        rw [List.drop_eq_nil_iff] at empty
        apply notBlank
        rw [← List.take_of_length_le empty]
        exact all_take_of_le short
      rw [matchRuns, if_neg left]
      rfl

/-- What stands before the last blanks of a text does not end with a blank. -/
theorem getLast?_trimEnd {c : Char} (last : (trimEnd cs).getLast? = some c) : isBlank c = false := by
  rw [trimEnd, List.getLast?_reverse] at last
  exact head?_dropWhile_isBlank last

theorem not_blank_drop {content blanks : List Char} {count : Nat}
    (last : ∀ c, content.getLast? = some c → isBlank c = false) (short : count < content.length) :
    ((content ++ blanks).drop count).all isBlank = false := by
  have left : content.drop count ≠ [] := mt List.drop_eq_nil_iff.mp (Nat.not_le.mpr short)
  have ends : (content.drop count).getLast? = some ((content.drop count).getLast left) :=
    List.getLast?_eq_some_getLast left
  rw [List.drop_append_of_le_length (Nat.le_of_lt short), List.all_append, Bool.and_eq_false_iff]
  left
  apply List.all_eq_false.mpr
  refine ⟨_, List.getLast_mem left, ?_⟩
  rw [Bool.not_eq_true]
  apply last
  rw [← ends, List.getLast?_drop, if_neg (Nat.not_le.mpr short)]

/-- The least that leaves nothing but blanks to the end is what stands before the last blanks. -/
theorem matchRuns_shortest (cs : List Char) :
    matchRuns [⟨fun _ => true, .shortest⟩, ⟨isBlank, .longest⟩] cs =
      some [trimEnd cs, (cs.reverse.takeWhile isBlank).reverse] := by
  have whole : trimEnd cs ++ (cs.reverse.takeWhile isBlank).reverse = cs := by
    rw [trimEnd, ← List.reverse_append, List.takeWhile_append_dropWhile, List.reverse_reverse]
  have blank : (cs.reverse.takeWhile isBlank).reverse.all isBlank = true := by
    rw [List.all_reverse]
    exact List.all_takeWhile
  generalize (cs.reverse.takeWhile isBlank).reverse = blanks at whole blank ⊢
  have last : ∀ c, (trimEnd cs).getLast? = some c → isBlank c = false := fun c => getLast?_trimEnd
  generalize trimEnd cs = content at whole last ⊢
  subst whole
  rw [matchRuns, lengths_anything, List.findSome?_eq_some_iff]
  have tries : List.range ((content ++ blanks).length + 1) =
      List.range content.length ++ content.length ::
        ((List.range blanks.length).map Nat.succ).map (content.length + ·) := by
    rw [List.length_append, Nat.add_assoc, List.range_add, List.range_succ_eq_map, List.map_cons,
      Nat.add_zero]
  refine ⟨_, _, _, tries, ?_, ?_⟩
  · rw [List.take_left, List.drop_left, matchRuns_blanks, if_pos blank]
    rfl
  · intro count tried
    rw [matchRuns_blanks, not_blank_drop last (List.mem_range.mp tried)]
    rfl

theorem matchRuns_dividing (cs : List Char) :
    matchRuns dividing cs = some [(divide cs).lead, (divide cs).content, (divide cs).trail] :=
  matchRuns_longest (matchRuns_shortest (trimStart cs))

end Search

/-! ## What a division is -/

/-- Parts that make up a text: blanks, as many as it starts with, content without blanks at either end, and
blanks. -/
structure Parted (cs : List Char) (parts : Division) : Prop where
  whole : parts.lead ++ parts.content ++ parts.trail = cs
  blankLead : parts.lead.all isBlank = true
  blankTrail : parts.trail.all isBlank = true
  first : ∀ c, parts.content.head? = some c → isBlank c = false
  last : ∀ c, parts.content.getLast? = some c → isBlank c = false
  longest : ∀ blanks, blanks <+: cs → blanks.all isBlank = true → blanks <+: parts.lead

section Parts

variable {cs : List Char} {parts : Division}

theorem parted_divide (cs : List Char) : Parted cs (divide cs) := by
  refine ⟨divide_append cs, all_lead cs, all_trail cs, fun _ => head?_trim, fun _ => getLast?_trim, ?_⟩
  rintro blanks ⟨rest, rfl⟩ blank
  rw [divide, List.takeWhile_append_of_pos (List.all_eq_true.mp blank)]
  exact List.prefix_append blanks _

theorem Parted.eq_divide (parted : Parted cs parts) : parts = divide cs := by
  obtain ⟨lead, content, trail⟩ := parts
  obtain ⟨whole, blankLead, blankTrail, first, last, longest⟩ := parted
  rw [List.append_assoc] at whole
  by_cases filled : content = []
  · -- then all is blank, and the longest blank start leaves nothing for the trail
    subst filled
    have blank : cs.all isBlank = true := by
      rw [← whole, List.all_append, blankLead, List.nil_append, blankTrail]
      rfl
    have start : lead = cs :=
      List.IsPrefix.eq_of_length ⟨trail, whole⟩
        (Nat.le_antisymm (List.IsPrefix.length_le ⟨trail, whole⟩)
          (longest cs List.prefix_rfl blank).length_le)
    subst start
    have rest : trail = [] := List.append_right_eq_self.mp whole
    rw [divide_of_blank blank, rest]
  · rw [← whole, divide_of_parts blankLead blankTrail (trim_eq_self first last) filled]

theorem parted_iff : Parted cs parts ↔ parts = divide cs := by
  refine ⟨Parted.eq_divide, ?_⟩
  rintro rfl
  exact parted_divide cs

end Parts

end TemplateSpacing.Text

/-! ## Blank tests -/

namespace TemplateSpacing.Pass

open TemplateSpacing.Tree
open TemplateSpacing.Text (divide dividing matchRuns Parted)

theorem isAllBlank_iff_content (chars : String) :
    Text.isAllBlank chars = true ↔ (divide chars.toList).content = [] := by
  rw [isAllBlank_eq, List.isEmpty_iff]

section BlankTests

variable (chars : String) (notes : Notes) (extras : Entries Value)

/-- The first pass hands on what is pending past a text without content. -/
theorem classify_text (config : Config) (pending : Option String) :
    (classify config pending ⟨.text chars, notes, extras⟩).map Prod.snd =
      .ok (if (divide chars.toList).content = [] then pending else none) := by
  simp only [classify, Except.map, isAllBlank_iff_content]

theorem isDanglingBody_text :
    isDanglingBody [⟨.text chars, notes, extras⟩] = true ↔ (divide chars.toList).content = [] :=
  isAllBlank_iff_content chars

theorem content_pieceOf_text :
    (pieceOf ⟨.text chars, notes, extras⟩).content = none ↔ (divide chars.toList).content = [] := by
  rw [content_pieceOf, ← isAllBlank_iff_content, isBlankText]
  cases Text.isAllBlank chars <;> simp

end BlankTests

/-- The search for blanks, content and blanks finds the division of every text.  A division is told by what its
parts are.  Its content is the trimmed text, and it is empty exactly for the texts that the passes take for
blank, which are nothing but lead. -/
theorem divide_parted (chars : String) :
    matchRuns dividing chars.toList = some [(divide chars.toList).lead, (divide chars.toList).content,
      (divide chars.toList).trail] ∧
    (∀ parts, Parted chars.toList parts ↔ parts = divide chars.toList) ∧
    String.ofList (divide chars.toList).content = Text.strip chars ∧
    ((divide chars.toList).content = [] ↔ Text.strip chars = "") ∧
    ((divide chars.toList).content = [] ↔ divide chars.toList = ⟨chars.toList, [], []⟩) ∧
    ∀ (notes : Notes) (extras : Entries Value),
      (∀ config pending, (classify config pending ⟨.text chars, notes, extras⟩).map Prod.snd =
        .ok (if (divide chars.toList).content = [] then pending else none)) ∧
      (isDanglingBody [⟨.text chars, notes, extras⟩] = true ↔ (divide chars.toList).content = []) ∧
      ((pieceOf ⟨.text chars, notes, extras⟩).content = none ↔ (divide chars.toList).content = []) := by
  refine ⟨Text.matchRuns_dividing _, fun _ => Text.parted_iff, rfl, ?_, ?_, ?_⟩
  · rw [← String.toList_eq_nil_iff, Text.toList_strip]
    rfl
  · constructor
    · exact fun empty => Text.divide_of_blank ((Text.trim_eq_nil_iff _).mp empty)
    · exact congrArg Text.Division.content
  · intro notes extras
    exact ⟨classify_text chars notes extras, isDanglingBody_text chars notes extras,
      content_pieceOf_text chars notes extras⟩

/-- A separator of records is a blank, and blanks within the content stay. -/
example : divide "\x1e a\n b ".toList = ⟨['\x1e', ' '], ['a', '\n', ' ', 'b'], [' ']⟩ := by decide

end TemplateSpacing.Pass
