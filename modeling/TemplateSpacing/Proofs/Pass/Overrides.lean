import TemplateSpacing.Proofs.Pass.NormalForm
import TemplateSpacing.Proofs.Pass.Settled

/-! # Displays that comments name

The first pass carries a comment along the siblings.  For the display of an element this comes to a
search backwards: the nearest sibling in front that is not a blank text decides whether a comment has a
say, and nothing outside the list of siblings does.
-/

set_option autoImplicit false

namespace TemplateSpacing.Pass

open TemplateSpacing.Config (Mode)
open TemplateSpacing.Tree

/-! ## Comments -/

/-- A comment that names a display: the word, a colon and the display, with blanks around them. -/
structure Names (comment display : String) : Prop where
  parts : ∃ front between back : List Char,
    comment.toList = front ++ (overrideWord ++ (between ++ (display.toList ++ back))) ∧
      front.all Text.isBlank = true ∧ between.all Text.isBlank = true ∧ back.all Text.isBlank = true
  word : display.toList.all isWordChar = true
  given : display ≠ ""

section Comments

theorem isBlank_of_isWordChar {c : Char} (wordChar : isWordChar c = true) :
    Text.isBlank c = false := by
  have range : (97 ≤ c.toNat ∧ c.toNat ≤ 122) ∨ c.toNat = 45 := by
    simp only [isWordChar, Bool.or_eq_true, Bool.and_eq_true, decide_eq_true_eq] at wordChar
    rcases wordChar with ⟨low, high⟩ | rfl
    · exact .inl ⟨low, high⟩
    · exact .inr rfl
  simp [Text.isBlank]
  omega

theorem after?_eq_some {word cs rest : List Char} : after? word cs = some rest ↔ cs = word ++ rest := by
  rw [after?]
  constructor
  · intro found
    split at found
    · next isPrefix =>
        obtain ⟨rest, rfl⟩ := List.isPrefixOf_iff_prefix.mp isPrefix
        rw [List.drop_left] at found
        rw [Option.some.inj found]
    · cases found
  · rintro rfl
    rw [if_pos (List.isPrefixOf_iff_prefix.mpr (List.prefix_append word rest)), List.drop_left]

theorem takeWhile_isWordChar {word back : List Char} (isWord : word.all isWordChar = true)
    (blank : back.all Text.isBlank = true) :
    (word ++ back).takeWhile isWordChar = word ∧ (word ++ back).dropWhile isWordChar = back := by
  have noWord : ∀ c, back.head? = some c → ¬isWordChar c = true := by
    intro c first wordChar
    have isBlank := List.all_eq_true.mp blank c (List.mem_of_mem_head? first)
    rw [isBlank_of_isWordChar wordChar] at isBlank
    cases isBlank
  have each := List.all_eq_true.mp isWord
  rw [List.takeWhile_append_of_pos each, List.dropWhile_append_of_pos each]
  cases back with
  | nil => exact ⟨List.append_nil word, rfl⟩
  | cons c rest =>
      have stop := noWord c rfl
      rw [List.takeWhile_cons_of_neg stop, List.dropWhile_cons_of_neg stop, List.append_nil]
      exact ⟨rfl, rfl⟩

theorem overrideChars?_eq_some {comment word : List Char} :
    overrideChars? comment = some word ↔ ∃ front between back : List Char,
      comment = front ++ (overrideWord ++ (between ++ (word ++ back))) ∧
        front.all Text.isBlank = true ∧ between.all Text.isBlank = true ∧
        back.all Text.isBlank = true ∧ word.all isWordChar = true ∧ word ≠ [] := by
  constructor
  · intro found
    rw [overrideChars?] at found
    split at found
    · cases found
    · next rest after =>
        simp only at found
        split at found
        · next check =>
            obtain ⟨given, back⟩ := Bool.and_eq_true_iff.mp check
            obtain rfl := Option.some.inj found
            refine ⟨comment.takeWhile Text.isBlank, rest.takeWhile Text.isBlank,
              (Text.trimStart rest).dropWhile isWordChar, ?_, List.all_takeWhile, List.all_takeWhile,
              back, List.all_takeWhile, ?_⟩
            · rw [List.takeWhile_append_dropWhile, Text.trimStart, List.takeWhile_append_dropWhile,
                ← after?_eq_some.mp after, Text.trimStart, List.takeWhile_append_dropWhile]
            · simpa using given
        · cases found
  · rintro ⟨front, between, back, rfl, blankFront, blankBetween, blankBack, isWord, given⟩
    have start : Text.trimStart (front ++ (overrideWord ++ (between ++ (word ++ back)))) =
        overrideWord ++ (between ++ (word ++ back)) := by
      apply Text.trimStart_append blankFront
      intro c first
      cases first
      rfl
    have middle : Text.trimStart (between ++ (word ++ back)) = word ++ back := by
      apply Text.trimStart_append blankBetween
      intro c first
      obtain ⟨c', rest, rfl⟩ := List.exists_cons_of_ne_nil given
      cases first
      exact isBlank_of_isWordChar (List.all_eq_true.mp isWord _ List.mem_cons_self)
    obtain ⟨taken, dropped⟩ := takeWhile_isWordChar isWord blankBack
    have check : (!word.isEmpty && back.all Text.isBlank) = true := by
      rw [blankBack, Bool.and_true, Bool.not_eq_true', List.isEmpty_eq_false_iff]
      exact given
    rw [overrideChars?, start, after?_eq_some.mpr rfl]
    simp only [middle, taken, dropped]
    rw [if_pos check]

theorem override?_eq_some {comment display : String} :
    override? comment = some display ↔ Names comment display := by
  rw [override?, Option.map_eq_some_iff]
  constructor
  · rintro ⟨word, found, rfl⟩
    obtain ⟨front, between, back, whole, blankFront, blankBetween, blankBack, isWord, given⟩ :=
      overrideChars?_eq_some.mp found
    refine ⟨⟨front, between, back, ?_, blankFront, blankBetween, blankBack⟩, ?_, ?_⟩
    · rw [String.toList_ofList, whole]
    · rw [String.toList_ofList]
      exact isWord
    · intro empty
      exact given (String.ofList_eq_empty_iff.mp empty)
  · rintro ⟨⟨front, between, back, whole, blankFront, blankBetween, blankBack⟩, isWord, given⟩
    refine ⟨display.toList, ?_, String.ofList_toList⟩
    refine overrideChars?_eq_some.mpr
      ⟨front, between, back, whole, blankFront, blankBetween, blankBack, isWord, ?_⟩
    intro empty
    exact given (String.toList_eq_nil_iff.mp empty)

end Comments

/-! ## Siblings -/

/-- The sibling that has a say in the display of what comes after some siblings: the nearest one that is
not a blank text. -/
def inFront (front : List Kind) : Option Kind :=
  front.reverse.find? fun kind => !isBlankText kind

def comment? : Kind → Option String
  | .comment value => some value
  | .mustacheComment value => some value
  | _ => none

def modeDisplay (config : Config) (tag : String) : String :=
  match config.mode with
  | .strict => "inline"
  | .ignore => "block"
  | .css => config.displayOf tag

def displayBehind (config : Config) (front : List Kind) : Kind → String
  | .element tag _ =>
    (((inFront front).bind comment?).bind override?).getD (modeDisplay config tag)
  | .text _ => "inline"
  | _ => "block"

section Siblings

variable {config : Config}

theorem inFront_append (front : List Kind) (kind : Kind) :
    inFront (front ++ [kind]) = if isBlankText kind then inFront front else some kind := by
  rw [inFront, List.reverse_append, List.reverse_singleton, List.singleton_append, List.find?_cons,
    inFront]
  cases isBlankText kind <;> rfl

/-- Carrying a comment along comes to searching for it backwards. -/
theorem foldl_pendingAfter (pending : Option String) (front : List Kind) :
    front.foldl pendingAfter pending = (inFront front).elim pending comment? := by
  induction front using List.reverseRecOn with
  | nil => rfl
  | append_singleton front kind ih =>
      rw [List.foldl_append, List.foldl_cons, List.foldl_nil, ih, inFront_append]
      cases blank : isBlankText kind with
      | true => exact pendingAfter_of_blank blank
      | false =>
          cases kind with
          | text chars => exact if_neg (Bool.not_eq_true _ ▸ blank)
          | _ => rfl

theorem displayWord_inFront (front : List Kind) (kind : Kind) :
    displayWord config (front.foldl pendingAfter none) kind = displayBehind config front kind := by
  have carried : front.foldl pendingAfter none = (inFront front).bind comment? := by
    rw [foldl_pendingAfter]
    cases inFront front <;> rfl
  cases kind with
  | element tag attributes =>
      rw [displayWord, displayBehind, carried, elementDisplay, tagFreeDisplay?, modeDisplay]
      cases ((inFront front).bind comment?).bind override? with
      | some display => rfl
      | none => cases config.mode <;> rfl
  | _ => rfl

/-- A comment has its say over blanks, and in one element only. -/
example :
    let hide := Kind.comment " display: none"
    displayBehind Config.builtin [hide, .text " "] (.element "em" []) = "none" ∧
      displayBehind Config.builtin [hide, .text " ", .element "em" []] (.element "em" []) =
        "inline" := by
  decide

theorem display_of_settledAll {pending : Option String} {labels front back : List Label}
    {label : Label} (settled : SettledAll config pending labels)
    (split : labels = front ++ label :: back) :
    label.notes.display = some (.text
      (displayWord config ((front.map Label.kind).foldl pendingAfter pending) label.kind)) := by
  subst split
  induction front generalizing pending with
  | nil => exact settled.1.display
  | cons first rest ih => exact ih settled.2

end Siblings

/-! ## Trees -/

def BehindSiblings (config : Config) (node : Node) : Prop :=
  ∀ front label back, node.kidLabels = front ++ label :: back →
    label.notes.display = some (.text (displayBehind config (front.map Label.kind) label.kind))

section Trees

variable {config : Config} {tree : Node}

theorem displayWord_isRoot {kind : Kind} (isRoot : kind.isRoot = true) (pending : Option String) :
    displayWord config pending kind = "block" := by
  cases kind with
  | root _ => rfl
  | _ => cases isRoot

theorem behindSiblings_displayed (config : Config) (formed : tree.WellFormed) :
    (displayed config tree).Everywhere (BehindSiblings config) := by
  have arranged := arranged_displayed config tree
  have formedAfter := wellFormed_displayed config formed
  generalize displayed config tree = made at arranged formedAfter
  induction arranged with
  | @intro node here below ih =>
      refine .intro ?_ fun kid member => ih kid member (formedAfter.kid member)
      intro front label back split
      cases isContainer : node.label.kind.isContainer with
      | true =>
          rw [← displayWord_inFront]
          exact display_of_settledAll (here.below isContainer) split
      | false =>
          -- Bodies of blocks are classified on their own, whatever stands in front of them.
          have member : label ∈ node.kidLabels := by
            rw [split]
            exact List.mem_append_right _ List.mem_cons_self
          obtain ⟨kid, inKids, rfl⟩ := List.mem_map.mp member
          have isRoot := formedAfter.isRoot_of_closed isContainer inKids
          rw [((below kid inKids).here.own isRoot).display, ← displayWord_inFront,
            displayWord_isRoot isRoot, displayWord_isRoot isRoot]

theorem display_displayed (config : Config) (tree : Node) :
    (displayed config tree).label.notes.display =
      some (.text (displayBehind config [] tree.label.kind)) := by
  have own : (displayed config tree).label = classified config none tree.label :=
    Node.rewrite_label (displayRule config) true tree
  rw [own, classified_display, ← displayWord_inFront]
  rfl

/-- Assigning displays never fails on a well-formed tree and keeps its shape.  The top node gets the
display that it has behind no siblings, and every other node the one that it has behind its own; only a
comment of the given form names a display. -/
theorem displayLaw_classify (config : Config) (tree : Node) (formed : tree.WellFormed) :
    (preprocess config .classify tree).fault = none ∧
      shape (preprocess config .classify tree).state = shape tree ∧
      (preprocess config .classify tree).state.label.notes.display =
        some (.text (displayBehind config [] tree.label.kind)) ∧
      (preprocess config .classify tree).state.Everywhere (BehindSiblings config) ∧
      ∀ comment display, override? comment = some display ↔ Names comment display := by
  obtain ⟨done, state⟩ := preprocess_classify config formed
  rw [state]
  refine ⟨done, ?_, display_displayed config tree, behindSiblings_displayed config formed, ?_⟩
  · exact only_displayPass config (by decide) (by decide) (by decide) tree
  · intro comment display
    exact override?_eq_some

theorem displayLaw_classify_paragraph :
    paragraph.WellFormed ∧
      (preprocess Config.builtin .classify paragraph).state.Everywhere
        (BehindSiblings Config.builtin) :=
  ⟨by decide, (displayLaw_classify Config.builtin paragraph (by decide)).2.2.2.1⟩

end Trees

end TemplateSpacing.Pass
