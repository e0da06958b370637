import TemplateSpacing.Proofs.Pass.Adjacency
import TemplateSpacing.Proofs.Pass.Overrides
import TemplateSpacing.Proofs.Pass.ThirdRun

/-! # Siblings that come together

The second pass measures every edge between two siblings once and writes the result on both of its sides.
The third pass then takes blank texts out of elements, and siblings come together that were measured each
against a text.  Both sides of their edge are given here in closed form.  They may disagree: a block swallows
the white space next to it, and an inline box on the other side of the text does not.  Two texts or
expressions never disagree.
-/

set_option autoImplicit false

namespace TemplateSpacing.Pass

open TemplateSpacing.Tree

def stays (config : Config) (parent child : Kind) : Bool :=
  !(isLoose config parent && isBlankText child)

/-- Two siblings that stay, and between them none that does. -/
structure Seam (keeps : Kind → Bool) (kinds : List Kind) where
  front : List Kind
  left : Kind
  gap : List Kind
  right : Kind
  back : List Kind
  whole : kinds = front ++ left :: (gap ++ right :: back)
  keepsLeft : keeps left = true
  keepsRight : keeps right = true
  gone : ∀ kind ∈ gap, keeps kind = false

def Seam.index {keeps : Kind → Bool} {kinds : List Kind} (seam : Seam keeps kinds) : Nat :=
  (seam.front.filter keeps).length

/-- Whether white space between a child and a text matters, in a parent that is not verbatim. -/
def meetsText (parent child : Label) : Bool :=
  child.kind.isTextLike || (shown parent ≠ "none" && !Css.isBlockLike (shown child))

/-- What two siblings say about the edge between them, each as measured against what was next to it
before the gap closed. -/
def seamEdges (config : Config) (parent left right : Label) (gap : List Kind) : Bool × Bool :=
  if gap.isEmpty then (innerEdge config parent left right, innerEdge config parent left right)
  else (meetsText parent left, meetsText parent right)

def SeamLaw (config : Config) (before after : Node) : Prop :=
  after.label.kind.isContainer = true → ∀ index left right,
    after.kidLabels[index]? = some left → after.kidLabels[index + 1]? = some right →
      ∃ seam : Seam (stays config before.label.kind) (kidKinds before), seam.index = index ∧
        Flagged .trailingSensitive left (seamEdges config after.label left right seam.gap).1 ∧
        Flagged .leadingSensitive right (seamEdges config after.label left right seam.gap).2

/-! ## Edges -/

section Edges

variable {config : Config}

/-- An edge next to a text, which is an inline box. -/
theorem innerEdge_text {parent text : Label} (child : Label) (isText : text.kind.isText = true)
    (inline : shown text = "inline") (loose : isVerbatim config parent.kind = false) :
    innerEdge config parent child text = meetsText parent child := by
  have beside : Css.isBlockLike "inline" = false := by decide
  rw [innerEdge, meetsText, Node.isTextLike_of_isText isText, inline, loose, beside, Bool.and_true,
    Bool.false_or, Bool.not_false, Bool.and_true]

theorem seamEdges_of_faces {parent left right newParent newLeft newRight : Label}
    (above : SameFace config parent newParent) (first : SameFace config left newLeft)
    (second : SameFace config right newRight) (gap : List Kind) :
    seamEdges config newParent newLeft newRight gap = seamEdges config parent left right gap := by
  rw [seamEdges, seamEdges, innerEdge_of_faces above first second]
  simp only [meetsText, above.shown, first.shown, first.textLike, second.shown, second.textLike]

theorem seamEdges_of_textLike {left right : Label} (parent : Label) (gap : List Kind)
    (first : left.kind.isTextLike = true) (second : right.kind.isTextLike = true) :
    seamEdges config parent left right gap = (true, true) := by
  rw [seamEdges, innerEdge, meetsText, meetsText, first, second]
  exact ite_self _

/-- The two sides agree where nothing was taken out, and where a text would matter to both or to
neither. -/
theorem seamEdges_agree (parent left right : Label) (gap : List Kind) :
    (seamEdges config parent left right gap).1 = (seamEdges config parent left right gap).2 ↔
      gap = [] ∨ meetsText parent left = meetsText parent right := by
  rw [seamEdges]
  cases gap with
  | nil => simp
  | cons first rest => simp

end Edges

/-! ## One node -/

section Node

variable {config : Config} {before : Node}

theorem isText_of_gone {parent child : Kind} (gone : stays config parent child = false) :
    isLoose config parent = true ∧ child.isText = true := by
  rw [stays, Bool.not_eq_false', Bool.and_eq_true] at gone
  exact ⟨gone.1, isText_of_blank gone.2⟩

theorem shown_of_arranged (arranged : Arranged config before)
    (container : before.label.kind.isContainer = true) {front back : List Label} {text : Label}
    (split : before.kidLabels = front ++ text :: back) (isText : text.kind.isText = true) :
    shown text = "inline" := by
  have display := display_of_settledAll (arranged.below container) split
  rw [displayWord_of_isText _ isText] at display
  rw [shown, display]
  rfl

theorem flagged_before_text (measured : Measured config before) (arranged : Arranged config before)
    (container : before.label.kind.isContainer = true) (loose : isVerbatim config before.label.kind = false)
    {front back : List Label} {left text : Label}
    (split : before.kidLabels = front ++ left :: text :: back) (isText : text.kind.isText = true) :
    Flagged .trailingSensitive left (meetsText before.label left) := by
  have behind : before.kidLabels = (front ++ [left]) ++ text :: back := by
    rw [split, List.append_assoc]
    rfl
  have inline := shown_of_arranged arranged container behind isText
  have edge := (measured.inner container split).1
  rw [innerEdge_text left isText inline loose] at edge
  exact edge

theorem flagged_after_text (measured : Measured config before) (arranged : Arranged config before)
    (container : before.label.kind.isContainer = true) (loose : isVerbatim config before.label.kind = false)
    {front back : List Label} {text right : Label}
    (split : before.kidLabels = front ++ text :: right :: back) (isText : text.kind.isText = true) :
    Flagged .leadingSensitive right (meetsText before.label right) := by
  have inline := shown_of_arranged arranged container split isText
  have edge := (measured.inner container split).2
  rw [innerEdge_comm, innerEdge_text right isText inline loose] at edge
  exact edge

/-- What two siblings say about their edges, when only texts that will be taken out are between them. -/
theorem flagged_seam (measured : Measured config before) (arranged : Arranged config before)
    (container : before.label.kind.isContainer = true) {front gap back : List Label}
    {left right : Label} (split : before.kidLabels = front ++ left :: (gap ++ right :: back))
    (gone : ∀ label ∈ gap, stays config before.label.kind label.kind = false) :
    Flagged .trailingSensitive left
        (seamEdges config before.label left right (gap.map Label.kind)).1 ∧
      Flagged .leadingSensitive right
        (seamEdges config before.label left right (gap.map Label.kind)).2 := by
  cases gap with
  | nil => exact measured.inner container split
  | cons first rest =>
      have loose : isVerbatim config before.label.kind = false := by
        have loose := (isText_of_gone (gone first List.mem_cons_self)).1
        rw [isLoose, Bool.and_eq_true, Bool.not_eq_true'] at loose
        exact loose.2
      -- The first text of the gap is next to the sibling on the left, the last one to that on the right.
      obtain ⟨others, last, isLast⟩ : ∃ others last, first :: rest = others ++ [last] :=
        ⟨_, _, (List.dropLast_append_getLast (List.cons_ne_nil first rest)).symm⟩
      have isTextFirst := (isText_of_gone (gone first List.mem_cons_self)).2
      have isTextLast : last.kind.isText = true :=
        (isText_of_gone (gone last (isLast ▸ List.mem_append_right _ List.mem_cons_self))).2
      have fromLeft : before.kidLabels = front ++ left :: first :: (rest ++ right :: back) := split
      have fromRight : before.kidLabels = (front ++ left :: others) ++ last :: right :: back := by
        rw [split, isLast]
        simp only [List.append_assoc, List.cons_append, List.nil_append]
      exact ⟨flagged_before_text measured arranged container loose fromLeft isTextFirst,
        flagged_after_text measured arranged container loose fromRight isTextLast⟩

/-- Unless a node is emptied, which of its children stay is decided child by child. -/
theorem map_label_survivors {kind : Kind} {kids : List Node}
    (remain : survivors config kind kids ≠ []) :
    (survivors config kind kids).map Node.label =
      (kids.map Node.label).filter fun label => stays config kind label.kind := by
  rw [List.filter_map]
  apply congrArg (List.map Node.label)
  rw [survivors] at remain ⊢
  split at remain
  · exact absurd rfl remain
  · next filled =>
      rw [if_neg filled]
      split
      · next loose =>
          simp only [Function.comp_def, stays, loose, Bool.true_and]
      · next kept =>
          rw [Bool.not_eq_true] at kept
          simp only [Function.comp_def, stays, kept, Bool.false_and, Bool.not_false, List.filter_true]

theorem exists_seam {keeps : Kind → Bool} {labels front gap back : List Label} {left right : Label}
    (split : labels = front ++ left :: (gap ++ right :: back)) (keepsLeft : keeps left.kind = true)
    (keepsRight : keeps right.kind = true) (gone : ∀ label ∈ gap, keeps label.kind = false) :
    ∃ seam : Seam keeps (labels.map Label.kind), seam.gap = gap.map Label.kind ∧
      seam.index = (front.filter fun label => keeps label.kind).length := by
  have whole : labels.map Label.kind = front.map Label.kind ++ left.kind ::
      (gap.map Label.kind ++ right.kind :: back.map Label.kind) := by
    rw [split]
    simp only [List.map_append, List.map_cons]
  refine ⟨⟨_, _, _, _, _, whole, keepsLeft, keepsRight, List.forall_mem_map.mpr gone⟩, rfl, ?_⟩
  rw [Seam.index, List.filter_map, List.length_map]
  rfl

theorem Spared.sameFace {old new : Label} (spared : Spared old new) : SameFace config old new :=
  .of_alike spared.alike (spared.notes .display (by decide) (by decide))

theorem seamLaw_rewrite (top : Bool) {label : Label} (measured : Measured config before)
    (arranged : Arranged config before) (touched : Touched before.label label) :
    SeamLaw config before (Node.rewrite (whitespaceRule config) top ⟨label, before.kids⟩) := by
  intro container index left right here next
  have own := touched.spared_rewrite config top before.kids
  rw [isContainer_alike own.alike] at container
  have spared := forall₂_spared config top ⟨label, before.kids⟩
  rw [survivors_alike config touched.alike] at spared
  have remain : survivors config before.label.kind before.kids ≠ [] := by
    intro none
    rw [none, List.forall₂_nil_left_iff] at spared
    rw [spared] at here
    cases here
  rw [← List.forall₂_map_left_iff (f := Node.label), map_label_survivors remain] at spared
  obtain ⟨oldLeft, isLeft, sparedLeft⟩ := getElem?_of_forall₂_right spared here
  obtain ⟨oldRight, isRight, sparedRight⟩ := getElem?_of_forall₂_right spared next
  obtain ⟨front, gap, back, split, count, keepsLeft, keepsRight, gone⟩ :=
    exists_of_neighbours_filter isLeft isRight
  obtain ⟨seam, sameGap, position⟩ := exists_seam split keepsLeft keepsRight gone
  obtain ⟨ofLeft, ofRight⟩ := flagged_seam measured arranged container split gone
  refine ⟨seam, position.trans count, ?_⟩
  rw [sameGap, seamEdges_of_faces own.sameFace sparedLeft.sameFace sparedRight.sameFace]
  have trailing := sparedLeft.notes .trailingSensitive (by decide) (by decide)
  have leading := sparedRight.notes .leadingSensitive (by decide) (by decide)
  exact ⟨trailing.trans ofLeft, leading.trans ofRight⟩

end Node

/-! ## The tree -/

section Tree

variable {config : Config} {tree : Node}

theorem SeamLaw.of_view {before other after : Node} (same : before.only [] = other.only [])
    (law : SeamLaw config before after) : SeamLaw config other after := by
  obtain ⟨kind, kinds⟩ := kinds_of_view same
  rw [SeamLaw, kind, kinds] at law
  exact law

theorem throughout_seams (config : Config) (tree : Node) :
    Throughout (keptKids config) (SeamLaw config) tree (normalized config tree) := by
  refine throughout_pipeline (fun _ _ _ => SeamLaw.of_view) ?_
  have measured := measured_sensitivityPass config (displayed config tree)
  have arranged : (annotated config tree).Everywhere (Arranged config) :=
    arranged_rewrite (quiet_sensitivityRule config) true (arranged_displayed config tree)
  refine throughout_whitespacePass ?_ (measured.and arranged)
  intro top before label ready touched
  exact seamLaw_rewrite top ready.here.1 ready.here.2 touched

end Tree

/-! ## Shared edges -/

def SharedEdges (node : Node) : Prop :=
  node.label.kind.isContainer = true → ∀ index left right,
    node.kidLabels[index]? = some left → node.kidLabels[index + 1]? = some right →
      left.notes.trailingSensitive = right.notes.leadingSensitive

/-- Two children that are left next to each other say what was measured on the edge between them or, when texts
were taken out there, on the edges between each of them and a text.  They say the same exactly when nothing was
taken out, or a text would matter to both of them or to neither. -/
def SeamAccord (config : Config) (before after : Node) : Prop :=
  after.label.kind.isContainer = true → ∀ index left right,
    after.kidLabels[index]? = some left → after.kidLabels[index + 1]? = some right →
      ∃ seam : Seam (stays config before.label.kind) (kidKinds before), seam.index = index ∧
        (seam.gap = [] → Flagged .trailingSensitive left (innerEdge config after.label left right) ∧
          Flagged .leadingSensitive right (innerEdge config after.label left right)) ∧
        (seam.gap ≠ [] → Flagged .trailingSensitive left (meetsText after.label left) ∧
          Flagged .leadingSensitive right (meetsText after.label right)) ∧
        (left.notes.trailingSensitive = right.notes.leadingSensitive ↔
          seam.gap = [] ∨ meetsText after.label left = meetsText after.label right)

section Shared

theorem SeamLaw.accord {config : Config} {before after : Node} (law : SeamLaw config before after) :
    SeamAccord config before after := by
  intro container index left right here next
  obtain ⟨seam, position, trailing, leading⟩ := law container index left right here next
  refine ⟨seam, position, fun closed => ?_, fun opened => ?_, ?_⟩
  · rw [seamEdges, closed] at trailing leading
    exact ⟨trailing, leading⟩
  · rw [seamEdges, if_neg (by rwa [List.isEmpty_iff])] at trailing leading
    exact ⟨trailing, leading⟩
  · have written : left.notes.trailingSensitive = some (.bool (seamEdges config after.label left right seam.gap).1) :=
      trailing
    have read : right.notes.leadingSensitive = some (.bool (seamEdges config after.label left right seam.gap).2) :=
      leading
    rw [written, read, Option.some.injEq, Value.bool.injEq]
    exact seamEdges_agree after.label left right seam.gap

/-- A full pipeline never fails on a decoded tree, and two children that it leaves next to each other agree
on the edge between them, unless it has taken texts out there that would matter to one of the two alone. -/
theorem seamAccord_preprocess (config : Config) (document : Value) (tree : Node)
    (decoded : decode document = .ok tree) :
    (preprocess config .preprocess tree).fault = none ∧
      Throughout (keptKids config) (SeamAccord config) tree
        (preprocess config .preprocess tree).state := by
  obtain ⟨done, state⟩ := preprocess_preprocess config (fresh_of_decode decoded).wellFormed
  rw [state]
  exact ⟨done, (throughout_seams config tree).imp fun _ _ law => law.accord⟩

theorem seamAccord_preprocess_gap :
    decode gap.document = .ok gap ∧
      (preprocess Config.builtin .preprocess gap).fault = none ∧
      Throughout (keptKids Config.builtin) (SeamAccord Config.builtin) gap
        (preprocess Config.builtin .preprocess gap).state :=
  ⟨decode_gap, seamAccord_preprocess Config.builtin gap.document gap decode_gap⟩

def joined : Node :=
  ⟨.ofKind (.element "p" []), [
    ⟨.ofKind (.element "div" []), []⟩,
    ⟨.ofKind (.text " "), []⟩,
    ⟨.ofKind (.element "b" []), []⟩]⟩

/-- The block swallows the blank next to it, and to the emphasis the blank matters. -/
theorem not_sharedEdges_joined : decode joined.document = .ok joined ∧
    ¬SharedEdges (preprocess Config.builtin .preprocess joined).state := by
  refine ⟨decode_bare (show joined.bare.WellFormed by decide), ?_⟩
  rw [(preprocess_preprocess Config.builtin (show joined.WellFormed by decide)).2]
  intro shared
  have same := congrArg (Option.map Value.isTruthy) (shared rfl 0 _ _ rfl rfl)
  revert same
  decide

end Shared

/-! ## Text next to text -/

def Glued (node : Node) : Prop :=
  node.label.kind.isContainer = true → ∀ index left right,
    node.kidLabels[index]? = some left → node.kidLabels[index + 1]? = some right →
      left.kind.isTextLike = true → right.kind.isTextLike = true →
        Flagged .trailingSensitive left true ∧ Flagged .leadingSensitive right true

section Glued

theorem SeamLaw.glued {config : Config} {before after : Node} (law : SeamLaw config before after) :
    Glued after := by
  intro container index left right here next first second
  obtain ⟨seam, _, trailing, leading⟩ := law container index left right here next
  rw [seamEdges_of_textLike after.label seam.gap first second] at trailing leading
  exact ⟨trailing, leading⟩

theorem glued_normalized (config : Config) (tree : Node) : (normalized config tree).Everywhere Glued :=
  (throughout_seams config tree).everywhere fun _ _ law => law.glued

/-- Every run on a well-formed tree goes through and leaves texts and expressions glued together. -/
theorem glued_iterate_rerun (config : Config) (tree : Node) (formed : tree.WellFormed) (count : Nat) :
    (preprocess config .preprocess ((rerun config)^[count] tree)).fault = none ∧
      ((rerun config)^[count + 1] tree).Everywhere Glued := by
  refine ⟨fault_rerun config formed count, ?_⟩
  rw [Function.iterate_succ_apply', rerun_eq config (wellFormed_iterate_rerun formed count)]
  exact glued_normalized config _

theorem glued_iterate_rerun_paragraph :
    paragraph.WellFormed ∧
      (preprocess Config.builtin .preprocess ((rerun Config.builtin)^[2] paragraph)).fault = none ∧
      ((rerun Config.builtin)^[3] paragraph).Everywhere Glued :=
  ⟨by decide, glued_iterate_rerun Config.builtin paragraph (by decide) 2⟩

end Glued

end TemplateSpacing.Pass
