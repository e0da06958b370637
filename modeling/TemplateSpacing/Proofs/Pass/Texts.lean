import TemplateSpacing.Proofs.Pass.Adjacency
import TemplateSpacing.Proofs.Pass.NormalForm

/-! # What becomes of text

The text of a tree is that of all texts in it, in document order.  A full pipeline takes nothing but
blanks out of it.  Whether it takes any out of an element is decided in every element below by its own
tag: a verbatim element keeps the texts right below it, unless it is cleared because a blank text is all
that it has, but elements that are not verbatim are tidied inside of it as anywhere else.
-/

set_option autoImplicit false

namespace TemplateSpacing.Pass

open TemplateSpacing.Tree

def ownText : Kind → List Char
  | .text chars => chars.toList
  | _ => []

mutual

def textOf : Node → List Char
  | ⟨label, kids⟩ => ownText label.kind ++ textOfAll kids

def textOfAll : List Node → List Char
  | [] => []
  | kid :: kids => textOf kid ++ textOfAll kids

end

/-- Characters of which nothing but blanks has been taken out. -/
structure Thinned (old new : List Char) : Prop where
  sublist : new.Sublist old
  content : new.filter (fun c => !Text.isBlank c) = old.filter fun c => !Text.isBlank c

structure Keeps (config : Config) (node : Node) (chars : String) : Prop where
  filled : node.label.kind.isElement = true → isHollow (kidKinds node) = true → chars = ""
  tight : isLoose config node.label.kind = true → Text.strip chars = chars

/-- A node that takes no characters from the texts right below it: it is no element with a blank text alone,
and unless it is verbatim, the texts have no outer blanks. -/
def Intact (config : Config) (node : Node) : Prop :=
  ∀ chars, Kind.text chars ∈ kidKinds node → Keeps config node chars

/-! ## Characters -/

section Characters

theorem Thinned.refl (chars : List Char) : Thinned chars chars :=
  ⟨List.Sublist.refl chars, rfl⟩

theorem Thinned.append {old new others rest : List Char} (first : Thinned old new)
    (second : Thinned others rest) : Thinned (old ++ others) (new ++ rest) := by
  refine ⟨first.sublist.append second.sublist, ?_⟩
  rw [List.filter_append, List.filter_append, first.content, second.content]

theorem Thinned.flatMap {α : Type} {items : List α} {old new : α → List Char}
    (each : ∀ item ∈ items, Thinned (old item) (new item)) :
    Thinned (items.flatMap old) (items.flatMap new) := by
  induction items with
  | nil => exact .refl []
  | cons first rest ih =>
      have own := each first List.mem_cons_self
      exact own.append (ih fun item member => each item (List.mem_cons_of_mem _ member))

theorem Thinned.of_blank {chars : List Char} (blank : chars.all Text.isBlank = true) :
    Thinned chars [] := by
  refine ⟨List.nil_sublist chars, (List.filter_eq_nil_iff.mpr ?_).symm⟩
  intro c member
  rw [List.all_eq_true.mp blank c member]
  decide

theorem Thinned.trim (chars : List Char) : Thinned chars (Text.trim chars) := by
  have lead := Thinned.of_blank (Text.all_lead chars)
  have trail := Thinned.of_blank (Text.all_trail chars)
  have parts := (lead.append (.refl (Text.divide chars).content)).append trail
  rw [Text.divide_append, List.nil_append, List.append_nil] at parts
  exact parts

end Characters

/-! ## Trees -/

section Trees

variable {config : Config}

theorem textOfAll_eq (kids : List Node) : textOfAll kids = kids.flatMap textOf := by
  induction kids with
  | nil => rfl
  | cons kid kids ih => rw [textOfAll, ih, List.flatMap_cons]

theorem textOf_eq (node : Node) :
    textOf node = ownText node.label.kind ++ node.kids.flatMap textOf := by
  cases node with
  | mk label kids => rw [textOf, textOfAll_eq]

theorem textOf_text {node : Node} {chars : String} (isText : node.label.kind = .text chars)
    (leaf : node.kids = []) : textOf node = chars.toList := by
  rw [textOf_eq, isText, leaf, List.flatMap_nil, List.append_nil]
  rfl

def leftOf (config : Config) (node kid : Node) : List Char :=
  if node.label.kind.isElement && isHollow (kidKinds node) then []
  else if isLoose config node.label.kind && isBlankText kid.label.kind then []
  else textOf (tidied config node.label.kind (norm config kid))

theorem textOf_norm (node : Node) :
    textOf (norm config node) =
      ownText node.label.kind ++ node.kids.flatMap (leftOf config node) := by
  rw [textOf_eq, norm_label, norm_kids, List.flatMap_map, survivors, ← kidKinds_eq]
  apply congrArg (ownText node.label.kind ++ ·)
  split
  · next emptied =>
      refine (List.flatMap_eq_nil_iff.mpr ?_).symm
      intro kid _
      rw [leftOf, if_pos emptied]
  · next filled =>
      split
      · next loose =>
          rw [flatMap_filter]
          apply List.flatMap_congr
          intro kid _
          rw [leftOf, if_neg filled, loose, Bool.true_and]
          cases isBlankText kid.label.kind <;> rfl
      · next kept =>
          apply List.flatMap_congr
          intro kid _
          rw [Bool.not_eq_true] at kept
          rw [leftOf, if_neg filled, kept, Bool.false_and]
          rfl

theorem tidied_other (kind : Kind) {node : Node} (other : node.label.kind.isText = false) :
    tidied config kind node = node := by
  cases node with
  | mk label kids =>
      rw [tidied, trimmed_other other]
      exact ite_self _

/-- Nothing but texts loses characters to its parent. -/
theorem leftOf_other {node kid : Node} (member : kid ∈ node.kids)
    (other : kid.label.kind.isText = false) : leftOf config node kid = textOf (norm config kid) := by
  have filled : isBlankText kid.label.kind = false := by
    rw [← Bool.not_eq_true]
    intro blank
    exact absurd (isText_of_blank blank) (other ▸ Bool.false_ne_true)
  have hollow : isHollow (kidKinds node) = false := by
    rw [← Bool.not_eq_true]
    intro hollow
    have blank := all_blank_of_hollow hollow _ (kind_mem_kidKinds member)
    exact absurd blank (filled ▸ Bool.false_ne_true)
  have normOther : (norm config kid).label.kind.isText = false := by
    rw [norm_label]
    exact other
  rw [leftOf, hollow, filled, Bool.and_false, Bool.and_false, tidied_other _ normOther]
  rfl

theorem norm_leaf (label : Label) : norm config ⟨label, []⟩ = ⟨label, []⟩ := by
  have none : survivors config label.kind [] = [] :=
    List.sublist_nil.mp (survivors_sublist config label.kind [])
  rw [norm, normAll, none, List.map_nil]

theorem textOf_leaf (label : Label) : textOf ⟨label, []⟩ = ownText label.kind :=
  List.append_nil _

theorem leftOf_text {node kid : Node} {chars : String} (isText : kid.label.kind = .text chars)
    (leaf : kid.kids = []) :
    leftOf config node kid =
      if node.label.kind.isElement && isHollow (kidKinds node) then []
      else if isLoose config node.label.kind then Text.trim chars.toList
      else chars.toList := by
  cases kid with
  | mk label kids =>
      cases leaf
      have own : ownText label.kind = chars.toList := congrArg ownText isText
      have trims : ownText (trimmed label).kind = Text.trim chars.toList := by
        rw [trimmed, isText]
        exact Text.toList_strip chars
      rw [leftOf, norm_leaf, tidied, isText]
      cases isLoose config node.label.kind with
      | false => simp only [Bool.false_and, Bool.false_eq_true, if_false, textOf_leaf, own]
      | true =>
          simp only [Bool.true_and, if_true, textOf_leaf, trims]
          split
          · rfl
          · split
            · next blank => exact ((Text.trim_eq_nil_iff chars.toList).mpr blank).symm
            · rfl

theorem thinned_leftOf {node kid : Node} (formed : kid.WellFormed) (member : kid ∈ node.kids)
    (below : Thinned (textOf kid) (textOf (norm config kid))) :
    Thinned (textOf kid) (leftOf config node kid) := by
  cases kind : kid.label.kind with
  | text chars =>
      have leaf : kid.kids = [] := formed.kids_of_isTextLike (kind ▸ rfl)
      rw [leftOf_text kind leaf, textOf_text kind leaf]
      split
      · next emptied =>
          have hollow := (Bool.and_eq_true_iff.mp emptied).2
          have blank := all_blank_of_hollow hollow _ (kind_mem_kidKinds member)
          rw [kind] at blank
          exact .of_blank blank
      · split
        · exact .trim chars.toList
        · exact .refl chars.toList
  | _ =>
      rw [leftOf_other member (kind ▸ rfl)]
      exact below

theorem leftOf_text_eq_iff {node kid : Node} {chars : String} (isText : kid.label.kind = .text chars)
    (leaf : kid.kids = []) : leftOf config node kid = textOf kid ↔ Keeps config node chars := by
  rw [leftOf_text isText leaf, textOf_text isText leaf]
  cases emptied : node.label.kind.isElement && isHollow (kidKinds node) with
  | true =>
      obtain ⟨element, hollow⟩ := Bool.and_eq_true_iff.mp emptied
      rw [if_pos rfl]
      constructor
      · intro same
        obtain rfl := String.toList_eq_nil_iff.mp same.symm
        exact ⟨fun _ _ => rfl, fun _ => rfl⟩
      · rintro ⟨cleared, _⟩
        rw [cleared element hollow]
        rfl
  | false =>
      have filled : node.label.kind.isElement = true → isHollow (kidKinds node) = true → chars = "" := by
        intro element hollow
        rw [element, hollow] at emptied
        cases emptied
      rw [if_neg Bool.false_ne_true]
      cases loose : isLoose config node.label.kind with
      | false =>
          refine iff_of_true rfl ⟨filled, ?_⟩
          rw [loose]
          rintro ⟨⟩
      | true =>
          rw [if_pos rfl, ← Text.toList_strip, String.toList_inj]
          exact ⟨fun same => ⟨filled, fun _ => same⟩, fun keeps => keeps.tight loose⟩

theorem intact_iff (node : Node) : Intact config node ↔
    ∀ kid ∈ node.kids, ∀ chars, kid.label.kind = .text chars → Keeps config node chars := by
  rw [Intact, kidKinds_eq]
  constructor
  · intro keeps kid member chars isText
    exact keeps chars (isText ▸ List.mem_map_of_mem member)
  · intro keeps chars below
    obtain ⟨kid, member, isText⟩ := List.mem_map.mp below
    exact keeps kid member chars isText

theorem everywhere_intact_leaf {node : Node} (leaf : node.kids = []) :
    node.Everywhere (Intact config) := by
  refine .intro ((intact_iff node).mpr ?_) ?_
  · intro kid member
    rw [leaf] at member
    cases member
  · intro kid member
    rw [leaf] at member
    cases member

theorem leftOf_eq_iff {node kid : Node} (formed : kid.WellFormed) (member : kid ∈ node.kids)
    (below : textOf (norm config kid) = textOf kid ↔ kid.Everywhere (Intact config)) :
    leftOf config node kid = textOf kid ↔ kid.Everywhere (Intact config) ∧
      ∀ chars, kid.label.kind = .text chars → Keeps config node chars := by
  cases kind : kid.label.kind with
  | text chars =>
      have leaf : kid.kids = [] := formed.kids_of_isTextLike (kind ▸ rfl)
      rw [leftOf_text_eq_iff kind leaf, and_iff_right (everywhere_intact_leaf leaf)]
      constructor
      · rintro keeps _ ⟨⟩
        exact keeps
      · intro keeps
        exact keeps chars rfl
  | _ =>
      rw [leftOf_other member (kind ▸ rfl), below, and_iff_left]
      rintro chars ⟨⟩

/-- The normal form takes nothing but blanks out of the text of a tree. -/
theorem thinned_norm (config : Config) {node : Node} (formed : node.WellFormed) :
    Thinned (textOf node) (textOf (norm config node)) := by
  induction node using Node.induction with
  | step label kids below =>
      rw [textOf_norm, textOf_eq]
      refine (Thinned.refl _).append (.flatMap ?_)
      intro kid member
      exact thinned_leftOf (formed.kid member) member (below kid member (formed.kid member))

/-- The normal form takes nothing out of the text of a tree when no node takes anything from the texts right
below it, and only then. -/
theorem textOf_norm_eq_iff (config : Config) {node : Node} (formed : node.WellFormed) :
    textOf (norm config node) = textOf node ↔ node.Everywhere (Intact config) := by
  induction node using Node.induction with
  | step label kids below =>
      have pieces : ∀ kid ∈ kids, (leftOf config ⟨label, kids⟩ kid).Sublist (textOf kid) := by
        intro kid member
        exact (thinned_leftOf (formed.kid member) member (thinned_norm config (formed.kid member))).sublist
      have each : ∀ kid ∈ kids, leftOf config ⟨label, kids⟩ kid = textOf kid ↔
          kid.Everywhere (Intact config) ∧
            ∀ chars, kid.label.kind = .text chars → Keeps config ⟨label, kids⟩ chars := by
        intro kid member
        exact leftOf_eq_iff (formed.kid member) member (below kid member (formed.kid member))
      rw [textOf_norm, textOf_eq, List.append_right_inj, flatMap_eq_flatMap_iff pieces,
        forall₂_congr each, Node.Everywhere.iff_below, intact_iff]
      constructor
      · intro all
        exact ⟨fun kid member => (all kid member).2, fun kid member => (all kid member).1⟩
      · rintro ⟨own, later⟩ kid member
        exact ⟨later kid member, own kid member⟩

/-! ### Views -/

variable {kept : List Note}

@[simp] theorem textOf_only (node : Node) : textOf (node.only kept) = textOf node := by
  induction node using Node.induction with
  | step label kids below =>
      rw [textOf_eq, textOf_eq, Node.only, Node.mapLabels_label, Node.mapLabels_kids, List.flatMap_map,
        Label.only_kind]
      exact congrArg (ownText label.kind ++ ·) (List.flatMap_congr below)

theorem intact_only (node : Node) : Intact config (node.only kept) ↔ Intact config node := by
  have kind : (node.only kept).label.kind = node.label.kind := by
    rw [Node.only, Node.mapLabels_label, Label.only_kind]
  have kinds : kidKinds (node.only kept) = kidKinds node := Node.kinds_only kept node
  have keeps : ∀ chars, Keeps config (node.only kept) chars ↔ Keeps config node chars := by
    intro chars
    constructor
    · rintro ⟨filled, tight⟩
      rw [kind] at filled tight
      rw [kinds] at filled
      exact ⟨filled, tight⟩
    · rintro ⟨filled, tight⟩
      rw [← kind] at filled tight
      rw [← kinds] at filled
      exact ⟨filled, tight⟩
  rw [Intact, Intact, kinds]
  exact forall₂_congr fun chars _ => keeps chars

end Trees

/-! ## The pipeline -/

/-- What becomes of the text of a verbatim element: it loses nothing but blanks, and keeps those as well
when no node in the element takes characters out of texts, and only then. -/
def TextLaw (config : Config) (before after : Node) : Prop :=
  before.label.kind.isElement = true → isVerbatim config before.label.kind = true →
    Thinned (textOf before) (textOf after) ∧
      (textOf after = textOf before ↔ before.Everywhere (Intact config))

def WholeText (config : Config) (before after : Node) : Prop :=
  before.label.kind.isElement = true → isVerbatim config before.label.kind = true →
    textOf after = textOf before

section Pipeline

variable {config : Config}

theorem Touched.only_of_element {old new : Label} (touched : Touched old new)
    (element : old.kind.isElement = true) : new.only [] = old.only [] := by
  rcases touched with rfl | ⟨before, after, rfl⟩
  · rfl
  · have other : old.kind.isText = false := by
      rw [← Bool.not_eq_true]
      intro isText
      exact absurd element (isElement_of_isText isText ▸ Bool.false_ne_true)
    rw [only_spaced (by decide), trimmed_other other]

theorem textOf_rewrite (top : Bool) {before : Node} {label : Label}
    (touched : Touched before.label label) (element : before.label.kind.isElement = true) :
    textOf (Node.rewrite (whitespaceRule config) top ⟨label, before.kids⟩) =
      textOf (norm config (before.only [])) := by
  have view : (Node.mk label before.kids).only [] = before.only [] := by
    cases before with
    | mk old kids =>
        rw [Node.only, Node.only, Node.mapLabels_mk, Node.mapLabels_mk,
          touched.only_of_element element]
  rw [← view, ← only_whitespacePass config (by decide) top, textOf_only]

theorem textLaw_rewrite (top : Bool) {before : Node} {label : Label} (formed : before.WellFormed)
    (touched : Touched before.label label) :
    TextLaw config before (Node.rewrite (whitespaceRule config) top ⟨label, before.kids⟩) := by
  intro element _
  have formedView : (before.only []).WellFormed := (Node.wellFormed_only [] before).mpr formed
  have thinned := thinned_norm config formedView
  have whole := textOf_norm_eq_iff config formedView
  rw [textOf_only] at thinned whole
  rw [Node.Everywhere.only_iff intact_only] at whole
  rw [textOf_rewrite top touched element]
  exact ⟨thinned, whole⟩

theorem TextLaw.of_view {before other after : Node} (same : before.only [] = other.only [])
    (law : TextLaw config before after) : TextLaw config other after := by
  have text : textOf before = textOf other := by
    rw [← textOf_only before, same, textOf_only]
  have intact : before.Everywhere (Intact config) ↔ other.Everywhere (Intact config) := by
    rw [← Node.Everywhere.only_iff intact_only before, same, Node.Everywhere.only_iff intact_only]
  rw [TextLaw, (kinds_of_view same).1, text, intact] at law
  exact law

/-- A full pipeline never fails on a well-formed tree and takes nothing but blanks out of the text of a
verbatim element: those of a blank text that is all that an element in it has, and outer blanks of texts
right below elements in it that are not verbatim themselves. -/
theorem textLaw_preprocess (config : Config) (tree : Node) (formed : tree.WellFormed) :
    (preprocess config .preprocess tree).fault = none ∧
      Throughout (keptKids config) (TextLaw config) tree
        (preprocess config .preprocess tree).state := by
  obtain ⟨done, state⟩ := preprocess_preprocess config formed
  rw [state]
  refine ⟨done, throughout_pipeline (fun _ _ _ => TextLaw.of_view) ?_⟩
  refine throughout_whitespacePass ?_ (wellFormed_annotated config formed)
  intro top before label formed touched
  exact textLaw_rewrite top formed touched

theorem textLaw_preprocess_paragraph :
    paragraph.WellFormed ∧
      (preprocess Config.builtin .preprocess paragraph).fault = none ∧
      Throughout (keptKids Config.builtin) (TextLaw Config.builtin) paragraph
        (preprocess Config.builtin .preprocess paragraph).state :=
  ⟨by decide, textLaw_preprocess Config.builtin paragraph (by decide)⟩

def poem : Node :=
  ⟨.ofKind (.element "pre" []), [
    ⟨.ofKind (.element "b" []), [⟨.ofKind (.text " x "), []⟩]⟩,
    ⟨.ofKind (.element "pre" []), [⟨.ofKind (.text "\n"), []⟩]⟩]⟩

/-- The emphasis loses its outer blanks, and the blank element is cleared. -/
theorem not_wholeText_poem : poem.WellFormed ∧
    ¬WholeText Config.builtin poem (preprocess Config.builtin .preprocess poem).state := by
  have formed : poem.WellFormed := by decide
  refine ⟨formed, ?_⟩
  rw [(preprocess_preprocess Config.builtin formed).2]
  intro whole
  have same := whole rfl rfl
  revert same
  decide

end Pipeline

end TemplateSpacing.Pass
