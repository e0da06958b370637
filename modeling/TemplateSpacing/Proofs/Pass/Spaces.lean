import TemplateSpacing.Pass.Whitespace
import TemplateSpacing.Proofs.Text.Trim
import TemplateSpacing.Proofs.Tree.View

/-! # What the third pass does

On a well-formed tree the third pass never fails: it rewrites the tree by a rule.  Which children of
a node stay depends on the kinds alone; those of an element that is not verbatim are trimmed and get
notes on the white space next to them, all others stay as they are.
-/

set_option autoImplicit false

namespace TemplateSpacing.Pass

open TemplateSpacing.Tree

/-! ## The children that stay -/

/-- Whether a node of a kind is a text of white space alone, or an empty one. -/
def isBlankText : Kind → Bool
  | .text chars => Text.isAllBlank chars
  | _ => false

def kidKinds (node : Node) : List Kind :=
  node.kidLabels.map Label.kind

def isHollow : List Kind → Bool
  | [] => true
  | [kind] => isBlankText kind
  | _ => false

/-- Whether nodes of a kind are elements that white space is taken out of. -/
def isLoose (config : Config) (kind : Kind) : Bool :=
  kind.isElement && !isVerbatim config kind

def survivors (config : Config) (kind : Kind) (kids : List Node) : List Node :=
  if kind.isElement && isHollow (kids.map fun kid => kid.label.kind) then []
  else if isLoose config kind then kids.filter fun kid => !isBlankText kid.label.kind
  else kids

def trimmedKind : Kind → Kind
  | .text chars => .text (Text.strip chars)
  | kind => kind

def trimmed (label : Label) : Label :=
  { label with kind := trimmedKind label.kind }

def spaced (before after : Bool) (label : Label) : Label :=
  (label.withFlag .leadingSpaces before).withFlag .trailingSpaces after

def keptLabels (children : List Label) : List (Option Label) :=
  (keptFrom false (children.map pieceOf)).map (Option.map Kept.written)

def whitespaceRule (config : Config) : Rule := fun _ label below =>
  if label.kind.isElement then
    if isDanglingBody below then
      (label.withFlag .danglingSpaces (!below.isEmpty || Notes.holds label.notes.danglingSpaces),
        below.map fun _ => none)
    else
      ((label.withFlag .whitespaceSensitive (isVerbatim config label.kind)).withFlag
          .indentationSensitive (isVerbatim config label.kind),
        if isVerbatim config label.kind then below.map some else keptLabels below)
  else (label, below.map some)

section Labels

theorem isDanglingBody_eq (labels : List Label) :
    isDanglingBody labels = isHollow (labels.map Label.kind) := by
  match labels with
  | [] => rfl
  | [⟨kind, _, _⟩] =>
      cases kind with
      | text chars => rfl
      | _ => rfl
  | _ :: _ :: _ => rfl

theorem kidKinds_eq (node : Node) : kidKinds node = node.kids.map fun kid => kid.label.kind :=
  List.map_map

theorem kind_mem_kidKinds {node kid : Node} (member : kid ∈ node.kids) :
    kid.label.kind ∈ kidKinds node :=
  List.mem_map_of_mem (List.mem_map_of_mem member)

theorem isText_of_blank {kind : Kind} (blank : isBlankText kind = true) : kind.isText = true := by
  cases kind with
  | text _ => rfl
  | _ => cases blank

theorem trimmed_other {label : Label} (other : label.kind.isText = false) : trimmed label = label := by
  cases label with
  | mk kind notes extras =>
      cases kind with
      | text _ => cases other
      | _ => rfl

theorem trimmedKind_alike (kind : Kind) : Kind.Alike kind (trimmedKind kind) := by
  cases kind with
  | text _ => exact .inr ⟨rfl, rfl⟩
  | _ => exact .inl rfl

theorem isLoose_of_isText {config : Config} {kind : Kind} (text : kind.isText = true) :
    isLoose config kind = false := by
  cases kind with
  | text _ => rfl
  | _ => cases text

theorem isLoose_alike {config : Config} {old new : Kind} (alike : Kind.Alike old new) :
    isLoose config new = isLoose config old := by
  rcases alike with rfl | ⟨oldText, newText⟩
  · rfl
  · rw [isLoose_of_isText oldText, isLoose_of_isText newText]

theorem isElement_of_isText {kind : Kind} (text : kind.isText = true) : kind.isElement = false := by
  cases kind with
  | text _ => rfl
  | _ => cases text

theorem isElement_alike {old new : Kind} (alike : Kind.Alike old new) :
    new.isElement = old.isElement := by
  rcases alike with rfl | ⟨oldText, newText⟩
  · rfl
  · rw [isElement_of_isText oldText, isElement_of_isText newText]

theorem tag?_of_isText {kind : Kind} (text : kind.isText = true) : kind.tag? = none := by
  cases kind with
  | text _ => rfl
  | _ => cases text

/-- Which children of a text stay does not depend on its characters: all do. -/
theorem survivors_alike (config : Config) {old new : Kind} (alike : Kind.Alike old new)
    (kids : List Node) : survivors config new kids = survivors config old kids := by
  rcases alike with rfl | ⟨oldText, newText⟩
  · rfl
  · simp only [survivors, isLoose, isElement_of_isText oldText, isElement_of_isText newText,
      Bool.false_and]

/-- Which children stay depends on their kinds alone. -/
theorem survivors_map (config : Config) (kind : Kind) (kids : List Node) {f : Node → Node}
    (same : ∀ kid, (f kid).label.kind = kid.label.kind) :
    survivors config kind (kids.map f) = (survivors config kind kids).map f := by
  simp only [survivors, List.map_map, Function.comp_def, same]
  split
  · rfl
  · split
    · rw [List.filter_map]
      simp only [Function.comp_def, same]
    · rfl

theorem mem_of_mem_survivors {config : Config} {kind : Kind} {kids : List Node} {kid : Node}
    (member : kid ∈ survivors config kind kids) : kid ∈ kids := by
  rw [survivors] at member
  split at member
  · cases member
  · split at member
    · exact List.mem_of_mem_filter member
    · exact member

theorem filled_of_mem_survivors {config : Config} {kind : Kind} {kids : List Node} {kid : Node}
    (loose : isLoose config kind = true) (member : kid ∈ survivors config kind kids) :
    isBlankText kid.label.kind = false := by
  rw [survivors, if_pos loose] at member
  split at member
  · cases member
  · simpa using (List.mem_filter.mp member).2

theorem trimmedKind_trimmedKind (kind : Kind) : trimmedKind (trimmedKind kind) = trimmedKind kind := by
  cases kind with
  | text chars => exact congrArg Kind.text (Text.strip_strip chars)
  | _ => rfl

theorem isAllBlank_eq (chars : String) :
    Text.isAllBlank chars = (Text.divide chars.toList).content.isEmpty := by
  rw [Bool.eq_iff_iff, Text.isAllBlank, ← Text.trim_eq_nil_iff, List.isEmpty_iff]
  rfl

theorem content_pieceOf (label : Label) :
    (pieceOf label).content = if isBlankText label.kind then none else some (trimmed label) := by
  cases label with
  | mk kind notes extras =>
      cases kind with
      | text chars =>
          simp only [pieceOf, isBlankText, isAllBlank_eq]
          rfl
      | _ => rfl

theorem forall₂_keptLabels (children : List Label) :
    List.Forall₂ (fun child made => ∃ before after,
        made = if isBlankText child.kind then none else some (spaced before after (trimmed child)))
      children (keptLabels children) := by
  rw [keptLabels, List.forall₂_map_right_iff]
  generalize false = before
  induction children generalizing before with
  | nil => exact .nil
  | cons child rest ih =>
      refine .cons ?_ (ih _)
      rw [content_pieceOf]
      cases isBlankText child.kind
      · exact ⟨_, _, rfl⟩
      · exact ⟨false, false, rfl⟩

theorem writeKept_eq {kept : List (Option Kept)}
    (known : ∀ child, some child ∈ kept → child.label.kind.isKnown = true) :
    (writeKept kept).fault = none ∧ (writeKept kept).state = kept.map (Option.map Kept.written) := by
  induction kept with
  | nil => exact ⟨rfl, rfl⟩
  | cons first rest ih =>
      obtain ⟨done, state⟩ := ih fun child member => known child (List.mem_cons_of_mem _ member)
      cases first with
      | none => exact ⟨done, by simp only [writeKept, Outcome.map, state]; rfl⟩
      | some child =>
          have hasNotes := Node.hasNotes_of_isKnown (known child List.mem_cons_self)
          simp only [writeKept, hasNotes, if_true]
          exact ⟨done, by simp only [Outcome.map, state]; rfl⟩

theorem known_of_mem_keptFrom {children : List Label}
    (known : ∀ child ∈ children, child.kind.isKnown = true) (before : Bool) (kept : Kept)
    (member : some kept ∈ keptFrom before (children.map pieceOf)) :
    kept.label.kind.isKnown = true := by
  induction children generalizing before with
  | nil => cases member
  | cons child rest ih =>
      rcases List.mem_cons.mp member with first | later
      · rw [content_pieceOf] at first
        have own := known child List.mem_cons_self
        cases blank : isBlankText child.kind with
        | true =>
            rw [blank] at first
            cases first
        | false =>
            rw [blank] at first
            obtain rfl := Option.some.inj first
            rcases trimmedKind_alike child.kind with same | ⟨_, isText⟩
            · simpa [trimmed, same] using own
            · generalize shape : trimmedKind child.kind = kind at isText
              simp only [trimmed, shape]
              cases kind with
              | text _ => rfl
              | _ => cases isText
      · exact ih (fun label member => known label (List.mem_cons_of_mem _ member)) _ later

theorem normalize_eq {children : List Label}
    (known : ∀ child ∈ children, child.kind.isKnown = true) :
    (normalize children).fault = none ∧ (normalize children).state = keptLabels children := by
  obtain ⟨done, state⟩ := writeKept_eq (known_of_mem_keptFrom known false)
  simp only [normalize, done]
  exact ⟨trivial, state⟩

end Labels

/-! ## The tree -/

section Tree

variable (config : Config)

theorem isWhitespaceSensitive_eq {kind : Kind} (element : kind.isElement = true) :
    isWhitespaceSensitive config kind = isVerbatim config kind := by
  cases kind with
  | element _ _ => rfl
  | _ => cases element

theorem reportTag_eq {α : Type} {kind : Kind} (element : kind.isElement = true) (state : α)
    (tail : String) :
    (reportTag state kind tail).fault = none ∧ (reportTag state kind tail).state = state := by
  cases kind with
  | element _ _ => exact ⟨rfl, rfl⟩
  | _ => cases element

section Cases

variable {config : Config} {label : Label} {below : List Label}

theorem whitespaceRule_other (top : Bool) (other : label.kind.isElement = false) :
    whitespaceRule config top label below = (label, below.map some) := by
  simp [whitespaceRule, other]

theorem whitespaceRule_hollow (top : Bool) (element : label.kind.isElement = true)
    (hollow : isHollow (below.map Label.kind) = true) :
    whitespaceRule config top label below =
      (label.withFlag .danglingSpaces (!below.isEmpty || Notes.holds label.notes.danglingSpaces),
        below.map fun _ => none) := by
  simp [whitespaceRule, element, isDanglingBody_eq, hollow]

theorem whitespaceRule_verbatim (top : Bool) (element : label.kind.isElement = true)
    (filled : isHollow (below.map Label.kind) = false)
    (verbatim : isVerbatim config label.kind = true) :
    whitespaceRule config top label below =
      ((label.withFlag .whitespaceSensitive true).withFlag .indentationSensitive true,
        below.map some) := by
  simp [whitespaceRule, element, isDanglingBody_eq, filled, verbatim]

theorem whitespaceRule_loose (top : Bool) (element : label.kind.isElement = true)
    (filled : isHollow (below.map Label.kind) = false)
    (loose : isVerbatim config label.kind = false) :
    whitespaceRule config top label below =
      ((label.withFlag .whitespaceSensitive false).withFlag .indentationSensitive false,
        keptLabels below) := by
  simp [whitespaceRule, element, isDanglingBody_eq, filled, loose]

end Cases

theorem extractFromElements_eq {top : Bool} {label : Label} {below : List Label}
    (known : ∀ child ∈ below, child.kind.isKnown = true) :
    (extractFromElements config top label below).fault = none ∧
      (extractFromElements config top label below).state = whitespaceRule config top label below := by
  rw [extractFromElements, whitespaceRule]
  cases element : label.kind.isElement with
  | false => exact ⟨rfl, rfl⟩
  | true =>
      simp only [if_true, extractWhitespace, isWhitespaceSensitive_eq config element,
        Label.withFlag_kind]
      split
      · exact reportTag_eq element _ _
      · split
        · exact reportTag_eq element _ _
        · obtain ⟨done, state⟩ := normalize_eq known
          exact ⟨done, by simp only [Outcome.map, state]⟩

theorem all_blank_of_hollow {kinds : List Kind} (hollow : isHollow kinds = true) :
    ∀ kind ∈ kinds, isBlankText kind = true := by
  match kinds with
  | [] => simp
  | [kind] =>
      intro other member
      rw [List.mem_singleton.mp member]
      exact hollow
  | _ :: _ :: _ => cases hollow

/-- The rule relates every label to what it writes on it, and removes blank texts from elements. -/
theorem forall₂_whitespaceRule (law : Label → Label → Prop) (same : ∀ label, law label label)
    (dangling : ∀ label flag, label.kind.isElement = true →
      law label (label.withFlag .danglingSpaces flag))
    (inner : ∀ label flag, label.kind.isElement = true →
      law label ((label.withFlag .whitespaceSensitive flag).withFlag .indentationSensitive flag))
    (sides : ∀ label before after, law label (spaced before after (trimmed label))) (top : Bool)
    (label : Label) (below : List Label) :
    law label (whitespaceRule config top label below).1 ∧
      List.Forall₂ (fun old made =>
        (made = none ∧ label.kind.isElement = true ∧ isBlankText old.kind = true) ∨
          ∃ new, made = some new ∧ law old new) below (whitespaceRule config top label below).2 := by
  have unchanged : List.Forall₂ (fun old made =>
      (made = none ∧ label.kind.isElement = true ∧ isBlankText old.kind = true) ∨
        ∃ new, made = some new ∧ law old new) below (below.map some) :=
    forall₂_map_some fun child _ => .inr ⟨child, rfl, same child⟩
  cases element : label.kind.isElement with
  | false =>
      rw [whitespaceRule_other top element]
      exact ⟨same label, element ▸ unchanged⟩
  | true =>
      rw [element] at unchanged
      cases hollow : isHollow (below.map Label.kind) with
      | true =>
          rw [whitespaceRule_hollow top element hollow, List.forall₂_map_right_iff]
          refine ⟨dangling label _ element, List.forall₂_same.mpr fun child member => .inl ?_⟩
          exact ⟨rfl, rfl, all_blank_of_hollow hollow _ (List.mem_map_of_mem member)⟩
      | false =>
          cases verbatim : isVerbatim config label.kind with
          | true =>
              rw [whitespaceRule_verbatim top element hollow verbatim]
              exact ⟨inner label true element, unchanged⟩
          | false =>
              rw [whitespaceRule_loose top element hollow verbatim]
              refine ⟨inner label false element, (forall₂_keptLabels below).imp ?_⟩
              rintro old made ⟨before, after, rfl⟩
              cases blank : isBlankText old.kind with
              | true => exact .inl ⟨rfl, rfl, rfl⟩
              | false => exact .inr ⟨_, rfl, sides old before after⟩

/-- A law of labels that the notes of the pass do not break, nor trimming. -/
theorem everywhere_whitespacePass {law : Label → Prop}
    (dangling : ∀ label flag, law label → law (label.withFlag .danglingSpaces flag))
    (inner : ∀ label flag, law label →
      law ((label.withFlag .whitespaceSensitive flag).withFlag .indentationSensitive flag))
    (sides : ∀ label before after, law label → law (spaced before after (trimmed label)))
    {tree : Node} (all : tree.Everywhere fun node => law node.label) :
    (tree.rewrite (whitespaceRule config) true).Everywhere fun node => law node.label := by
  refine Node.Everywhere.of_labels ?_ true all
  intro top label below
  obtain ⟨own, pairs⟩ := forall₂_whitespaceRule config (fun old new => law old → law new)
    (fun _ => id) (fun label flag _ => dangling label flag) (fun label flag _ => inner label flag)
    sides top label below
  refine ⟨own, pairs.imp ?_⟩
  rintro old made (⟨rfl, _⟩ | ⟨new, rfl, keeps⟩) _ same
  · cases same
  · cases same
    exact keeps

theorem whitespaceRule_tame : Tame (whitespaceRule config) where
  own := by
    intro top label below
    simp only [whitespaceRule]
    split
    · split <;> rfl
    · rfl
  kids := by
    intro top label below
    have rule := forall₂_whitespaceRule config (fun old new => Kind.Alike old.kind new.kind)
      (fun _ => .inl rfl) (fun _ _ _ => .inl rfl) (fun _ _ _ => .inl rfl)
      (fun label _ _ => trimmedKind_alike label.kind) top label below
    refine rule.2.imp ?_
    rintro old made (⟨rfl, element, _⟩ | kept)
    · exact .inl ⟨rfl, by rw [Kind.isContainer, element, Bool.or_true]⟩
    · exact .inr kept

theorem whitespacePass_follows :
    Follows (ofLabels (extractFromElements config)) (whitespaceRule config)
      fun _ node => node.WellFormed :=
  .ofLabels (whitespaceRule_tame config) (fun _ _ formed => formed)
    (fun _ _ formed => extractFromElements_eq config formed.isKnown_kidLabels)
    (fun _ _ formed _ member => formed.visitedKid (whitespaceRule_tame config) member)

/-- The children that get a label are those that are no blank texts. -/
theorem forall₂_relabel_keptLabels (kids : List Node) :
    List.Forall₂ (fun kid made => made.kids = kid.kids ∧
        ∃ before after, made.label = spaced before after (trimmed kid.label))
      (kids.filter fun kid => !isBlankText kid.label.kind)
      (Node.relabel kids (keptLabels (kids.map Node.label))) := by
  have pairs := forall₂_keptLabels (kids.map Node.label)
  generalize keptLabels (kids.map Node.label) = labels at pairs
  rw [List.forall₂_map_left_iff] at pairs
  induction pairs with
  | nil => exact .nil
  | @cons kid made kids labels first _ ih =>
      obtain ⟨before, after, rfl⟩ := first
      cases blank : isBlankText kid.label.kind with
      | true => simpa [blank] using ih
      | false =>
          simp only [List.filter_cons, blank, Bool.not_false, if_true, Bool.false_eq_true, if_false,
            Node.relabel_some]
          exact .cons ⟨rfl, before, after, rfl⟩ ih

/-- What the visit of a node leaves below it: the children that stay, in order, trimmed and spaced
under an element that is not verbatim. -/
theorem kids_visited_whitespaceRule (top : Bool) (node : Node) :
    List.Forall₂ (fun kid made => made.kids = kid.kids ∧
        if isLoose config node.label.kind = true then
          ∃ before after, made.label = spaced before after (trimmed kid.label)
        else made.label = kid.label)
      (survivors config node.label.kind node.kids) (node.visited (whitespaceRule config) top).kids := by
  have kinds : (node.kids.map fun kid => kid.label.kind) = node.kidLabels.map Label.kind :=
    (kidKinds_eq node).symm
  have unchanged : List.Forall₂ (fun kid made => made.kids = kid.kids ∧ made.label = kid.label)
      node.kids (Node.relabel node.kids (node.kidLabels.map some)) := by
    rw [Node.kidLabels, Node.relabel_same]
    exact List.forall₂_same.mpr fun _ _ => ⟨rfl, rfl⟩
  rw [Node.visited, survivors, isLoose, kinds]
  cases element : node.label.kind.isElement with
  | false =>
      rw [whitespaceRule_other top element]
      exact unchanged
  | true =>
      cases hollow : isHollow (node.kidLabels.map Label.kind) with
      | true =>
          rw [whitespaceRule_hollow top element hollow, Node.kidLabels, Node.relabel_removed]
          exact .nil
      | false =>
          cases verbatim : isVerbatim config node.label.kind with
          | true =>
              rw [whitespaceRule_verbatim top element hollow verbatim]
              exact unchanged
          | false =>
              rw [whitespaceRule_loose top element hollow verbatim]
              exact forall₂_relabel_keptLabels node.kids

end Tree

/-! ## The sides of children -/

def sideNotes : List Note := [.leadingSpaces, .trailingSpaces]

def innerNotes : List Note := [.whitespaceSensitive, .indentationSensitive, .danglingSpaces]

section Sides

/-- Of the notes of a node its own visit writes those on its inside. -/
theorem only_whitespaceRule (config : Config) {kept : List Note}
    (others : ∀ note ∈ innerNotes, note ∉ kept) (top : Bool) (label : Label) (below : List Label) :
    (whitespaceRule config top label below).1.only kept = label.only kept := by
  have whitespace := others .whitespaceSensitive (by decide)
  have indentation := others .indentationSensitive (by decide)
  have dangling := others .danglingSpaces (by decide)
  simp only [whitespaceRule, Label.withFlag]
  split
  · split
    · exact Label.only_note_of_notMem dangling _ _
    · rw [Label.only_note_of_notMem indentation, Label.only_note_of_notMem whitespace]
  · rfl

theorem sides_rewrite (config : Config) (top : Bool) (node : Node) :
    (node.rewrite (whitespaceRule config) top).kidLabels.map (Label.only sideNotes) =
      (node.visited (whitespaceRule config) top).kidLabels.map (Label.only sideNotes) :=
  Node.map_kidLabels_rewrite (only_whitespaceRule config (by decide) false) top node

theorem sides_of_only {new made : Label} (same : new.only sideNotes = made.only sideNotes) :
    new.kind = made.kind ∧ new.notes.leadingSpaces = made.notes.leadingSpaces ∧
      new.notes.trailingSpaces = made.notes.trailingSpaces := by
  have values : ∀ note ∈ sideNotes, _ := fun note isSide => Label.get_eq_of_only_eq note isSide same
  exact ⟨Label.kind_of_only_eq same, values .leadingSpaces (by decide), values .trailingSpaces (by decide)⟩

/-- What is below a node after the third pass was below it before and stayed, with new sides where white
space has been taken out. -/
theorem exists_survivor {config : Config} {top : Bool} {node : Node} {label : Label}
    (member : label ∈ (node.rewrite (whitespaceRule config) top).kidLabels) :
    ∃ kid ∈ survivors config node.label.kind node.kids, ∃ made : Label,
      label.only sideNotes = made.only sideNotes ∧
        if isLoose config node.label.kind = true then
          ∃ before after, made = spaced before after (trimmed kid.label)
        else made = kid.label := by
  have inSides := List.mem_map_of_mem (f := Label.only sideNotes) member
  rw [sides_rewrite] at inSides
  obtain ⟨made, inVisited, same⟩ := List.mem_map.mp inSides
  obtain ⟨visited, inKids, rfl⟩ := List.mem_map.mp inVisited
  have pairs := kids_visited_whitespaceRule config top node
  obtain ⟨kid, survives, _, written⟩ := exists_of_forall₂_right pairs inKids
  exact ⟨kid, survives, visited.label, same.symm, written⟩

end Sides

/-! ## Labels that stay -/

def Touched (old new : Label) : Prop :=
  new = old ∨ ∃ before after, new = spaced before after (trimmed old)

/-- What the third pass may make of a label that stays: texts may have lost outer blanks, and no notes but
those of the pass have changed. -/
structure Spared (old new : Label) : Prop where
  alike : Kind.Alike old.kind new.kind
  notes : ∀ note, note ∉ innerNotes → note ∉ sideNotes → new.notes.get note = old.notes.get note

section Spared

variable {old new : Label}

theorem Touched.alike (touched : Touched old new) : Kind.Alike old.kind new.kind := by
  rcases touched with rfl | ⟨before, after, rfl⟩
  · exact .inl rfl
  · exact trimmedKind_alike old.kind

theorem Touched.get (touched : Touched old new) {note : Note} (other : note ∉ sideNotes) :
    new.notes.get note = old.notes.get note := by
  rcases touched with rfl | ⟨before, after, rfl⟩
  · rfl
  · cases note with
    | leadingSpaces => exact absurd (by decide) other
    | trailingSpaces => exact absurd (by decide) other
    | _ => rfl

theorem forall₂_touched (config : Config) (top : Bool) (node : Node) :
    List.Forall₂ (fun kid made => made.kids = kid.kids ∧ Touched kid.label made.label)
      (survivors config node.label.kind node.kids) (node.visited (whitespaceRule config) top).kids := by
  refine (kids_visited_whitespaceRule config top node).imp ?_
  rintro kid made ⟨sameKids, written⟩
  refine ⟨sameKids, ?_⟩
  split at written
  · exact .inr written
  · exact .inl written

/-- The visit of a node itself writes nothing but what the pass notes on its inside. -/
theorem Touched.spared_rewrite (touched : Touched old new) (config : Config) (top : Bool)
    (kids : List Node) : Spared old (Node.rewrite (whitespaceRule config) top ⟨new, kids⟩).label := by
  rw [Node.rewrite_label]
  refine ⟨?_, ?_⟩
  · rw [Node.visited, (whitespaceRule_tame config).own]
    exact touched.alike
  · intro note notInner notSide
    have others : ∀ inner ∈ innerNotes, inner ∉ [note] := by
      intro inner isInner same
      rw [List.mem_singleton.mp same] at isInner
      exact notInner isInner
    have own := only_whitespaceRule config others top new (Node.kidLabels ⟨new, kids⟩)
    exact (Label.get_eq_of_only_eq note List.mem_cons_self own).trans (touched.get notSide)

theorem forall₂_spared (config : Config) (top : Bool) (node : Node) :
    List.Forall₂ (fun kid label => Spared kid.label label)
      (survivors config node.label.kind node.kids)
      (node.rewrite (whitespaceRule config) top).kidLabels := by
  rw [Node.kidLabels, Node.rewrite_kids, List.map_map, List.forall₂_map_right_iff]
  refine (forall₂_touched config top node).imp ?_
  rintro kid ⟨made, madeKids⟩ ⟨_, touched⟩
  exact touched.spared_rewrite config false madeKids

end Spared

end TemplateSpacing.Pass
