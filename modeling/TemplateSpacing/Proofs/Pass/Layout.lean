import TemplateSpacing.Proofs.Pass.Documents
import TemplateSpacing.Proofs.Pass.Seen
import TemplateSpacing.Proofs.Pass.Settled

/-! # Layout has no say

The outer blanks of the texts in an element that is not verbatim may be exchanged for other blanks.  No
pass looks at more of them than whether there are any, and the third pass takes them out, so the
documents come out the same.
-/

set_option autoImplicit false

namespace TemplateSpacing.Pass

open TemplateSpacing.Tree

/-! ## Texts -/

structure LaidOut (chars : String) (lead content trail : List Char) : Prop where
  whole : chars.toList = lead ++ (content ++ trail)
  lead : lead.all Text.isBlank = true
  content : Text.trim content = content
  trail : trail.all Text.isBlank = true

/-- Two texts with the same content, and with blanks at the same ends of it. -/
def Rewrapped (chars other : String) : Prop :=
  ∃ lead content trail newLead newTrail : List Char,
    LaidOut chars lead content trail ∧ LaidOut other newLead content newTrail ∧
      (newLead = [] ↔ lead = []) ∧ (newTrail = [] ↔ trail = [])

def seenOf (chars : String) : Bool × List Char × Bool :=
  let parts := Text.divide chars.toList
  (parts.lead.isEmpty, parts.content, parts.trail.isEmpty)

section Texts

theorem seenOf_laidOut {chars : String} {lead content trail : List Char}
    (laid : LaidOut chars lead content trail) :
    seenOf chars = if content = [] then ((lead ++ trail).isEmpty, [], true)
      else (lead.isEmpty, content, trail.isEmpty) := by
  rw [seenOf, laid.whole]
  split
  · next empty =>
      subst empty
      have blank : (lead ++ trail).all Text.isBlank = true := by
        rw [List.all_append, laid.lead, laid.trail]
        rfl
      rw [List.nil_append, Text.divide_of_blank blank]
      rfl
  · next filled => rw [Text.divide_of_parts laid.lead laid.trail laid.content filled]

theorem seenOf_rewrapped {chars other : String} (same : Rewrapped chars other) :
    seenOf other = seenOf chars := by
  obtain ⟨lead, content, trail, newLead, newTrail, laid, newLaid, leads, trails⟩ := same
  have first : newLead.isEmpty = lead.isEmpty := by
    rw [Bool.eq_iff_iff, List.isEmpty_iff, List.isEmpty_iff]
    exact leads
  have second : newTrail.isEmpty = trail.isEmpty := by
    rw [Bool.eq_iff_iff, List.isEmpty_iff, List.isEmpty_iff]
    exact trails
  have both : (newLead ++ newTrail).isEmpty = (lead ++ trail).isEmpty := by
    rw [Bool.eq_iff_iff, List.isEmpty_iff, List.isEmpty_iff, List.append_eq_nil_iff,
      List.append_eq_nil_iff, leads, trails]
  rw [seenOf_laidOut laid, seenOf_laidOut newLaid, first, second, both]

theorem isAllBlank_rewrapped {chars other : String} (same : Rewrapped chars other) :
    Text.isAllBlank other = Text.isAllBlank chars := by
  have content := congrArg (fun seen => seen.2.1) (seenOf_rewrapped same)
  simp only [seenOf] at content
  rw [isAllBlank_eq, isAllBlank_eq, content]

end Texts

/-! ## Labels -/

/-- A label that may stand for another one: under a loose parent a text may be laid out anew. -/
def Relaid (loose : Bool) (label other : Label) : Prop :=
  other = label ∨ (loose = true ∧ ∃ chars newChars, label.kind = .text chars ∧
    other = label.withChars newChars ∧ Rewrapped chars newChars)

section Labels

variable {config : Config} {loose : Bool} {label other : Label}

theorem Relaid.refl (loose : Bool) (label : Label) : Relaid loose label label := .inl rfl

theorem eq_of_relaid (same : Relaid false label other) : other = label :=
  same.resolve_right fun ⟨never, _⟩ => Bool.noConfusion never

theorem Relaid.alike (same : Relaid loose label other) : Kind.Alike label.kind other.kind := by
  rcases same with rfl | ⟨_, chars, newChars, isText, rfl, _⟩
  · exact .inl rfl
  · rw [isText]
    exact .inr ⟨rfl, rfl⟩

theorem Relaid.note (same : Relaid loose label other) (which : Note) (value : Option Value) :
    Relaid loose (label.note which value) (other.note which value) := by
  rcases same with rfl | ⟨isLoose, chars, newChars, isText, rfl, rewrapped⟩
  · exact .refl loose _
  · exact .inr ⟨isLoose, chars, newChars, isText, rfl, rewrapped⟩

theorem Relaid.isBlankText (same : Relaid loose label other) :
    isBlankText other.kind = isBlankText label.kind := by
  rcases same with rfl | ⟨_, chars, newChars, isText, rfl, rewrapped⟩
  · rfl
  · rw [isText]
    exact isAllBlank_rewrapped rewrapped

theorem Relaid.pieceOf (same : Relaid loose label other) : pieceOf other = pieceOf label := by
  rcases same with rfl | ⟨_, chars, newChars, isText, rfl, rewrapped⟩
  · rfl
  · have seen := seenOf_rewrapped rewrapped
    simp only [seenOf, Prod.mk.injEq] at seen
    obtain ⟨lead, content, trail⟩ := seen
    cases label with
    | mk kind notes extras =>
        obtain rfl : kind = .text chars := isText
        simp only [Pass.pieceOf, Label.withChars, lead, content, trail]

theorem Relaid.sameFace (same : Relaid loose label other) : SameFace config label other := by
  refine .of_alike same.alike ?_
  rcases same with rfl | ⟨_, _, _, _, rfl, _⟩
  · rfl
  · rfl

end Labels

/-! ## Siblings -/

section Siblings

variable {config : Config} {loose : Bool} {labels news : List Label}

abbrev RelaidAll (loose : Bool) : List Label → List Label → Prop :=
  List.Forall₂ (Relaid loose)

theorem eq_of_relaidAll (same : RelaidAll false labels news) : news = labels := by
  induction same with
  | nil => rfl
  | cons first _ ih => rw [eq_of_relaid first, ih]

theorem pendingAfter_relaid (pending : Option String) {label other : Label}
    (same : Relaid loose label other) :
    pendingAfter pending other.kind = pendingAfter pending label.kind := by
  rcases same with rfl | ⟨_, chars, newChars, isText, rfl, rewrapped⟩
  · rfl
  · rw [isText]
    simp only [Label.withChars, pendingAfter, isAllBlank_rewrapped rewrapped]

theorem classified_relaid (pending : Option String) {label other : Label}
    (same : Relaid loose label other) :
    Relaid loose (classified config pending label) (classified config pending other) := by
  have written : ∀ {label : Label} {chars : String}, label.kind = .text chars →
      classified config pending label = label.withDisplay "inline" := by
    intro label chars isText
    rw [classified, isText]
    rfl
  rcases same with rfl | ⟨isLoose, chars, newChars, isText, rfl, rewrapped⟩
  · exact .refl loose _
  · rw [written isText, written rfl]
    exact .inr ⟨isLoose, chars, newChars, isText, rfl, rewrapped⟩

theorem classifiedAll_relaid (pending : Option String) (same : RelaidAll loose labels news) :
    RelaidAll loose (classifiedAll config pending labels) (classifiedAll config pending news) := by
  induction same generalizing pending with
  | nil => exact .nil
  | cons first _ ih =>
      rw [classifiedAll, classifiedAll, pendingAfter_relaid pending first]
      exact .cons (classified_relaid pending first) (ih _)

theorem withEdges_relaid (edges : List (Bool × Bool)) (same : RelaidAll loose labels news) :
    RelaidAll loose (withEdges edges labels) (withEdges edges news) := by
  induction same generalizing edges with
  | nil =>
      rw [withEdges, List.zipWith_nil_right]
      exact .nil
  | cons first _ ih =>
      cases edges with
      | nil => exact .nil
      | cons edge edges => exact .cons ((first.note _ _).note _ _) (ih edges)

theorem isSoleText_relaid (same : RelaidAll loose labels news) :
    isSoleText news = isSoleText labels := by
  have isText : ∀ {label other : Label}, Relaid loose label other →
      other.kind.isText = label.kind.isText := by
    intro label other same
    rcases same.alike with kind | ⟨old, new⟩
    · rw [kind]
    · rw [old, new]
  cases same with
  | nil => rfl
  | cons first later =>
      cases later with
      | nil => exact isText first
      | cons _ _ => rfl

theorem isHollow_relaid (same : RelaidAll loose labels news) :
    isHollow (news.map Label.kind) = isHollow (labels.map Label.kind) := by
  cases same with
  | nil => rfl
  | cons first later =>
      cases later with
      | nil => exact first.isBlankText
      | cons _ _ => rfl

theorem keptLabels_relaid (same : RelaidAll loose labels news) :
    keptLabels news = keptLabels labels := by
  have pieces : news.map pieceOf = labels.map pieceOf := by
    induction same with
    | nil => rfl
    | cons first _ ih => rw [List.map_cons, List.map_cons, first.pieceOf, ih]
  rw [keptLabels, keptLabels, pieces]

end Siblings

/-! ## Rules -/

/-- A rule that makes labels that may stand for each other of such labels, and removes nothing. -/
def KeepsLayout (config : Config) (rule : Rule) : Prop :=
  ∀ top loose label other labels news, Relaid loose label other →
    RelaidAll (isLoose config label.kind) labels news →
      Relaid loose (rule top label labels).1 (rule top other news).1 ∧
        ∃ made newMade, (rule top label labels).2 = made.map some ∧
          (rule top other news).2 = newMade.map some ∧
          RelaidAll (isLoose config label.kind) made newMade

section Rules

variable (config : Config)

theorem displayRule_keepsLayout : KeepsLayout config (displayRule config) := by
  intro top loose label other labels news own below
  have alike := own.alike
  have isRoot : other.kind.isRoot = label.kind.isRoot := Node.isRoot_of_alike alike
  have isContainer : other.kind.isContainer = label.kind.isContainer := isContainer_alike alike
  refine ⟨?_, _, _, rfl, rfl, ?_⟩
  · rw [displayRule, displayRule, isRoot]
    split
    · exact classified_relaid none own
    · exact own
  · rw [isContainer]
    split
    · exact classifiedAll_relaid none below
    · exact below

theorem sensitivityRule_keepsLayout : KeepsLayout config (sensitivityRule config) := by
  intro top loose label other labels news own below
  have isContainer : other.kind.isContainer = label.kind.isContainer := isContainer_alike own.alike
  have sole := isSoleText_relaid below
  have face : SameFace config label other := own.sameFace
  have edges : edgesUnder config other news = edgesUnder config label labels :=
    edgesUnder_of_faces face (below.imp fun _ _ => Relaid.sameFace)
  rw [sensitivityRule, sensitivityRule, isContainer, sole, face.shown, edges]
  split
  · split
    · exact ⟨own.note _ _, _, _, rfl, rfl, below⟩
    · exact ⟨own, _, _, rfl, rfl, withEdges_relaid _ below⟩
  · exact ⟨own, _, _, rfl, rfl, below⟩

/-- The third pass makes the same of both. -/
theorem whitespaceRule_relaid (top : Bool) (label : Label) {labels news : List Label}
    (below : RelaidAll (isLoose config label.kind) labels news) :
    whitespaceRule config top label news = whitespaceRule config top label labels := by
  have hollow := isHollow_relaid below
  cases element : label.kind.isElement with
  | false =>
      rw [isLoose, element, Bool.false_and] at below
      rw [eq_of_relaidAll below]
  | true =>
      cases isHollow : isHollow (labels.map Label.kind) with
      | true =>
          rw [isHollow] at hollow
          have count := below.length_eq
          have removed : (news.map fun _ => (none : Option Label)) = labels.map fun _ => none := by
            rw [List.map_const', List.map_const', count]
          have empty : news.isEmpty = labels.isEmpty := by
            rw [Bool.eq_iff_iff, List.isEmpty_iff_length_eq_zero, List.isEmpty_iff_length_eq_zero,
              count]
          rw [whitespaceRule_hollow top element hollow, whitespaceRule_hollow top element isHollow,
            removed, empty]
      | false =>
          rw [isHollow] at hollow
          cases verbatim : isVerbatim config label.kind with
          | true =>
              rw [isLoose, verbatim, Bool.not_true, Bool.and_false] at below
              rw [eq_of_relaidAll below]
          | false =>
              rw [whitespaceRule_loose top element hollow verbatim,
                whitespaceRule_loose top element isHollow verbatim, keptLabels_relaid below]

end Rules

/-! ## Trees -/

/-- Two trees that are the same but for the layout of the texts in elements that are not verbatim.  The
flag says whether the top node itself stands in such an element. -/
inductive Twins (config : Config) : Bool → Node → Node → Prop
  | intro {loose : Bool} {tree twin : Node} (label : Relaid loose tree.label twin.label)
      (count : tree.kids.length = twin.kids.length)
      (below : ∀ kid other, (kid, other) ∈ tree.kids.zip twin.kids →
        Twins config (isLoose config tree.label.kind) kid other) :
      Twins config loose tree twin

namespace Twins

variable {config : Config} {loose : Bool} {tree twin : Node}

theorem label (twins : Twins config loose tree twin) : Relaid loose tree.label twin.label := by
  cases twins with
  | intro label _ _ => exact label

theorem kids (twins : Twins config loose tree twin) :
    List.Forall₂ (Twins config (isLoose config tree.label.kind)) tree.kids twin.kids := by
  cases twins with
  | intro _ count below =>
      exact List.forall₂_iff_zip.mpr ⟨count, fun {kid other} member => below kid other member⟩

theorem of_kids (label : Relaid loose tree.label twin.label)
    (kids : List.Forall₂ (Twins config (isLoose config tree.label.kind)) tree.kids twin.kids) :
    Twins config loose tree twin :=
  .intro label kids.length_eq fun _ _ member => List.forall₂_zip kids member

theorem kidLabels (twins : Twins config loose tree twin) :
    RelaidAll (isLoose config tree.label.kind) tree.kidLabels twin.kidLabels := by
  rw [RelaidAll, Node.kidLabels, Node.kidLabels, List.forall₂_map_left_iff,
    List.forall₂_map_right_iff]
  exact twins.kids.imp fun _ _ => label

/-- Twins under new labels. -/
theorem underLabel {newLoose : Bool} {new newTwin : Label} (twins : Twins config loose tree twin)
    (alike : Kind.Alike tree.label.kind new.kind) (relaid : Relaid newLoose new newTwin) :
    Twins config newLoose ⟨new, tree.kids⟩ ⟨newTwin, twin.kids⟩ := by
  refine of_kids relaid ?_
  rw [isLoose_alike alike]
  exact twins.kids

end Twins

section Trees

variable {config : Config} {loose : Bool}

/-- Nodes that get labels that may stand for each other become twins. -/
theorem twins_relabel {newLoose : Bool} {kids others : List Node}
    {labels newLabels : List (Option Label)}
    (twins : List.Forall₂ (Twins config loose) kids others)
    (alike : List.Forall₂ (fun kid made => ∀ new, made = some new →
      Kind.Alike kid.label.kind new.kind) kids labels)
    (made : List.Forall₂ (Option.Rel (Relaid newLoose)) labels newLabels) :
    List.Forall₂ (Twins config newLoose) (Node.relabel kids labels)
      (Node.relabel others newLabels) := by
  induction twins generalizing labels newLabels with
  | nil => exact .nil
  | cons first _ ih =>
      cases alike with
      | cons own later =>
          cases made with
          | cons new rest =>
              cases new with
              | none => exact ih later rest
              | some relaid => exact .cons (first.underLabel (own _ rfl) relaid) (ih later rest)

theorem alike_of_tame {rule : Rule} (tame : Tame rule) (top : Bool) (node : Node) :
    List.Forall₂ (fun (kid : Node) made => ∀ new : Label, made = some new →
      Kind.Alike kid.label.kind new.kind) node.kids (rule top node.label node.kidLabels).2 := by
  have pairs := tame.kids top node.label node.kidLabels
  rw [Node.kidLabels, List.forall₂_map_left_iff] at pairs
  refine pairs.imp ?_
  rintro kid made (⟨rfl, _⟩ | ⟨new, rfl, alike⟩) _ same
  · cases same
  · cases same
    exact alike

theorem twins_rewrite {rule : Rule} (tame : Tame rule) (keeps : KeepsLayout config rule) (top : Bool)
    {tree twin : Node} (twins : Twins config loose tree twin) :
    Twins config loose (tree.rewrite rule top) (twin.rewrite rule top) := by
  -- The visit of a node changes the labels below it before they are visited, which keeps their kinds alike.
  induction top, tree using Node.visitInduction rule generalizing loose twin with
  | step top tree below =>
      obtain ⟨own, made, newMade, labels, newLabels, related⟩ :=
        keeps top loose tree.label twin.label _ _ twins.label twins.kidLabels
      have options : List.Forall₂ (Option.Rel (Relaid (isLoose config tree.label.kind)))
          (rule top tree.label tree.kidLabels).2 (rule top twin.label twin.kidLabels).2 := by
        rw [labels, newLabels, List.forall₂_map_left_iff, List.forall₂_map_right_iff]
        exact related.imp fun _ _ => .some
      have visited := twins_relabel twins.kids (alike_of_tame tame top tree) options
      have kind : (tree.visited rule top).label.kind = tree.label.kind := tame.own _ _ _
      rw [Node.rewrite_eq, Node.rewrite_eq]
      refine .of_kids own ?_
      rw [kind, List.forall₂_map_left_iff, List.forall₂_map_right_iff]
      refine ((List.forall₂_and_left _ _).mpr ⟨below, visited⟩).imp ?_
      rintro kid other ⟨ih, twins⟩
      exact ih twins

/-- The third pass leaves one tree of twins. -/
theorem whitespacePass_twins (top : Bool) {tree twin : Node} (twins : Twins config false tree twin) :
    twin.rewrite (whitespaceRule config) top = tree.rewrite (whitespaceRule config) top := by
  induction top, tree using Node.visitInduction (whitespaceRule config) generalizing twin with
  | step top tree below =>
      -- The visit makes the labels below the same, so the nodes there are twins outside of any element.
      have own : twin.label = tree.label := eq_of_relaid twins.label
      have rule : whitespaceRule config top twin.label twin.kidLabels =
          whitespaceRule config top tree.label tree.kidLabels := by
        rw [own]
        exact whitespaceRule_relaid config top tree.label twins.kidLabels
      have options : List.Forall₂ (Option.Rel (Relaid false))
          (whitespaceRule config top tree.label tree.kidLabels).2
          (whitespaceRule config top twin.label twin.kidLabels).2 := by
        rw [rule]
        refine List.forall₂_same.mpr fun made _ => ?_
        cases made with
        | none => exact .none
        | some label => exact .some (.refl false label)
      have visited : List.Forall₂ (Twins config false) (tree.visited (whitespaceRule config) top).kids
          (twin.visited (whitespaceRule config) top).kids :=
        twins_relabel twins.kids (alike_of_tame (whitespaceRule_tame config) top tree) options
      have label : (twin.visited (whitespaceRule config) top).label =
          (tree.visited (whitespaceRule config) top).label := congrArg Prod.fst rule
      rw [Node.rewrite_eq, Node.rewrite_eq, label]
      congr 1
      apply map_eq_map_of_forall₂
      refine ((List.forall₂_and_left _ _).mpr ⟨below, visited⟩).imp ?_
      rintro kid other ⟨ih, twins⟩
      exact ih twins

theorem normalized_twins {tree twin : Node} (twins : Twins config false tree twin) :
    normalized config twin = normalized config tree := by
  have shownTwins : Twins config false (displayed config tree) (displayed config twin) :=
    twins_rewrite (displayRule_tame config) (displayRule_keepsLayout config) true twins
  have measuredTwins : Twins config false (annotated config tree) (annotated config twin) :=
    twins_rewrite (sensitivityRule_tame config) (sensitivityRule_keepsLayout config) true shownTwins
  exact whitespacePass_twins true measuredTwins

end Trees

/-! ## Documents -/

/-- Trees that are the same but for the layout of texts come out as the same document. -/
theorem layout_preprocess (config : Config) (document other : Value) (tree twin : Node)
    (decoded : decode document = .ok tree) (decodedOther : decode other = .ok twin)
    (twins : Twins config false tree twin) :
    ∃ made, (preprocessDocument config .preprocess document).2 = .ok made ∧
      (preprocessDocument config .preprocess other).2 = .ok made := by
  refine ⟨_, preprocessDocument_eq config decoded, ?_⟩
  rw [preprocessDocument_eq config decodedOther, normalized_twins twins]

def wrappedGreeting : Node :=
  ⟨.ofKind (.element "p" []), [
    ⟨.ofKind (.text "\n  Dear\t"), []⟩,
    ⟨.ofKind (.mustache (.text "name")), []⟩,
    ⟨.ofKind (.text "!  "), []⟩]⟩

theorem decode_wrappedGreeting : decode wrappedGreeting.document = .ok wrappedGreeting :=
  decode_bare (show wrappedGreeting.bare.WellFormed by decide)

theorem twins_greeting : Twins Config.builtin false greeting wrappedGreeting := by
  have leaf : ∀ {loose : Bool} {label other : Label}, Relaid loose label other →
      Twins Config.builtin loose ⟨label, []⟩ ⟨other, []⟩ := fun relaid => .of_kids relaid .nil
  have first : Relaid true (.ofKind (.text " Dear ")) (.ofKind (.text "\n  Dear\t")) :=
    .inr ⟨rfl, _, _, rfl, rfl, [' '], "Dear".toList, [' '], "\n  ".toList, ['\t'],
      ⟨rfl, rfl, rfl, rfl⟩, ⟨rfl, rfl, rfl, rfl⟩, by decide, by decide⟩
  have last : Relaid true (.ofKind (.text "!\n")) (.ofKind (.text "!  ")) :=
    .inr ⟨rfl, _, _, rfl, rfl, [], ['!'], ['\n'], [], "  ".toList, ⟨rfl, rfl, rfl, rfl⟩,
      ⟨rfl, rfl, rfl, rfl⟩, by decide, by decide⟩
  have name := leaf (.refl true (.ofKind (.mustache (.text "name"))))
  exact .of_kids (.refl false _) (.cons (leaf first) (.cons name (.cons (leaf last) .nil)))

theorem layout_preprocess_greeting :
    decode greetingDocument = .ok greeting ∧
      decode wrappedGreeting.document = .ok wrappedGreeting ∧
      Twins Config.builtin false greeting wrappedGreeting ∧
      ∃ made, (preprocessDocument Config.builtin .preprocess greetingDocument).2 = .ok made ∧
        (preprocessDocument Config.builtin .preprocess wrappedGreeting.document).2 = .ok made :=
  ⟨decode_greeting, decode_wrappedGreeting, twins_greeting,
    layout_preprocess Config.builtin greetingDocument wrappedGreeting.document greeting wrappedGreeting
      decode_greeting decode_wrappedGreeting twins_greeting⟩

end TemplateSpacing.Pass
