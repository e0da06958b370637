import TemplateSpacing.Proofs.Pass.Documents
import TemplateSpacing.Proofs.Pass.Measured
import TemplateSpacing.Proofs.Tree.Context

/-! # What a node does to its surroundings

What stands below an element, or in a body of a block, makes no difference to anything outside.  All three
passes are local: among the labels below a node, what is below an element does not show, and a node that is
no text cuts the siblings in two.
-/

set_option autoImplicit false

namespace TemplateSpacing.Pass

open TemplateSpacing.Tree

/-! ## Displays -/

section Displays

variable (config : Config)

theorem pendingAfter_of_seen {label other : Label} (seen : Seen label other) (pending : Option String) :
    pendingAfter pending label.kind = pendingAfter pending other.kind :=
  Kind.eq_of_outside (pendingAfter pending) (fun _ _ _ => rfl) seen.kind

theorem displayWord_of_seen {label other : Label} (seen : Seen label other) (pending : Option String) :
    displayWord config pending label.kind = displayWord config pending other.kind :=
  Kind.eq_of_outside (displayWord config pending) (fun _ _ _ => rfl) seen.kind

theorem eq_mustache_of_outside {kind : Kind} {path : Value} (same : kind.outside = .mustache path) :
    kind = .mustache path := by
  cases kind with
  | block _ _ _ => cases same
  | _ => exact same

theorem seen_classified {label other : Label} (seen : Seen label other) (pending : Option String) :
    Seen (classified config pending label) (classified config pending other) := by
  unfold classified
  split
  · next path mustache =>
      have same := seen.kind
      rw [mustache] at same
      rw [eq_mustache_of_outside same.symm]
      exact ((seen.note _ _).note _ _).note _ _
  · next notMustache =>
      split
      · next path mustache =>
          have same := seen.kind
          rw [mustache] at same
          exact absurd (eq_mustache_of_outside same) (notMustache path)
      · rw [displayWord_of_seen config seen]
        exact seen.note _ _

theorem classifiedAll_append (pending : Option String) (front back : List Label) :
    classifiedAll config pending (front ++ back) = classifiedAll config pending front ++
      classifiedAll config ((front.map Label.kind).foldl pendingAfter pending) back := by
  induction front generalizing pending with
  | nil => rfl
  | cons first rest ih => rw [List.cons_append, classifiedAll, ih, classifiedAll]; rfl

theorem kinds_classifiedAll (pending : Option String) (labels : List Label) :
    ((classifiedAll config pending labels).map some).map (Option.map Label.kind) =
      labels.map fun label => some label.kind := by
  rw [map_kind_some]
  apply map_eq_map_of_forall₂
  exact forall₂_classifiedAll config (fun pending _ => congrArg some (classified_kind config pending)) pending
    labels

theorem local_displayRule : Local (displayRule config) keepAll := by
  refine ⟨(displayRule_tame config).own, ?_, ?_, ?_⟩
  · intro top label front back old new seen
    cases container : label.kind.isContainer with
    | true =>
        obtain ⟨pending, carried⟩ : ∃ pending, (front.map Label.kind).foldl pendingAfter none = pending :=
          ⟨_, rfl⟩
        have same := pendingAfter_of_seen seen pending
        refine ⟨(displayRule config top label []).1, (classifiedAll config none front).map some,
          classified config pending old, (classifiedAll config (pendingAfter pending old.kind) back).map some,
          classified config pending new, ?_, ?_, seen_classified config seen pending,
          classified_kind config pending, classified_kind config pending, kinds_classifiedAll config none front,
          kinds_classifiedAll config _ back⟩
        · simp only [displayRule, container, if_true, classifiedAll_append, classifiedAll, List.map_append,
            List.map_cons, carried]
        · simp only [displayRule, container, if_true, classifiedAll_append, classifiedAll, List.map_append,
            List.map_cons, carried, same]
    | false =>
        have unchanged (below : List Label) : displayRule config top label below =
            ((displayRule config top label []).1, below.map some) := by
          simp only [displayRule, container, Bool.false_eq_true, if_false]
        exact .of_unchanged seen (fun _ => rfl) (unchanged _) (unchanged _)
  · intro top label other below belowOther seen _
    simp only [displayRule]
    rw [← seen.isRoot]
    split
    · exact seen_classified config seen none
    · exact seen
  · intro top label below closed
    simp only [displayRule, closed, Bool.false_eq_true, if_false]

end Displays

/-! ## Edges -/

section Edges

variable (config : Config)

theorem seen_sameFace {label other : Label} (seen : Seen label other) : SameFace config label other := by
  have display : Note.display ∈ outwardNotes label.kind := by
    rw [outwardNotes]
    split <;> decide
  exact ⟨shown_congr (seen.notes _ display).symm,
    (Kind.eq_of_outside Kind.isTextLike (fun _ _ _ => rfl) seen.kind).symm, seen.isRoot.symm,
    (Kind.eq_of_outside (isVerbatim config) (fun _ _ _ => rfl) seen.kind).symm⟩

theorem isSoleText_of_solid {front back : List Label} {label : Label} (solid : label.kind.isText = false) :
    isSoleText (front ++ label :: back) = false := by
  match front, back with
  | [], [] => exact solid
  | [], _ :: _ => rfl
  | [_], _ => rfl
  | _ :: _ :: _, _ => rfl

theorem exists_split {α : Type} {items : List α} {before after : Nat}
    (count : items.length = before + (after + 1)) :
    ∃ first item last, items = first ++ item :: last ∧ first.length = before ∧ last.length = after := by
  have whole := List.take_append_drop before items
  have taken : (items.take before).length = before := List.length_take_of_le (by omega)
  have dropped : (items.drop before).length = after + 1 := by
    rw [List.length_drop, count, Nat.add_sub_cancel_left]
  obtain ⟨item, last, tail⟩ := List.exists_cons_of_length_eq_add_one dropped
  rw [tail] at whole dropped
  exact ⟨items.take before, item, last, whole.symm, taken, Nat.succ.inj dropped⟩

theorem withEdges_append {first last : List (Bool × Bool)} {edge : Bool × Bool} {front back : List Label}
    {label : Label} (count : first.length = front.length) :
    withEdges (first ++ edge :: last) (front ++ label :: back) = withEdges first front ++
      (label.withFlag .leadingSensitive edge.1).withFlag .trailingSensitive edge.2 :: withEdges last back := by
  rw [withEdges, List.zipWith_append count, List.zipWith_cons_cons]

theorem kinds_withEdges_some {edges : List (Bool × Bool)} {labels : List Label}
    (count : edges.length = labels.length) :
    ((withEdges edges labels).map some).map (Option.map Label.kind) =
      labels.map fun label => some label.kind := by
  rw [map_kind_some]
  exact map_withEdges (fun _ _ _ => rfl) count

theorem local_sensitivityRule : Local (sensitivityRule config) keepAll := by
  refine ⟨(sensitivityRule_tame config).own, ?_, ?_, ?_⟩
  · intro top label front back old new seen
    cases container : label.kind.isContainer with
    | true =>
        have faces : List.Forall₂ (SameFace config) (front ++ old :: back) (front ++ new :: back) := by
          have same (labels : List Label) : List.Forall₂ (SameFace config) labels labels :=
            List.forall₂_same.mpr fun label _ => .refl label
          exact List.rel_append (same front) (.cons (seen_sameFace config seen) (same back))
        have sameEdges := edgesUnder_of_faces (.refl label) faces
        have count := @length_edgesUnder config label (front ++ old :: back)
        rw [List.length_append, List.length_cons] at count
        obtain ⟨first, edge, last, split, countFirst, countLast⟩ := exists_split count
        refine ⟨label, (withEdges first front).map some,
          (old.withFlag .leadingSensitive edge.1).withFlag .trailingSensitive edge.2,
          (withEdges last back).map some,
          (new.withFlag .leadingSensitive edge.1).withFlag .trailingSensitive edge.2, ?_, ?_,
          (seen.note _ _).note _ _, rfl, rfl, kinds_withEdges_some countFirst, kinds_withEdges_some countLast⟩
        · simp only [sensitivityRule, container, if_true, isSoleText_of_solid seen.solid, Bool.false_eq_true,
            if_false, split, withEdges_append countFirst, List.map_append, List.map_cons]
        · simp only [sensitivityRule, container, if_true, isSoleText_of_solid seen.isText, Bool.false_eq_true,
            if_false, sameEdges, split, withEdges_append countFirst, List.map_append, List.map_cons]
    | false =>
        have unchanged (below : List Label) : sensitivityRule config top label below =
            (label, below.map some) := by
          rw [sensitivityRule, container]
          rfl
        exact .of_unchanged seen (fun _ => rfl) (unchanged _) (unchanged _)
  · intro top label other below belowOther seen stem
    cases element : label.kind.isElement with
    | false =>
        have closed : label.kind.isContainer = false := by rw [Kind.isContainer, stem, element]; rfl
        rw [sensitivityRule, sensitivityRule, ← seen.isContainer, closed]
        exact seen
    | true =>
        have inward : Note.danglingSensitive ∉ outwardNotes label.kind := by
          rw [outwardNotes, if_pos element]
          decide
        exact seen.of_only (only_sensitivityRule config inward top label below)
          (only_sensitivityRule config inward top other belowOther)
  · intro top label below closed
    simp only [sensitivityRule, closed, Bool.false_eq_true, if_false]

end Edges

/-! ## White space -/

section Whitespace

variable (config : Config)

theorem pieceOf_solid {label : Label} (solid : label.kind.isText = false) :
    pieceOf label = ⟨false, some label, false⟩ := by
  unfold pieceOf
  split
  · next chars text =>
      rw [text] at solid
      cases solid
  · rfl

/-- A child that is no text ends the run of white space in front of it and starts none. -/
theorem startsWithRun_append (label : Label) (front back : List Piece) :
    startsWithRun (front ++ ⟨false, some label, false⟩ :: back) = startsWithRun front := by
  rw [startsWithRun, List.findSome?_append, List.findSome?_cons, startsWithRun]
  cases front.findSome? Piece.startsWithRun? <;> rfl

theorem keptFrom_append (before : Bool) (label : Label) (front back : List Piece) :
    keptFrom before (front ++ ⟨false, some label, false⟩ :: back) = keptFrom before front ++
      some ⟨label, front.foldl (fun before piece => piece.endsWithRun?.getD before) before, startsWithRun back⟩ ::
        keptFrom false back := by
  induction front generalizing before with
  | nil => rfl
  | cons piece rest ih =>
      rw [List.cons_append, keptFrom, keptFrom, startsWithRun_append, ih]
      rfl

/-- What the third pass notes on a child that is no text is a matter of either side of it. -/
theorem exists_keptLabels_append (front back : List Label) :
    ∃ before after, ∀ label : Label, label.kind.isText = false →
      keptLabels (front ++ label :: back) =
        keptLabels front ++ some (Kept.written ⟨label, before, after⟩) :: keptLabels back := by
  refine ⟨(front.map pieceOf).foldl (fun before piece => piece.endsWithRun?.getD before) false,
    startsWithRun (back.map pieceOf), ?_⟩
  intro label solid
  rw [keptLabels, List.map_append, List.map_cons, pieceOf_solid solid, keptFrom_append, List.map_append,
    List.map_cons]
  rfl

theorem seen_written {label other : Label} (seen : Seen label other) (before after : Bool) :
    Seen (Kept.written ⟨label, before, after⟩) (Kept.written ⟨other, before, after⟩) := by
  have outward : ∀ note ∈ [Note.leadingSpaces, .trailingSpaces], note ∈ outwardNotes label.kind := by
    rw [outwardNotes]
    split <;> decide
  have leading : label.notes.leadingSpaces = other.notes.leadingSpaces :=
    seen.notes _ (outward .leadingSpaces (by decide))
  have trailing : label.notes.trailingSpaces = other.notes.trailingSpaces :=
    seen.notes _ (outward .trailingSpaces (by decide))
  rw [Kept.written, Kept.written, leading, trailing]
  exact (seen.note _ _).note _ _

def staying (config : Config) (parent kind : Kind) : Option Kind :=
  if isLoose config parent then if isBlankText kind then none else some (trimmedKind kind) else some kind

theorem kinds_keptLabels (labels : List Label) :
    (keptLabels labels).map (Option.map Label.kind) =
      labels.map fun label => if isBlankText label.kind then none else some (trimmedKind label.kind) := by
  apply map_eq_map_of_forall₂
  refine (forall₂_keptLabels labels).imp ?_
  rintro label made ⟨before, after, rfl⟩
  split <;> rfl

theorem isHollow_of_solid {front back : List Label} {label : Label} (solid : label.kind.isText = false) :
    isHollow ((front ++ label :: back).map Label.kind) = false := by
  cases hollow : isHollow ((front ++ label :: back).map Label.kind) with
  | false => rfl
  | true =>
      have inKinds : label.kind ∈ (front ++ label :: back).map Label.kind :=
        List.mem_map_of_mem (List.mem_append_right _ List.mem_cons_self)
      rw [isText_of_blank (all_blank_of_hollow hollow _ inKinds)] at solid
      cases solid

theorem local_whitespaceRule : Local (whitespaceRule config) (staying config) := by
  refine ⟨(whitespaceRule_tame config).own, ?_, ?_, ?_⟩
  · intro top label front back old new seen
    have hollow := @isHollow_of_solid front back old seen.solid
    have hollowNew := @isHollow_of_solid front back new seen.isText
    have keeps (tight : isLoose config label.kind = false) (kind : Kind) :
        staying config label.kind kind = some kind := by
      rw [staying, tight]
      rfl
    cases element : label.kind.isElement with
    | false =>
        have tight : isLoose config label.kind = false := by rw [isLoose, element]; rfl
        exact .of_unchanged seen (keeps tight) (whitespaceRule_other top element)
          (whitespaceRule_other top element)
    | true =>
        cases verbatim : isVerbatim config label.kind with
        | true =>
            have tight : isLoose config label.kind = false := by rw [isLoose, verbatim, element]; rfl
            exact .of_unchanged seen (keeps tight) (whitespaceRule_verbatim top element hollow verbatim)
              (whitespaceRule_verbatim top element hollowNew verbatim)
        | false =>
            have loose : isLoose config label.kind = true := by rw [isLoose, element, verbatim]; rfl
            have kinds (labels : List Label) : (keptLabels labels).map (Option.map Label.kind) =
                labels.map fun label' => staying config label.kind label'.kind := by
              simp only [staying, loose, if_true]
              exact kinds_keptLabels labels
            obtain ⟨before, after, kept⟩ := exists_keptLabels_append front back
            have rules := whitespaceRule_loose top element hollow verbatim
            have rulesNew := whitespaceRule_loose top element hollowNew verbatim
            rw [kept old seen.solid] at rules
            rw [kept new seen.isText] at rulesNew
            exact ⟨_, keptLabels front, Kept.written ⟨old, before, after⟩, keptLabels back,
              Kept.written ⟨new, before, after⟩, rules, rulesNew, seen_written seen before after, rfl, rfl,
              kinds front, kinds back⟩
  · intro top label other below belowOther seen _
    cases element : label.kind.isElement with
    | false =>
        rw [whitespaceRule_other top element, whitespaceRule_other top (seen.isElement ▸ element)]
        exact seen
    | true =>
        have inward : ∀ note ∈ innerNotes, note ∉ outwardNotes label.kind := by
          rw [outwardNotes, if_pos element]
          decide
        exact seen.of_only (only_whitespaceRule config inward top label below)
          (only_whitespaceRule config inward top other belowOther)
  · intro top label below closed
    have element : label.kind.isElement = false := (Bool.or_eq_false_iff.mp closed).2
    rw [whitespaceRule_other top element]

end Whitespace

/-! ## The pipeline -/

section Pipeline

variable {around : Context} {slot : Slot} {node twin : Node}

/-- What stands around a node has the node below it, so no text does. -/
theorem solid_of_wellFormed (formed : (around.plug node).WellFormed) :
    ∀ frame ∈ around, frame.label.kind.isText = false := by
  induction around with
  | nil =>
      intro frame member
      cases member
  | cons first rest ih =>
      have inKids : Context.plug rest node ∈ (Context.plug (first :: rest) node).kids :=
        List.mem_append_right _ List.mem_cons_self
      intro frame member
      rcases List.mem_cons.mp member with rfl | later
      · cases text : frame.label.kind.isText with
        | false => rfl
        | true =>
            rw [formed.kids_of_isTextLike (Node.isTextLike_of_isText text)] at inKids
            cases inKids
      · exact ih (formed.kid inKids) frame later

theorem exists_plug_normalized (config : Config) (formed : (around.plug node).WellFormed)
    (apart : Apart slot node twin) :
    ∃ after : Context, ∃ made madeTwin : Node,
      normalized config (around.plug node) = after.plug made ∧
      normalized config (around.plug twin) = after.plug madeTwin ∧
      List.Forall₂ (Frame.Lands (staying config)) around after ∧ Apart slot made madeTwin ∧
      made.label.kind = node.label.kind ∧ madeTwin.label.kind = twin.label.kind := by
  have given : Around around slot node twin (around.plug node) (around.plug twin) :=
    ⟨rfl, rfl, solid_of_wellFormed formed, apart⟩
  obtain ⟨shownAround, shown, shownTwin, displays, first, kind₁, kindTwin₁⟩ :=
    (local_displayRule config).around_rewrite given
  obtain ⟨edgedAround, edged, edgedTwin, edges, second, kind₂, kindTwin₂⟩ :=
    (local_sensitivityRule config).around_rewrite displays
  obtain ⟨after, made, madeTwin, spaces, third, kind₃, kindTwin₃⟩ :=
    (local_whitespaceRule config).around_rewrite edges
  exact ⟨after, made, madeTwin, spaces.whole, spaces.wholeTwin, lands_trans first (lands_trans second third),
    spaces.apart, kind₃.trans (kind₂.trans kind₁), kindTwin₃.trans (kindTwin₂.trans kindTwin₁)⟩

end Pipeline

/-- Two decoded trees that differ below one element, or in one body of one block, are left with the same
surroundings of it, which are those that it had but for what the third pass takes out of them.  The element
keeps the notes in common that are not about its content, and the block all notes and its other body. -/
theorem local_preprocess (config : Config) (around : Context) (slot : Slot) (node twin : Node)
    (document other : Value) (decoded : decode document = .ok (around.plug node))
    (decodedTwin : decode other = .ok (around.plug twin)) (apart : Apart slot node twin) :
    (preprocess config .preprocess (around.plug node)).fault = none ∧
      (preprocess config .preprocess (around.plug twin)).fault = none ∧
      ∃ after : Context, ∃ made madeTwin : Node,
        (preprocess config .preprocess (around.plug node)).state = after.plug made ∧
        (preprocess config .preprocess (around.plug twin)).state = after.plug madeTwin ∧
        List.Forall₂ (Frame.Lands (staying config)) around after ∧ Apart slot made madeTwin ∧
        made.label.kind = node.label.kind ∧ madeTwin.label.kind = twin.label.kind := by
  obtain ⟨done, state⟩ := preprocess_preprocess config (wellFormed_of_decode decoded)
  obtain ⟨doneTwin, stateTwin⟩ := preprocess_preprocess config (wellFormed_of_decode decodedTwin)
  rw [state, stateTwin]
  exact ⟨done, doneTwin, exists_plug_normalized config (wellFormed_of_decode decoded) apart⟩

def paragraphAround : Context :=
  let leaf := fun kind => Node.mk (.ofKind kind) []
  [⟨.ofKind (.root .template), [leaf (.text "\n")], []⟩,
    ⟨.ofKind (.element "p" []), [leaf (.text " Dear "), leaf (.comment "display: none"), leaf (.text " ")],
      [leaf (.text " reader")]⟩]

def emptyEmphasis : Node := ⟨.ofKind (.element "em" []), []⟩

def filledEmphasis : Node := ⟨.ofKind (.element "em" []), [⟨.ofKind (.text " kind "), []⟩, emptyEmphasis]⟩

def closedBlock : Node :=
  ⟨.ofKind (.block (.text "if") false true), [⟨.ofKind (.root .block), [emptyEmphasis]⟩]⟩

def openBlock : Node :=
  ⟨.ofKind (.block (.text "if") true true), [⟨.ofKind (.root .program), [filledEmphasis]⟩,
    ⟨.ofKind (.root .block), [emptyEmphasis]⟩]⟩

theorem local_preprocess_paragraph :
    (∃ document other after made madeTwin,
      decode document = .ok (paragraphAround.plug emptyEmphasis) ∧
      decode other = .ok (paragraphAround.plug filledEmphasis) ∧
      (preprocess Config.builtin .preprocess (paragraphAround.plug emptyEmphasis)).state =
        Context.plug after made ∧
      (preprocess Config.builtin .preprocess (paragraphAround.plug filledEmphasis)).state =
        Context.plug after madeTwin ∧ Apart .program made madeTwin) ∧
    ∃ document other after made madeTwin,
      decode document = .ok (paragraphAround.plug closedBlock) ∧
      decode other = .ok (paragraphAround.plug openBlock) ∧
      (preprocess Config.builtin .preprocess (paragraphAround.plug closedBlock)).state =
        Context.plug after made ∧
      (preprocess Config.builtin .preprocess (paragraphAround.plug openBlock)).state =
        Context.plug after madeTwin ∧ Apart .program made madeTwin := by
  constructor
  · have decoded : decode (paragraphAround.plug emptyEmphasis).bare.document =
        .ok (paragraphAround.plug emptyEmphasis) :=
      decode_bare (show (paragraphAround.plug emptyEmphasis).bare.WellFormed by decide)
    have decodedTwin : decode (paragraphAround.plug filledEmphasis).bare.document =
        .ok (paragraphAround.plug filledEmphasis) :=
      decode_bare (show (paragraphAround.plug filledEmphasis).bare.WellFormed by decide)
    obtain ⟨_, _, after, made, madeTwin, whole, wholeTwin, _, apart, _⟩ :=
      local_preprocess Config.builtin paragraphAround .program emptyEmphasis filledEmphasis _ _ decoded
        decodedTwin (.children _ rfl _ _)
    exact ⟨_, _, after, made, madeTwin, decoded, decodedTwin, whole, wholeTwin, apart⟩
  · have decoded : decode (paragraphAround.plug closedBlock).bare.document =
        .ok (paragraphAround.plug closedBlock) :=
      decode_bare (show (paragraphAround.plug closedBlock).bare.WellFormed by decide)
    have decodedTwin : decode (paragraphAround.plug openBlock).bare.document =
        .ok (paragraphAround.plug openBlock) :=
      decode_bare (show (paragraphAround.plug openBlock).bare.WellFormed by decide)
    have sameInverse : ∀ other, other ≠ Slot.program → closedBlock.body? other = openBlock.body? other := by
      intro other different
      cases other with
      | program => exact absurd rfl different
      | inverse => rfl
    obtain ⟨_, _, after, made, madeTwin, whole, wholeTwin, _, apart, _⟩ :=
      local_preprocess Config.builtin paragraphAround .program closedBlock openBlock _ _ decoded decodedTwin
        (.bodies_of_block sameInverse)
    exact ⟨_, _, after, made, madeTwin, decoded, decodedTwin, whole, wholeTwin, apart⟩

end TemplateSpacing.Pass
