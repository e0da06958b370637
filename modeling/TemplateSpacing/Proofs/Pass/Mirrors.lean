import Mathlib.Data.List.Zip
import TemplateSpacing.Proofs.Pass.Sensitivities
import TemplateSpacing.Proofs.Pass.Stream

/-! # Children read backwards

Front and back are alike to the passes.  Under a parent whose children stand in the opposite order the
edges are the same edges, so each child has its two flags exchanged.  A stream of children read from
its end has the same runs at the same places, so the same children stay and the white space that was
in front of one is then behind it.
-/

set_option autoImplicit false

namespace TemplateSpacing.Tree

namespace Kind

/-- The kind of a text with its characters in the opposite order; other nodes look the same from both
ends. -/
def backwards : Kind → Kind
  | .text chars => .text (String.ofList chars.toList.reverse)
  | kind => kind

end Kind

namespace Label

def backwards (label : Label) : Label :=
  { label with kind := label.kind.backwards }

def exchanged (one other : Note) (label : Label) : Label :=
  (label.note one (label.notes.get other)).note other (label.notes.get one)

theorem exchanged_flags {one other : Note} (apart : one ≠ other) (label : Label) (first second : Bool) :
    ((label.withFlag one first).withFlag other second).exchanged one other =
      (label.withFlag one second).withFlag other first := by
  simp only [exchanged, withFlag, note]
  congr 1
  apply Notes.ext_get
  intro note
  simp only [Notes.get_set, if_neg apart, if_neg apart.symm, if_true]
  split
  · rfl
  · split <;> rfl

/-- Notes that are alike can be exchanged. -/
theorem exchanged_same {one other : Note} {label : Label}
    (same : label.notes.get one = label.notes.get other) : label.exchanged one other = label := by
  cases label with
  | mk kind notes extras =>
      simp only [exchanged, note]
      congr 1
      apply Notes.ext_get
      intro note
      simp only [Notes.get_set]
      split
      · next isOther => exact isOther ▸ same
      · split
        · next isOne => exact isOne ▸ same.symm
        · rfl

end Label

end TemplateSpacing.Tree

namespace TemplateSpacing.Pass

open TemplateSpacing.Tree

/-! ## Edges -/

section Edges

variable (config : Config) (parent : Label)

/-- The edges between siblings. -/
def innerEdges (children : List Label) : List Bool :=
  List.zipWith (innerEdge config parent) children.dropLast children.tail

theorem innerEdges_reverse (children : List Label) :
    innerEdges config parent children.reverse = (innerEdges config parent children).reverse := by
  have count : children.tail.length = children.dropLast.length := by simp
  rw [innerEdges, innerEdges, List.dropLast_reverse, List.tail_reverse,
    ← List.reverse_zipWith count,
    List.zipWith_comm_of_comm (innerEdge_comm config parent)]

/-- Every edge but the outer ones is the trailing edge of one child and the leading edge of the
next. -/
theorem edgesFrom_eq_zip (leading : Bool) (first : Label) (rest : List Label) :
    edgesFrom config parent leading (first :: rest) =
      (leading :: innerEdges config parent (first :: rest)).zip
        (innerEdges config parent (first :: rest) ++
          [outerEdge config parent ((first :: rest).getLast (List.cons_ne_nil first rest))]) := by
  induction rest generalizing leading first with
  | nil => rfl
  | cons second rest ih =>
      rw [edgesFrom, ih]
      rfl

theorem edgesUnder_eq_zip {children : List Label} (filled : children ≠ []) :
    edgesUnder config parent children =
      (outerEdge config parent (children.head filled) :: innerEdges config parent children).zip
        (innerEdges config parent children ++
          [outerEdge config parent (children.getLast filled)]) := by
  cases children with
  | nil => exact (filled rfl).elim
  | cons first rest => exact edgesFrom_eq_zip config parent _ first rest

theorem edgesUnder_reverse (children : List Label) :
    edgesUnder config parent children.reverse =
      ((edgesUnder config parent children).map Prod.swap).reverse := by
  by_cases filled : children = []
  · subst filled
    rfl
  · have count : (outerEdge config parent (children.head filled) ::
          innerEdges config parent children).length =
        (innerEdges config parent children ++
          [outerEdge config parent (children.getLast filled)]).length := by simp
    rw [edgesUnder_eq_zip config parent (List.reverse_ne_nil_iff.mpr filled),
      edgesUnder_eq_zip config parent filled, innerEdges_reverse, List.head_reverse,
      List.getLast_reverse, List.zip_swap, List.zip_eq_zipWith, List.zip_eq_zipWith,
      List.reverse_zipWith count.symm, List.reverse_concat, List.reverse_cons]

theorem withEdges_reverse (edges : List (Bool × Bool)) (children : List Label)
    (count : edges.length = children.length) :
    withEdges (edges.map Prod.swap).reverse children.reverse =
      ((withEdges edges children).map (Label.exchanged .leadingSensitive .trailingSensitive)).reverse := by
  rw [withEdges, ← List.reverse_zipWith (by rw [List.length_map, count]),
    List.zipWith_map_left, List.map_zipWith]
  simp only [Label.exchanged_flags (show Note.leadingSensitive ≠ .trailingSensitive by decide)]
  rfl

theorem isSoleText_eq (children : List Label) :
    isSoleText children = (decide (children.length = 1) && children.all fun child => child.kind.isText) := by
  match children with
  | [] => rfl
  | [_] => simp [isSoleText]
  | _ :: _ :: _ => simp [isSoleText]

end Edges

/-! ## White space -/

section Stream

theorem items_backwards (kind : Kind) : items kind.backwards = (items kind).reverse := by
  cases kind with
  | text chars => simp [Kind.backwards, items, List.map_reverse]
  | _ => rfl

theorem endsBlank_reverse (seen : List Item) : endsBlank seen.reverse = startsBlank seen := by
  rw [endsBlank, List.getLast?_reverse, startsBlank]

theorem startsBlank_reverse (rest : List Item) : startsBlank rest.reverse = endsBlank rest := by
  rw [startsBlank, List.head?_reverse, endsBlank]

theorem stream_backwards (kinds : List Kind) :
    stream (kinds.map Kind.backwards).reverse = (stream kinds).reverse := by
  induction kinds with
  | nil => rfl
  | cons kind rest ih =>
      rw [List.map_cons, List.reverse_cons, stream_append, ih, stream_cons, stream_cons,
        items_backwards, List.reverse_append]
      simp [stream]

theorem isBlankText_backwards (kind : Kind) : isBlankText kind.backwards = isBlankText kind := by
  cases kind with
  | text chars => simp [Kind.backwards, isBlankText, Text.isAllBlank]
  | _ => rfl

theorem trimmedKind_backwards (kind : Kind) :
    trimmedKind kind.backwards = (trimmedKind kind).backwards := by
  cases kind with
  | text chars =>
      simp only [Kind.backwards, trimmedKind, Text.strip, String.toList_ofList, Text.trim_reverse]
  | _ => rfl

theorem leadItems_backwards {kind : Kind} (filled : isBlankText kind = false) :
    leadItems kind.backwards = (trailItems kind).reverse := by
  cases kind with
  | text chars =>
      rw [isBlankText, isAllBlank_eq, List.isEmpty_eq_false_iff] at filled
      rw [Kind.backwards, leadItems, String.toList_ofList, Text.divide_reverse filled,
        List.map_reverse, trailItems]
  | _ => rfl

theorem trailItems_backwards {kind : Kind} (filled : isBlankText kind = false) :
    trailItems kind.backwards = (leadItems kind).reverse := by
  cases kind with
  | text chars =>
      rw [isBlankText, isAllBlank_eq, List.isEmpty_eq_false_iff] at filled
      rw [Kind.backwards, trailItems, String.toList_ofList, Text.divide_reverse filled,
        List.map_reverse, leadItems]
  | _ => rfl

end Stream

/-- A child in a place, with the streams in front of it and behind it: nothing is left of a blank text,
and any other child is trimmed and has notes on the white space next to it. -/
def keptBetween (seen after : List Item) (label : Label) : Option Label :=
  if isBlankText label.kind then none
  else some (spaced (endsBlank (seen ++ leadItems label.kind))
    (startsBlank (trailItems label.kind ++ after)) (trimmed label))

def keptAmong (after : List Item) : List Item → List Label → List (Option Label)
  | _, [] => []
  | seen, label :: rest =>
    keptBetween seen (stream (rest.map Label.kind) ++ after) label ::
      keptAmong after (seen ++ items label.kind) rest

/-- A child on which nothing is noted about the white space next to it. -/
structure Unvisited (label : Label) : Prop where
  known : label.kind.isKnown = true
  leading : label.notes.leadingSpaces = none
  trailing : label.notes.trailingSpaces = none

def mirrored (label : Label) : Label :=
  label.backwards.exchanged .leadingSpaces .trailingSpaces

section Mirror

theorem Unvisited.backwards {label : Label} (unvisited : Unvisited label) :
    Unvisited label.backwards := by
  refine ⟨?_, unvisited.leading, unvisited.trailing⟩
  have known := unvisited.known
  cases label with
  | mk kind notes extras =>
      cases kind with
      | text _ => rfl
      | _ => exact known

theorem Unvisited.mirrored {label : Label} (unvisited : Unvisited label) :
    mirrored label = label.backwards :=
  Label.exchanged_same (unvisited.leading.trans unvisited.trailing.symm)

theorem mirrored_spaced (before after : Bool) (label : Label) :
    mirrored (spaced before after (trimmed label)) = spaced after before (trimmed label.backwards) := by
  have kinds : trimmed label.backwards = (trimmed label).backwards := by
    simp only [trimmed, Label.backwards, trimmedKind_backwards]
  rw [kinds]
  exact Label.exchanged_flags (by decide) (trimmed label).backwards before after

theorem keptBetween_backwards (seen after : List Item) (label : Label) :
    keptBetween after.reverse seen.reverse label.backwards =
      (keptBetween seen after label).map mirrored := by
  have kind : label.backwards.kind = label.kind.backwards := rfl
  rw [keptBetween, keptBetween, kind, isBlankText_backwards]
  cases filled : isBlankText label.kind with
  | true => rfl
  | false =>
      simp only [Bool.false_eq_true, if_false, Option.map_some]
      rw [leadItems_backwards filled, trailItems_backwards filled, ← List.reverse_append,
        ← List.reverse_append, endsBlank_reverse, startsBlank_reverse, mirrored_spaced]

theorem keptAmong_single (after seen : List Item) (label : Label) :
    keptAmong after seen [label] = [keptBetween seen after label] := rfl

theorem keptAmong_append (after seen : List Item) (front back : List Label) :
    keptAmong after seen (front ++ back) =
      keptAmong (stream (back.map Label.kind) ++ after) seen front ++
        keptAmong after (seen ++ stream (front.map Label.kind)) back := by
  induction front generalizing seen with
  | nil => simp [keptAmong, stream]
  | cons label rest ih =>
      rw [List.cons_append, keptAmong, keptAmong, ih, List.map_append, stream_append, List.map_cons,
        stream_cons, List.cons_append]
      simp only [List.append_assoc]

theorem kinds_backwards (labels : List Label) :
    (labels.map Label.backwards).map Label.kind = (labels.map Label.kind).map Kind.backwards := by
  rw [List.map_map, List.map_map]
  rfl

/-- Between two streams that are read backwards the children are kept the other way round. -/
theorem keptAmong_backwards (after seen : List Item) (labels : List Label) :
    keptAmong seen.reverse after.reverse (labels.map Label.backwards).reverse =
      ((keptAmong after seen labels).map (Option.map mirrored)).reverse := by
  induction labels generalizing seen with
  | nil => rfl
  | cons label rest ih =>
      have shorter := ih (seen ++ items label.kind)
      have first := keptBetween_backwards seen (stream (rest.map Label.kind) ++ after) label
      rw [List.reverse_append, ← items_backwards] at shorter
      rw [List.reverse_append, ← stream_backwards] at first
      rw [List.map_cons, List.reverse_cons, keptAmong_append, List.map_reverse, kinds_backwards,
        keptAmong_single, keptAmong]
      simp only [List.map_cons, List.reverse_cons, ← shorter, ← first]
      simp [stream, Label.backwards]

theorem keptLabels_eq {children : List Label} (unvisited : ∀ child ∈ children, Unvisited child) :
    keptLabels children = keptAmong [] [] children := by
  suffices each : ∀ seen, (keptFrom (endsBlank seen) (children.map pieceOf)).map
      (Option.map Kept.written) = keptAmong [] seen children from each []
  intro seen
  induction children generalizing seen with
  | nil => rfl
  | cons label rest ih =>
      have later := ih (fun child member => unvisited child (List.mem_cons_of_mem _ member))
        (seen ++ items label.kind)
      have own := unvisited label List.mem_cons_self
      rw [List.map_cons, keptFrom, endsWithRun?_pieceOf, ← endsBlank_append, List.map_cons, later,
        keptAmong, content_pieceOf, lead_pieceOf, trail_pieceOf, startsWithRun_eq,
        ← endsBlank_run seen (all_leadItems _), ← startsBlank_run _ (all_trailItems _), keptBetween,
        List.append_nil]
      cases isBlankText label.kind with
      | true => rfl
      | false =>
          have leading : (trimmed label).notes.leadingSpaces = none := own.leading
          have trailing : (trimmed label).notes.trailingSpaces = none := own.trailing
          simp [Kept.written, leading, trailing, raised, Notes.holds, spaced]

theorem unvisited_backwards {children : List Label}
    (unvisited : ∀ child ∈ children, Unvisited child) :
    ∀ child ∈ (children.map Label.backwards).reverse, Unvisited child := by
  intro child member
  obtain ⟨label, inChildren, rfl⟩ := List.mem_map.mp (List.mem_reverse.mp member)
  exact (unvisited label inChildren).backwards

theorem keptLabels_backwards {children : List Label}
    (unvisited : ∀ child ∈ children, Unvisited child) :
    keptLabels (children.map Label.backwards).reverse =
      ((keptLabels children).map (Option.map mirrored)).reverse := by
  rw [keptLabels_eq unvisited, keptLabels_eq (unvisited_backwards unvisited)]
  exact keptAmong_backwards [] [] children

theorem isHollow_eq (kinds : List Kind) :
    isHollow kinds = (decide (kinds.length ≤ 1) && kinds.all isBlankText) := by
  match kinds with
  | [] => rfl
  | [_] => simp [isHollow]
  | _ :: _ :: _ => simp [isHollow]

theorem isDanglingBody_backwards (children : List Label) :
    isDanglingBody (children.map Label.backwards).reverse = isDanglingBody children := by
  rw [isDanglingBody_eq, isDanglingBody_eq, List.map_reverse, kinds_backwards, isHollow_eq, isHollow_eq]
  simp [List.all_map, Function.comp_def, isBlankText_backwards]

end Mirror

/-! ## The passes -/

section Passes

variable (config : Config) {parent : Label} {children : List Label}

def Balanced (label : Label) : Prop :=
  label.notes.get .leadingSensitive = label.notes.get .trailingSensitive

/-- What the second pass does to children in the opposite order.  An only text is given no flags of its
own, so flags that it has already stay as they are. -/
structure EdgesMirrored (straight turned : Outcome (Label × List Label)) (children : List Label) :
    Prop where
  done : straight.fault = none ∧ turned.fault = none
  owner : turned.state.1 = straight.state.1
  edges : (isSoleText children = true → ∀ child ∈ children, Balanced child) → turned.state.2 =
    (straight.state.2.map (Label.exchanged .leadingSensitive .trailingSensitive)).reverse
  sole : isSoleText children = true →
    straight.state.2 = children ∧ turned.state.2 = children.reverse

theorem edgesMirrored (classified : Classified parent) (all : ∀ child ∈ children, Classified child) :
    EdgesMirrored (applySensitivity config parent children)
      (applySensitivity config parent children.reverse) children := by
  obtain ⟨done, state⟩ := applySensitivity_eq config classified all
  have turnedAll : ∀ child ∈ children.reverse, Classified child :=
    fun child member => all child (List.mem_reverse.mp member)
  obtain ⟨turnedDone, turnedState⟩ := applySensitivity_eq config classified turnedAll
  have sole : isSoleText children.reverse = isSoleText children := by
    rw [isSoleText_eq, isSoleText_eq, List.length_reverse, List.all_reverse]
  rw [sole] at turnedState
  refine ⟨⟨done, turnedDone⟩, ?_, ?_, ?_⟩
  · rw [state, turnedState]
    split <;> rfl
  · intro balanced
    rw [state, turnedState]
    cases single : isSoleText children with
    | true =>
        have same : children.map (Label.exchanged .leadingSensitive .trailingSensitive) = children :=
          (List.map_congr_left fun child member =>
            Label.exchanged_same (balanced single child member)).trans (List.map_id' children)
        simp only [if_true, same]
    | false =>
        simp only [Bool.false_eq_true, if_false, edgesUnder_reverse]
        exact withEdges_reverse _ _ (length_edgesUnder config)
  · intro single
    rw [state, turnedState, single]
    exact ⟨rfl, rfl⟩

structure SpacesMirrored (straight turned : Outcome (Label × List (Option Label))) : Prop where
  done : straight.fault = none ∧ turned.fault = none
  owner : turned.state.1 = straight.state.1
  children : turned.state.2 = (straight.state.2.map (Option.map mirrored)).reverse

theorem extractWhitespace_eq (element : parent.kind.isElement = true)
    (known : ∀ child ∈ children, child.kind.isKnown = true) :
    (extractWhitespace config parent children).fault = none ∧
      (extractWhitespace config parent children).state =
        whitespaceRule config false parent children := by
  have whole : (extractFromElements config false parent children).fault = none ∧
      (extractFromElements config false parent children).state =
        whitespaceRule config false parent children := extractFromElements_eq config known
  rw [extractFromElements, if_pos element] at whole
  exact whole

theorem spacesMirrored (element : parent.kind.isElement = true)
    (unvisited : ∀ child ∈ children, Unvisited child) :
    SpacesMirrored (extractWhitespace config parent children)
      (extractWhitespace config parent (children.map Label.backwards).reverse) := by
  obtain ⟨done, state⟩ := extractWhitespace_eq config element fun child member =>
    (unvisited child member).known
  obtain ⟨turnedDone, turnedState⟩ := extractWhitespace_eq config element fun child member =>
    (unvisited_backwards unvisited child member).known
  have kept : (children.map Label.backwards).reverse.map some =
      ((children.map some).map (Option.map mirrored)).reverse := by
    rw [List.map_reverse, List.map_map, List.map_map]
    congr 1
    exact List.map_congr_left fun child member =>
      congrArg some (unvisited child member).mirrored.symm
  refine ⟨⟨done, turnedDone⟩, ?_, ?_⟩
  · rw [state, turnedState, whitespaceRule, whitespaceRule, isDanglingBody_backwards]
    simp only [if_pos element, List.isEmpty_reverse, List.isEmpty_map]
    split <;> rfl
  · rw [state, turnedState, whitespaceRule, whitespaceRule, isDanglingBody_backwards]
    simp only [if_pos element]
    split
    · simp [Function.comp_def]
    · split
      · exact kept
      · exact keptLabels_backwards unvisited

/-- Front and back are alike to both passes: under a node with displays all around, children in the
opposite order get the flags of their edges exchanged, and the node gets the same flag for an only
text, which is given none; under an element, children read from the end leave the same children, read
from the end and with the notes on the white space next to them exchanged, and the element gets the
same notes. -/
theorem passes_mirrored (config : Config) (parent : Label) (children : List Label) :
    (Classified parent → (∀ child ∈ children, Classified child) →
      EdgesMirrored (applySensitivity config parent children)
        (applySensitivity config parent children.reverse) children) ∧
    (parent.kind.isElement = true → (∀ child ∈ children, Unvisited child) →
      SpacesMirrored (extractWhitespace config parent children)
        (extractWhitespace config parent (children.map Label.backwards).reverse)) :=
  ⟨fun classified all => edgesMirrored config classified all,
    fun element unvisited => spacesMirrored config element unvisited⟩

def letter : Label := (Label.ofKind (.element "p" [])).withDisplay "block"

def letterParts : List Label :=
  [(Label.ofKind (.text " Dear\n")).withDisplay "inline",
    (Label.ofKind (.element "em" [])).withDisplay "inline"]

theorem passes_mirrored_letter :
    EdgesMirrored (applySensitivity Config.builtin letter letterParts)
        (applySensitivity Config.builtin letter letterParts.reverse) letterParts ∧
      SpacesMirrored (extractWhitespace Config.builtin letter letterParts)
        (extractWhitespace Config.builtin letter (letterParts.map Label.backwards).reverse) := by
  obtain ⟨edges, spaces⟩ := passes_mirrored Config.builtin letter letterParts
  refine ⟨edges ⟨rfl, _, rfl⟩ ?_, spaces rfl ?_⟩
  · exact List.forall_mem_cons.mpr ⟨⟨rfl, _, rfl⟩, List.forall_mem_singleton.mpr ⟨rfl, _, rfl⟩⟩
  · exact List.forall_mem_cons.mpr ⟨⟨rfl, rfl, rfl⟩, List.forall_mem_singleton.mpr ⟨rfl, rfl, rfl⟩⟩

end Passes

end TemplateSpacing.Pass
