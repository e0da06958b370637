import TemplateSpacing.Pass.Sensitivity
import TemplateSpacing.Proofs.Pass.Displays

/-! # The sensitivity of edges in closed form

The opinions of the two children at an edge, brought together, are a symmetric function of the two;
the outer edges depend on the parent and one child.  The edges under a parent are computed here in
one go from left to right, and the pass is shown to write exactly these.
-/

set_option autoImplicit false

namespace TemplateSpacing.Pass

open TemplateSpacing.Tree

def shown (label : Label) : String :=
  (label.notes.display.bind Value.text?).getD ""

def innerEdge (config : Config) (parent left right : Label) : Bool :=
  (left.kind.isTextLike && right.kind.isTextLike) ||
    (shown parent ≠ "none" && (isVerbatim config parent.kind ||
      (!Css.isBlockLike (shown left) && !Css.isBlockLike (shown right))))

def outerEdge (config : Config) (parent child : Label) : Bool :=
  shown parent ≠ "none" && (isVerbatim config parent.kind ||
    (!parent.kind.isRoot && !isVerbatim config child.kind && !Css.isBlockLike (shown parent) &&
      shown parent ≠ "inline-block"))

def edgesFrom (config : Config) (parent : Label) (leading : Bool) : List Label → List (Bool × Bool)
  | [] => []
  | [last] => [(leading, outerEdge config parent last)]
  | left :: right :: rest =>
    (leading, innerEdge config parent left right) ::
      edgesFrom config parent (innerEdge config parent left right) (right :: rest)

def edgesUnder (config : Config) (parent : Label) : List Label → List (Bool × Bool)
  | [] => []
  | first :: rest => edgesFrom config parent (outerEdge config parent first) (first :: rest)

def withEdges : List (Bool × Bool) → List Label → List Label :=
  List.zipWith fun edge child =>
    (child.withFlag .leadingSensitive edge.1).withFlag .trailingSensitive edge.2

/-! ## Opinions -/

def towards (config : Config) (parent : Label) : Option Label → Label → Bool
  | none, child => outerEdge config parent child
  | some beside, child =>
    (child.kind.isTextLike && beside.kind.isTextLike) ||
      (shown parent ≠ "none" &&
        (isVerbatim config parent.kind || !Css.isBlockLike (shown beside)))

structure Classified (label : Label) : Prop where
  known : label.kind.isKnown = true
  displayed : Displayed label

theorem Classified.hasNotes {label : Label} (classified : Classified label) :
    label.kind.hasNotes = true :=
  Node.hasNotes_of_isKnown classified.known

section Opinions

theorem display_of_displayed {label : Label} (displayed : Displayed label) :
    label.notes.display = some (.text (shown label)) := by
  obtain ⟨display, assigned⟩ := displayed
  rw [shown, assigned]
  rfl

theorem displayOf_eq {label : Label} (classified : Classified label) :
    displayOf label = .ok (.text (shown label)) := by
  rw [displayOf, classified.hasNotes, if_pos rfl,
    display_of_displayed classified.displayed]

theorem opinion_eq (config : Config) {parent : Label} (child : Label) (neighbour : Option Label)
    (classified : Classified parent)
    (beside : ∀ label ∈ neighbour, Classified label) :
    opinion config parent neighbour child = .ok (towards config parent neighbour child) := by
  cases neighbour with
  | none =>
      simp only [opinion, displayOf_eq classified, towards, outerEdge, isUnrendered, askDisplay,
        Css.edgeMatters, Value.text?, Option.any_none, Bool.and_false]
      by_cases unrendered : shown parent = "none"
      · simp [unrendered]
      · cases isVerbatim config parent.kind <;> cases parent.kind.isRoot <;>
          cases isVerbatim config child.kind <;> simp [unrendered]
  | some label =>
      simp only [opinion, displayOf_eq classified, displayOf_eq (beside label rfl), towards,
        isUnrendered, askDisplay, Css.besideMatters, Value.text?, Option.any_some]
      by_cases unrendered : shown parent = "none"
      · cases child.kind.isTextLike && label.kind.isTextLike <;> simp [unrendered]
      · cases child.kind.isTextLike && label.kind.isTextLike <;>
          cases isVerbatim config parent.kind <;> simp [unrendered]

/-- Two siblings agree on the edge between them exactly when it matters. -/
theorem towards_and (config : Config) (parent left right : Label) :
    (towards config parent (some right) left && towards config parent (some left) right) =
      innerEdge config parent left right := by
  simp only [towards, innerEdge, Bool.and_comm right.kind.isTextLike]
  cases left.kind.isTextLike && right.kind.isTextLike
  · cases isVerbatim config parent.kind <;> cases Css.isBlockLike (shown left) <;>
      cases Css.isBlockLike (shown right) <;> simp
  · rfl

end Opinions

/-! ## All opinions under a parent -/

def leadings (config : Config) (parent : Label) : Option Label → List Label → List Bool
  | _, [] => []
  | before, child :: rest =>
    towards config parent before child :: leadings config parent (some child) rest

def trailings (config : Config) (parent : Label) : List Label → List Bool
  | [] => []
  | [last] => [towards config parent none last]
  | left :: right :: rest =>
    towards config parent (some right) left :: trailings config parent (right :: rest)

section Siblings

variable (config : Config) {parent : Label} {children : List Label}

theorem asNeighbour_eq {label : Label} (hasNotes : label.kind.hasNotes = true) :
    asNeighbour label = some label := by
  unfold asNeighbour
  cases kind : label.kind with
  | bodyLabel _ => rw [kind] at hasNotes; cases hasNotes
  | foreign _ => rw [kind] at hasNotes; cases hasNotes
  | _ => rfl

theorem opinions_before (classified : Classified parent)
    (all : ∀ child ∈ children, Classified child) (before : Option Label)
    (first : ∀ label ∈ before, Classified label) :
    opinions config parent ((before :: children.map asNeighbour).take children.length) children =
      .ok (leadings config parent before children) := by
  induction children generalizing before with
  | nil => rfl
  | cons child rest ih =>
      have own := all child List.mem_cons_self
      have later := ih (fun label member => all label (List.mem_cons_of_mem _ member)) (some child)
        (by intro label same; exact Option.some.inj same ▸ own)
      simp only [List.length_cons, List.take_succ_cons, List.map_cons, asNeighbour_eq own.hasNotes,
        opinions, opinion_eq config child before classified first, later]
      rfl

theorem opinions_after (classified : Classified parent)
    (all : ∀ child ∈ children, Classified child) :
    opinions config parent (neighboursAfter children) children =
      .ok (trailings config parent children) := by
  induction children with
  | nil => rfl
  | cons left rest ih =>
      cases rest with
      | nil =>
          have own := opinion_eq config left none classified
            (by rintro label ⟨⟩)
          simp only [neighboursAfter, List.drop_succ_cons, List.drop_nil, List.map_nil,
            List.nil_append, opinions, own]
          rfl
      | cons right rest =>
          have beside := all right (by simp)
          have own := opinion_eq config left (some right) classified
            (by intro label same; exact Option.some.inj same ▸ beside)
          have later := ih fun label member => all label (List.mem_cons_of_mem _ member)
          simp only [neighboursAfter, List.drop_succ_cons, List.drop_zero, List.map_cons,
            List.cons_append, asNeighbour_eq beside.hasNotes, opinions, own] at later ⊢
          rw [later]
          rfl

/-- The opinions brought together are the edges from left to right. -/
theorem zip_opinions (parent : Label) (before : Option Label) (opinionBefore : Bool) (first : Label)
    (rest : List Label) :
    (List.zipWith (fun before own => before && own)
        (opinionBefore :: trailings config parent (first :: rest))
        (leadings config parent before (first :: rest))).zip
      (List.zipWith (fun next own => next && own)
        ((leadings config parent before (first :: rest)).drop 1 ++ [true])
        (trailings config parent (first :: rest))) =
      edgesFrom config parent (opinionBefore && towards config parent before first)
        (first :: rest) := by
  -- The leading opinion of the first child still has to meet the trailing one of the child before,
  -- so the induction carries that opinion.
  induction rest generalizing before opinionBefore first with
  | nil => simp [trailings, leadings, edgesFrom, towards]
  | cons right rest ih =>
      have later := ih (some first) (towards config parent (some right) first) right
      simp only [leadings, trailings, edgesFrom, List.drop_succ_cons, List.drop_zero,
        List.zipWith_cons_cons, List.zip_cons_cons, List.cons_append] at later ⊢
      rw [towards_and] at later
      rw [Bool.and_comm (towards config parent (some first) right), towards_and, later]

theorem edges_eq (classified : Classified parent) (all : ∀ child ∈ children, Classified child) :
    edges config parent children = .ok (edgesUnder config parent children) := by
  have leading := opinions_before config classified all none (by rintro label ⟨⟩)
  have trailing := opinions_after config classified all
  rw [edges, neighboursBefore, leading, trailing]
  cases children with
  | nil => rfl
  | cons first rest =>
      have together := zip_opinions config parent none true first rest
      simp only [Bool.true_and] at together
      simp only [leadingEdges, trailingEdges, together, edgesUnder]
      rfl

theorem length_edgesFrom (leading : Bool) :
    (edgesFrom config parent leading children).length = children.length := by
  induction children generalizing leading with
  | nil => rfl
  | cons left rest ih =>
      cases rest with
      | nil => rfl
      | cons right rest => simp only [edgesFrom, List.length_cons, ih]

theorem length_edgesUnder : (edgesUnder config parent children).length = children.length := by
  cases children with
  | nil => rfl
  | cons first rest => exact length_edgesFrom config _

theorem writeEdges_eq (edges : List (Bool × Bool)) (notes : ∀ child ∈ children, child.kind.hasNotes = true)
    (count : edges.length = children.length) :
    (writeEdges edges children).fault = none ∧
      (writeEdges edges children).state = withEdges edges children := by
  induction children generalizing edges with
  | nil => cases edges <;> exact ⟨rfl, rfl⟩
  | cons child rest ih =>
      cases edges with
      | nil => cases count
      | cons edge edges =>
          have hasNotes := notes child List.mem_cons_self
          obtain ⟨done, state⟩ := ih edges (fun label member => notes label (List.mem_cons_of_mem _ member))
            (Nat.succ.inj count)
          simp only [writeEdges, hasNotes, if_true, Outcome.map, withEdges, List.zipWith_cons_cons]
          exact ⟨done, by rw [state, withEdges]⟩

end Siblings

/-! ## The edges one by one -/

theorem innerEdge_comm (config : Config) (parent left right : Label) :
    innerEdge config parent left right = innerEdge config parent right left := by
  rw [innerEdge, innerEdge, Bool.and_comm left.kind.isTextLike,
    Bool.and_comm (!Css.isBlockLike (shown left))]

section Positions

variable (config : Config) (parent : Label) (leading : Bool) {children : List Label}

theorem edgesFrom_inner {index : Nat} {left right : Label}
    (here : children[index]? = some left) (next : children[index + 1]? = some right) :
    ∃ before after,
      (edgesFrom config parent leading children)[index]? =
          some (before, innerEdge config parent left right) ∧
        (edgesFrom config parent leading children)[index + 1]? =
          some (innerEdge config parent left right, after) := by
  induction children generalizing leading index with
  | nil => simp at here
  | cons child rest ih =>
      cases rest with
      | nil => simp at next
      | cons second rest =>
          cases index with
          | zero =>
              obtain rfl : child = left := by simpa using here
              obtain rfl : second = right := by simpa using next
              cases rest with
              | nil => exact ⟨_, _, rfl, rfl⟩
              | cons third rest => exact ⟨_, _, rfl, rfl⟩
          | succ index =>
              simp only [List.getElem?_cons_succ] at here next
              simp only [edgesFrom, List.getElem?_cons_succ]
              exact ih _ here next

theorem edgesFrom_first (child : Label) (rest : List Label) :
    ∃ after, (edgesFrom config parent leading (child :: rest))[0]? = some (leading, after) := by
  cases rest with
  | nil => exact ⟨_, rfl⟩
  | cons right rest => exact ⟨_, rfl⟩

theorem edgesFrom_last {index : Nat} {last : Label}
    (here : children[index]? = some last) (isLast : index + 1 = children.length) :
    ∃ before, (edgesFrom config parent leading children)[index]? =
      some (before, outerEdge config parent last) := by
  induction children generalizing leading index with
  | nil => simp at here
  | cons child rest ih =>
      cases rest with
      | nil =>
          obtain rfl : index = 0 := by simpa using isLast
          obtain rfl : child = last := by simpa using here
          exact ⟨_, rfl⟩
      | cons second rest =>
          cases index with
          | zero => simp at isLast
          | succ index =>
              simp only [List.getElem?_cons_succ] at here
              simp only [edgesFrom, List.getElem?_cons_succ]
              exact ih _ here (by simpa using isLast)

end Positions

end TemplateSpacing.Pass
