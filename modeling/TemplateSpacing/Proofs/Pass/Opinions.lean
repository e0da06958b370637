import TemplateSpacing.Proofs.Pass.Sensitivities

/-! # Opinions one by one

The second pass asks all children about their leading edges, and then all about their trailing edges; what
each of them answers is the opinion of the child at its place.  So the pass is refused exactly when one of
the opinions cannot be formed, which is when a display is missing that the opinion depends on, and it has
written nothing then.
-/

set_option autoImplicit false

namespace TemplateSpacing.Pass

open TemplateSpacing.Tree

section OneByOne

variable (config : Config) (parent : Label) (children : List Label)

theorem opinions_eq_mapM (neighbours : List (Option Label)) :
    opinions config parent neighbours children =
      (neighbours.zip children).mapM fun place => opinion config parent place.1 place.2 := by
  induction neighbours generalizing children with
  | nil => rfl
  | cons neighbour neighbours ih =>
      cases children with
      | nil => rfl
      | cons child rest =>
          rw [opinions, List.zip_cons_cons, List.mapM_cons, ih]
          cases opinion config parent neighbour child with
          | error fault => rfl
          | ok flag =>
              cases (neighbours.zip rest).mapM fun place => opinion config parent place.1 place.2 <;> rfl

theorem getElem?_neighboursBefore {index : Nat} (inside : index < children.length) :
    (neighboursBefore children)[index]? =
      some ((if index = 0 then none else children[index - 1]?).bind asNeighbour) := by
  rw [neighboursBefore, List.getElem?_take_of_lt inside]
  cases index with
  | zero => rfl
  | succ index =>
      have before := List.getElem?_eq_getElem (Nat.lt_of_succ_lt inside)
      simp [before]

theorem getElem?_neighboursAfter {index : Nat} (inside : index < children.length) :
    (neighboursAfter children)[index]? = some (children[index + 1]?.bind asNeighbour) := by
  have count : ((children.drop 1).map asNeighbour).length = children.length - 1 := by
    rw [List.length_map, List.length_drop]
  rw [neighboursAfter]
  by_cases last : index + 1 < children.length
  · rw [List.getElem?_append_left (by omega), List.getElem?_map, List.getElem?_drop, Nat.add_comm,
      List.getElem?_eq_getElem last]
    rfl
  · rw [List.getElem?_append_right (by omega), List.getElem?_eq_none (Nat.le_of_not_lt last), count,
      show index - (children.length - 1) = 0 by omega]
    rfl

/-- Neighbours in step with the children, at each place the one that the place has. -/
theorem zip_neighbours {neighbours : List (Option Label)} {neighbourAt : Nat → Option Label}
    (each : ∀ index, index < children.length → neighbours[index]? = some (neighbourAt index)) :
    neighbours.zip children =
      children.zipIdx.map fun place => (neighbourAt place.2, place.1) := by
  apply List.ext_getElem?
  intro index
  rw [List.zip_eq_zipWith, List.getElem?_zipWith, List.getElem?_map, List.getElem?_zipIdx]
  cases here : children[index]? with
  | none => cases neighbours[index]? <;> rfl
  | some child =>
      rw [each index (List.getElem?_eq_some_iff.mp here).1, Nat.zero_add]
      rfl

/-- All are asked about their leading edges as each one is at its place. -/
theorem opinions_leading :
    opinions config parent (neighboursBefore children) children =
      children.zipIdx.mapM fun place => leadingOpinion config parent children place.2 place.1 := by
  rw [opinions_eq_mapM, zip_neighbours children fun _ => getElem?_neighboursBefore children,
    List.mapM_map]
  rfl

theorem opinions_trailing :
    opinions config parent (neighboursAfter children) children =
      children.zipIdx.mapM fun place => trailingOpinion config parent children place.2 place.1 := by
  rw [opinions_eq_mapM, zip_neighbours children fun _ => getElem?_neighboursAfter children,
    List.mapM_map]
  rfl

end OneByOne

/-! ## Opinions that cannot be formed -/

def Worded (label : Label) : Prop :=
  ∀ display, label.notes.display = some display → ∃ word, display = .text word

/-- Siblings under a parent whose displays decide about the edge between them: they are not both text, and
the parent does not settle the matter by its own display or white space. -/
structure Decides (config : Config) (parent left right : Label) : Prop where
  apart : (left.kind.isTextLike && right.kind.isTextLike) = false
  rendered : parent.notes.display ≠ some (.text "none")
  loose : isVerbatim config parent.kind = false

theorem Decides.symm {config : Config} {parent left right : Label}
    (decides : Decides config parent left right) : Decides config parent right left :=
  ⟨Bool.and_comm _ _ ▸ decides.apart, decides.rendered, decides.loose⟩

/-- What is said about an edge that nothing settles before it is looked at: the display of the neighbour
decides, or the end of the parent does. -/
def openAnswer (config : Config) (parent child : Label) (display : Value) :
    Option Label → Except Fault Bool
  | some other =>
    match displayOf other with
    | .error fault => .error fault
    | .ok beside => askDisplay Css.besideMatters beside
  | none =>
    if parent.kind.isRoot || isVerbatim config child.kind then .ok false
    else askDisplay Css.edgeMatters display

inductive Unformed (config : Config) (parent : Label) (neighbour : Option Label) (child : Label) :
    Fault → Prop
  | parent (missing : parent.notes.display = none) :
      Unformed config parent neighbour child (.noDisplay parent.kind.className)
  | beside {other : Label} (there : neighbour = some other)
      (decides : Decides config parent child other) (missing : other.notes.display = none) :
      Unformed config parent neighbour child (.noDisplay other.kind.className)
  | wordless {asked : Label} (there : asked = parent ∨ neighbour = some asked)
      (noWord : ¬Worded asked) : Unformed config parent neighbour child .missingPart

section Opinion

variable {config : Config} {parent child : Label} {neighbour : Option Label} {fault : Fault}

theorem displayOf_of_none (hasNotes : parent.kind.hasNotes = true)
    (missing : parent.notes.display = none) :
    displayOf parent = .error (.noDisplay parent.kind.className) := by
  rw [displayOf, if_pos hasNotes, missing]

theorem displayOf_of_some (hasNotes : parent.kind.hasNotes = true) {display : Value}
    (assigned : parent.notes.display = some display) : displayOf parent = .ok display := by
  rw [displayOf, if_pos hasNotes, assigned]

theorem isUnrendered_iff (display : Value) : isUnrendered display = true ↔ display = .text "none" := by
  rw [isUnrendered, decide_eq_true_eq]
  cases display <;> simp [Value.text?]

theorem not_worded_of_askDisplay {label : Label} {display : Value} {question : String → Bool}
    (assigned : label.notes.display = some display) (fails : askDisplay question display = .error fault) :
    fault = .missingPart ∧ ¬Worded label := by
  constructor
  · cases display with
    | text _ => cases fails
    | _ => exact (Except.error.inj fails).symm
  · intro worded
    obtain ⟨word, rfl⟩ := worded display assigned
    cases fails

/-- The parent is asked for its display before everything else, unless text stands next to text. -/
theorem opinion_of_parent (hasNotes : parent.kind.hasNotes = true)
    (apart : (child.kind.isTextLike && neighbour.any fun other => other.kind.isTextLike) = false)
    (missing : parent.notes.display = none) :
    opinion config parent neighbour child = .error (.noDisplay parent.kind.className) := by
  rw [opinion, apart, displayOf_of_none hasNotes missing]
  rfl

theorem opinion_of_open (parentNotes : parent.kind.hasNotes = true) {display : Value}
    (apart : (child.kind.isTextLike && neighbour.any fun other => other.kind.isTextLike) = false)
    (shows : parent.notes.display = some display) (rendered : isUnrendered display = false)
    (loose : isVerbatim config parent.kind = false) :
    opinion config parent neighbour child = openAnswer config parent child display neighbour := by
  simp only [opinion, apart, displayOf_of_some parentNotes shows, rendered, loose, Bool.false_eq_true,
    if_false]
  cases neighbour <;> rfl

theorem opinion_of_beside (parentNotes : parent.kind.hasNotes = true) {other : Label}
    (otherNotes : other.kind.hasNotes = true) (decides : Decides config parent child other)
    (assigned : parent.notes.display ≠ none) (missing : other.notes.display = none) :
    opinion config parent (some other) child = .error (.noDisplay other.kind.className) := by
  obtain ⟨display, shows⟩ := Option.ne_none_iff_exists'.mp assigned
  have rendered : isUnrendered display = false := by
    rw [← Bool.not_eq_true, isUnrendered_iff]
    rintro rfl
    exact decides.rendered shows
  rw [opinion_of_open parentNotes decides.apart shows rendered decides.loose, openAnswer,
    displayOf_of_none otherNotes missing]

theorem unformed_of_open (notes : ∀ other, neighbour = some other → other.kind.hasNotes = true)
    {display : Value}
    (apart : (child.kind.isTextLike && neighbour.any fun other => other.kind.isTextLike) = false)
    (shows : parent.notes.display = some display) (rendered : isUnrendered display = false)
    (loose : isVerbatim config parent.kind = false)
    (fails : openAnswer config parent child display neighbour = .error fault) :
    Unformed config parent neighbour child fault := by
  cases neighbour with
  | none =>
      rw [openAnswer] at fails
      split at fails
      · cases fails
      · obtain ⟨rfl, noWord⟩ := not_worded_of_askDisplay shows fails
        exact .wordless (.inl rfl) noWord
  | some other =>
      cases besideShows : other.notes.display with
      | none =>
          rw [openAnswer, displayOf_of_none (notes other rfl) besideShows] at fails
          obtain rfl := Except.error.inj fails
          refine .beside rfl ⟨apart, ?_, loose⟩ besideShows
          intro unrendered
          rw [shows, Option.some.injEq, ← isUnrendered_iff, rendered] at unrendered
          cases unrendered
      | some beside =>
          rw [openAnswer, displayOf_of_some (notes other rfl) besideShows] at fails
          obtain ⟨rfl, noWord⟩ := not_worded_of_askDisplay besideShows fails
          exact .wordless (.inr rfl) noWord

theorem unformed_of_error (parentNotes : parent.kind.hasNotes = true)
    (notes : ∀ other, neighbour = some other → other.kind.hasNotes = true)
    (fails : opinion config parent neighbour child = .error fault) :
    Unformed config parent neighbour child fault := by
  cases apart : child.kind.isTextLike && neighbour.any fun other => other.kind.isTextLike with
  | true =>
      rw [opinion, apart] at fails
      cases fails
  | false =>
      cases shows : parent.notes.display with
      | none =>
          rw [opinion_of_parent parentNotes apart shows] at fails
          obtain rfl := Except.error.inj fails
          exact .parent shows
      | some display =>
          cases rendered : isUnrendered display with
          | true =>
              simp [opinion, apart, displayOf_of_some parentNotes shows, rendered] at fails
          | false =>
              cases loose : isVerbatim config parent.kind with
              | true =>
                  simp [opinion, apart, displayOf_of_some parentNotes shows, rendered, loose] at fails
              | false =>
                  rw [opinion_of_open parentNotes apart shows rendered loose] at fails
                  exact unformed_of_open notes apart shows rendered loose fails

end Opinion

/-! ## All opinions under a parent -/

def Adjoining (children : List Label) (child other : Label) : Prop :=
  ∃ index, (children[index]? = some child ∧ children[index + 1]? = some other) ∨
    (children[index]? = some other ∧ children[index + 1]? = some child)

section Siblings

variable {config : Config} {parent child other : Label} {children : List Label} {fault : Fault}
  {index : Nat}

theorem eq_of_asNeighbour {label : Label} (there : asNeighbour label = some other) : label = other := by
  unfold asNeighbour at there
  split at there
  · cases there
  · exact Option.some.inj there

theorem adjoining_before (here : children[index]? = some child)
    (there : (if index = 0 then none else children[index - 1]?).bind asNeighbour = some other) :
    Adjoining children child other := by
  obtain ⟨label, found, same⟩ := Option.bind_eq_some_iff.mp there
  obtain rfl := eq_of_asNeighbour same
  cases index with
  | zero => cases found
  | succ place => exact ⟨place, .inr ⟨found, here⟩⟩

theorem adjoining_after (here : children[index]? = some child)
    (there : children[index + 1]?.bind asNeighbour = some other) : Adjoining children child other := by
  obtain ⟨label, found, same⟩ := Option.bind_eq_some_iff.mp there
  exact ⟨index, .inl ⟨here, eq_of_asNeighbour same ▸ found⟩⟩

theorem Adjoining.mem (adjoining : Adjoining children child other) : other ∈ children := by
  obtain ⟨place, ⟨_, there⟩ | ⟨there, _⟩⟩ := adjoining
  · exact List.mem_of_getElem? there
  · exact List.mem_of_getElem? there

theorem edges_ok {made : List (Bool × Bool)} (ok : edges config parent children = .ok made) :
    ∃ leading trailing,
      (children.zipIdx.mapM fun place => leadingOpinion config parent children place.2 place.1) =
          .ok leading ∧
        (children.zipIdx.mapM fun place => trailingOpinion config parent children place.2 place.1) =
          .ok trailing ∧
        made = (leadingEdges leading trailing).zip (trailingEdges leading trailing) := by
  rw [edges, opinions_leading, opinions_trailing] at ok
  split at ok
  · cases ok
  · next leading first =>
      split at ok
      · cases ok
      · next trailing second => exact ⟨leading, trailing, first, second, (Except.ok.inj ok).symm⟩

theorem length_of_edges {made : List (Bool × Bool)} (ok : edges config parent children = .ok made) :
    made.length = children.length := by
  obtain ⟨leading, trailing, first, second, rfl⟩ := edges_ok ok
  rw [leadingEdges, trailingEdges, List.length_zip, List.length_zipWith, List.length_zipWith,
    List.length_cons, List.length_append, List.length_drop, List.length_singleton,
    length_of_places first, length_of_places second]
  omega

theorem edges_error (fails : edges config parent children = .error fault) :
    ∃ index child, children[index]? = some child ∧
      (leadingOpinion config parent children index child = .error fault ∨
        trailingOpinion config parent children index child = .error fault) := by
  rw [edges, opinions_leading, opinions_trailing] at fails
  split at fails
  · next first =>
      obtain rfl := Except.error.inj fails
      obtain ⟨index, child, here, own⟩ := exists_place_of_error first
      exact ⟨index, child, here, .inl own⟩
  · split at fails
    · next second =>
        obtain rfl := Except.error.inj fails
        obtain ⟨index, child, here, own⟩ := exists_place_of_error second
        exact ⟨index, child, here, .inr own⟩
    · cases fails

theorem edges_of_opinion (here : children[index]? = some child)
    (fails : leadingOpinion config parent children index child = .error fault ∨
      trailingOpinion config parent children index child = .error fault) :
    ∃ found, edges config parent children = .error found := by
  cases result : edges config parent children with
  | error found => exact ⟨found, rfl⟩
  | ok made =>
      obtain ⟨leading, trailing, first, second, _⟩ := edges_ok result
      obtain ⟨_, _, leads⟩ := ok_of_place first here
      obtain ⟨_, _, trails⟩ := ok_of_place second here
      rcases fails with fails | fails
      · rw [leads] at fails
        cases fails
      · rw [trails] at fails
        cases fails

end Siblings

/-! ## The pass under one node -/

/-- A parent that the second pass is not ready for: it has children, and either it has no display itself,
or there is more to look at than one text and a display is missing on one side of an edge that displays
decide about. -/
structure Unready (config : Config) (parent : Label) (children : List Label) : Prop where
  filled : children ≠ []
  missing : parent.notes.display = none ∨
    (isSoleText children = false ∧ ∃ index left right,
      children[index]? = some left ∧ children[index + 1]? = some right ∧
        Decides config parent left right ∧
        (left.notes.display = none ∨ right.notes.display = none))

section Refusal

variable {config : Config} {parent : Label} {children : List Label} {fault : Fault}

theorem hasNotes_of_isContainer {kind : Kind} (container : kind.isContainer = true) :
    kind.hasNotes = true := by
  cases kind with
  | bodyLabel _ => cases container
  | foreign _ => cases container
  | _ => rfl

theorem refused_of_unformed {neighbour : Option Label} {child : Label} (member : child ∈ children)
    (several : isSoleText children = false)
    (adjoining : ∀ other, neighbour = some other → Adjoining children child other)
    (unformed : Unformed config parent neighbour child fault) :
    (Unready config parent children ∧ ∃ name, fault = .noDisplay name) ∨
      (fault = .missingPart ∧ ∃ asked ∈ parent :: children, ¬Worded asked) := by
  have filled : children ≠ [] := List.ne_nil_of_mem member
  cases unformed with
  | parent missing => exact .inl ⟨⟨filled, .inl missing⟩, _, rfl⟩
  | @beside other there decides missing =>
      obtain ⟨index, ⟨here, next⟩ | ⟨here, next⟩⟩ := adjoining other there
      · exact .inl ⟨⟨filled, .inr ⟨several, index, _, _, here, next, decides, .inr missing⟩⟩, _, rfl⟩
      · exact .inl
          ⟨⟨filled, .inr ⟨several, index, _, _, here, next, decides.symm, .inl missing⟩⟩, _, rfl⟩
  | @wordless asked there noWord =>
      refine .inr ⟨rfl, asked, ?_, noWord⟩
      rcases there with rfl | there
      · exact List.mem_cons_self
      · exact List.mem_cons_of_mem _ (adjoining asked there).mem

theorem edges_refused (parentNotes : parent.kind.hasNotes = true)
    (notes : ∀ label ∈ children, label.kind.hasNotes = true) (several : isSoleText children = false)
    (fails : edges config parent children = .error fault) :
    (Unready config parent children ∧ ∃ name, fault = .noDisplay name) ∨
      (fault = .missingPart ∧ ∃ asked ∈ parent :: children, ¬Worded asked) := by
  obtain ⟨index, child, here, own⟩ := edges_error fails
  rcases own with leads | trails
  · exact refused_of_unformed (List.mem_of_getElem? here) several
      (fun other there => adjoining_before here there)
      (unformed_of_error parentNotes (fun other there => notes other (adjoining_before here there).mem)
        leads)
  · exact refused_of_unformed (List.mem_of_getElem? here) several
      (fun other there => adjoining_after here there)
      (unformed_of_error parentNotes (fun other there => notes other (adjoining_after here there).mem)
        trails)

theorem edges_of_unready (parentNotes : parent.kind.hasNotes = true)
    (notes : ∀ label ∈ children, label.kind.hasNotes = true)
    (unready : Unready config parent children) : ∃ found, edges config parent children = .error found := by
  cases shows : parent.notes.display with
  | none =>
      -- The first child has no neighbour in front of it and asks for the display of its parent.
      obtain ⟨first, rest, rfl⟩ := List.exists_cons_of_ne_nil unready.filled
      have leads : leadingOpinion config parent (first :: rest) 0 first =
          .error (.noDisplay parent.kind.className) :=
        opinion_of_parent parentNotes (Bool.and_false _) shows
      exact edges_of_opinion List.getElem?_cons_zero (.inl leads)
  | some display =>
      have assigned : parent.notes.display ≠ none := by simp [shows]
      obtain ⟨_, index, left, right, here, next, decides, missing⟩ :=
        unready.missing.resolve_left assigned
      -- At an open edge each side asks for the display of the other.
      have leftNotes := notes left (List.mem_of_getElem? here)
      have rightNotes := notes right (List.mem_of_getElem? next)
      rcases missing with leftMissing | rightMissing
      · have leads : leadingOpinion config parent children (index + 1) right =
            .error (.noDisplay left.kind.className) := by
          rw [leadingOpinion, if_neg (Nat.succ_ne_zero index), Nat.add_sub_cancel, here,
            Option.bind_some, asNeighbour_eq leftNotes]
          exact opinion_of_beside parentNotes leftNotes decides.symm assigned leftMissing
        exact edges_of_opinion next (.inl leads)
      · have trails : trailingOpinion config parent children index left =
            .error (.noDisplay right.kind.className) := by
          rw [trailingOpinion, next, Option.bind_some, asNeighbour_eq rightNotes]
          exact opinion_of_beside parentNotes rightNotes decides assigned rightMissing
        exact edges_of_opinion here (.inr trails)

/-- What comes of the second pass under a parent: either no display is missing and it is done, or it has a
fault and has written nothing. -/
inductive Applied (config : Config) (parent : Label) (children : List Label)
    (outcome : Outcome (Label × List Label)) : Prop
  | done (clear : outcome.fault = none) (ready : ¬Unready config parent children)
  | refused {fault : Fault} (fails : outcome = .failed (parent, children) fault)
      (why : (Unready config parent children ∧ ∃ name, fault = .noDisplay name) ∨
        (fault = .missingPart ∧ ∃ asked ∈ parent :: children, ¬Worded asked))

theorem applied (parentNotes : parent.kind.hasNotes = true)
    (notes : ∀ label ∈ children, label.kind.hasNotes = true) :
    Applied config parent children (applySensitivity config parent children) := by
  rw [applySensitivity]
  split
  · next empty =>
      exact .done rfl fun unready => unready.filled (List.isEmpty_iff.mp empty)
  · next filled =>
      rw [List.isEmpty_iff] at filled
      split
      · next sole =>
          cases shows : parent.notes.display with
          | none =>
              rw [displayOf_of_none parentNotes shows]
              exact .refused rfl (.inl ⟨⟨filled, .inl shows⟩, _, rfl⟩)
          | some display =>
              have ready : ¬Unready config parent children := by
                rintro ⟨_, missing | ⟨several, _⟩⟩
                · rw [shows] at missing
                  cases missing
                · rw [sole] at several
                  cases several
              cases asked : askDisplay Css.onlyContentMatters display with
              | ok flag =>
                  simp only [displayOf_of_some parentNotes shows, asked]
                  exact .done rfl ready
              | error fault =>
                  obtain ⟨missing, noWord⟩ := not_worded_of_askDisplay shows asked
                  simp only [displayOf_of_some parentNotes shows, asked]
                  exact .refused rfl (.inr ⟨missing, parent, List.mem_cons_self, noWord⟩)
      · next several =>
          cases found : edges config parent children with
          | error fault =>
              exact .refused rfl
                (edges_refused parentNotes notes (Bool.not_eq_true _ ▸ several) found)
          | ok made =>
              refine .done (writeEdges_eq made notes (length_of_edges found)).1 fun unready => ?_
              obtain ⟨fault, fails⟩ := edges_of_unready parentNotes notes unready
              rw [found] at fails
              cases fails

end Refusal

/-! ## The pass under a node of a tree -/

section Weighing

variable {config : Config} {node : Node}

theorem weighEdges_eq (container : node.label.kind.isContainer = true) :
    weighEdges config node = (applySensitivity config node.label node.kidLabels).map fun made =>
      ⟨made.1, Node.relabel node.kids (made.2.map some)⟩ := by
  rw [weighEdges, Node.relabelChildren, Node.children, if_pos container]
  rfl

theorem weighEdges_of_done (container : node.label.kind.isContainer = true)
    (clear : (applySensitivity config node.label node.kidLabels).fault = none) :
    (weighEdges config node).fault = none := by
  rw [weighEdges_eq container]
  exact clear

theorem weighEdges_of_refused (container : node.label.kind.isContainer = true) {fault : Fault}
    (fails : applySensitivity config node.label node.kidLabels =
      .failed (node.label, node.kidLabels) fault) :
    weighEdges config node = .failed node fault := by
  have same : Node.relabel node.kids (node.kidLabels.map some) = node.kids := Node.relabel_same
  rw [weighEdges_eq container, fails]
  cases node with
  | mk label kids => simp only [Outcome.map, Outcome.failed, same]

/-- Weighing the edges under a container of template nodes is refused for a missing display exactly when a
display is missing that an edge depends on, as long as the displays that are there are words.  Whatever
they are, it is refused for a missing display only then, and it is refused then.  When it is refused, the
node and its children are as they were. -/
theorem weighEdges_refused_iff (config : Config) (node : Node)
    (container : node.label.kind.isContainer = true)
    (notes : ∀ label ∈ node.kidLabels, label.kind.hasNotes = true) :
    ((∀ label ∈ node.label :: node.kidLabels, Worded label) →
        ((∃ name, (weighEdges config node).fault = some (.noDisplay name)) ↔
            Unready config node.label node.kidLabels) ∧
          ((weighEdges config node).fault = none ↔ ¬Unready config node.label node.kidLabels)) ∧
      ((∃ name, (weighEdges config node).fault = some (.noDisplay name)) →
        Unready config node.label node.kidLabels) ∧
      (Unready config node.label node.kidLabels → (weighEdges config node).fault ≠ none) ∧
      ((weighEdges config node).fault ≠ none → (weighEdges config node).state = node) := by
  have outcome : Applied config node.label node.kidLabels
      (applySensitivity config node.label node.kidLabels) :=
    applied (hasNotes_of_isContainer container) notes
  cases outcome with
  | done clear ready =>
      have done := weighEdges_of_done container clear
      simp [done, ready]
  | @refused fault fails why =>
      rw [weighEdges_of_refused container fails]
      rcases why with ⟨unready, name, rfl⟩ | ⟨rfl, asked, member, noWord⟩
      · simp [Outcome.failed, unready]
      · refine ⟨fun worded => (noWord (worded asked member)).elim, ?_,
          fun _ => Option.some_ne_none _, fun _ => rfl⟩
        rintro ⟨name, fails⟩
        cases fails

def halfDisplayed : Node :=
  ⟨(Label.ofKind (.element "p" [])).withDisplay "block",
    [⟨(Label.ofKind (.element "em" [])).withDisplay "inline", []⟩,
      ⟨.ofKind (.element "img" []), []⟩]⟩

theorem unready_halfDisplayed :
    Unready Config.builtin halfDisplayed.label halfDisplayed.kidLabels where
  filled := List.cons_ne_nil _ _
  missing := .inr ⟨rfl, 0, _, _, rfl, rfl, ⟨rfl, by simp [halfDisplayed, Label.withDisplay, Label.note,
    Notes.set], by decide⟩, .inr rfl⟩

theorem weighEdges_refused_iff_halfDisplayed :
    (∃ name, (weighEdges Config.builtin halfDisplayed).fault = some (.noDisplay name)) ∧
      (weighEdges Config.builtin halfDisplayed).state = halfDisplayed := by
  have notes : ∀ label ∈ halfDisplayed.kidLabels, label.kind.hasNotes = true := by decide
  have worded : ∀ label ∈ halfDisplayed.label :: halfDisplayed.kidLabels, Worded label := by
    refine List.forall_mem_cons.mpr ⟨?_, List.forall_mem_cons.mpr ⟨?_, List.forall_mem_singleton.mpr ?_⟩⟩
    · rintro _ ⟨rfl⟩
      exact ⟨"block", rfl⟩
    · rintro _ ⟨rfl⟩
      exact ⟨"inline", rfl⟩
    · rintro _ ⟨⟩
  obtain ⟨exact, _, refused, unchanged⟩ :=
    weighEdges_refused_iff Config.builtin halfDisplayed rfl notes
  exact ⟨(exact worded).1.mpr unready_halfDisplayed, unchanged (refused unready_halfDisplayed)⟩

end Weighing

end TemplateSpacing.Pass
