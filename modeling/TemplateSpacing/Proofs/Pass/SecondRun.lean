import TemplateSpacing.Proofs.Pass.Settled

/-! # A second run

A tree that has been through the full pipeline is tidy: bodies hold no outer blanks, and the notes that
the third pass writes are there.  On a tidy tree the third pass has nothing left to remove, and what it
writes is what is there already, but for the note on blanks in an empty body, which may go from absent
to false.
-/

set_option autoImplicit false

namespace TemplateSpacing.Pass

open TemplateSpacing.Tree

def lastingNotes : List Note :=
  [.display, .whitespaceSensitive, .indentationSensitive, .leadingSpaces, .trailingSpaces]

/-- What a second run leaves of a label: all but the sensitivity of edges, and of the note on blanks in
an empty body whether it holds. -/
def lasting (label : Label) : Label :=
  (label.only lastingNotes).withFlag .danglingSpaces (Notes.holds label.notes.danglingSpaces)

structure Tight (label : Label) : Prop where
  filled : isBlankText label.kind = false
  trimmed : trimmedKind label.kind = label.kind
  leading : ∃ flag, label.notes.leadingSpaces = some (.bool flag)
  trailing : ∃ flag, label.notes.trailingSpaces = some (.bool flag)

structure Tidy (config : Config) (node : Node) : Prop where
  empty : node.label.kind.isElement = true → isHollow (kidKinds node) = true → node.kids = []
  sensitive : node.label.kind.isElement = true → isHollow (kidKinds node) = false →
    node.label.notes.whitespaceSensitive = some (.bool (isVerbatim config node.label.kind)) ∧
      node.label.notes.indentationSensitive = some (.bool (isVerbatim config node.label.kind))
  tight : isLoose config node.label.kind = true → ∀ label ∈ node.kidLabels, Tight label

/-! ## Tight children -/

section Tight

variable {config : Config}

theorem pieceOf_tight {label : Label} (tight : Tight label) :
    pieceOf label = ⟨false, some label, false⟩ := by
  have content : (pieceOf label).content = some label := by
    rw [content_pieceOf, tight.filled, Pass.trimmed, tight.trimmed]
    rfl
  have ends : (pieceOf label).lead = false ∧ (pieceOf label).trail = false := by
    cases label with
    | mk kind notes extras =>
        cases kind with
        | text chars =>
            have same : Text.trim chars.toList = chars.toList := by
              have strip := Kind.text.inj tight.trimmed
              rw [← Text.toList_strip, strip]
            have parts := Text.divide_trim chars.toList
            rw [same] at parts
            simp only [pieceOf, parts]
            exact ⟨rfl, rfl⟩
        | _ => exact ⟨rfl, rfl⟩
  generalize pieceOf label = piece at content ends
  obtain ⟨lead, kept, trail⟩ := piece
  obtain ⟨rfl, rfl⟩ := ends
  rw [show kept = some label from content]

theorem written_tight {label : Label} (tight : Tight label) :
    Kept.written ⟨label, false, false⟩ = label := by
  obtain ⟨before, leading⟩ := tight.leading
  obtain ⟨after, trailing⟩ := tight.trailing
  have holds : ∀ flag, raised (some (.bool flag)) false = flag := fun flag => Bool.or_false flag
  rw [Kept.written, leading, trailing, holds, holds]
  have first : label.withFlag .leadingSpaces before = label := note_of_get .leadingSpaces leading
  have second : label.withFlag .trailingSpaces after = label := note_of_get .trailingSpaces trailing
  simp only [first, second]

theorem startsWithRun_tight {labels : List Label} (tight : ∀ label ∈ labels, Tight label) :
    startsWithRun (labels.map pieceOf) = false := by
  cases labels with
  | nil => rfl
  | cons label rest =>
      rw [List.map_cons, pieceOf_tight (tight label List.mem_cons_self)]
      rfl

theorem keptLabels_tight {labels : List Label} (tight : ∀ label ∈ labels, Tight label) :
    keptLabels labels = labels.map some := by
  rw [keptLabels]
  induction labels with
  | nil => rfl
  | cons label rest ih =>
      have first := tight label List.mem_cons_self
      have later : ∀ label ∈ rest, Tight label :=
        fun label member => tight label (List.mem_cons_of_mem _ member)
      rw [List.map_cons, pieceOf_tight first, keptFrom, startsWithRun_tight later, List.map_cons,
        List.map_cons]
      congr 1
      · exact congrArg some (written_tight first)
      · exact ih later

end Tight

/-! ## Tidy nodes -/

section Tidy

variable {config : Config} {top : Bool} {node : Node}

theorem kidKinds_rewrite (config : Config) (top : Bool) (node : Node) :
    kidKinds (node.rewrite (whitespaceRule config) top) =
      kidKinds (node.visited (whitespaceRule config) top) :=
  Label.kinds_of_only (sides_rewrite config top node)

theorem tidy_closed {node : Node} (other : node.label.kind.isElement = false) :
    Tidy config node := by
  have absurd : ∀ {law : Prop}, node.label.kind.isElement = true → law := by
    intro law element
    rw [other] at element
    cases element
  refine ⟨absurd, absurd, ?_⟩
  intro loose
  rw [isLoose, other] at loose
  cases loose

theorem tidy_empty {node : Node} (empty : node.kids = []) : Tidy config node := by
  have noLabels : node.kidLabels = [] := by rw [Node.kidLabels, empty, List.map_nil]
  refine ⟨fun _ _ => empty, ?_, ?_⟩
  · intro _ filled
    rw [kidKinds, noLabels] at filled
    cases filled
  · intro _ label member
    rw [noLabels] at member
    cases member

theorem tidy_filled {node : Node} (filled : isHollow (kidKinds node) = false)
    (whitespace : node.label.notes.whitespaceSensitive =
      some (.bool (isVerbatim config node.label.kind)))
    (indentation : node.label.notes.indentationSensitive =
      some (.bool (isVerbatim config node.label.kind)))
    (tight : isLoose config node.label.kind = true → ∀ label ∈ node.kidLabels, Tight label) :
    Tidy config node := by
  refine ⟨?_, fun _ _ => ⟨whitespace, indentation⟩, tight⟩
  intro _ hollow
  rw [filled] at hollow
  cases hollow

theorem empty_of_tight {node : Node} (tight : ∀ label ∈ node.kidLabels, Tight label)
    (hollow : isHollow (kidKinds node) = true) : node.kids = [] := by
  match kids : node.kids with
  | [] => rfl
  | kid :: rest =>
      have member : kid.label ∈ node.kidLabels := by
        rw [Node.kidLabels, kids]
        exact List.mem_cons_self
      have blank := all_blank_of_hollow hollow _ (List.mem_map_of_mem member)
      rw [(tight kid.label member).filled] at blank
      cases blank

theorem tight_of_mem_rewrite (loose : isLoose config node.label.kind = true) {label : Label}
    (member : label ∈ (node.rewrite (whitespaceRule config) top).kidLabels) : Tight label := by
  obtain ⟨kid, survives, made, same, written⟩ := exists_survivor member
  rw [if_pos loose] at written
  obtain ⟨before, after, rfl⟩ := written
  obtain ⟨kind, leading, trailing⟩ := sides_of_only same
  have stays := filled_of_mem_survivors loose survives
  refine ⟨?_, ?_, ⟨before, leading⟩, ⟨after, trailing⟩⟩
  · rw [kind]
    exact (isBlankText_trimmedKind kid.label.kind).trans stays
  · rw [kind]
    exact trimmedKind_trimmedKind kid.label.kind

theorem inner_rewrite (top : Bool) (element : node.label.kind.isElement = true)
    (filled : isHollow (kidKinds node) = false) :
    (node.rewrite (whitespaceRule config) top).label.notes.whitespaceSensitive =
        some (.bool (isVerbatim config node.label.kind)) ∧
      (node.rewrite (whitespaceRule config) top).label.notes.indentationSensitive =
        some (.bool (isVerbatim config node.label.kind)) := by
  have body : isDanglingBody node.kidLabels = false := (isDanglingBody_eq node.kidLabels).trans filled
  rw [Node.rewrite_label, Node.visited, whitespaceRule, if_pos element, body]
  exact ⟨rfl, rfl⟩

theorem tidy_rewrite (config : Config) (top : Bool) (node : Node) :
    Tidy config (node.rewrite (whitespaceRule config) top) := by
  have own : (node.rewrite (whitespaceRule config) top).label =
      (whitespaceRule config top node.label node.kidLabels).1 := Node.rewrite_label _ top node
  have ownKind := (whitespaceRule_tame config).own top node.label node.kidLabels
  rw [← own] at ownKind
  cases element : node.label.kind.isElement with
  | false => exact tidy_closed (ownKind ▸ element)
  | true =>
      cases hollow : isHollow (kidKinds node) with
      | true =>
          apply tidy_empty
          rw [Node.rewrite_kids, Node.visited, whitespaceRule_hollow top element hollow, Node.kidLabels,
            Node.relabel_removed]
          rfl
      | false =>
          obtain ⟨whitespace, indentation⟩ := inner_rewrite top element hollow
          rw [← ownKind] at whitespace indentation
          cases verbatim : isVerbatim config node.label.kind with
          | true =>
              have rule := whitespaceRule_verbatim top element hollow verbatim
              have below := (Node.visited_of_keeping rule (List.length_map _)).2
              refine tidy_filled ?_ whitespace indentation ?_
              · rw [kidKinds_rewrite, kidKinds, below]
                exact hollow
              · intro loose
                rw [ownKind, isLoose, verbatim, Bool.not_true, Bool.and_false] at loose
                cases loose
          | false =>
              have loose : isLoose config node.label.kind = true := by
                rw [isLoose, element, verbatim]
                rfl
              have tight : ∀ label ∈ (node.rewrite (whitespaceRule config) top).kidLabels,
                  Tight label := fun _ => tight_of_mem_rewrite loose
              cases after : isHollow (kidKinds (node.rewrite (whitespaceRule config) top)) with
              | true => exact tidy_empty (empty_of_tight tight after)
              | false => exact tidy_filled after whitespace indentation fun _ => tight

theorem tidy_normalized (config : Config) (tree : Node) :
    (normalized config tree).Everywhere (Tidy config) :=
  Node.Everywhere.of_rewrite (fun _ _ => True) (fun top node _ => tidy_rewrite config top node)
    (fun _ _ _ _ _ => trivial) true (annotated config tree) trivial

/-! ## The passes on a tidy tree -/

def tellingNotes : List Note := .danglingSpaces :: lastingNotes

theorem Tight.of_only {label other : Label} (same : label.only tellingNotes = other.only tellingNotes)
    (tight : Tight label) : Tight other := by
  have kind := Label.kind_of_only_eq same
  have leading := Label.get_eq_of_only_eq .leadingSpaces (by decide) same
  have trailing := Label.get_eq_of_only_eq .trailingSpaces (by decide) same
  obtain ⟨before, assignedBefore⟩ := tight.leading
  obtain ⟨after, assignedAfter⟩ := tight.trailing
  refine ⟨kind ▸ tight.filled, kind ▸ tight.trimmed, ⟨before, ?_⟩, ⟨after, ?_⟩⟩
  · exact leading.symm.trans assignedBefore
  · exact trailing.symm.trans assignedAfter

theorem Tidy.of_only {node other : Node} (same : node.only tellingNotes = other.only tellingNotes)
    (tidy : Tidy config node) : Tidy config other := by
  have label := congrArg Node.label same
  rw [Node.only, Node.mapLabels_label, Node.only, Node.mapLabels_label] at label
  have kind := Label.kind_of_only_eq label
  have labels := congrArg Node.kidLabels same
  rw [Node.kidLabels_only, Node.kidLabels_only] at labels
  have kinds : kidKinds node = kidKinds other := Label.kinds_of_only labels
  have whitespace := Label.get_eq_of_only_eq .whitespaceSensitive (by decide) label
  have indentation := Label.get_eq_of_only_eq .indentationSensitive (by decide) label
  refine ⟨?_, ?_, ?_⟩
  · intro element hollow
    have empty := tidy.empty (kind ▸ element) (kinds ▸ hollow)
    rw [Node.kidLabels, empty] at labels
    exact List.map_eq_nil_iff.mp (List.map_eq_nil_iff.mp labels.symm)
  · intro element filled
    obtain ⟨first, second⟩ := tidy.sensitive (kind ▸ element) (kinds ▸ filled)
    rw [kind] at first second
    exact ⟨whitespace.symm.trans first, indentation.symm.trans second⟩
  · intro loose label member
    have inView := List.mem_map_of_mem (f := Label.only tellingNotes) member
    rw [← labels] at inView
    obtain ⟨old, inKids, sameView⟩ := List.mem_map.mp inView
    exact (tidy.tight (kind ▸ loose) old inKids).of_only sameView

theorem lasting_dangling (label : Label) :
    lasting (label.withFlag .danglingSpaces (Notes.holds label.notes.danglingSpaces)) =
      lasting label := by
  have kept : (label.withFlag .danglingSpaces (Notes.holds label.notes.danglingSpaces)).only
      lastingNotes = label.only lastingNotes := Label.only_note_of_notMem (by decide) _ _
  have holds : Notes.holds (label.withFlag .danglingSpaces
      (Notes.holds label.notes.danglingSpaces)).notes.danglingSpaces =
      Notes.holds label.notes.danglingSpaces := rfl
  rw [lasting, kept, holds, lasting]

/-- What is left of a label that the third pass has been at: in an empty element, whether there were
blanks is written once more. -/
def retold (node : Node) : Label :=
  if node.label.kind.isElement && isHollow (kidKinds node) then
    node.label.withFlag .danglingSpaces (Notes.holds node.label.notes.danglingSpaces)
  else node.label

/-- At a node whose empty bodies hold nothing, and whose notes on the inside of filled ones are there,
the third pass has nothing to write on the node, unless it is an empty element. -/
theorem whitespaceRule_inner (top : Bool)
    (empty : node.label.kind.isElement = true → isHollow (kidKinds node) = true → node.kids = [])
    (sensitive : node.label.kind.isElement = true → isHollow (kidKinds node) = false →
      node.label.notes.whitespaceSensitive = some (.bool (isVerbatim config node.label.kind)) ∧
        node.label.notes.indentationSensitive = some (.bool (isVerbatim config node.label.kind))) :
    whitespaceRule config top node.label node.kidLabels =
      (retold node, if isLoose config node.label.kind then keptLabels node.kidLabels
        else node.kidLabels.map some) := by
  cases element : node.label.kind.isElement with
  | false => simp [whitespaceRule_other top element, retold, isLoose, element]
  | true =>
      cases hollow : isHollow (kidKinds node) with
      | true =>
          have noLabels : node.kidLabels = [] := by
            rw [Node.kidLabels, empty element hollow, List.map_nil]
          have nothing : keptLabels [] = [] := rfl
          rw [whitespaceRule_hollow top element hollow, retold, element, hollow, noLabels, nothing]
          simp
      | false =>
          obtain ⟨whitespace, indentation⟩ := sensitive element hollow
          have first : node.label.withFlag .whitespaceSensitive (isVerbatim config node.label.kind) =
              node.label := note_of_get .whitespaceSensitive whitespace
          have second : node.label.withFlag .indentationSensitive
              (isVerbatim config node.label.kind) = node.label :=
            note_of_get .indentationSensitive indentation
          have own : retold node = node.label := by
            rw [retold, hollow, Bool.and_false, if_neg (by decide)]
          rw [own, isLoose, element]
          cases verbatim : isVerbatim config node.label.kind with
          | true =>
              rw [verbatim] at first second
              rw [whitespaceRule_verbatim top element hollow verbatim, first, second]
              rfl
          | false =>
              rw [verbatim] at first second
              rw [whitespaceRule_loose top element hollow verbatim, first, second]
              rfl

theorem whitespaceRule_tidy (top : Bool) (tidy : Tidy config node) :
    whitespaceRule config top node.label node.kidLabels = (retold node, node.kidLabels.map some) := by
  rw [whitespaceRule_inner top tidy.empty tidy.sensitive]
  split
  · next loose => rw [keptLabels_tight (tidy.tight loose)]
  · rfl

theorem visited_tidy (top : Bool) (tidy : Tidy config node) :
    node.visited (whitespaceRule config) top = ⟨retold node, node.kids⟩ := by
  rw [Node.visited, whitespaceRule_tidy top tidy, Node.kidLabels, Node.relabel_same]

theorem lasting_retold (node : Node) : lasting (retold node) = lasting node.label := by
  rw [retold]
  split
  · exact lasting_dangling node.label
  · rfl

/-- The third pass changes nothing that lasts in a tidy tree. -/
theorem lasting_whitespacePass {tree : Node} (tidy : tree.Everywhere (Tidy config)) :
    (tree.rewrite (whitespaceRule config) true).mapLabels lasting = tree.mapLabels lasting := by
  apply Node.mapLabels_rewrite fun _ node => node.Everywhere (Tidy config)
  · intro top node tidy kid member
    rw [visited_tidy top tidy.here] at member
    exact tidy.kid member
  · intro top node tidy
    rw [visited_tidy top tidy.here]
    exact lasting_retold node
  · intro top node tidy
    rw [visited_tidy top tidy.here]
  · exact tidy

end Tidy

/-! ## The pipeline -/

section Pipeline

variable {config : Config}

theorem lasting_only (label : Label) : lasting (label.only tellingNotes) = lasting label := rfl

theorem mapLabels_lasting {node other : Node}
    (same : node.only tellingNotes = other.only tellingNotes) :
    node.mapLabels lasting = other.mapLabels lasting := by
  have views := congrArg (Node.mapLabels lasting) same
  simpa only [Node.only, Node.mapLabels_mapLabels, lasting_only] using views

/-- A second run never fails, and it changes nothing that lasts: neither the nodes and their texts, nor
any note but those on sensitive edges, which only have to be computed again, and whether there were
blanks in an empty body still reads the same. -/
theorem lasting_preprocess (config : Config) (tree : Node) (formed : tree.WellFormed) :
    (preprocess config .preprocess tree).fault = none ∧
      (preprocess config .preprocess (preprocess config .preprocess tree).state).fault = none ∧
      (preprocess config .preprocess
          (preprocess config .preprocess tree).state).state.mapLabels lasting =
        (preprocess config .preprocess tree).state.mapLabels lasting := by
  obtain ⟨done, state⟩ := preprocess_preprocess config formed
  obtain ⟨doneAgain, stateAgain⟩ := preprocess_preprocess config (wellFormed_normalized config formed)
  rw [state, stateAgain]
  refine ⟨done, doneAgain, ?_⟩
  have telling : (annotated config (normalized config tree)).only tellingNotes =
      (normalized config tree).only tellingNotes := by
    rw [annotated, displayed_normalized]
    exact only_sensitivityPass config (by decide) (by decide) (by decide) _
  have tidy : (annotated config (normalized config tree)).Everywhere (Tidy config) :=
    Node.Everywhere.of_view (fun _ _ same tidy => tidy.of_only same) telling.symm
      (tidy_normalized config tree)
  exact (lasting_whitespacePass tidy).trans (mapLabels_lasting telling)

theorem lasting_preprocess_paragraph :
    paragraph.WellFormed ∧
      (preprocess Config.builtin .preprocess
          (preprocess Config.builtin .preprocess paragraph).state).state.mapLabels lasting =
        (preprocess Config.builtin .preprocess paragraph).state.mapLabels lasting :=
  ⟨by decide, (lasting_preprocess Config.builtin paragraph (by decide)).2.2⟩

end Pipeline

end TemplateSpacing.Pass
