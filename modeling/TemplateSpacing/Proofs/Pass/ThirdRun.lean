import Mathlib.Logic.Function.Iterate
import TemplateSpacing.Proofs.Pass.Documents
import TemplateSpacing.Proofs.Pass.Measured
import TemplateSpacing.Proofs.Pass.SecondRun

/-! # A third run

The second run measures the edges that the first one laid bare, and writes whether there were blanks in
the empty bodies once more; after that every run leaves the tree as it is.  A document forgets the notes
on removed white space, but it keeps all that the passes see, so the documents come to rest as well.
-/

set_option autoImplicit false

namespace TemplateSpacing.Pass

open TemplateSpacing.Tree

/-- A node that holds no white space for the third pass to take out, and whose notes on its inside are
there. -/
structure Swept (config : Config) (node : Node) : Prop where
  empty : node.label.kind.isElement = true → isHollow (kidKinds node) = true → node.kids = []
  sensitive : node.label.kind.isElement = true → isHollow (kidKinds node) = false →
    node.label.notes.whitespaceSensitive = some (.bool (isVerbatim config node.label.kind)) ∧
      node.label.notes.indentationSensitive = some (.bool (isVerbatim config node.label.kind))
  trimmed : isLoose config node.label.kind = true → ∀ kind ∈ kidKinds node,
    isBlankText kind = false ∧ trimmedKind kind = kind

def Told (node : Node) : Prop :=
  node.label.kind.isElement = true → isHollow (kidKinds node) = true →
    ∃ flag, Flagged .danglingSpaces node.label flag

/-! ## The third pass on a swept tree -/

section Swept

variable {config : Config} {node : Node}

theorem Tidy.swept (tidy : Tidy config node) : Swept config node := by
  refine ⟨tidy.empty, tidy.sensitive, ?_⟩
  intro loose kind member
  obtain ⟨label, inKids, rfl⟩ := List.mem_map.mp member
  have tight := tidy.tight loose label inKids
  exact ⟨tight.filled, tight.trimmed⟩

variable {kept : List Note}

/-- Whether a node is swept shows in a view that keeps the notes on its inside. -/
theorem swept_only (whitespace : Note.whitespaceSensitive ∈ kept)
    (indentation : Note.indentationSensitive ∈ kept) (node : Node) :
    Swept config (node.only kept) ↔ Swept config node := by
  have label : (node.only kept).label = node.label.only kept := Node.mapLabels_label _ node
  have kinds : kidKinds (node.only kept) = kidKinds node := Node.kinds_only kept node
  have first : (node.label.only kept).notes.whitespaceSensitive =
      node.label.notes.whitespaceSensitive := get_only_of_mem whitespace node.label
  have second : (node.label.only kept).notes.indentationSensitive =
      node.label.notes.indentationSensitive := get_only_of_mem indentation node.label
  have kids : (node.only kept).kids = [] ↔ node.kids = [] := by
    rw [Node.only, Node.mapLabels_kids, List.map_eq_nil_iff]
  constructor
  · rintro ⟨empty, sensitive, trimmed⟩
    rw [label, Label.only_kind, kinds] at empty sensitive trimmed
    rw [kids] at empty
    rw [first, second] at sensitive
    exact ⟨empty, sensitive, trimmed⟩
  · rintro ⟨empty, sensitive, trimmed⟩
    refine ⟨?_, ?_, ?_⟩
    · rw [label, Label.only_kind, kinds, kids]
      exact empty
    · rw [label, Label.only_kind, kinds, first, second]
      exact sensitive
    · rw [label, Label.only_kind, kinds]
      exact trimmed

theorem only_spaced_of_trimmed (leading : Note.leadingSpaces ∉ kept)
    (trailing : Note.trailingSpaces ∉ kept) (before after : Bool) {label : Label}
    (same : trimmedKind label.kind = label.kind) :
    (spaced before after (trimmed label)).only kept = label.only kept := by
  have unchanged : trimmed label = label := by rw [trimmed, same]
  rw [unchanged, spaced, Label.withFlag, Label.only_note_of_notMem trailing, Label.withFlag,
    Label.only_note_of_notMem leading]

theorem only_retold (dangling : Note.danglingSpaces ∉ kept) (node : Node) :
    (retold node).only kept = node.label.only kept := by
  rw [retold]
  split
  · exact Label.only_note_of_notMem dangling _ _
  · rfl

/-- At a swept node the third pass writes notes on removed white space alone. -/
theorem whitespaceRule_swept (leading : Note.leadingSpaces ∉ kept)
    (trailing : Note.trailingSpaces ∉ kept) (dangling : Note.danglingSpaces ∉ kept) (top : Bool)
    (swept : Swept config node) :
    (whitespaceRule config top node.label node.kidLabels).1.only kept = node.label.only kept ∧
      List.Forall₂ (fun old made => ∃ new, made = some new ∧ new.only kept = old.only kept)
        node.kidLabels (whitespaceRule config top node.label node.kidLabels).2 := by
  rw [whitespaceRule_inner top swept.empty swept.sensitive]
  refine ⟨only_retold dangling node, ?_⟩
  cases loose : isLoose config node.label.kind with
  | false => exact forall₂_map_some fun label _ => ⟨label, rfl, rfl⟩
  | true =>
      have snug : ∀ label ∈ node.kidLabels,
          isBlankText label.kind = false ∧ trimmedKind label.kind = label.kind :=
        fun label member => swept.trimmed loose _ (List.mem_map_of_mem member)
      refine ((List.forall₂_and_left _ _).mpr ⟨snug, forall₂_keptLabels _⟩).imp ?_
      rintro old made ⟨⟨filled, same⟩, before, after, rfl⟩
      rw [filled]
      exact ⟨_, rfl, only_spaced_of_trimmed leading trailing before after same⟩

/-- What the third pass goes by in a swept tree. -/
def sweepNotes : List Note := [.whitespaceSensitive, .indentationSensitive]

/-- What is below a swept node stays swept when the third pass visits the node. -/
theorem swept_visited (top : Bool) (swept : node.Everywhere (Swept config)) :
    ∀ made ∈ (node.visited (whitespaceRule config) top).kids, made.Everywhere (Swept config) := by
  intro made member
  have pairs : List.Forall₂ (fun old made => ∃ new, made = some new ∧
      new.only sweepNotes = old.only sweepNotes) node.kidLabels
      (whitespaceRule config top node.label node.kidLabels).2 :=
    (whitespaceRule_swept (by decide) (by decide) (by decide) top swept.here).2
  have nodes : List.Forall₂ (fun kid made => made.kids = kid.kids ∧
      made.label.only sweepNotes = kid.label.only sweepNotes) node.kids
      (node.visited (whitespaceRule config) top).kids :=
    Node.forall₂_relabel (fun old new => new.only sweepNotes = old.only sweepNotes)
      (List.forall₂_map_left_iff.mp pairs)
  obtain ⟨kid, inKids, sameKids, sameLabel⟩ := exists_of_forall₂_right nodes member
  have view : kid.only sweepNotes = made.only sweepNotes := by
    cases kid with
    | mk label below =>
        cases made with
        | mk newLabel newBelow =>
            obtain rfl : newBelow = below := sameKids
            simp only [Node.only, Node.mapLabels_mk]
            rw [sameLabel]
  exact (swept.kid inKids).of_only (swept_only (by decide) (by decide)) view.symm

theorem only_whitespacePass_swept (leading : Note.leadingSpaces ∉ kept)
    (trailing : Note.trailingSpaces ∉ kept) (dangling : Note.danglingSpaces ∉ kept) (top : Bool)
    (swept : node.Everywhere (Swept config)) :
    (node.rewrite (whitespaceRule config) top).only kept = node.only kept := by
  apply Node.mapLabels_rewrite fun _ node => node.Everywhere (Swept config)
  · intro top node swept
    exact swept_visited top swept
  · intro top node swept
    exact (whitespaceRule_swept leading trailing dangling top swept.here).1
  · intro top node swept
    have pairs := (whitespaceRule_swept leading trailing dangling top swept.here).2
    exact Node.map_relabel (List.forall₂_map_left_iff.mp pairs)
  · exact swept

/-- The third pass tells of every empty element of a swept tree whether there were blanks in it. -/
theorem told_rewrite (top : Bool) (swept : node.Everywhere (Swept config)) :
    Told (node.rewrite (whitespaceRule config) top) := by
  intro element hollow
  have same := only_whitespacePass_swept (@List.not_mem_nil _ _) (@List.not_mem_nil _ _)
    (@List.not_mem_nil _ _) top swept
  have kind : (node.rewrite (whitespaceRule config) top).label.kind = node.label.kind := by
    have kinds := congrArg (fun node : Node => node.label.kind) same
    simpa only [Node.only, Node.mapLabels_label, Label.only_kind] using kinds
  have kinds : kidKinds (node.rewrite (whitespaceRule config) top) = kidKinds node := by
    have labels := congrArg Node.kidLabels same
    rw [Node.kidLabels_only, Node.kidLabels_only] at labels
    exact Label.kinds_of_only labels
  rw [kind] at element
  rw [kinds] at hollow
  rw [Node.rewrite_label, Node.visited, whitespaceRule_hollow top element hollow]
  exact ⟨_, rfl⟩

end Swept

/-! ## Trees at rest -/

section Rest

variable {config : Config} {tree : Node}

structure AtRest (config : Config) (tree : Node) : Prop where
  displayed : displayed config tree = tree
  measured : tree.Everywhere (Measured config)
  tidy : tree.Everywhere (Tidy config)
  told : tree.Everywhere Told

theorem retold_of_told {node : Node} (told : Told node) : retold node = node.label := by
  rw [retold]
  split
  · next empty =>
      obtain ⟨element, hollow⟩ := Bool.and_eq_true_iff.mp empty
      obtain ⟨flag, written⟩ := told element hollow
      have holds : Notes.holds node.label.notes.danglingSpaces = flag := by
        rw [show node.label.notes.danglingSpaces = some (.bool flag) from written]
        rfl
      rw [holds]
      exact withFlag_of_flagged written
  · rfl

theorem whitespacePass_of_told (tidy : tree.Everywhere (Tidy config)) (told : tree.Everywhere Told) :
    tree.rewrite (whitespaceRule config) true = tree := by
  apply Node.rewrite_of_fixed fun _ node => node.Everywhere (Tidy config) ∧ node.Everywhere Told
  · rintro top node ⟨tidy, told⟩
    rw [visited_tidy top tidy.here, retold_of_told told.here]
    cases node with
    | mk label kids => rfl
  · rintro top node ⟨tidy, told⟩ kid member
    exact ⟨tidy.kid member, told.kid member⟩
  · exact ⟨tidy, told⟩

theorem normalized_of_atRest (rest : AtRest config tree) : normalized config tree = tree := by
  rw [normalized, annotated, rest.displayed, sensitivityPass_of_measured rest.measured,
    whitespacePass_of_told rest.tidy rest.told]

structure Ripe (config : Config) (tree : Node) : Prop where
  displayed : displayed config tree = tree
  swept : tree.Everywhere (Swept config)

theorem ripe_normalized (config : Config) (tree : Node) : Ripe config (normalized config tree) where
  displayed := displayed_normalized config tree
  swept := (tidy_normalized config tree).imp fun _ => Tidy.swept

theorem swept_annotated (ripe : Ripe config tree) :
    (annotated config tree).Everywhere (Swept config) := by
  have view : (annotated config tree).only sweepNotes = tree.only sweepNotes := by
    rw [annotated, ripe.displayed]
    exact only_sensitivityPass config (by decide) (by decide) (by decide) tree
  exact ripe.swept.of_only (swept_only (by decide) (by decide)) view

/-- A run on a ripe tree writes edges and notes on removed white space alone. -/
theorem only_normalized (ripe : Ripe config tree) :
    (normalized config tree).only readNotes = (annotated config tree).only readNotes :=
  only_whitespacePass_swept (by decide) (by decide) (by decide) true (swept_annotated ripe)

theorem atRest_normalized (ripe : Ripe config tree) : AtRest config (normalized config tree) := by
  refine ⟨displayed_normalized config tree, ?_, tidy_normalized config tree, ?_⟩
  · have measured := measured_sensitivityPass config (displayed config tree)
    exact measured.of_only (fun _ => measured_only (by decide) (by decide) (by decide) (by decide))
      (only_normalized ripe)
  · exact Node.Everywhere.of_rewrite (fun _ node => node.Everywhere (Swept config))
      (fun top _ swept => told_rewrite top swept) (fun top _ swept => swept_visited top swept) true
      (annotated config tree) (swept_annotated ripe)

/-- The first two passes see all that they go by in a document. -/
theorem normalized_only (config : Config) (tree : Node) :
    normalized config (tree.only readNotes) =
      ((annotated config tree).only readNotes).rewrite (whitespaceRule config) true := by
  rw [normalized, annotated, displayed_only config (by decide) (by decide) (by decide),
    sensitivityPass_only config (by decide) (by decide) (by decide) (by decide), annotated]

/-- The document of a run on a ripe document says the same as the next one. -/
theorem normalized_normalized_only (ripe : Ripe config tree) :
    normalized config ((normalized config (tree.only readNotes)).only readNotes) =
      normalized config (tree.only readNotes) := by
  -- The second document reads back as a view of a tree at rest, and the passes see no more than that.
  have rest := atRest_normalized ripe
  have measured : annotated config (normalized config tree) = normalized config tree := by
    rw [annotated, rest.displayed, sensitivityPass_of_measured rest.measured]
  have inView : ((annotated config tree).only readNotes).Everywhere (Swept config) := by
    rw [Node.Everywhere.only_iff (swept_only (by decide) (by decide))]
    exact swept_annotated ripe
  have second : (normalized config (tree.only readNotes)).only readNotes =
      (normalized config tree).only readNotes := by
    rw [normalized_only, only_whitespacePass_swept (by decide) (by decide) (by decide) true inView,
      Node.only_only, only_normalized ripe]
  rw [second, normalized_only, measured, only_normalized ripe, normalized_only]

end Rest

/-! ## Runs -/

section Runs

variable {config : Config} {tree : Node}

def rerun (config : Config) (tree : Node) : Node :=
  (preprocess config .preprocess tree).state

theorem rerun_eq (config : Config) (formed : tree.WellFormed) :
    rerun config tree = normalized config tree :=
  (preprocess_preprocess config formed).2

theorem wellFormed_iterate_rerun (formed : tree.WellFormed) (count : Nat) :
    ((rerun config)^[count] tree).WellFormed := by
  induction count with
  | zero => exact formed
  | succ count ih =>
      rw [Function.iterate_succ_apply', rerun_eq config ih]
      exact wellFormed_normalized config ih

/-- All runs from the second one on leave the same tree. -/
theorem iterate_rerun (config : Config) (formed : tree.WellFormed) (count : Nat) :
    (rerun config)^[count + 2] tree = (rerun config)^[2] tree := by
  induction count with
  | zero => rfl
  | succ count ih =>
      have first := rerun_eq config formed
      have formedFirst := wellFormed_normalized config formed
      have second : (rerun config)^[2] tree = normalized config (normalized config tree) := by
        rw [Function.iterate_succ_apply, Function.iterate_one, first, rerun_eq config formedFirst]
      have rest := normalized_of_atRest (atRest_normalized (ripe_normalized config tree))
      rw [Nat.succ_add_eq_add_succ, Function.iterate_succ_apply', ih, second,
        rerun_eq config (wellFormed_normalized config formedFirst), rest]

theorem fault_rerun (config : Config) (formed : tree.WellFormed) (count : Nat) :
    (preprocess config .preprocess ((rerun config)^[count] tree)).fault = none :=
  (preprocess_preprocess config (wellFormed_iterate_rerun formed count)).1

end Runs

/-! ## Runs on documents -/

section Documents

theorem exists_documents (config : Config) {document : Value} {tree : Node}
    (read : decode document = .ok tree) : ∃ first second,
      (preprocessDocument config .preprocess document).2 = .ok first ∧
        (preprocessDocument config .preprocess first).2 = .ok second ∧
        (preprocessDocument config .preprocess second).2 = .ok second := by
  have readFirst := decode_normalized config read
  have readSecond := decode_normalized config readFirst
  have third := preprocessDocument_eq config readSecond
  rw [normalized_normalized_only (ripe_normalized config tree)] at third
  exact ⟨_, _, preprocessDocument_eq config read, preprocessDocument_eq config readFirst, third⟩

def gap : Node :=
  ⟨.ofKind (.element "p" []), [
    ⟨.ofKind (.element "b" []), []⟩,
    ⟨.ofKind (.text " "), []⟩,
    ⟨.ofKind (.mustache (.text "name")), []⟩]⟩

theorem decode_gap : decode gap.document = .ok gap :=
  decode_bare (show gap.bare.WellFormed by decide)

def trailingFlags (tree : Node) : List (Option Bool) :=
  tree.kidLabels.map fun label => label.notes.trailingSensitive.map Value.isTruthy

/-- The second run finds the emphasis next to the expression, with no blank in between. -/
theorem second_ne_first_gap : ∃ first second,
    (preprocessDocument Config.builtin .preprocess gap.document).2 = .ok first ∧
      (preprocessDocument Config.builtin .preprocess first).2 = .ok second ∧ second ≠ first := by
  have readFirst := decode_normalized Config.builtin decode_gap
  have readSecond := decode_normalized Config.builtin readFirst
  refine ⟨_, _, preprocessDocument_eq Config.builtin decode_gap,
    preprocessDocument_eq Config.builtin readFirst, ?_⟩
  intro same
  rw [same, readFirst] at readSecond
  have flags := congrArg trailingFlags (Except.ok.inj readSecond)
  revert flags
  decide

end Documents

/-- All runs from the second one on leave the same tree with the same notes, and none of them fails.
The document of the third run is that of the second one, which may differ from that of the first. -/
theorem steady_preprocess :
    (∀ (config : Config) (tree : Node), tree.WellFormed → ∀ count,
      (preprocess config .preprocess ((rerun config)^[count] tree)).fault = none ∧
        (rerun config)^[count + 2] tree = (rerun config)^[2] tree) ∧
    (∀ (config : Config) (document : Value) (tree : Node), decode document = .ok tree →
      ∃ first second,
        (preprocessDocument config .preprocess document).2 = .ok first ∧
          (preprocessDocument config .preprocess first).2 = .ok second ∧
          (preprocessDocument config .preprocess second).2 = .ok second) ∧
    ∃ config document first second,
      (preprocessDocument config .preprocess document).2 = .ok first ∧
        (preprocessDocument config .preprocess first).2 = .ok second ∧ second ≠ first := by
  refine ⟨?_, ?_, ?_⟩
  · intro config tree formed count
    exact ⟨fault_rerun config formed count, iterate_rerun config formed count⟩
  · intro config document tree read
    exact exists_documents config read
  · exact ⟨Config.builtin, gap.document, second_ne_first_gap⟩

theorem steady_preprocess_paragraph :
    (paragraph.WellFormed ∧
      (rerun Config.builtin)^[3] paragraph = (rerun Config.builtin)^[2] paragraph) ∧
    decode greetingDocument = .ok greeting ∧ ∃ first second,
      (preprocessDocument Config.builtin .preprocess greetingDocument).2 = .ok first ∧
        (preprocessDocument Config.builtin .preprocess first).2 = .ok second ∧
        (preprocessDocument Config.builtin .preprocess second).2 = .ok second :=
  ⟨⟨by decide, (steady_preprocess.1 Config.builtin paragraph (by decide) 1).2⟩, decode_greeting,
    steady_preprocess.2.1 Config.builtin greetingDocument greeting decode_greeting⟩

end TemplateSpacing.Pass
