import TemplateSpacing.Proofs.Pass.Runs
import TemplateSpacing.Proofs.Tree.Visits

/-! # How many nodes a step visits

A walk visits the nodes of the tree that it leaves, whatever its visitor does to the children on the way.
The first two steps of the full pipeline leave all nodes in the tree and visit each of them; the third one
visits those that stay.
-/

set_option autoImplicit false

namespace TemplateSpacing.Pass

open TemplateSpacing.Tree

section Counts

variable {config : Config} {progress : Progress}

theorem length_visited {visit : Visit} {rule : Rule} {Ready : Bool → Node → Prop} {tree : Node}
    (follows : Follows visit rule Ready) (ready : Ready true tree) :
    (traverse visit tree).state.visited.length = (tree.rewrite rule true).size := by
  obtain ⟨done, state⟩ := follows.traverse tree ready
  have enough : (traverse visit tree).state.node.depth ≤ tree.depth := by
    rw [state]
    exact Node.depth_rewrite_le rule true tree
  rw [← state]
  exact (congrArg List.length (visited_walk done enough)).trans (Node.length_family none _)

/-- A step whose stage has been reached notes how many nodes there are in the tree that it leaves. -/
theorem invoke_eq (step : Step) (progress : Progress) {rule : Rule} {Ready : Bool → Node → Prop}
    (follows : Follows (step.visit progress.config) rule Ready) (ready : Ready true progress.root)
    (reached : step.requires.rank ≤ progress.stage.rank) :
    (Progress.invoke step progress).fault = none ∧
      (Progress.invoke step progress).state =
        ⟨progress.root.rewrite rule true, progress.config, progress.stage.later step.produces,
          progress.steps ++ [step],
          progress.visits.put step.name (progress.root.rewrite rule true).size⟩ := by
  obtain ⟨done, state⟩ := follows.traverse progress.root ready
  have early : ¬progress.stage.rank < step.requires.rank := Nat.not_lt.mpr reached
  rw [Progress.invoke, if_neg early, Progress.perform]
  simp only [done]
  refine ⟨rfl, ?_⟩
  simp only [Outcome.logged, state, length_visited follows ready]

/-- A run goes on from where its first step has come to. -/
theorem invokeAll_cons {step : Step} {after : Progress} (rest : List Step)
    (goes : (Progress.invoke step progress).fault = none ∧
      (Progress.invoke step progress).state = after) :
    (Progress.invokeAll (step :: rest) progress).fault = (Progress.invokeAll rest after).fault ∧
      (Progress.invokeAll (step :: rest) progress).state = (Progress.invokeAll rest after).state := by
  obtain ⟨done, rfl⟩ := goes
  rw [Progress.invokeAll, Outcome.andThen]
  simp only [done, and_true]

theorem size_of_only {tree other : Node} (same : other.only [] = tree.only []) :
    other.size = tree.size := by
  rw [← Node.size_mapLabels (Label.only []), ← Node.only, same, Node.only, Node.size_mapLabels]

theorem size_displayed (config : Config) (tree : Node) : (displayed config tree).size = tree.size :=
  size_of_only (only_displayPass config (by decide) (by decide) (by decide) tree)

theorem size_annotated (config : Config) (tree : Node) : (annotated config tree).size = tree.size :=
  size_of_only (only_annotated (by decide) (by decide) (by decide) (by decide) (by decide) (by decide))

/-- The first two steps visit all nodes of the tree, and the third one those that it leaves. -/
theorem visits_run (config : Config) {tree : Node} (formed : tree.WellFormed) :
    (Progress.run Pipeline.preprocess.steps (.start tree config)).fault = none ∧
      (Progress.run Pipeline.preprocess.steps (.start tree config)).state.root =
        normalized config tree ∧
      (Progress.run Pipeline.preprocess.steps (.start tree config)).state.visits =
        [("DisplayStep", tree.size), ("SensitivityStep", tree.size),
          ("WhitespaceStep", (normalized config tree).size)] := by
  have first := invoke_eq .display (.start tree config)
    (displayPass_follows config) formed (Nat.zero_le _)
  obtain ⟨firstFault, firstState⟩ := invokeAll_cons [.sensitivity, .whitespace] first
  have second := invoke_eq .sensitivity
    ⟨displayed config tree, config, .displayAssigned, [.display],
      [("DisplayStep", (displayed config tree).size)]⟩
    (sensitivityPass_follows config) (readyForEdges_displayed config formed) (Nat.le_refl _)
  obtain ⟨secondFault, secondState⟩ := invokeAll_cons [.whitespace] second
  have third := invoke_eq .whitespace
    ⟨annotated config tree, config, .sensitivityAssigned, [.display, .sensitivity],
      [("DisplayStep", (displayed config tree).size),
        ("SensitivityStep", (annotated config tree).size)]⟩
    (whitespacePass_follows config) (wellFormed_annotated config formed) (Nat.le_refl _)
  obtain ⟨thirdFault, thirdState⟩ := invokeAll_cons [] third
  have fault := firstFault.trans (secondFault.trans thirdFault)
  have state := firstState.trans (secondState.trans thirdState)
  have visits : (Progress.run Pipeline.preprocess.steps (.start tree config)).state.visits =
      [("DisplayStep", (displayed config tree).size), ("SensitivityStep", (annotated config tree).size),
        ("WhitespaceStep", (normalized config tree).size)] := congrArg Progress.visits state
  refine ⟨fault, congrArg Progress.root state, ?_⟩
  rw [visits, size_displayed, size_annotated]

end Counts

/-! ## Walks under changes -/

section Walks

/-- A walk whose calls replace no children but those of the nodes that they are made on never fails, and
when it has come to its end, it has made its calls on the nodes of the tree as it is then, with the nodes
above them, each once and in order.  It does come to an end when the calls only take children away.  The
walk by recursion is a run of it, and has visited as many nodes as there are at the end.  So a full
pipeline notes how many nodes the tree has for its first two steps, and how many stay for the third. -/
theorem calls_in_order :
    (∀ (σ : Type) (visitor : Visitor σ) (memory : σ) (tree : Node), tree.WellFormed →
      Lawful (fun _ _ => True) visitor (.start memory tree) → ∀ count, ∃ last,
        Walking.rounds visitor count (.start memory tree) = .ok last ∧ last.tree.WellFormed ∧
          (last.pending = [] → last.calls = last.tree.preOrder ∧ (last.calls.map Prod.fst).Nodup ∧
            last.calls.length = last.tree.size)) ∧
      (∀ (σ : Type) (visitor : Visitor σ) (memory : σ) (tree : Node), tree.WellFormed →
        Lawful (fun old new => new.Sublist old) visitor (.start memory tree) → ∃ last,
          Walking.rounds visitor tree.size (.start memory tree) = .ok last ∧ last.pending = []) ∧
      (∀ (visit : Visit) (fuel : Nat) (tree : Node), (walk visit fuel none tree).fault = none →
        (walk visit fuel none tree).state.node.depth ≤ fuel →
          (∃ count, Walking.rounds visit.visitor count (.start () tree) =
            .ok ⟨(), (walk visit fuel none tree).state.node, [],
              (walk visit fuel none tree).state.node.preOrder⟩) ∧
          (walk visit fuel none tree).state.visited =
            (walk visit fuel none tree).state.node.family none ∧
          (walk visit fuel none tree).state.visited.length =
            (walk visit fuel none tree).state.node.size) ∧
      ∀ (config : Config) (tree : Node), tree.WellFormed →
        (Progress.run Pipeline.preprocess.steps (.start tree config)).fault = none ∧
          (Progress.run Pipeline.preprocess.steps (.start tree config)).state.visits =
            [("DisplayStep", tree.size), ("SensitivityStep", tree.size), ("WhitespaceStep",
              (Progress.run Pipeline.preprocess.steps (.start tree config)).state.root.size)] := by
  refine ⟨?_, fun _ _ _ _ formed lawful => rounds_filtered formed lawful, ?_, ?_⟩
  · intro σ visitor memory tree formed lawful count
    obtain ⟨last, reaches, sound, _⟩ := (Walking.Sound.start memory formed).rounds lawful count
    refine ⟨last, reaches, sound.formed, fun empty => ?_⟩
    have calls := sound.calls_of_empty empty
    refine ⟨calls, ?_, ?_⟩
    · rw [calls]
      exact Node.nodup_walkOrder last.tree [] none
    · rw [calls, Node.length_preOrder]
  · intro visit fuel tree done enough
    obtain ⟨runs, visited⟩ := exists_rounds_walk visit fuel tree done enough
    exact ⟨runs, visited, (congrArg List.length visited).trans (Node.length_family none _)⟩
  · intro config tree formed
    obtain ⟨done, root, visits⟩ := visits_run config formed
    exact ⟨done, by rw [root, visits]⟩

/-- A visitor that takes blank texts out of the containers that it is called on, and counts its calls. -/
def sweeper : Visitor Nat := fun calls tree position _ =>
  (calls + 1, tree.modifyAt (fun node =>
    if node.label.kind.isContainer then
      ⟨node.label, node.kids.filter fun kid => !isBlankText kid.label.kind⟩
    else node) position)

theorem touches_sweeper (calls : Nat) {tree : Node} {position : Position} (parent : Option Position)
    (formed : tree.WellFormed) (present : ∃ node, tree.at? position = some node) :
    Touches (fun old new => new.Sublist old) position tree (sweeper calls tree position parent).2 := by
  obtain ⟨node, found⟩ := present
  have own : node.WellFormed := Node.Everywhere.at? formed found
  rw [sweeper, Node.modifyAt_eq_plant found]
  cases container : node.label.kind.isContainer with
  | true =>
      refine .children (node.kids.filter fun kid => !isBlankText kid.label.kind) found container
        (fun kid member => own.kid (List.mem_of_mem_filter member)) List.filter_sublist ?_
      rw [Node.hang, Node.modifyAt_eq_plant found]
      rfl
  | false =>
      refine .labels (congrArg Node.bones ?_)
      have same := Node.modifyAt_eq_plant found id
      rw [Node.modifyAt_same] at same
      exact same.symm

theorem calls_in_order_paragraph :
    (∃ last, Walking.rounds sweeper paragraph.size (.start 0 paragraph) = .ok last ∧
        last.calls = last.tree.preOrder ∧ last.calls.length = last.tree.size) ∧
      (traverse idle paragraph).state.visited =
        (traverse idle paragraph).state.node.family none ∧
      (Progress.run Pipeline.preprocess.steps (.start paragraph Config.builtin)).fault = none := by
  obtain ⟨ordered, ends, recursive, pipeline⟩ := calls_in_order
  have formed : paragraph.WellFormed := by decide
  have filters : Lawful (fun old new => new.Sublist old) sweeper (.start 0 paragraph) :=
    (Walking.Sound.start 0 formed).lawful fun calls _ _ parent => touches_sweeper calls parent
  have lawful : Lawful (fun _ _ => True) sweeper (.start 0 paragraph) :=
    fun count reached position parent rest reaches top =>
      (filters count reached position parent rest reaches top).imp fun _ _ _ => trivial
  obtain ⟨last, reaches, empty⟩ := ends Nat sweeper 0 paragraph formed filters
  obtain ⟨same, reached, _, order⟩ := ordered Nat sweeper 0 paragraph formed lawful paragraph.size
  obtain rfl := Except.ok.inj (reaches.symm.trans reached)
  refine ⟨⟨last, reaches, (order empty).1, (order empty).2.2⟩, ?_,
    (pipeline Config.builtin paragraph formed).1⟩
  exact (recursive idle paragraph.depth paragraph rfl (by decide)).2.1

end Walks

end TemplateSpacing.Pass
