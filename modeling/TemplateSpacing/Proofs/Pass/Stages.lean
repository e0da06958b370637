import TemplateSpacing.Proofs.Pass.Documents
import TemplateSpacing.Proofs.Pass.Measured
import TemplateSpacing.Proofs.Pass.NormalForm
import TemplateSpacing.Proofs.Pass.SecondRun

/-! # What the stages promise

Steps may be taken in any order and more than once.  A stage that has been reached promises something
about the tree, and every step keeps the promises of all stages, because it is skipped as long as the
promises that it relies on have not been made.
-/

set_option autoImplicit false

namespace TemplateSpacing.Pass

open TemplateSpacing.Tree

/-- A child both edges of which have been measured. -/
def Bounded (label : Label) : Prop :=
  (∃ flag, Flagged .leadingSensitive label flag) ∧ ∃ flag, Flagged .trailingSensitive label flag

/-- A container whose children have been measured: an only text is measured at its container. -/
def Surveyed (node : Node) : Prop :=
  node.label.kind.isContainer = true →
    (∀ label ∈ node.kidLabels, Bounded label) ∨
      (isSoleText node.kidLabels = true ∧ ∃ flag, Flagged .danglingSensitive node.label flag)

structure Clean (config : Config) (node : Node) : Prop where
  texts : isLoose config node.label.kind = true → ∀ chars, .text chars ∈ kidKinds node →
    chars ≠ "" ∧ Text.strip chars = chars
  body : node.label.kind.isElement = true → ∀ chars, kidKinds node = [.text chars] →
    Text.isAllBlank chars = false

structure Sound (config : Config) (stage : Stage) (tree : Node) : Prop where
  formed : tree.WellFormed
  displayed : Stage.displayAssigned.rank ≤ stage.rank → tree.Everywhere fun node => Displayed node.label
  surveyed : Stage.sensitivityAssigned.rank ≤ stage.rank → tree.Everywhere Surveyed
  clean : stage = .normalized → tree.Everywhere (Clean config)

/-! ## Measured children -/

section Surveyed

def sensitiveNotes : List Note := [.leadingSensitive, .trailingSensitive, .danglingSensitive]

theorem isSoleText_iff (labels : List Label) :
    isSoleText labels = true ↔ ∃ label, labels = [label] ∧ label.kind.isText = true := by
  match labels with
  | [] => simp [isSoleText]
  | [label] => simp [isSoleText]
  | _ :: _ :: _ => simp [isSoleText]

theorem Bounded.of_notes {label other : Label} (same : other.notes = label.notes)
    (bounded : Bounded label) : Bounded other := by
  simpa only [Bounded, Flagged, same] using bounded

theorem surveyed_only (node : Node) : Surveyed (node.only sensitiveNotes) ↔ Surveyed node := by
  have label : (node.only sensitiveNotes).label = node.label.only sensitiveNotes :=
    Node.mapLabels_label _ node
  rw [Surveyed, Node.kidLabels_only, isSoleText_only, label, Label.only_kind, List.forall_mem_map]
  exact Iff.rfl

theorem surveyed_of_measured {config : Config} {node : Node} (measured : Measured config node) :
    Surveyed node := by
  intro container
  cases sole : isSoleText node.kidLabels with
  | true => exact .inr ⟨rfl, _, measured.sole container sole⟩
  | false =>
      refine .inl fun label member => ?_
      obtain ⟨_, _, edged⟩ := exists_of_forall₂_right (measured.several container sole) member
      exact ⟨⟨_, edged.leading⟩, _, edged.trailing⟩

theorem Surveyed.underLabel {node : Node} {label : Label} (notes : label.notes = node.label.notes)
    (alike : Kind.Alike node.label.kind label.kind) (surveyed : Surveyed node) :
    Surveyed ⟨label, node.kids⟩ := by
  intro container
  rw [isContainer_alike alike] at container
  rcases surveyed container with bounded | ⟨sole, flag, flagged⟩
  · exact .inl bounded
  · refine .inr ⟨sole, flag, ?_⟩
    rw [Flagged, notes]
    exact flagged

end Surveyed

section Norm

variable (config : Config)

/-- An only text stays or leaves nothing behind. -/
theorem surveyed_norm {node : Node} (surveyed : Surveyed node) : Surveyed (norm config node) := by
  intro container
  rw [norm_label] at container
  have pairs := kidLabels_norm config node
  rcases surveyed container with bounded | ⟨sole, flag, flagged⟩
  · refine .inl fun label member => ?_
    obtain ⟨kid, survives, notes, _⟩ := exists_of_forall₂_right pairs member
    have inKids := List.mem_map_of_mem (f := Node.label) (mem_of_mem_survivors survives)
    exact (bounded kid.label inKids).of_notes notes
  · obtain ⟨text, single, isText⟩ := (isSoleText_iff node.kidLabels).mp sole
    obtain ⟨kid, kids, rfl⟩ := List.map_eq_singleton_iff.mp single
    have among := survivors_sublist config node.label.kind node.kids
    rw [kids] at among pairs
    rcases List.sublist_singleton.mp among with nothing | same
    · rw [nothing] at pairs
      left
      rw [List.forall₂_nil_left_iff.mp pairs]
      intro label member
      cases member
    · rw [same] at pairs
      obtain ⟨label, rest, ⟨_, alike⟩, later, labels⟩ := List.forall₂_cons_left_iff.mp pairs
      rw [List.forall₂_nil_left_iff.mp later] at labels
      refine .inr ⟨(isSoleText_iff _).mpr ⟨label, labels, ?_⟩, flag, ?_⟩
      · rcases alike with same | ⟨_, newText⟩
        · rw [same]
          exact isText
        · exact newText
      · rw [norm_label]
        exact flagged

theorem everywhere_surveyed_norm {node : Node} (all : node.Everywhere Surveyed) :
    (norm config node).Everywhere Surveyed := by
  induction all with
  | @intro node here _ ih =>
      refine .intro (surveyed_norm config here) ?_
      intro made member
      rw [norm_kids] at member
      obtain ⟨kid, survives, rfl⟩ := List.mem_map.mp member
      have below := ih kid (mem_of_mem_survivors survives)
      obtain ⟨notes, alike⟩ := tidied_label config node.label.kind (norm config kid)
      have kids := tidied_kids config node.label.kind (norm config kid)
      generalize tidied config node.label.kind (norm config kid) = made at notes alike kids
      cases made with
      | mk label madeKids =>
          obtain rfl : madeKids = (norm config kid).kids := kids
          exact .intro (below.here.underLabel notes alike) fun kid member => below.kid member

end Norm

/-! ## What the passes keep -/

section Passes

variable {config : Config} {tree : Node}

theorem surveyed_displayed (config : Config) (surveyed : tree.Everywhere Surveyed) :
    (displayed config tree).Everywhere Surveyed :=
  Node.Everywhere.of_only surveyed_only
    (only_displayPass config (by decide) (by decide) (by decide) tree) surveyed

theorem surveyed_sensitivityPass (config : Config) (tree : Node) :
    (tree.rewrite (sensitivityRule config) true).Everywhere Surveyed :=
  (measured_sensitivityPass config tree).imp fun _ => surveyed_of_measured

theorem surveyed_whitespacePass (config : Config) (surveyed : tree.Everywhere Surveyed) :
    (tree.rewrite (whitespaceRule config) true).Everywhere Surveyed := by
  rw [← Node.Everywhere.only_iff surveyed_only, only_whitespacePass config (by decide)]
  apply everywhere_surveyed_norm
  rw [Node.Everywhere.only_iff surveyed_only]
  exact surveyed

theorem displayed_sensitivityPass (config : Config)
    (shown : tree.Everywhere fun node => Displayed node.label) :
    (tree.rewrite (sensitivityRule config) true).Everywhere fun node => Displayed node.label := by
  have shows : ∀ node : Node, Displayed (node.only [.display]).label ↔ Displayed node.label := by
    intro node
    rw [Node.only, Node.mapLabels_label]
    exact Iff.rfl
  exact Node.Everywhere.of_only shows
    (only_sensitivityPass config (by decide) (by decide) (by decide) tree) shown

theorem displayed_whitespacePass (config : Config)
    (shown : tree.Everywhere fun node => Displayed node.label) :
    (tree.rewrite (whitespaceRule config) true).Everywhere fun node => Displayed node.label :=
  everywhere_whitespacePass config (fun _ _ => id) (fun _ _ => id) (fun _ _ _ => id) shown

theorem clean_only (node : Node) : Clean config (node.only []) ↔ Clean config node := by
  have kind : (node.only []).label.kind = node.label.kind := by
    rw [Node.only, Node.mapLabels_label, Label.only_kind]
  have kinds : kidKinds (node.only []) = kidKinds node := Node.kinds_only [] node
  constructor
  · rintro ⟨texts, body⟩
    rw [kind, kinds] at texts body
    exact ⟨texts, body⟩
  · rintro ⟨texts, body⟩
    refine ⟨?_, ?_⟩
    · rw [kind, kinds]
      exact texts
    · rw [kind, kinds]
      exact body

theorem clean_of_tidy {node : Node} (tidy : Tidy config node) : Clean config node := by
  refine ⟨?_, ?_⟩
  · intro loose chars member
    obtain ⟨label, inKids, kind⟩ := List.mem_map.mp member
    have tight := tidy.tight loose label inKids
    have filled := tight.filled
    have trimmed := tight.trimmed
    rw [kind] at filled trimmed
    refine ⟨?_, Kind.text.inj trimmed⟩
    rintro rfl
    cases filled
  · intro element chars single
    cases blank : Text.isAllBlank chars with
    | false => rfl
    | true =>
        have hollow : isHollow (kidKinds node) = true := by
          rw [single]
          exact blank
        rw [kidKinds, Node.kidLabels, tidy.empty element hollow] at single
        cases single

theorem clean_whitespacePass (config : Config) (tree : Node) :
    (tree.rewrite (whitespaceRule config) true).Everywhere (Clean config) :=
  Node.Everywhere.of_rewrite (fun _ _ => True)
    (fun top node _ => clean_of_tidy (tidy_rewrite config top node)) (fun _ _ _ _ _ => trivial) true
    tree trivial

end Passes

/-! ## Steps -/

section Steps

variable {config : Config} {stage : Stage} {tree : Node}

theorem rank_later (stage other : Stage) : (stage.later other).rank = max stage.rank other.rank := by
  rw [Stage.later]
  split
  · omega
  · omega

theorem later_base (stage : Stage) : stage.later .unclassified = stage :=
  if_neg (Nat.not_lt_zero _)

theorem later_eq_normalized {other : Stage} (early : other ≠ .normalized)
    (last : stage.later other = .normalized) : stage = .normalized := by
  rw [Stage.later] at last
  split at last
  · exact (early last).elim
  · exact last

theorem sound_display (sound : Sound config stage tree) :
    Sound config (stage.later .displayAssigned) (displayed config tree) where
  formed := wellFormed_displayed config sound.formed
  displayed := fun _ => displayed_displayPass config sound.formed
  surveyed := by
    intro reached
    have before : Stage.sensitivityAssigned.rank ≤ stage.rank := by
      have ranks : (stage.later .displayAssigned).rank = max stage.rank 1 := rank_later stage _
      have needed : Stage.sensitivityAssigned.rank = 2 := rfl
      omega
    exact surveyed_displayed config (sound.surveyed before)
  clean := by
    intro last
    have same := only_displayPass config (@List.not_mem_nil _ _) (@List.not_mem_nil _ _)
      (@List.not_mem_nil _ _) tree
    exact Node.Everywhere.of_only clean_only same (sound.clean (later_eq_normalized (by decide) last))

theorem sound_sensitivity (sound : Sound config stage tree)
    (reached : Stage.displayAssigned.rank ≤ stage.rank) :
    Sound config (stage.later .sensitivityAssigned) (tree.rewrite (sensitivityRule config) true) where
  formed := sound.formed.rewrite (sensitivityRule_tame config)
  displayed := fun _ => displayed_sensitivityPass config (sound.displayed reached)
  surveyed := fun _ => surveyed_sensitivityPass config tree
  clean := by
    intro last
    have same := only_sensitivityPass config (@List.not_mem_nil _ _) (@List.not_mem_nil _ _)
      (@List.not_mem_nil _ _) tree
    exact Node.Everywhere.of_only clean_only same (sound.clean (later_eq_normalized (by decide) last))

theorem sound_whitespace (sound : Sound config stage tree)
    (reached : Stage.sensitivityAssigned.rank ≤ stage.rank) :
    Sound config (stage.later .normalized) (tree.rewrite (whitespaceRule config) true) where
  formed := sound.formed.rewrite (whitespaceRule_tame config)
  displayed := by
    intro _
    exact displayed_whitespacePass config (sound.displayed (Nat.le_trans (by decide) reached))
  surveyed := fun _ => surveyed_whitespacePass config (sound.surveyed reached)
  clean := fun _ => clean_whitespacePass config tree

def idleRule : Rule := fun _ label below => (label, below.map some)

theorem visited_idleRule (top : Bool) (node : Node) : node.visited idleRule top = node := by
  rw [Node.visited, idleRule, Node.kidLabels, Node.relabel_same]
  cases node with
  | mk label kids => rfl

theorem idle_follows : Follows idle idleRule fun _ node => node.WellFormed where
  visits := fun parent node _ => ⟨rfl, (visited_idleRule parent.isNone node).symm⟩
  known := by
    intro top node formed
    rw [visited_idleRule]
    exact formed.isKnown
  stays := by
    intro top node formed kid member
    rw [visited_idleRule] at member
    exact formed.kid member

theorem rewrite_idleRule (top : Bool) (tree : Node) : tree.rewrite idleRule top = tree :=
  Node.rewrite_of_fixed (fun _ _ => True) (fun top node _ => visited_idleRule top node)
    (fun _ _ _ _ _ => trivial) top tree trivial

variable {progress : Progress}

/-- What outlasts the passes holds of all labels after a change if it held of all labels before. -/
def Lasts (before after : Node) : Prop :=
  ∀ law, Enduring law → (before.Everywhere fun node => law node.label) →
    after.Everywhere fun node => law node.label

theorem Lasts.trans {before middle after : Node} (first : Lasts before middle) (second : Lasts middle after) :
    Lasts before after :=
  fun law enduring all => second law enduring (first law enduring all)

/-- A step that is taken makes the promises of the stage that it leads to, and keeps all others. -/
theorem exists_reaches (step : Step) (sound : Sound progress.config progress.stage progress.root)
    (reached : step.requires.rank ≤ progress.stage.rank) :
    ∃ root, Reaches (Progress.invoke step progress) root progress.config
        (progress.stage.later step.produces) ∧
      Sound progress.config (progress.stage.later step.produces) root ∧ Lasts progress.root root := by
  cases step with
  | base =>
      have stays : Reaches (Progress.invoke .base progress) (progress.root.rewrite idleRule true)
          progress.config (progress.stage.later Step.base.produces) :=
        reaches_invoke idle_follows sound.formed reached
      rw [rewrite_idleRule] at stays
      refine ⟨_, stays, ?_⟩
      rw [show Step.base.produces = .unclassified from rfl, later_base]
      exact ⟨sound, fun _ _ => id⟩
  | display =>
      exact ⟨_, reaches_display sound.formed, sound_display sound, fun _ enduring => enduring.displayed⟩
  | sensitivity =>
      have ready : ReadyForEdges progress.root := ⟨sound.formed, sound.displayed reached⟩
      exact ⟨_, reaches_sensitivity ready reached, sound_sensitivity sound reached,
        fun _ enduring => enduring.sensitivityPass⟩
  | whitespace =>
      exact ⟨_, reaches_whitespace sound.formed reached, sound_whitespace sound reached,
        fun _ enduring => enduring.whitespacePass⟩

end Steps

/-! ## Runs -/

section Runs

variable {progress : Progress} {config : Config} {tree : Node}

/-- A run on a tree that has not failed, where the stage that it has come to promises the truth. -/
structure SoundRun (config : Config) (before : Node) (outcome : Outcome Progress) : Prop where
  done : outcome.fault = none
  same : outcome.state.config = config
  sound : Sound config outcome.state.stage outcome.state.root
  keeps : Lasts before outcome.state.root

/-- What a step may do to a run: the stage does not go back, and a step that comes too early leaves the
tree and the counts of visits alone. -/
structure Advances (step : Step) (before after : Progress) : Prop where
  rank : before.stage.rank ≤ after.stage.rank
  skipped : before.stage.rank < step.requires.rank →
    after.root = before.root ∧ after.visits = before.visits

theorem soundRun_invoke (step : Step) (same : progress.config = config)
    (sound : Sound config progress.stage progress.root) :
    SoundRun config progress.root (Progress.invoke step progress) ∧
      Advances step progress (Progress.invoke step progress).state := by
  subst same
  by_cases early : progress.stage.rank < step.requires.rank
  · rw [Progress.invoke, if_pos early]
    exact ⟨⟨rfl, rfl, sound, fun _ _ => id⟩, Nat.le_refl _, fun _ => ⟨rfl, rfl⟩⟩
  · obtain ⟨root, ⟨done, sameRoot, sameConfig, sameStage⟩, soundAfter, keeps⟩ :=
      exists_reaches step sound (Nat.le_of_not_lt early)
    refine ⟨⟨done, sameConfig, ?_, ?_⟩, ?_, fun late => (early late).elim⟩
    · rw [sameStage, sameRoot]
      exact soundAfter
    · rw [sameRoot]
      exact keeps
    · rw [sameStage, rank_later]
      exact Nat.le_max_left _ _

theorem andThen_andThen {α : Type} (outcome : Outcome α) (first second : α → Outcome α) :
    (outcome.andThen first).andThen second =
      outcome.andThen fun state => (first state).andThen second := by
  cases outcome with
  | mk state log fault =>
      cases fault with
      | some fault => rfl
      | none =>
          simp only [Outcome.andThen]
          generalize first state = middle
          cases middle with
          | mk state log fault =>
              cases fault with
              | some fault => rfl
              | none => simp only [List.append_assoc]

/-- Steps one after the other are one run after the other. -/
theorem invokeAll_append (first rest : List Step) (progress : Progress) :
    Progress.invokeAll (first ++ rest) progress =
      (Progress.invokeAll first progress).andThen (Progress.invokeAll rest) := by
  induction first generalizing progress with
  | nil =>
      rw [Progress.invokeAll, Outcome.andThen]
      rfl
  | cons step steps ih =>
      rw [List.cons_append, Progress.invokeAll, Progress.invokeAll, andThen_andThen]
      exact congrArg _ (funext ih)

theorem soundRun_invokeAll (steps : List Step) (same : progress.config = config)
    (sound : Sound config progress.stage progress.root) :
    SoundRun config progress.root (Progress.invokeAll steps progress) := by
  induction steps generalizing progress with
  | nil => exact ⟨rfl, same, sound, fun _ _ => id⟩
  | cons step rest ih =>
      obtain ⟨⟨done, sameAfter, soundAfter, keeps⟩, _⟩ := soundRun_invoke step same sound
      obtain ⟨restDone, restSame, restSound, restKeeps⟩ := ih sameAfter soundAfter
      rw [Progress.invokeAll, Outcome.andThen]
      simp only [done]
      exact ⟨restDone, restSame, restSound, keeps.trans restKeeps⟩

theorem sound_start (config : Config) (formed : tree.WellFormed) :
    Sound config .unclassified tree where
  formed := formed
  displayed := fun reached => absurd reached (by decide)
  surveyed := fun reached => absurd reached (by decide)
  clean := fun last => Stage.noConfusion last

theorem soundRun_run (config : Config) (formed : tree.WellFormed) (steps : List Step) :
    SoundRun config tree (Progress.run steps (.start tree config)) := by
  have start : (Progress.start tree config).config = config := rfl
  obtain ⟨done, same, sound, keeps⟩ := soundRun_invokeAll steps start (sound_start config formed)
  exact ⟨done, same, sound, keeps⟩

theorem run_append (config : Config) (formed : tree.WellFormed) (steps : List Step) (step : Step) :
    (Progress.run (steps ++ [step]) (.start tree config)).state =
      (Progress.invoke step (Progress.run steps (.start tree config)).state).state := by
  have done : (Progress.invokeAll steps (.start tree config)).fault = none :=
    (soundRun_run config formed steps).done
  have single : ∀ progress, (Progress.invokeAll [step] progress).state =
      (Progress.invoke step progress).state := by
    intro progress
    rw [Progress.invokeAll, Outcome.andThen]
    split <;> rfl
  simp only [Progress.run, invokeAll_append, Outcome.andThen, done]
  exact single _

end Runs

/-! ## The promises -/

/-- A block that holds blocks, each in the place of the note on the leading edge of the one around it. -/
def nestedBlock : Nat → Value
  | 0 => .table [("type", .text "Block"), ("body", .list [.table [("type", .text "TextNode"), ("chars", .text "x")]])]
  | depth + 1 =>
    .table [("type", .text "Block"), ("body", .list [
      .table [("type", .text "BlockStatement"), ("isLeadingSpaceSensitive", nestedBlock depth)]])]

theorem lt_levels_nestedBlock (depth : Nat) : depth < (nestedBlock depth).levels := by
  induction depth with
  | zero => decide
  | succ depth ih =>
      rw [nestedBlock]
      simp only [Value.levels, Value.levelsOfFields, Value.levelsOfItems]
      omega

def edgedDocument (edge : Value) : Value :=
  .table [("type", .text "Template"), ("body", .list [
    .table [("type", .text "BlockStatement"), ("isLeadingSpaceSensitive", edge)]])]

def edged (edge : Value) : Node :=
  ⟨.ofKind (.root .template),
    [⟨(Label.ofKind (.block .null false false)).note .leadingSensitive (some edge), []⟩]⟩

theorem decode_edgedDocument (fields : Entries Value) :
    decode (edgedDocument (.table fields)) = .ok (edged (.table fields)) := by
  have own : readLabel (edgedDocument (.table fields)) = .ok (edged (.table fields)).label := rfl
  have children : below (edged (.table fields)).label.kind (edgedDocument (.table fields)) = .ok [
      (.table [("type", .text "BlockStatement"), ("isLeadingSpaceSensitive", .table fields)],
        (Label.ofKind (.block .null false false)).note .leadingSensitive (some (.table fields)))] := rfl
  have leaf : below ((Label.ofKind (.block .null false false)).note .leadingSensitive (some (.table fields))).kind
      (.table [("type", .text "BlockStatement"), ("isLeadingSpaceSensitive", .table fields)]) = .ok [] := rfl
  simp only [decode, own, complete_of_below children, List.foldr_cons, List.foldr_nil, completeNext,
    complete_of_below leaf]
  rfl

end TemplateSpacing.Pass
