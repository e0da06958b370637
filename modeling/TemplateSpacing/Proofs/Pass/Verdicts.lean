import TemplateSpacing.Proofs.Pass.EdgeFlags
import TemplateSpacing.Proofs.Pass.Opinions
import TemplateSpacing.Proofs.Tree.Finding

/-! # Verdicts and edges

A child can be asked about its edges by itself.  What it says is its opinion at its place, and the pass over
all children writes exactly these: at the ends of the parent what the one child there says, and between two
children what both of them say.  A node is asked at the place where it stands, so one that is no child gets
no answer, even if a child looks the same.
-/

set_option autoImplicit false

namespace TemplateSpacing.Pass

open TemplateSpacing.Tree

/-! ## Edges from opinions -/

section Edges

variable {leading trailing : List Bool} {index : Nat} {before after own : Bool}

theorem leadingEdges_first (here : leading[0]? = some own) :
    (leadingEdges leading trailing)[0]? = some own := by
  rw [leadingEdges, List.getElem?_zipWith, here]
  rfl

theorem leadingEdges_inner (left : trailing[index]? = some before)
    (right : leading[index + 1]? = some after) :
    (leadingEdges leading trailing)[index + 1]? = some (before && after) := by
  rw [leadingEdges, List.getElem?_zipWith, List.getElem?_cons_succ, left, right]

theorem trailingEdges_inner (left : trailing[index]? = some before)
    (right : leading[index + 1]? = some after) :
    (trailingEdges leading trailing)[index]? = some (before && after) := by
  have inside := (List.getElem?_eq_some_iff.mp right).1
  have next : (leading.drop 1 ++ [true])[index]? = some after := by
    rw [List.getElem?_append_left (by rw [List.length_drop]; omega), List.getElem?_drop, Nat.add_comm]
    exact right
  rw [trailingEdges, List.getElem?_zipWith, next, left, Bool.and_comm]

theorem trailingEdges_last (isLast : leading.length = index + 1) (here : trailing[index]? = some own) :
    (trailingEdges leading trailing)[index]? = some own := by
  have next : (leading.drop 1 ++ [true])[index]? = some true := by
    rw [List.getElem?_append_right (by rw [List.length_drop]; omega), List.length_drop,
      show index - (leading.length - 1) = 0 by omega]
    rfl
  rw [trailingEdges, List.getElem?_zipWith, next, here]
  rfl

end Edges

/-! ## Opinions rest on kinds and displays -/

/-- What a node lets others see of itself: its kind and its display. -/
def aspect (label : Label) : Kind × Option Value := (label.kind, label.notes.display)

section Aspects

variable (config : Config) (parent : Label)

theorem displayOf_congr {label other : Label} (same : aspect other = aspect label) :
    displayOf other = displayOf label := by
  obtain ⟨kind, display⟩ := Prod.mk.inj same
  rw [displayOf, displayOf, kind, display]

theorem asNeighbour_congr {label other : Label} (same : aspect other = aspect label) :
    (asNeighbour other).map aspect = (asNeighbour label).map aspect := by
  have kind : other.kind = label.kind := congrArg Prod.fst same
  rw [asNeighbour, asNeighbour, kind]
  cases label.kind.isNothing with
  | true => rfl
  | false => exact congrArg some same

theorem opinion_congr {child new : Label} {neighbour newNeighbour : Option Label}
    (own : aspect new = aspect child) (beside : newNeighbour.map aspect = neighbour.map aspect) :
    opinion config parent newNeighbour new = opinion config parent neighbour child := by
  have kind : new.kind = child.kind := congrArg Prod.fst own
  cases neighbour with
  | none =>
      obtain rfl := Option.map_eq_none_iff.mp beside
      rw [opinion, opinion, kind]
  | some other =>
      obtain ⟨newOther, rfl, same⟩ := Option.map_eq_some_iff.mp beside
      have otherKind : newOther.kind = other.kind := congrArg Prod.fst same
      simp only [opinion, kind, otherKind, displayOf_congr same, Option.any_some]

theorem neighbour_congr {children news : List Label} (same : news.map aspect = children.map aspect)
    (index : Nat) :
    (news[index]?.bind asNeighbour).map aspect = (children[index]?.bind asNeighbour).map aspect := by
  have here : news[index]?.map aspect = children[index]?.map aspect := by
    rw [← List.getElem?_map, ← List.getElem?_map, same]
  cases found : children[index]? with
  | none =>
      rw [found] at here
      rw [Option.map_eq_none_iff.mp here]
  | some child =>
      rw [found] at here
      obtain ⟨new, there, alike⟩ := Option.map_eq_some_iff.mp here
      rw [there]
      exact asNeighbour_congr alike

theorem leadingOpinion_congr {children news : List Label}
    (same : news.map aspect = children.map aspect) (index : Nat) {child new : Label}
    (own : aspect new = aspect child) :
    leadingOpinion config parent news index new = leadingOpinion config parent children index child := by
  refine opinion_congr config parent own ?_
  cases index with
  | zero => rfl
  | succ index => exact neighbour_congr same index

theorem trailingOpinion_congr {children news : List Label}
    (same : news.map aspect = children.map aspect) (index : Nat) {child new : Label}
    (own : aspect new = aspect child) :
    trailingOpinion config parent news index new = trailingOpinion config parent children index child :=
  opinion_congr config parent own (neighbour_congr same (index + 1))

end Aspects

/-! ## The pass under a node whose displays are there -/

section Weighed

variable {config : Config} {parent : Label} {children : List Label}

theorem edges_of_displayed (parentNotes : parent.kind.hasNotes = true)
    (notes : ∀ label ∈ children, label.kind.hasNotes = true) (several : isSoleText children = false)
    (displayed : ∀ label ∈ parent :: children, Displayed label) :
    ∃ made, edges config parent children = .ok made := by
  have assigned : ∀ label ∈ parent :: children, label.notes.display ≠ none := by
    intro label member missing
    obtain ⟨word, shows⟩ := displayed label member
    rw [missing] at shows
    cases shows
  cases result : edges config parent children with
  | ok made => exact ⟨made, rfl⟩
  | error fault =>
      rcases edges_refused parentNotes notes several result with ⟨unready, _⟩ | ⟨_, asked, member, noWord⟩
      · rcases unready.missing with missing | ⟨_, _, left, right, here, next, _, missing⟩
        · exact (assigned parent List.mem_cons_self missing).elim
        · rcases missing with missing | missing
          · exact (assigned left (List.mem_cons_of_mem _ (List.mem_of_getElem? here)) missing).elim
          · exact (assigned right (List.mem_cons_of_mem _ (List.mem_of_getElem? next)) missing).elim
      · obtain ⟨word, shows⟩ := displayed asked member
        refine (noWord fun display isDisplay => ⟨word, ?_⟩).elim
        exact Option.some.inj (isDisplay.symm.trans shows)

theorem applySensitivity_of_edges (notes : ∀ label ∈ children, label.kind.hasNotes = true)
    (several : isSoleText children = false) {made : List (Bool × Bool)}
    (ok : edges config parent children = .ok made) :
    (applySensitivity config parent children).fault = none ∧
      (applySensitivity config parent children).state = (parent, withEdges made children) := by
  obtain ⟨done, state⟩ := writeEdges_eq made notes (length_of_edges ok)
  rw [applySensitivity]
  cases children with
  | nil => exact ⟨rfl, by rw [withEdges, List.zipWith_nil_right]; rfl⟩
  | cons first rest =>
      simp only [List.isEmpty_cons, Bool.false_eq_true, if_false, several, ok, Outcome.map, done, state,
        and_self]

theorem aspect_withEdges {made : List (Bool × Bool)} (count : made.length = children.length) :
    (withEdges made children).map aspect = children.map aspect :=
  map_withEdges (fun _ _ _ => rfl) count

theorem weighEdges_of_edges {node : Node} (container : node.label.kind.isContainer = true)
    (notes : ∀ label ∈ node.kidLabels, label.kind.hasNotes = true)
    (several : isSoleText node.kidLabels = false) {made : List (Bool × Bool)}
    (ok : edges config node.label node.kidLabels = .ok made) :
    (weighEdges config node).fault = none ∧ (weighEdges config node).state.label = node.label ∧
      (weighEdges config node).state.kidLabels = withEdges made node.kidLabels := by
  obtain ⟨done, state⟩ := applySensitivity_of_edges notes several ok
  have count : ((withEdges made node.kidLabels).map some).length = node.kids.length := by
    rw [List.length_map, length_withEdges (length_of_edges ok), Node.kidLabels, List.length_map]
  rw [weighEdges_eq container]
  refine ⟨done, congrArg Prod.fst state, ?_⟩
  rw [Outcome.map, state]
  refine (Node.map_label_relabel count).trans ?_
  rw [List.filterMap_map, Function.id_comp, List.filterMap_some]

end Weighed

/-! ## One child at a time -/

def verdicts (config : Config) (parent child : Found) : Except Fault Bool × Except Fault Bool :=
  (leadingVerdict config child parent, trailingVerdict config child parent)

/-- The notes of the children under a parent are what they say one at a time: the child at an end speaks for
itself, and at an edge between two children both do. -/
structure Concerted (config : Config) (parent : Found) : Prop where
  first : ∀ child, parent.kid? 0 = some child →
    ∃ own, leadingVerdict config child parent = .ok own ∧
      Flagged .leadingSensitive child.node.label own
  inner : ∀ index left right, parent.kid? index = some left → parent.kid? (index + 1) = some right →
    ∃ before after, trailingVerdict config left parent = .ok before ∧
      leadingVerdict config right parent = .ok after ∧
      Flagged .trailingSensitive left.node.label (before && after) ∧
      Flagged .leadingSensitive right.node.label (before && after)
  last : ∀ index child, parent.kid? index = some child → parent.kid? (index + 1) = none →
    ∃ own, trailingVerdict config child parent = .ok own ∧
      Flagged .trailingSensitive child.node.label own

section Verdicts

variable {config : Config} {parent child : Found} {index : Nat}

theorem verdicts_kid {position : Position} (stands : parent.position = some position)
    (container : parent.node.label.kind.isContainer = true)
    (hasNotes : child.node.label.kind.hasNotes = true) (here : parent.kid? index = some child) :
    verdicts config parent child =
      (leadingOpinion config parent.node.label parent.node.kidLabels index child.node.label,
        trailingOpinion config parent.node.label parent.node.kidLabels index child.node.label) := by
  rw [verdicts, leadingVerdict, trailingVerdict, Node.childIndex_kid stands container hasNotes here]
  rfl

theorem verdicts_stranger (container : parent.node.label.kind.isContainer = true)
    (hasNotes : child.node.label.kind.hasNotes = true)
    (elsewhere : ∀ index kid, parent.kid? index = some kid → ¬child.Is kid) :
    verdicts config parent child =
      (.error (.notAChild child.node.label.kind.className),
        .error (.notAChild child.node.label.kind.className)) := by
  rw [verdicts, leadingVerdict, trailingVerdict,
    Node.childIndex_stranger container hasNotes elsewhere]

/-- A child with what it says about its edges and with the notes that come of what all of them say. -/
structure Recorded (config : Config) (leading trailing : List Bool) (parent : Found) (index : Nat)
    (child : Found) (lead trail : Bool) : Prop where
  leads : leading[index]? = some lead
  trails : trailing[index]? = some trail
  answers : verdicts config parent child = (.ok lead, .ok trail)
  leadingNote : ∀ flag, (leadingEdges leading trailing)[index]? = some flag →
    Flagged .leadingSensitive child.node.label flag
  trailingNote : ∀ flag, (trailingEdges leading trailing)[index]? = some flag →
    Flagged .trailingSensitive child.node.label flag

theorem concerted_of_recorded {leading trailing : List Bool}
    (count : leading.length = parent.node.kids.length)
    (recorded : ∀ index child, parent.kid? index = some child →
      ∃ lead trail, Recorded config leading trailing parent index child lead trail) :
    Concerted config parent where
  first child here := by
    obtain ⟨lead, trail, own⟩ := recorded 0 child here
    exact ⟨lead, congrArg Prod.fst own.answers, own.leadingNote lead (leadingEdges_first own.leads)⟩
  inner index left right here next := by
    obtain ⟨_, before, own⟩ := recorded index left here
    obtain ⟨after, _, beside⟩ := recorded (index + 1) right next
    exact ⟨before, after, congrArg Prod.snd own.answers, congrArg Prod.fst beside.answers,
      own.trailingNote _ (trailingEdges_inner own.trails beside.leads),
      beside.leadingNote _ (leadingEdges_inner own.trails beside.leads)⟩
  last index child here isLast := by
    obtain ⟨_, trail, own⟩ := recorded index child here
    have inside := (List.getElem?_eq_some_iff.mp (Found.kid?_eq_some here).1).1
    have outside := List.getElem?_eq_none_iff.mp (Option.map_eq_none_iff.mp isLast)
    exact ⟨trail, congrArg Prod.snd own.answers,
      own.trailingNote trail (trailingEdges_last (by omega) own.trails)⟩

end Verdicts

section Pass

variable {config : Config} {parent : Found} {position : Position}

/-- The kids of the node that the pass has gone over are those from before with their edges written. -/
theorem exists_kid_before {made : List (Bool × Bool)} {after : Node}
    (labels : after.kidLabels = withEdges made parent.node.kidLabels) {index : Nat} {child : Found}
    (here : Found.kid? ⟨parent.position, after⟩ index = some child) :
    ∃ old edge, parent.kid? index = some old ∧ made[index]? = some edge ∧
      EdgeWritten old.node.label edge child.node.label := by
  obtain ⟨there, _⟩ := Found.kid?_eq_some here
  have new : (withEdges made parent.node.kidLabels)[index]? = some child.node.label := by
    rw [← labels, Node.kidLabels, List.getElem?_map]
    exact congrArg (Option.map Node.label) there
  obtain ⟨label, edge, inLabels, inMade, written⟩ := written_of_getElem rfl new
  rw [Node.kidLabels, List.getElem?_map] at inLabels
  obtain ⟨kid, inKids, rfl⟩ := Option.map_eq_some_iff.mp inLabels
  exact ⟨⟨parent.position.map (· ++ [index]), kid⟩, edge, by rw [Found.kid?, inKids]; rfl, inMade, written⟩

theorem getElem?_kidLabels {child : Found} {index : Nat} (here : parent.kid? index = some child) :
    parent.node.kidLabels[index]? = some child.node.label := by
  rw [Node.kidLabels, List.getElem?_map, (Found.kid?_eq_some here).1, Option.map_some]

structure Weighed (config : Config) (before : Node) (leading trailing : List Bool) (after : Node) :
    Prop where
  leads : (before.kidLabels.zipIdx.mapM fun place =>
    leadingOpinion config before.label before.kidLabels place.2 place.1) = .ok leading
  trails : (before.kidLabels.zipIdx.mapM fun place =>
    trailingOpinion config before.label before.kidLabels place.2 place.1) = .ok trailing
  label : after.label = before.label
  labels : after.kidLabels =
    withEdges ((leadingEdges leading trailing).zip (trailingEdges leading trailing)) before.kidLabels
  aspects : after.kidLabels.map aspect = before.kidLabels.map aspect

theorem weighed_weighEdges {node : Node} (container : node.label.kind.isContainer = true)
    (notes : ∀ label ∈ node.kidLabels, label.kind.hasNotes = true)
    (several : isSoleText node.kidLabels = false)
    (displayed : ∀ label ∈ node.label :: node.kidLabels, Displayed label) :
    (weighEdges config node).fault = none ∧
      ∃ leading trailing, Weighed config node leading trailing (weighEdges config node).state := by
  obtain ⟨made, ok⟩ := edges_of_displayed (hasNotes_of_isContainer container) notes several displayed
  obtain ⟨done, label, labels⟩ := weighEdges_of_edges container notes several ok
  have aspects := aspect_withEdges (length_of_edges ok)
  rw [← labels] at aspects
  obtain ⟨leading, trailing, leads, trails, rfl⟩ := edges_ok ok
  exact ⟨done, leading, trailing, leads, trails, label, labels, aspects⟩

theorem Weighed.length_kids {before after : Node} {leading trailing : List Bool}
    (weighed : Weighed config before leading trailing after) :
    after.kids.length = before.kids.length := by
  have count := congrArg List.length weighed.aspects
  simpa only [Node.kidLabels, List.length_map] using count

/-- A child after the pass and the one from before in its place, which gave the same answers. -/
theorem Weighed.recorded {after : Node} {leading trailing : List Bool}
    (weighed : Weighed config parent.node leading trailing after)
    (stands : parent.position = some position)
    (container : parent.node.label.kind.isContainer = true)
    (notes : ∀ label ∈ parent.node.kidLabels, label.kind.hasNotes = true) {index : Nat} {child : Found}
    (here : Found.kid? ⟨parent.position, after⟩ index = some child) :
    ∃ old lead trail, parent.kid? index = some old ∧ verdicts config parent old = (.ok lead, .ok trail) ∧
      Recorded config leading trailing ⟨parent.position, after⟩ index child lead trail := by
  obtain ⟨old, edge, before, inMade, written⟩ := exists_kid_before weighed.labels here
  have oldHere := getElem?_kidLabels before
  have oldNotes := notes _ (List.mem_of_getElem? oldHere)
  obtain ⟨lead, isLead, leadAnswer⟩ := ok_of_place weighed.leads oldHere
  obtain ⟨trail, isTrail, trailAnswer⟩ := ok_of_place weighed.trails oldHere
  -- The pass writes notes that no opinion depends on.
  have alike : aspect child.node.label = aspect old.node.label :=
    Prod.ext written.kind written.display
  have oldAnswers : verdicts config parent old = _ := verdicts_kid stands container oldNotes before
  have newAnswers : verdicts config ⟨parent.position, after⟩ child =
      (leadingOpinion config after.label after.kidLabels index child.node.label,
        trailingOpinion config after.label after.kidLabels index child.node.label) :=
    verdicts_kid stands (weighed.label ▸ container) (written.kind ▸ oldNotes) here
  rw [weighed.label, leadingOpinion_congr config _ weighed.aspects index alike, leadAnswer,
    trailingOpinion_congr config _ weighed.aspects index alike, trailAnswer] at newAnswers
  rw [leadAnswer, trailAnswer] at oldAnswers
  obtain ⟨first, second⟩ := List.getElem?_zip_eq_some.mp inMade
  refine ⟨old, lead, trail, before, oldAnswers, isLead, isTrail, newAnswers, ?_, ?_⟩
  · intro flag isFlag
    obtain rfl := Option.some.inj (first.symm.trans isFlag)
    exact written.leading
  · intro flag isFlag
    obtain rfl := Option.some.inj (second.symm.trans isFlag)
    exact written.trailing

theorem Weighed.verdicts_eq {after : Node} {leading trailing : List Bool}
    (weighed : Weighed config parent.node leading trailing after)
    (stands : parent.position = some position)
    (container : parent.node.label.kind.isContainer = true)
    (notes : ∀ label ∈ parent.node.kidLabels, label.kind.hasNotes = true) (index : Nat) :
    (Found.kid? ⟨parent.position, after⟩ index).map (verdicts config ⟨parent.position, after⟩) =
      (parent.kid? index).map (verdicts config parent) := by
  cases here : Found.kid? ⟨parent.position, after⟩ index with
  | none =>
      have outside := List.getElem?_eq_none_iff.mp (Option.map_eq_none_iff.mp here)
      rw [weighed.length_kids, ← List.getElem?_eq_none_iff] at outside
      rw [Found.kid?, outside]
      rfl
  | some child =>
      obtain ⟨old, lead, trail, before, oldAnswers, own⟩ := weighed.recorded stands container notes here
      rw [before, Option.map_some, Option.map_some, oldAnswers, own.answers]

/-- The children under a parent are where one more turn leads.  When all have a display, and they are not one
text alone, they can be asked one at a time: the pass over all of them writes what they answer then, and
what they answer does not change by it.  A node that is none of the children, by where it stands, gets no
answer about its edges, whatever it looks like. -/
theorem concerted_weighEdges (config : Config) {tree : Node} {turns : List Turn} {parent : Found}
    (led : Node.find turns tree = .ok parent)
    (container : parent.node.label.kind.isContainer = true) :
    (∀ index child, parent.kid? index = some child →
        Node.find (turns ++ [.child index]) tree = .ok child) ∧
      ((∀ label ∈ parent.node.kidLabels, label.kind.hasNotes = true) →
        (∀ label ∈ parent.node.label :: parent.node.kidLabels, Displayed label) →
        isSoleText parent.node.kidLabels = false →
          (Node.edit turns (weighEdges config) tree).fault = none ∧
            ∃ after, Node.find turns (Node.edit turns (weighEdges config) tree).state = .ok after ∧
              Concerted config after ∧
              ∀ index, (after.kid? index).map (verdicts config after) =
                (parent.kid? index).map (verdicts config parent)) ∧
      ∀ stranger : Found, stranger.node.label.kind.hasNotes = true →
        (∀ index kid, parent.kid? index = some kid → ¬stranger.Is kid) →
          verdicts config parent stranger =
            (.error (.notAChild stranger.node.label.kind.className),
              .error (.notAChild stranger.node.label.kind.className)) := by
  refine ⟨fun _ _ => Node.find_kid led container, fun notes displayed several => ?_,
    fun stranger hasNotes elsewhere => verdicts_stranger container hasNotes elsewhere⟩
  have parentNotes := hasNotes_of_isContainer container
  obtain ⟨position, stands, _⟩ := Node.at?_of_find led parentNotes
  obtain ⟨sameFault, ledAgain⟩ := Node.find_edit led parentNotes (weighEdges config)
  obtain ⟨done, leading, trailing, weighed⟩ := weighed_weighEdges container notes several displayed
  have count : leading.length = (weighEdges config parent.node).state.kids.length := by
    rw [length_of_places weighed.leads, weighed.length_kids, Node.kidLabels, List.length_map]
  have recorded : ∀ index child,
      Found.kid? ⟨parent.position, (weighEdges config parent.node).state⟩ index = some child →
        ∃ lead trail, Recorded config leading trailing
          ⟨parent.position, (weighEdges config parent.node).state⟩ index child lead trail := by
    intro index child here
    obtain ⟨_, lead, trail, _, _, own⟩ := weighed.recorded stands container notes here
    exact ⟨lead, trail, own⟩
  exact ⟨sameFault.trans done, _, ledAgain, concerted_of_recorded count recorded,
    weighed.verdicts_eq stands container notes⟩

def emphasis : Node := ⟨(Label.ofKind (.element "em" [])).withDisplay "inline", []⟩

def twins : Node := ⟨(Label.ofKind (.element "p" [])).withDisplay "block", [emphasis, emphasis]⟩

def triplets : Node :=
  ⟨(Label.ofKind (.root .template)).withDisplay "block", [twins, emphasis]⟩

theorem concerted_weighEdges_triplets :
    (∃ after, Node.find [.child 0] (Node.edit [.child 0] (weighEdges Config.builtin) triplets).state =
        .ok after ∧ Concerted Config.builtin after) ∧
      Node.find [.child (-1)] triplets = .ok ⟨some [1], emphasis⟩ ∧
      verdicts Config.builtin ⟨some [0], twins⟩ ⟨some [1], emphasis⟩ =
        (.error (.notAChild "Element"), .error (.notAChild "Element")) := by
  have led : Node.find [.child 0] triplets = .ok ⟨some [0], twins⟩ := rfl
  have notes : ∀ label ∈ twins.kidLabels, label.kind.hasNotes = true := by decide
  have displayed : ∀ label ∈ twins.label :: twins.kidLabels, Displayed label := by
    refine List.forall_mem_cons.mpr ⟨⟨"block", rfl⟩, List.forall_mem_cons.mpr ⟨⟨"inline", rfl⟩, ?_⟩⟩
    exact List.forall_mem_singleton.mpr ⟨"inline", rfl⟩
  have elsewhere : ∀ index kid, Found.kid? ⟨some [0], twins⟩ index = some kid →
      ¬Found.Is ⟨some [1], emphasis⟩ kid := by
    rintro index kid here ⟨position, stands, kidStands⟩
    obtain ⟨_, below⟩ := Found.kid?_eq_some here
    have same : some [1] = some [0, index] := (stands.trans kidStands.symm).trans below
    cases same
  obtain ⟨_, concerted, strangers⟩ := concerted_weighEdges Config.builtin led rfl
  obtain ⟨_, after, ledAgain, agrees, _⟩ := concerted notes displayed rfl
  exact ⟨⟨after, ledAgain, agrees⟩, rfl, strangers ⟨some [1], emphasis⟩ rfl elsewhere⟩

end Pass

end TemplateSpacing.Pass
