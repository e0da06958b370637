import TemplateSpacing.Proofs.Tree.Drawing
import TemplateSpacing.Tree.Encode

/-! # Strangers in a tree

A tree that was built by hand may have any objects among its children.  A walk and the encoder refuse
it exactly when one of them is of no known kind.  A node of no particular kind is drawn, although it can be
neither visited nor written, and so is a line in the place of a node.
-/

set_option autoImplicit false

namespace TemplateSpacing.Tree

open Node (Everywhere Within)

/-- Whether an object that is against a law on kinds can be reached in a tree. -/
def Harbours (law : Kind → Bool) (tree : Node) : Prop :=
  ∃ part, Within part tree ∧ law part.label.kind = false

/-- What an operation with a law on kinds has to say about a tree: nothing when all its nodes obey the
law, and the name of one that can be reached and does not. -/
inductive Judged (law : Kind → Bool) (node : Node) : Option Fault → Prop
  | passed (all : node.Everywhere fun part => law part.label.kind = true) : Judged law node none
  | refused {part : Node} (within : Within part node) (stranger : law part.label.kind = false) :
      Judged law node (some (.unknownType part.label.kind.className))

inductive JudgedAll (law : Kind → Bool) (nodes : List Node) : Option Fault → Prop
  | passed (all : ∀ node ∈ nodes, node.Everywhere fun part => law part.label.kind = true) :
      JudgedAll law nodes none
  | refused {node part : Node} (member : node ∈ nodes) (within : Within part node)
      (stranger : law part.label.kind = false) :
      JudgedAll law nodes (some (.unknownType part.label.kind.className))

def refusal {α : Type} : Except Fault α → Option Fault
  | .ok _ => none
  | .error fault => some fault

theorem refusal_map {α β : Type} (f : α → β) (result : Except Fault α) :
    refusal (result.map f) = refusal result := by
  cases result <;> rfl

section Judgement

variable {law : Kind → Bool} {node : Node} {nodes : List Node} {fault : Option Fault}

theorem Judged.of_kids (known : law node.label.kind = true) (kids : JudgedAll law node.kids fault) :
    Judged law node fault := by
  cases kids with
  | passed all => exact .passed (.intro known all)
  | refused member within stranger => exact .refused (.deeper member within) stranger

theorem JudgedAll.nil : JudgedAll law [] none :=
  .passed fun _ member => by cases member

/-- The first tree passes, so what is said about the others is said about all. -/
theorem JudgedAll.cons (first : Judged law node none) (rest : JudgedAll law nodes fault) :
    JudgedAll law (node :: nodes) fault := by
  cases first with
  | passed all =>
      cases rest with
      | passed others => exact .passed (List.forall_mem_cons.mpr ⟨all, others⟩)
      | refused member within stranger =>
          exact .refused (List.mem_cons_of_mem _ member) within stranger

theorem JudgedAll.head {found : Fault} (first : Judged law node (some found)) :
    JudgedAll law (node :: nodes) (some found) := by
  cases first with
  | refused within stranger => exact .refused List.mem_cons_self within stranger

/-- The first tree is looked at last: it matters when the others pass. -/
theorem JudgedAll.tail {found : Fault} (rest : JudgedAll law nodes (some found)) :
    JudgedAll law (node :: nodes) (some found) := by
  cases rest with
  | refused member within stranger => exact .refused (List.mem_cons_of_mem _ member) within stranger

/-- An operation refuses a tree exactly when something against its law can be reached. -/
theorem Judged.refused_iff (judged : Judged law node fault) :
    Harbours law node ↔ ∃ name, fault = some (.unknownType name) := by
  cases judged with
  | passed all =>
      constructor
      · rintro ⟨part, within, stranger⟩
        rw [all.within within] at stranger
        cases stranger
      · rintro ⟨name, fails⟩
        cases fails
  | refused within stranger => exact ⟨fun _ => ⟨_, rfl⟩, fun _ => ⟨_, within, stranger⟩⟩

theorem Judged.passed_of (judged : Judged law node fault) (clear : ¬Harbours law node) :
    fault = none := by
  cases judged with
  | passed all => rfl
  | refused within stranger => exact (clear ⟨_, within, stranger⟩).elim

theorem Judged.error_iff {α : Type} {result : Except Fault α}
    (judged : Judged law node (refusal result)) :
    Harbours law node ↔ ∃ name, result = .error (.unknownType name) := by
  rw [judged.refused_iff]
  cases result <;> simp [refusal]

theorem Judged.ok_of {α : Type} {result : Except Fault α} (judged : Judged law node (refusal result))
    (clear : ¬Harbours law node) : ∃ value, result = .ok value := by
  have passes := judged.passed_of clear
  cases result with
  | ok value => exact ⟨value, rfl⟩
  | error fault => cases passes

end Judgement

/-! ## Walks -/

theorem judgedAll_walkAll {walk : Node → Outcome Walked} {nodes : List Node}
    (each : ∀ node ∈ nodes, Judged Kind.isKnown node (walk node).fault) :
    JudgedAll Kind.isKnown nodes (walkAll walk nodes).fault := by
  induction nodes with
  | nil => exact .nil
  | cons node rest ih =>
      have first := each node List.mem_cons_self
      have others := ih fun node member => each node (List.mem_cons_of_mem _ member)
      rw [walkAll]
      cases fault : (walk node).fault with
      | some found =>
          rw [fault] at first
          simpa only [Outcome.map, fault] using .head first
      | none =>
          rw [fault] at first
          exact .cons first others

theorem fault_walk_idle (fuel : Nat) (parent : Option Label) (label : Label) (kids : List Node) :
    (walk idle (fuel + 1) parent ⟨label, kids⟩).fault =
      if label.kind.isKnown then (walkAll (walk idle fuel (some label)) kids).fault
      else some (.unknownType label.kind.className) := by
  cases known : label.kind.isKnown <;> simp [walk, idle, Outcome.done, known]

theorem judged_walk (fuel : Nat) (parent : Option Label) (node : Node) (enough : node.depth ≤ fuel) :
    Judged Kind.isKnown node (walk idle fuel parent node).fault := by
  induction fuel generalizing parent node with
  | zero =>
      cases node with
      | mk label kids => simp [Node.depth] at enough
  | succ fuel ih =>
      cases node with
      | mk label kids =>
          simp only [Node.depth, Nat.add_le_add_iff_right] at enough
          have below : JudgedAll Kind.isKnown kids (walkAll (walk idle fuel (some label)) kids).fault :=
            judgedAll_walkAll fun kid member =>
              ih _ kid (Nat.le_trans (Node.depth_le_depthOfKids member) enough)
          rw [fault_walk_idle]
          cases known : label.kind.isKnown with
          | true => exact .of_kids known below
          | false => exact .refused .here known

theorem judged_traverse (tree : Node) : Judged Kind.isKnown tree (traverse idle tree).fault :=
  judged_walk tree.depth none tree (Nat.le_refl _)

/-! ## The encoder -/

/-- The kinds of children are checked before anything below them, from first to last. -/
theorem checkKinds_cases (nodes : List Node) :
    (checkKinds nodes = .ok () ∧ ∀ node ∈ nodes, node.label.kind.isKnown = true) ∨
      ∃ node ∈ nodes, checkKinds nodes = .error (.unknownType node.label.kind.className) ∧
        node.label.kind.isKnown = false := by
  induction nodes with
  | nil => exact .inl ⟨rfl, fun _ member => by cases member⟩
  | cons node rest ih =>
      rw [checkKinds, checkKind]
      cases known : node.label.kind.isKnown with
      | false => exact .inr ⟨node, List.mem_cons_self, rfl, known⟩
      | true =>
          rcases ih with ⟨passes, all⟩ | ⟨stranger, member, fails⟩
          · exact .inl ⟨passes, List.forall_mem_cons.mpr ⟨known, all⟩⟩
          · exact .inr ⟨stranger, List.mem_cons_of_mem _ member, fails⟩

theorem judgedAll_encodeAll {nodes : List Node}
    (each : ∀ node ∈ nodes, Judged Kind.isKnown node (refusal (encodeChecked node))) :
    JudgedAll Kind.isKnown nodes (refusal (encodeAll nodes)) := by
  induction nodes with
  | nil => exact .nil
  | cons node rest ih =>
      have first := each node List.mem_cons_self
      have others := ih fun node member => each node (List.mem_cons_of_mem _ member)
      rw [encodeAll]
      cases result : encodeAll rest with
      | error fault =>
          rw [result] at others
          exact .tail others
      | ok values =>
          rw [result] at others
          simp only [refusal_map]
          cases own : encodeChecked node with
          | error fault =>
              rw [own] at first
              exact .head first
          | ok value =>
              rw [own] at first
              exact .cons first others

theorem judged_encodeChecked (node : Node) (known : node.label.kind.isKnown = true) :
    Judged Kind.isKnown node (refusal (encodeChecked node)) := by
  induction node using Node.induction with
  | step label kids below =>
      rw [encodeChecked]
      rcases checkKinds_cases kids with ⟨passes, all⟩ | ⟨stranger, member, fails, unknown⟩
      · simp only [passes, refusal_map]
        exact .of_kids known (judgedAll_encodeAll fun kid member => below kid member (all kid member))
      · simp only [fails]
        exact .refused (.deeper member .here) unknown

theorem judged_encode (tree : Node) : Judged Kind.isKnown tree (refusal (encode tree)) := by
  rw [encode, checkKind]
  cases known : tree.label.kind.isKnown with
  | true => exact judged_encodeChecked tree known
  | false => exact .refused .here known

/-! ## The outline -/

def Kind.isDrawn : Kind → Bool
  | .foreign _ => false
  | _ => true

theorem Kind.isDrawn_of_isKnown {kind : Kind} (known : kind.isKnown = true) : kind.isDrawn = true := by
  cases kind with
  | foreign _ => cases known
  | _ => rfl

section Outline

open TemplateSpacing.Terminal (Styler)

variable (styler : Styler)

/-- Notes that can be written leave only the kind of an object to be refused. -/
theorem line_cases {label : Label} (legible : label.Legible) (position : Position) (depth : Nat) :
    (label.kind.isDrawn = true ∧ ∃ line, Row.line styler (.node position depth label) = .ok line) ∨
      (label.kind.isDrawn = false ∧
        Row.line styler (.node position depth label) = .error (.unknownType label.kind.className)) := by
  have own : label.kind.hasNotes = true → ∃ line, Row.line styler (.node position depth label) = .ok line :=
    fun noted => (exists_line_iff styler noted position depth).mpr legible
  cases kind : label.kind with
  | bodyLabel text => exact .inl ⟨rfl, text, by simp only [Row.line, kind]⟩
  | foreign typeName => exact .inr ⟨rfl, by simp only [Row.line, kind, Kind.className]⟩
  | _ => exact .inl ⟨rfl, own (by rw [kind]; rfl)⟩

theorem exists_line_iff_isDrawn {label : Label} (legible : label.Legible) (position : Position) (depth : Nat) :
    (∃ line, Row.line styler (.node position depth label) = .ok line) ↔ label.kind.isDrawn = true := by
  rcases line_cases styler legible position depth with ⟨drawn, line⟩ | ⟨strange, refused⟩
  · exact iff_of_true line drawn
  · rw [refused, strange]
    exact iff_of_false nofun Bool.false_ne_true

/-- The drawing of a tree fails as the first of its rows that cannot be written. -/
theorem exists_part_of_draw_error {tree : Node} (built : tree.HandBuilt) {fault : Fault}
    (failed : draw styler tree = .error fault) :
    ∃ part, Within part tree ∧ ∃ position depth, Row.line styler (.node position depth part.label) = .error fault := by
  rw [draw_eq] at failed
  obtain ⟨front, row, back, split, refused, _⟩ := mapM_eq_error_iff.mp failed
  have member : row ∈ tree.rows [] 0 := by
    rw [split]
    exact List.mem_append_right _ List.mem_cons_self
  cases row with
  | body _ _ _ => cases refused
  | node position depth label =>
      obtain ⟨part, within, rfl⟩ := (exists_row_iff built [] 0).mp ⟨_, member, rfl⟩
      exact ⟨part, within, position, depth, refused⟩

theorem judged_draw {tree : Node} (built : tree.HandBuilt) (legible : tree.Legible) :
    Judged Kind.isDrawn tree (refusal (draw styler tree)) := by
  cases drawn : draw styler tree with
  | ok lines =>
      have each : ∀ label, (∃ part, Within part tree ∧ part.label = label) → ∀ position depth,
          (∃ line, Row.line styler (.node position depth label) = .ok line) ↔ label.kind.isDrawn = true := by
        rintro _ ⟨part, within, rfl⟩ position depth
        exact exists_line_iff_isDrawn styler (legible.within within) position depth
      rw [draw_eq] at drawn
      exact .passed ((forall_line_iff styler built each [] 0).mp (exists_mapM_iff.mp ⟨lines, drawn⟩))
  | error fault =>
      obtain ⟨part, within, position, depth, refused⟩ := exists_part_of_draw_error styler built drawn
      rcases line_cases styler (legible.within within) position depth with ⟨_, line, passes⟩ | ⟨strange, own⟩
      · cases refused.symm.trans passes
      · obtain rfl := Except.error.inj (refused.symm.trans own)
        exact .refused within strange

/-- An object is refused for its kind only if it is of a kind that has no line. -/
theorem isDrawn_of_line {label : Label} {position : Position} {depth : Nat} {name : String}
    (refused : Row.line styler (.node position depth label) = .error (.unknownType name)) :
    label.kind.isDrawn = false := by
  have content : Row.content styler label ≠ .error (.unknownType name) := by
    intro failed
    rw [Row.content] at failed
    cases texts : noteTexts styler label.notes with
    | error e =>
        rw [texts] at failed
        cases failed
    | ok shown =>
        rw [texts] at failed
        cases failed
  cases kind : label.kind with
  | foreign _ => rfl
  | bodyLabel _ => simp only [Row.line, kind, reduceCtorEq] at refused
  | _ =>
      rw [line_of_hasNotes styler (by rw [kind]; rfl), map_eq_error_iff] at refused
      exact absurd refused content

end Outline

/-! ## All three -/

section Walkers

open TemplateSpacing.Terminal (Styler unstyled)

/-- An object without a line is of no known kind. -/
theorem Harbours.isKnown {tree : Node} : Harbours Kind.isDrawn tree → Harbours Kind.isKnown tree := by
  rintro ⟨part, within, strange⟩
  refine ⟨part, within, ?_⟩
  cases known : part.label.kind.isKnown with
  | false => rfl
  | true =>
      rw [Kind.isDrawn_of_isKnown known] at strange
      cases strange

/-- A walk that changes nothing, the encoder and the outline refuse a tree for the objects of no known
kind in it, all or none of them. -/
structure Unanimous (styler : Styler) (tree : Node) : Prop where
  visited : Harbours Kind.isKnown tree ↔
    ∃ name, (traverse idle tree).fault = some (.unknownType name)
  written : Harbours Kind.isKnown tree ↔ ∃ name, encode tree = .error (.unknownType name)
  drawn : Harbours Kind.isKnown tree ↔ ∃ name, draw styler tree = .error (.unknownType name)
  accepted : ¬Harbours Kind.isKnown tree → (traverse idle tree).fault = none ∧
    (∃ document, encode tree = .ok document) ∧ ∃ lines, draw styler tree = .ok lines

/-- A walk that changes nothing and the encoder refuse a tree exactly when an object of no known kind can
be reached in it, and the outline only when an object that has no line can be reached.  In a tree of nodes
of known kinds all of them succeed.  When all notes can be written, the outline refuses every tree in which
an object without a line can be reached, so the three part ways exactly where all that is of no known kind
has a line. -/
theorem walkers_refuse (styler : Styler) (tree : Node) (built : tree.HandBuilt) :
    (Harbours Kind.isKnown tree ↔
        ∃ name, (traverse idle tree).fault = some (.unknownType name)) ∧
      (Harbours Kind.isKnown tree ↔ ∃ name, encode tree = .error (.unknownType name)) ∧
      (¬Harbours Kind.isKnown tree → (traverse idle tree).fault = none ∧
        ∃ document, encode tree = .ok document) ∧
      ((∃ name, draw styler tree = .error (.unknownType name)) → Harbours Kind.isDrawn tree) ∧
      (tree.Legible →
        (Harbours Kind.isDrawn tree ↔ ∃ name, draw styler tree = .error (.unknownType name)) ∧
          (¬Harbours Kind.isKnown tree → ∃ lines, draw styler tree = .ok lines) ∧
          (Unanimous styler tree ↔ (Harbours Kind.isKnown tree → Harbours Kind.isDrawn tree))) := by
  have visits := judged_traverse tree
  have encodes := judged_encode tree
  refine ⟨visits.refused_iff, encodes.error_iff, fun clear => ⟨visits.passed_of clear, encodes.ok_of clear⟩,
    ?_, ?_⟩
  · rintro ⟨name, failed⟩
    obtain ⟨part, within, _, _, refused⟩ := exists_part_of_draw_error styler built failed
    exact ⟨part, within, isDrawn_of_line styler refused⟩
  · intro legible
    have draws := judged_draw styler built legible
    have accepted : ¬Harbours Kind.isKnown tree → ∃ lines, draw styler tree = .ok lines :=
      fun clear => draws.ok_of fun strange => clear strange.isKnown
    refine ⟨draws.error_iff, accepted, fun unanimous strange => ?_, fun only => ?_⟩
    · exact draws.error_iff.mpr (unanimous.drawn.mp strange)
    · have drawn : Harbours Kind.isKnown tree ↔ Harbours Kind.isDrawn tree := ⟨only, Harbours.isKnown⟩
      exact ⟨visits.refused_iff, encodes.error_iff, drawn.trans draws.error_iff,
        fun clear => ⟨visits.passed_of clear, encodes.ok_of clear, accepted clear⟩⟩

def vagueDocument : Node :=
  ⟨.ofKind (.root .template), [⟨.ofKind .bare, []⟩]⟩

theorem harbours_vagueDocument : Harbours Kind.isKnown vagueDocument :=
  ⟨_, .deeper List.mem_cons_self .here, rfl⟩

/-- The node of no particular kind is drawn. -/
theorem draw_vagueDocument : draw unstyled vagueDocument = .ok ["Template", "  Node"] := by
  rw [draw_eq]
  rfl

theorem walkers_refuse_vagueDocument :
    vagueDocument.HandBuilt ∧ vagueDocument.Legible ∧
      (∃ name, (traverse idle vagueDocument).fault = some (.unknownType name)) ∧
      (∃ name, encode vagueDocument = .error (.unknownType name)) ∧ ¬Harbours Kind.isDrawn vagueDocument := by
  have built : vagueDocument.HandBuilt := by decide
  have legible : vagueDocument.Legible := by decide
  obtain ⟨visited, written, _, _, drawn⟩ := walkers_refuse unstyled vagueDocument built
  refine ⟨built, legible, visited.mp harbours_vagueDocument, written.mp harbours_vagueDocument, ?_⟩
  rw [(drawn legible).1, draw_vagueDocument]
  exact nofun

theorem not_unanimous_vagueDocument : ¬Unanimous unstyled vagueDocument := by
  intro unanimous
  obtain ⟨name, refused⟩ := unanimous.drawn.mp harbours_vagueDocument
  cases draw_vagueDocument.symm.trans refused

end Walkers

end TemplateSpacing.Tree
