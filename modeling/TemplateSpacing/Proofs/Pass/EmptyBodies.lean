import TemplateSpacing.Proofs.Pass.Adjacency
import TemplateSpacing.Proofs.Pass.ThirdRun

/-! # Elements that end up empty

The third pass leaves an element without children when there were none, or when all of them were blank texts.
It gets there in two ways.  A body of at most one child is cleared, and the element notes whether there was a
child; the texts of a longer body are taken out one by one, and the element notes nothing.  So the note says
whether there was white space in the body unless the body was one empty text or several texts.
-/

set_option autoImplicit false

namespace TemplateSpacing.Pass

open TemplateSpacing.Tree

def holdsBlank (kinds : List Kind) : Bool :=
  (stream kinds).any Item.isBlank

structure Traced (body : List Kind) (label : Label) : Prop where
  told : Flagged .danglingSpaces label (holdsBlank body)
  measured : holdsBlank body = true → ∃ flag, Flagged .danglingSensitive label flag

structure Emptied (body : List Kind) (label : Label) : Prop where
  blank : ∀ kind ∈ body, isBlankText kind = true
  childless : body = [] → Flagged .danglingSpaces label false
  sole : body.length = 1 → Flagged .danglingSpaces label true ∧
    Flagged .danglingSensitive label (Css.onlyContentMatters (shown label))
  several : 1 < body.length → label.notes.danglingSpaces = none

def TracedLaw (before after : Node) : Prop :=
  after.label.kind.isElement = true → after.kids = [] → Traced (kidKinds before) after.label

/-- What every element notes that is left without children, and when that is a trace of its body. -/
def EmptyLaw (before after : Node) : Prop :=
  after.label.kind.isElement = true → after.kids = [] →
    Emptied (kidKinds before) after.label ∧
      (Traced (kidKinds before) after.label ↔
        (kidKinds before).length ≤ 1 ∧ kidKinds before ≠ [.text ""])

/-! ## White space in a body -/

section Blanks

theorem holdsBlank_text {chars : String} (blank : isBlankText (.text chars) = true) :
    holdsBlank [.text chars] = true ↔ chars ≠ "" := by
  have whole : stream [.text chars] = chars.toList.map .char := List.append_nil _
  rw [isBlankText, Text.isAllBlank] at blank
  rw [holdsBlank, whole, ← not_iff_not, not_not, ← String.toList_eq_nil_iff]
  cases cs : chars.toList with
  | nil => simp
  | cons c rest =>
      rw [cs, List.all_cons, Bool.and_eq_true] at blank
      have first : Item.isBlank (.char c) = true := blank.1
      simp [first]

theorem exists_chars_of_blank {kind : Kind} (blank : isBlankText kind = true) :
    ∃ chars, kind = .text chars := by
  cases kind with
  | text chars => exact ⟨chars, rfl⟩
  | _ => cases blank

theorem isHollow_of_short {kinds : List Kind} (blank : ∀ kind ∈ kinds, isBlankText kind = true)
    (short : kinds.length ≤ 1) : isHollow kinds = true := by
  match kinds with
  | [] => rfl
  | [kind] => exact blank kind List.mem_cons_self
  | _ :: _ :: rest => simp at short

theorem isHollow_of_long {kinds : List Kind} (long : 1 < kinds.length) : isHollow kinds = false := by
  match kinds with
  | [] => simp at long
  | [_] => simp at long
  | _ :: _ :: _ => rfl

theorem Flagged.unique {note : Note} {label : Label} {flag other : Bool}
    (first : Flagged note label flag) (second : Flagged note label other) : flag = other :=
  Value.bool.inj (Option.some.inj (first.symm.trans second))

theorem Emptied.traced_iff {body : List Kind} {label : Label} (emptied : Emptied body label) :
    Traced body label ↔ body.length ≤ 1 ∧ body ≠ [.text ""] := by
  obtain ⟨blank, childless, sole, several⟩ := emptied
  match body with
  | [] =>
      have traced : Traced [] label := ⟨childless rfl, fun holds => Bool.noConfusion holds⟩
      exact iff_of_true traced ⟨Nat.zero_le 1, List.cons_ne_nil _ _ ∘ Eq.symm⟩
  | [kind] =>
      obtain ⟨told, measured⟩ := sole rfl
      obtain ⟨chars, rfl⟩ := exists_chars_of_blank (blank kind List.mem_cons_self)
      have holds := holdsBlank_text (blank _ List.mem_cons_self)
      constructor
      · rintro ⟨same, _⟩
        refine ⟨Nat.le_refl 1, ?_⟩
        intro isEmpty
        cases isEmpty
        exact holds.mp (same.unique told) rfl
      · rintro ⟨_, filled⟩
        have some : holdsBlank [.text chars] = true := by
          rw [holds]
          rintro rfl
          exact filled rfl
        exact ⟨some ▸ told, fun _ => ⟨_, measured⟩⟩
  | first :: second :: rest =>
      have long : 1 < (first :: second :: rest).length := Nat.one_lt_succ_succ rest.length
      have untraced : ¬Traced (first :: second :: rest) label := by
        rintro ⟨told, _⟩
        have silent : label.notes.get .danglingSpaces = none := several long
        rw [Flagged, silent] at told
        cases told
      exact iff_of_false untraced fun short => Nat.not_lt.mpr short.1 long

end Blanks

/-! ## One node -/

section Node

variable {config : Config} {before : Node}

theorem blank_of_emptied {kind : Kind} {kids : List Node} (element : kind.isElement = true)
    (none : survivors config kind kids = []) :
    ∀ other ∈ kids.map fun kid => kid.label.kind, isBlankText other = true := by
  rw [survivors, element, Bool.true_and] at none
  split at none
  · next hollow => exact all_blank_of_hollow hollow
  · split at none
    · intro other member
      obtain ⟨kid, inKids, rfl⟩ := List.mem_map.mp member
      simpa using List.filter_eq_nil_iff.mp none kid inKids
    · rw [none]
      simp

theorem danglingSpaces_of_filled (config : Config) (top : Bool) {label : Label} {below : List Label}
    (filled : isHollow (below.map Label.kind) = false) :
    (whitespaceRule config top label below).1.notes.danglingSpaces = label.notes.danglingSpaces := by
  rw [whitespaceRule, isDanglingBody_eq, filled]
  split
  · rfl
  · rfl

theorem flagged_of_hollow (config : Config) (top : Bool) {label : Label} {below : List Label}
    (element : label.kind.isElement = true) (hollow : isHollow (below.map Label.kind) = true)
    (clean : label.notes.danglingSpaces = none) :
    Flagged .danglingSpaces (whitespaceRule config top label below).1 !below.isEmpty := by
  rw [Flagged, whitespaceRule_hollow top element hollow, clean]
  exact congrArg (fun flag => some (Value.bool flag)) (Bool.or_false _)

theorem isSoleText_of_blank {labels : List Label} {kind : Kind} (single : labels.map Label.kind = [kind])
    (blank : isBlankText kind = true) : isSoleText labels = true := by
  obtain ⟨label, rfl, rfl⟩ := List.map_eq_singleton_iff.mp single
  exact isText_of_blank blank

theorem emptied_rewrite (top : Bool) {label : Label} (unspaced : Unspaced before.label)
    (measured : Measured config before) (touched : Touched before.label label)
    (element : label.kind.isElement = true)
    (empty : (Node.rewrite (whitespaceRule config) top ⟨label, before.kids⟩).kids = []) :
    Emptied (kidKinds before) (Node.rewrite (whitespaceRule config) top ⟨label, before.kids⟩).label := by
  have own := touched.spared_rewrite config top before.kids
  have spared := forall₂_spared config top ⟨label, before.kids⟩
  have written : (Node.rewrite (whitespaceRule config) top ⟨label, before.kids⟩).label =
      (whitespaceRule config top label before.kidLabels).1 := Node.rewrite_label _ top _
  generalize Node.rewrite (whitespaceRule config) top ⟨label, before.kids⟩ = after at *
  rw [Node.kidLabels, empty, List.map_nil, List.forall₂_nil_right_iff] at spared
  have clean : label.notes.danglingSpaces = none := by
    have same : label.notes.get .danglingSpaces = before.label.notes.get .danglingSpaces :=
      touched.get (by decide)
    exact same.trans (unspaced .danglingSpaces rfl)
  have blank : ∀ kind ∈ kidKinds before, isBlankText kind = true := by
    rw [kidKinds_eq]
    exact blank_of_emptied element spared
  have told : (kidKinds before).length ≤ 1 →
      Flagged .danglingSpaces after.label !(kidKinds before).isEmpty := by
    intro short
    rw [written, kidKinds, List.isEmpty_map]
    exact flagged_of_hollow config top element (isHollow_of_short blank short) clean
  refine ⟨blank, ?_, ?_, ?_⟩
  · intro none
    rw [none] at told
    exact told (Nat.zero_le 1)
  · intro one
    obtain ⟨kind, single⟩ := List.length_eq_one_iff.mp one
    have container : before.label.kind.isContainer = true := by
      rw [Kind.isContainer, ← isElement_alike touched.alike, element, Bool.or_true]
    have isSole := isSoleText_of_blank single (blank kind (single ▸ List.mem_cons_self))
    have dangling := own.notes .danglingSensitive (by decide) (by decide)
    rw [single] at told
    rw [shown_congr (own.notes .display (by decide) (by decide))]
    exact ⟨told (Nat.le_refl 1), dangling.trans (measured.sole container isSole)⟩
  · intro long
    rw [written, danglingSpaces_of_filled config top (isHollow_of_long long)]
    exact clean

theorem emptyLaw_rewrite (top : Bool) {label : Label} (unspaced : Unspaced before.label)
    (measured : Measured config before) (touched : Touched before.label label) :
    EmptyLaw before (Node.rewrite (whitespaceRule config) top ⟨label, before.kids⟩) := by
  intro element empty
  have own := (touched.spared_rewrite config top before.kids).alike
  rw [isElement_alike own, ← isElement_alike touched.alike] at element
  have emptied := emptied_rewrite top unspaced measured touched element empty
  exact ⟨emptied, emptied.traced_iff⟩

end Node

/-! ## The tree -/

section Tree

variable {config : Config} {tree : Node}

theorem EmptyLaw.of_view {before other after : Node} (same : before.only [] = other.only [])
    (law : EmptyLaw before after) : EmptyLaw other after := by
  rw [EmptyLaw, (kinds_of_view same).2] at law
  exact law

/-- A full pipeline never fails on a decoded tree, and an element that it leaves without children has a trace
of its body exactly when the body was at most one text, and no empty one. -/
theorem emptyLaw_preprocess (config : Config) (document : Value) (tree : Node)
    (decoded : decode document = .ok tree) :
    (preprocess config .preprocess tree).fault = none ∧
      Throughout (keptKids config) EmptyLaw tree (preprocess config .preprocess tree).state := by
  have fresh := fresh_of_decode decoded
  obtain ⟨done, state⟩ := preprocess_preprocess config fresh.wellFormed
  rw [state]
  refine ⟨done, throughout_pipeline (fun _ _ _ => EmptyLaw.of_view) ?_⟩
  have measured := measured_sensitivityPass config (displayed config tree)
  refine throughout_whitespacePass ?_ ((unspaced_annotated config fresh).and measured)
  intro top before label ready touched
  exact emptyLaw_rewrite top ready.here.1 ready.here.2 touched

theorem emptyLaw_preprocess_gap :
    decode gap.document = .ok gap ∧
      (preprocess Config.builtin .preprocess gap).fault = none ∧
      Throughout (keptKids Config.builtin) EmptyLaw gap
        (preprocess Config.builtin .preprocess gap).state :=
  ⟨decode_gap, emptyLaw_preprocess Config.builtin gap.document gap decode_gap⟩

def scattered : Node :=
  ⟨.ofKind (.element "b" []), [⟨.ofKind (.text " "), []⟩, ⟨.ofKind (.text "\n"), []⟩]⟩

/-- Both texts are taken out without a trace. -/
theorem not_traced_scattered : decode scattered.document = .ok scattered ∧
    ¬TracedLaw scattered (preprocess Config.builtin .preprocess scattered).state := by
  refine ⟨decode_bare (show scattered.bare.WellFormed by decide), ?_⟩
  rw [(preprocess_preprocess Config.builtin (show scattered.WellFormed by decide)).2]
  intro traced
  have told := congrArg Option.isSome (traced rfl rfl).told
  revert told
  decide

end Tree

end TemplateSpacing.Pass
