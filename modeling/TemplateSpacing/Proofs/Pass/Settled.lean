import TemplateSpacing.Proofs.Pass.Runs

/-! # Classification settles

A label is settled when classifying it would change nothing.  The first pass settles all labels, and
they stay settled under the other passes: these remove blank texts alone, which hand a pending comment
on as it is, and write no displays.  So a second classification changes nothing.
-/

set_option autoImplicit false

namespace TemplateSpacing.Pass

open TemplateSpacing.Tree

structure Settled (config : Config) (pending : Option String) (label : Label) : Prop where
  display : label.notes.display = some (.text (displayWord config pending label.kind))
  mustache : ∀ path, label.kind = .mustache path →
    label.notes.whitespaceSensitive = some (.bool true) ∧
      label.notes.indentationSensitive = some (.bool false)

def SettledAll (config : Config) : Option String → List Label → Prop
  | _, [] => True
  | pending, label :: rest =>
    Settled config pending label ∧ SettledAll config (pendingAfter pending label.kind) rest

/-- A label that may stand in the place of another one without classification noticing. -/
structure Resembles (config : Config) (old new : Label) : Prop where
  alike : Kind.Alike old.kind new.kind
  settled : ∀ pending, Settled config pending old → Settled config pending new
  pending : ∀ pending, pendingAfter pending new.kind = pendingAfter pending old.kind

structure Arranged (config : Config) (node : Node) : Prop where
  own : node.label.kind.isRoot = true → Settled config none node.label
  below : node.label.kind.isContainer = true → SettledAll config none node.kidLabels

/-! ## Labels -/

section Labels

variable {config : Config} {pending : Option String}

theorem note_of_get {label : Label} (note : Note) {value : Option Value}
    (same : label.notes.get note = value) : label.note note value = label := by
  have notes : label.notes.set note value = label.notes := by
    apply Notes.ext_get
    intro other
    rw [Notes.get_set]
    split
    · next isOther => rw [← isOther, same]
    · rfl
  rw [Label.note, notes]

theorem classified_of_settled {label : Label} (settled : Settled config pending label) :
    classified config pending label = label := by
  unfold classified
  split
  · next path isMustache =>
      obtain ⟨whitespace, indentation⟩ := settled.mustache path isMustache
      have display := settled.display
      rw [isMustache] at display
      have first : label.withDisplay "block" = label := note_of_get .display display
      have second : label.withFlag .whitespaceSensitive true = label :=
        note_of_get .whitespaceSensitive whitespace
      have third : label.withFlag .indentationSensitive false = label :=
        note_of_get .indentationSensitive indentation
      rw [first, second, third]
  · exact note_of_get .display settled.display

theorem settled_classified (config : Config) (pending : Option String) (label : Label) :
    Settled config pending (classified config pending label) := by
  refine ⟨?_, ?_⟩
  · rw [classified_display, classified_kind]
  · intro path isMustache
    rw [classified_kind] at isMustache
    simp only [classified, isMustache]
    exact ⟨rfl, rfl⟩

theorem classifiedAll_of_settled {labels : List Label} (settled : SettledAll config pending labels) :
    classifiedAll config pending labels = labels := by
  induction labels generalizing pending with
  | nil => rfl
  | cons label rest ih =>
      obtain ⟨first, later⟩ := settled
      rw [classifiedAll, classified_of_settled first, ih later]

theorem settledAll_classifiedAll (labels : List Label) :
    SettledAll config pending (classifiedAll config pending labels) := by
  induction labels generalizing pending with
  | nil => trivial
  | cons label rest ih =>
      refine ⟨settled_classified config pending label, ?_⟩
      rw [classified_kind]
      exact ih

/-- Blank texts may be removed: they hand on what is pending. -/
theorem pendingAfter_of_blank {kind : Kind} (blank : isBlankText kind = true) :
    pendingAfter pending kind = pending := by
  cases kind with
  | text chars => exact if_pos blank
  | _ => cases blank

theorem settledAll_of_resembling {labels : List Label} {news : List (Option Label)}
    (pairs : List.Forall₂ (fun old new => (new = none ∧ isBlankText old.kind = true) ∨
      ∃ label, new = some label ∧ Resembles config old label) labels news)
    (settled : SettledAll config pending labels) :
    SettledAll config pending (news.filterMap id) := by
  -- A removed label handed on what was pending, a new one hands on what the old one did.
  induction pairs generalizing pending with
  | nil => trivial
  | @cons old new labels news first _ ih =>
      obtain ⟨here, later⟩ := settled
      rcases first with ⟨rfl, blank⟩ | ⟨label, rfl, resembles⟩
      · rw [pendingAfter_of_blank blank] at later
        exact ih later
      · refine ⟨resembles.settled pending here, ?_⟩
        rw [resembles.pending]
        exact ih later

end Labels

/-! ## Labels that passes write -/

section Written

variable {config : Config}

theorem displayWord_of_isText (pending : Option String) {kind : Kind} (text : kind.isText = true) :
    displayWord config pending kind = "inline" := by
  cases kind with
  | text _ => rfl
  | _ => cases text

theorem displayWord_alike (pending : Option String) {old new : Kind} (alike : Kind.Alike old new) :
    displayWord config pending new = displayWord config pending old := by
  rcases alike with rfl | ⟨oldText, newText⟩
  · rfl
  · rw [displayWord_of_isText pending oldText, displayWord_of_isText pending newText]

theorem eq_mustache_of_alike {old : Kind} {path : Value} (alike : Kind.Alike old (.mustache path)) :
    old = .mustache path := by
  rcases alike with same | ⟨_, newText⟩
  · exact same.symm
  · cases newText

theorem Resembles.of_notes {old new : Label} (alike : Kind.Alike old.kind new.kind)
    (pending : ∀ pending, pendingAfter pending new.kind = pendingAfter pending old.kind)
    (display : new.notes.display = old.notes.display)
    (sensitive : new.kind.isElement = true ∨
      (new.notes.whitespaceSensitive = old.notes.whitespaceSensitive ∧
        new.notes.indentationSensitive = old.notes.indentationSensitive)) :
    Resembles config old new := by
  refine ⟨alike, ?_, pending⟩
  intro word settled
  refine ⟨?_, ?_⟩
  · rw [display, settled.display, displayWord_alike word alike]
  · intro path isMustache
    rw [isMustache] at alike sensitive
    rcases sensitive with element | ⟨whitespace, indentation⟩
    · cases element
    · rw [whitespace, indentation]
      exact settled.mustache path (eq_mustache_of_alike alike)

theorem Resembles.refl (label : Label) : Resembles config label label :=
  .of_notes (.inl rfl) (fun _ => rfl) rfl (.inr ⟨rfl, rfl⟩)

def classNotes : List Note := [.display, .whitespaceSensitive, .indentationSensitive]

theorem Resembles.of_only {old new : Label} (same : new.only classNotes = old.only classNotes) :
    Resembles config old new := by
  have kind := Label.kind_of_only_eq same
  refine .of_notes (.inl kind) (fun _ => by rw [kind]) ?_ (.inr ⟨?_, ?_⟩)
  · exact Label.get_eq_of_only_eq .display (by decide) same
  · exact Label.get_eq_of_only_eq .whitespaceSensitive (by decide) same
  · exact Label.get_eq_of_only_eq .indentationSensitive (by decide) same

theorem isBlankText_trimmedKind (kind : Kind) : isBlankText (trimmedKind kind) = isBlankText kind := by
  cases kind with
  | text chars => exact Text.isAllBlank_strip chars
  | _ => rfl

theorem Resembles.spaced_trimmed (before after : Bool) (label : Label) :
    Resembles config label (spaced before after (trimmed label)) := by
  refine .of_notes (trimmedKind_alike label.kind) ?_ rfl (.inr ⟨rfl, rfl⟩)
  intro pending
  cases label with
  | mk kind notes extras =>
      cases kind with
      | text chars =>
          simp only [spaced, trimmed, trimmedKind, pendingAfter, Label.withFlag_kind,
            Text.isAllBlank_strip]
      | _ => rfl

end Written

/-! ## Trees -/

section Trees

variable {config : Config}

/-- A visit that resembles and removes blank texts alone. -/
structure Quiet (config : Config) (rule : Rule) : Prop where
  own : ∀ top label below, Resembles config label (rule top label below).1
  below : ∀ top label below,
    List.Forall₂ (fun old new => (new = none ∧ isBlankText old.kind = true) ∨
      ∃ label, new = some label ∧ Resembles config old label) below (rule top label below).2

theorem isContainer_alike {old new : Kind} (alike : Kind.Alike old new) :
    new.isContainer = old.isContainer := by
  rw [Kind.isContainer, Kind.isContainer, Node.isRoot_of_alike alike, isElement_alike alike]

theorem kidLabels_visited {rule : Rule} (quiet : Quiet config rule) (top : Bool) (node : Node) :
    (node.visited rule top).kidLabels = (rule top node.label node.kidLabels).2.filterMap id := by
  have count := (quiet.below top node.label node.kidLabels).length_eq
  exact Node.map_label_relabel (count.symm.trans (List.length_map _))

/-- The visits of the nodes below a node keep the labels there settled. -/
theorem settledAll_rewrite {rule : Rule} {pending : Option String} {top : Bool} {node : Node}
    (own : ∀ label below, Resembles config label (rule false label below).1)
    (settled : SettledAll config pending (node.visited rule top).kidLabels) :
    SettledAll config pending (node.rewrite rule top).kidLabels := by
  have pairs : List.Forall₂ (fun old new => (new = none ∧ isBlankText old.kind = true) ∨
      ∃ label, new = some label ∧ Resembles config old label) (node.visited rule top).kidLabels
      ((node.rewrite rule top).kidLabels.map some) := by
    rw [Node.kidLabels, Node.kidLabels, Node.rewrite_kids, List.forall₂_map_left_iff,
      List.forall₂_map_right_iff, List.forall₂_map_right_iff, List.forall₂_map_right_iff]
    refine List.forall₂_same.mpr fun kid _ => .inr ⟨_, rfl, ?_⟩
    rw [Node.rewrite_label]
    exact own kid.label kid.kidLabels
  have after := settledAll_of_resembling pairs settled
  rw [List.filterMap_map] at after
  simpa only [Function.id_comp, List.filterMap_some] using after

theorem arranged_rewrite {rule : Rule} (quiet : Quiet config rule) (top : Bool) {node : Node}
    (arranged : node.Everywhere (Arranged config)) :
    (node.rewrite rule top).Everywhere (Arranged config) := by
  refine Node.Everywhere.of_rewrite (fun _ node => node.Everywhere (Arranged config)) ?_ ?_ top node
    arranged
  · intro top node arranged
    have own := quiet.own top node.label node.kidLabels
    have label : (node.rewrite rule top).label = (rule top node.label node.kidLabels).1 :=
      Node.rewrite_label rule top node
    refine ⟨?_, ?_⟩
    · intro isRoot
      rw [label] at isRoot ⊢
      rw [Node.isRoot_of_alike own.alike] at isRoot
      exact own.settled none (arranged.here.own isRoot)
    · intro isContainer
      rw [label, isContainer_alike own.alike] at isContainer
      apply settledAll_rewrite (quiet.own false)
      rw [kidLabels_visited quiet]
      exact settledAll_of_resembling (quiet.below top node.label node.kidLabels)
        (arranged.here.below isContainer)
  · intro top node arranged made member
    obtain ⟨kid, label, inZip, rfl⟩ := Node.mem_relabel member
    have pairs := quiet.below top node.label node.kidLabels
    rw [Node.kidLabels, List.forall₂_map_left_iff] at pairs
    rcases List.forall₂_zip pairs inZip with ⟨removed, _⟩ | ⟨new, same, resembles⟩
    · cases removed
    · obtain rfl := Option.some.inj same
      have below := arranged.kid (List.of_mem_zip inZip).1
      refine .intro ⟨?_, ?_⟩ fun kid member => below.kid member
      · intro isRoot
        rw [Node.isRoot_of_alike resembles.alike] at isRoot
        exact resembles.settled none (below.here.own isRoot)
      · intro isContainer
        rw [isContainer_alike resembles.alike] at isContainer
        exact below.here.below isContainer

theorem quiet_sensitivityRule (config : Config) : Quiet config (sensitivityRule config) := by
  have leading : Note.leadingSensitive ∉ classNotes := by decide
  have rule := forall₂_only_sensitivityRule config leading (by decide) (by decide)
  refine ⟨fun top label below => .of_only (rule top label below).1, ?_⟩
  intro top label below
  refine (rule top label below).2.imp ?_
  rintro old made ⟨new, rfl, same⟩
  exact .inr ⟨new, rfl, .of_only same⟩

theorem quiet_whitespaceRule (config : Config) : Quiet config (whitespaceRule config) := by
  have rule := forall₂_whitespaceRule config (Resembles config) .refl
    (fun _ _ element => .of_notes (.inl rfl) (fun _ => rfl) rfl (.inl element))
    (fun _ _ element => .of_notes (.inl rfl) (fun _ => rfl) rfl (.inl element))
    fun label before after => .spaced_trimmed before after label
  refine ⟨fun top label below => (rule top label below).1, ?_⟩
  intro top label below
  refine (rule top label below).2.imp ?_
  rintro old made (⟨rfl, _, blank⟩ | kept)
  · exact .inl ⟨rfl, blank⟩
  · exact .inr kept

/-- A body that is classified once more on its own gets the display that it has. -/
theorem resembles_displayRule (label : Label) (below : List Label) :
    Resembles config label (displayRule config false label below).1 := by
  simp only [displayRule, Bool.false_or]
  split
  · next isRoot =>
      refine ⟨.inl (classified_kind config none), ?_, ?_⟩
      · intro pending _
        have settled := settled_classified config none label
        refine ⟨?_, settled.mustache⟩
        rw [settled.display, classified_kind]
        cases label with
        | mk kind notes extras =>
            cases kind with
            | root _ => rfl
            | _ => cases isRoot
      · intro pending
        rw [classified_kind]
  · exact .refl label

theorem arranged_displayed (config : Config) (tree : Node) :
    (displayed config tree).Everywhere (Arranged config) := by
  refine Node.Everywhere.of_rewrite (fun _ _ => True) ?_ (fun _ _ _ _ _ => trivial) true tree trivial
  intro top node _
  have own := (displayRule_tame config).own top node.label node.kidLabels
  have label : (node.rewrite (displayRule config) top).label =
      (displayRule config top node.label node.kidLabels).1 :=
    Node.rewrite_label _ top node
  refine ⟨?_, ?_⟩
  · intro isRoot
    rw [label] at isRoot ⊢
    rw [own] at isRoot
    simp only [displayRule, isRoot, Bool.or_true, if_true]
    exact settled_classified config none node.label
  · intro isContainer
    rw [label, own] at isContainer
    apply settledAll_rewrite resembles_displayRule
    have made : displayRule config top node.label node.kidLabels =
        ((displayRule config top node.label node.kidLabels).1,
          (classifiedAll config none node.kidLabels).map some) := by
      simp only [displayRule, isContainer, if_true]
    have count := length_classifiedAll config none node.kidLabels
    rw [(Node.visited_of_keeping made (count.trans (List.length_map _))).2]
    exact settledAll_classifiedAll node.kidLabels

theorem displayed_of_arranged {tree : Node} (own : Settled config none tree.label)
    (arranged : tree.Everywhere (Arranged config)) : displayed config tree = tree := by
  apply Node.rewrite_of_fixed fun top node =>
    (top = true → Settled config none node.label) ∧ node.Everywhere (Arranged config)
  · rintro top node ⟨settled, arranged⟩
    have own : (if top || node.label.kind.isRoot then classified config none node.label
        else node.label) = node.label := by
      split
      · next classifies =>
          apply classified_of_settled
          rcases Bool.or_eq_true_iff.mp classifies with isTop | isRoot
          · exact settled isTop
          · exact arranged.here.own isRoot
      · rfl
    have below : (if node.label.kind.isContainer then classifiedAll config none node.kidLabels
        else node.kidLabels) = node.kidLabels := by
      split
      · next isContainer => exact classifiedAll_of_settled (arranged.here.below isContainer)
      · rfl
    rw [Node.visited, displayRule, own, below, Node.kidLabels, Node.relabel_same]
    cases node with
    | mk label kids => rfl
  · rintro top node ⟨_, arranged⟩ kid member
    exact ⟨by rintro ⟨⟩, arranged.kid member⟩
  · exact ⟨fun _ => own, arranged⟩

theorem settled_annotated (config : Config) (tree : Node) :
    Settled config none (annotated config tree).label := by
  have first : Settled config none (displayed config tree).label := by
    rw [displayed, Node.rewrite_label]
    exact settled_classified config none tree.label
  rw [annotated, Node.rewrite_label]
  exact ((quiet_sensitivityRule config).own _ _ _).settled none first

theorem arranged_annotated (config : Config) (tree : Node) :
    (annotated config tree).Everywhere (Arranged config) :=
  arranged_rewrite (quiet_sensitivityRule config) true (arranged_displayed config tree)

/-- A second run finds all displays as it would assign them. -/
theorem displayed_normalized (config : Config) (tree : Node) :
    displayed config (normalized config tree) = normalized config tree := by
  apply displayed_of_arranged
  · rw [normalized, Node.rewrite_label]
    exact ((quiet_whitespaceRule config).own _ _ _).settled none (settled_annotated config tree)
  · exact arranged_rewrite (quiet_whitespaceRule config) true (arranged_annotated config tree)

end Trees

end TemplateSpacing.Pass
