import TemplateSpacing.Proofs.Pass.Runs

/-! # The normal form of trees

The normal form says what the three passes make of the shape of a tree.  It goes by the kinds of nodes
and by the white space values of tags alone, so modes, displays and notes have no part in it.
-/

set_option autoImplicit false

namespace TemplateSpacing.Pass

open TemplateSpacing.Tree

def tidied (config : Config) (kind : Kind) (kid : Node) : Node :=
  if isLoose config kind then ⟨trimmed kid.label, kid.kids⟩ else kid

mutual

def norm (config : Config) : Node → Node
  | ⟨label, kids⟩ =>
    ⟨label, (survivors config label.kind (normAll config kids)).map (tidied config label.kind)⟩

def normAll (config : Config) : List Node → List Node
  | [] => []
  | kid :: kids => norm config kid :: normAll config kids

end

section Norm

variable (config : Config)

theorem normAll_eq (kids : List Node) : normAll config kids = kids.map (norm config) := by
  induction kids with
  | nil => rfl
  | cons kid kids ih => rw [normAll, ih, List.map_cons]

@[simp] theorem norm_label (node : Node) : (norm config node).label = node.label := by
  cases node with
  | mk label kids => rw [norm]

theorem tidied_alike {old new : Kind} (alike : Kind.Alike old new) :
    tidied config new = tidied config old := by
  funext kid
  rw [tidied, tidied, isLoose_alike alike]

theorem norm_trimmed (label : Label) (kids : List Node) :
    norm config ⟨trimmed label, kids⟩ = ⟨trimmed label, (norm config ⟨label, kids⟩).kids⟩ := by
  have alike := trimmedKind_alike label.kind
  have own : (trimmed label).kind = trimmedKind label.kind := rfl
  rw [norm, norm, own, survivors_alike config alike, tidied_alike config alike]

theorem tidied_label (kind : Kind) (kid : Node) :
    (tidied config kind kid).label.notes = kid.label.notes ∧
      Kind.Alike kid.label.kind (tidied config kind kid).label.kind := by
  rw [tidied]
  split
  · exact ⟨rfl, trimmedKind_alike kid.label.kind⟩
  · exact ⟨rfl, .inl rfl⟩

theorem tidied_kids (kind : Kind) (kid : Node) : (tidied config kind kid).kids = kid.kids := by
  rw [tidied]
  split <;> rfl

theorem survivors_sublist (kind : Kind) (kids : List Node) :
    (survivors config kind kids).Sublist kids := by
  rw [survivors]
  split
  · exact List.nil_sublist kids
  · split
    · exact List.filter_sublist
    · exact List.Sublist.refl kids

theorem norm_kids (node : Node) :
    (norm config node).kids =
      (survivors config node.label.kind node.kids).map fun kid =>
        tidied config node.label.kind (norm config kid) := by
  cases node with
  | mk label kids =>
      rw [norm, normAll_eq, survivors_map config _ _ fun kid => by rw [norm_label], List.map_map]
      rfl

/-- Children that stay keep their notes. -/
theorem kidLabels_norm (node : Node) :
    List.Forall₂ (fun (kid : Node) (label : Label) =>
        label.notes = kid.label.notes ∧ Kind.Alike kid.label.kind label.kind)
      (survivors config node.label.kind node.kids) (norm config node).kidLabels := by
  rw [Node.kidLabels, norm_kids, List.map_map, List.forall₂_map_right_iff]
  refine List.forall₂_same.mpr fun kid _ => ?_
  have own := tidied_label config node.label.kind (norm config kid)
  rw [norm_label] at own
  exact own

end Norm

/-! ## The third pass -/

section Pass

variable (config : Config) {kept : List Note}

def spaceNotes : List Note := innerNotes ++ sideNotes

theorem only_spaced (others : ∀ note ∈ spaceNotes, note ∉ kept) (before after : Bool)
    (label : Label) : (spaced before after label).only kept = label.only kept := by
  rw [spaced, Label.withFlag, Label.only_note_of_notMem (others _ (by decide)), Label.withFlag,
    Label.only_note_of_notMem (others _ (by decide))]

theorem only_trimmed (label : Label) : (trimmed label).only kept = trimmed (label.only kept) := rfl

theorem norm_visitedKid {kind : Kind} {kid made : Node} (others : ∀ note ∈ spaceNotes, note ∉ kept)
    (sameKids : made.kids = kid.kids)
    (written : if isLoose config kind = true then
        ∃ before after, made.label = spaced before after (trimmed kid.label)
      else made.label = kid.label) :
    norm config (made.only kept) = tidied config kind (norm config (kid.only kept)) := by
  cases kid with
  | mk label kids =>
      cases made with
      | mk new _ =>
          cases sameKids
          rw [tidied]
          split
          · next loose =>
              rw [if_pos loose] at written
              obtain ⟨before, after, written⟩ := written
              simp only at written
              simp only [Node.only, Node.mapLabels_mk, written, only_spaced others, only_trimmed]
              rw [norm_trimmed, norm_label]
          · next other =>
              rw [if_neg other] at written
              simp only at written
              rw [written]

/-- The third pass makes the normal form, with all notes that it does not write. -/
theorem only_whitespacePass (others : ∀ note ∈ spaceNotes, note ∉ kept) (top : Bool) (node : Node) :
    (node.rewrite (whitespaceRule config) top).only kept = norm config (node.only kept) := by
  induction top, node using Node.visitInduction (whitespaceRule config) with
  | step top node below =>
      have pairs := kids_visited_whitespaceRule config top node
      have kids : ((node.visited (whitespaceRule config) top).kids.map
            (Node.rewrite (whitespaceRule config) false)).map (Node.mapLabels (Label.only kept)) =
          (survivors config node.label.kind ((node.kids.map (Node.only kept)).map (norm config))).map
            (tidied config node.label.kind) := by
        have sameKind : ∀ kid,
            ((norm config ∘ Node.only kept) kid).label.kind = kid.label.kind := by
          intro kid
          rw [Function.comp_apply, norm_label, Node.only, Node.mapLabels_label, Label.only_kind]
        rw [List.map_map, List.map_map, survivors_map config _ _ sameKind, List.map_map]
        apply map_eq_map_of_forall₂
        refine (forall₂_and_right pairs below).imp ?_
        rintro kid made ⟨⟨sameKids, written⟩, ih⟩
        exact ih.trans (norm_visitedKid config others sameKids written)
      have inner : ∀ note ∈ innerNotes, note ∉ kept := fun note isInner =>
        others note (List.mem_append_left sideNotes isInner)
      have own := only_whitespaceRule config inner top node.label node.kidLabels
      rw [Node.rewrite_eq, Node.only, Node.mapLabels_mk, kids]
      cases node with
      | mk label kids =>
          rw [Node.only, Node.mapLabels_mk, norm, normAll_eq]
          exact congrArg (fun label => Node.mk label _) own

end Pass

/-! ## The pipeline -/

section Pipeline

def shape (tree : Node) : Node :=
  tree.only []

theorem wellFormed_of_shape {tree other : Node} (same : shape tree = shape other)
    (formed : tree.WellFormed) : other.WellFormed := by
  rw [← Node.wellFormed_only [], ← shape, ← same, shape, Node.wellFormed_only]
  exact formed

def edgeAndDisplayNotes : List Note :=
  [.display, .leadingSensitive, .trailingSensitive, .danglingSensitive]

theorem norm_congr {config other : Config} (same : other.whiteSpace = config.whiteSpace) (tree : Node) :
    norm other tree = norm config tree := by
  have verbatim : ∀ kind, isVerbatim other kind = isVerbatim config kind := by
    intro kind
    simp only [isVerbatim, whiteSpaceOf, Config.whiteSpaceOf, same]
  have loose : isLoose other = isLoose config := by
    funext kind
    rw [isLoose, isLoose, verbatim]
  induction tree using Node.induction with
  | step label kids below =>
      have kidsSame : kids.map (norm other) = kids.map (norm config) := List.map_congr_left below
      have tidiedSame : tidied other label.kind = tidied config label.kind := by
        funext kid
        rw [tidied, tidied, loose]
      rw [norm, norm, normAll_eq, normAll_eq, kidsSame, tidiedSame, survivors, survivors, loose]

theorem shape_preprocess (config : Config) {tree : Node} (formed : tree.WellFormed) :
    shape (preprocess config .preprocess tree).state = norm config (shape tree) := by
  rw [(preprocess_preprocess config formed).2, normalized, shape,
    only_whitespacePass config (by decide)]
  rw [only_annotated (by decide) (by decide) (by decide) (by decide) (by decide) (by decide), shape]

/-- A pipeline with all passes never fails on a well-formed tree.  It leaves the normal form, with the
notes that annotating alone would have left on the nodes that stay; and nothing but the shape of the
tree and the white space values of the configuration has a part in the shape that it leaves. -/
theorem norm_preprocess (config : Config) (tree : Node) (formed : tree.WellFormed) :
    (preprocess config .preprocess tree).fault = none ∧
      shape (preprocess config .preprocess tree).state = norm config (shape tree) ∧
      (preprocess config .preprocess tree).state.only edgeAndDisplayNotes =
        norm config ((preprocess config .annotate tree).state.only edgeAndDisplayNotes) ∧
      ∀ (other : Config) (twin : Node), other.whiteSpace = config.whiteSpace →
        shape twin = shape tree → (preprocess other .preprocess twin).fault = none ∧
          shape (preprocess other .preprocess twin).state =
            shape (preprocess config .preprocess tree).state := by
  obtain ⟨done, state⟩ := preprocess_preprocess config formed
  refine ⟨done, shape_preprocess config formed, ?_, ?_⟩
  · rw [state, (preprocess_annotate config formed).2]
    exact only_whitespacePass config (by decide) true (annotated config tree)
  · intro other twin sameSheet sameShape
    have formedTwin := wellFormed_of_shape sameShape.symm formed
    refine ⟨(preprocess_preprocess other formedTwin).1, ?_⟩
    rw [shape_preprocess other formedTwin, shape_preprocess config formed, sameShape,
      norm_congr sameSheet]

theorem norm_preprocess_paragraph :
    paragraph.WellFormed ∧
      shape (preprocess Config.builtin .preprocess paragraph).state =
        norm Config.builtin (shape paragraph) :=
  ⟨by decide, (norm_preprocess Config.builtin paragraph (by decide)).2.1⟩

end Pipeline

end TemplateSpacing.Pass
