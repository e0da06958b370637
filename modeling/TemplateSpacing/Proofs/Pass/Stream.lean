import TemplateSpacing.Proofs.Pass.Spaces

/-! # Children as a stream

Children are read as one stream of characters and of tokens, one token for each child that is no text.
The pieces of the third pass agree with it: what a piece says about runs of white space at its ends is
what the first and the last item of the child say.
-/

set_option autoImplicit false

namespace TemplateSpacing.Pass

open TemplateSpacing.Tree

inductive Item
  | char (c : Char)
  | token
deriving DecidableEq

def Item.isBlank : Item → Bool
  | .char c => Text.isBlank c
  | .token => false

def items : Kind → List Item
  | .text chars => chars.toList.map .char
  | _ => [.token]

def stream (kinds : List Kind) : List Item :=
  kinds.flatMap items

def endsBlank (seen : List Item) : Bool :=
  seen.getLast?.any Item.isBlank

def startsBlank (rest : List Item) : Bool :=
  rest.head?.any Item.isBlank

/-! ## Pieces -/

section Pieces

theorem stream_cons (kind : Kind) (kinds : List Kind) :
    stream (kind :: kinds) = items kind ++ stream kinds := rfl

theorem stream_append (kinds others : List Kind) :
    stream (kinds ++ others) = stream kinds ++ stream others :=
  List.flatMap_append

theorem startsBlank_append (first rest : List Item) :
    startsBlank (first ++ rest) = (first.head?.map Item.isBlank).getD (startsBlank rest) := by
  cases first with
  | nil => rfl
  | cons item later => rfl

theorem endsBlank_append (seen last : List Item) :
    endsBlank (seen ++ last) = (last.getLast?.map Item.isBlank).getD (endsBlank seen) := by
  rw [endsBlank, endsBlank, List.getLast?_append]
  cases last.getLast? with
  | none => rfl
  | some item => rfl

theorem head?_eq_of_divide (cs : List Char) :
    cs.head?.map Text.isBlank =
      if (Text.divide cs).lead.isEmpty then
        if (Text.divide cs).content.isEmpty then none else some false
      else some true := by
  have whole := Text.divide_append cs
  have leadBlank := Text.all_lead cs
  cases lead : (Text.divide cs).lead with
  | cons c later =>
      rw [lead] at whole leadBlank
      rw [← whole]
      simp only [List.all_cons, Bool.and_eq_true] at leadBlank
      simpa using leadBlank.1
  | nil =>
      cases content : (Text.divide cs).content with
      | cons c later =>
          have first : (Text.trim cs).head? = some c := congrArg List.head? content
          have notBlank := Text.head?_trim first
          rw [lead, content] at whole
          rw [← whole]
          simpa using notBlank
      | nil =>
          have blank := (Text.trim_eq_nil_iff cs).mp content
          rw [Text.divide_of_blank blank] at lead
          simp only at lead
          rw [lead]
          rfl

theorem getLast?_eq_of_divide (cs : List Char) :
    cs.getLast?.map Text.isBlank =
      if (Text.divide cs).trail.isEmpty then
        if (Text.divide cs).content.isEmpty then
          if (Text.divide cs).lead.isEmpty then none else some true
        else some false
      else some true := by
  have whole := Text.divide_append cs
  have trailBlank := Text.all_trail cs
  cases trail : (Text.divide cs).trail using List.reverseRecOn with
  | append_singleton later c =>
      rw [trail] at whole trailBlank
      rw [← whole]
      simp only [List.all_append, List.all_cons, Bool.and_eq_true] at trailBlank
      simpa using trailBlank.2.1
  | nil =>
      cases content : (Text.divide cs).content using List.reverseRecOn with
      | append_singleton later c =>
          have last : (Text.trim cs).getLast? = some c := by
            rw [show Text.trim cs = later ++ [c] from content, List.getLast?_concat]
          have notBlank := Text.getLast?_trim last
          rw [trail, content] at whole
          rw [← whole]
          simpa using notBlank
      | nil =>
          have blank := (Text.trim_eq_nil_iff cs).mp content
          rw [Text.divide_of_blank blank]
          cases cs using List.reverseRecOn with
          | nil => rfl
          | append_singleton later c =>
              simp only [List.all_append, List.all_cons, Bool.and_eq_true] at blank
              simpa using blank.2.1

theorem trail_of_content (cs : List Char) (content : (Text.divide cs).content = []) :
    (Text.divide cs).trail = [] := by
  rw [Text.divide_of_blank ((Text.trim_eq_nil_iff cs).mp content)]

theorem startsWithRun?_of_parts (parts : Text.Division) (label : Label)
    (noTrail : parts.content = [] → parts.trail = []) :
    Piece.startsWithRun? ⟨!parts.lead.isEmpty, if parts.content.isEmpty then none else some label,
        !parts.trail.isEmpty⟩ =
      if parts.lead.isEmpty then if parts.content.isEmpty then none else some false
      else some true := by
  obtain ⟨lead, content, trail⟩ := parts
  cases lead with
  | cons c later => rfl
  | nil =>
      cases content with
      | cons c later => rfl
      | nil =>
          obtain rfl := noTrail rfl
          rfl

theorem endsWithRun?_of_parts (parts : Text.Division) (label : Label) :
    Piece.endsWithRun? ⟨!parts.lead.isEmpty, if parts.content.isEmpty then none else some label,
        !parts.trail.isEmpty⟩ =
      if parts.trail.isEmpty then
        if parts.content.isEmpty then if parts.lead.isEmpty then none else some true
        else some false
      else some true := by
  obtain ⟨lead, content, trail⟩ := parts
  cases trail with
  | cons c later => rfl
  | nil =>
      cases content with
      | cons c later => rfl
      | nil => cases lead <;> rfl

theorem startsWithRun?_pieceOf (label : Label) :
    (pieceOf label).startsWithRun? = (items label.kind).head?.map Item.isBlank := by
  cases label with
  | mk kind notes extras =>
      cases kind with
      | text chars =>
          have first : ((items (.text chars)).head?.map Item.isBlank) =
              chars.toList.head?.map Text.isBlank := by
            rw [items, List.head?_map, Option.map_map]
            rfl
          rw [first, head?_eq_of_divide]
          exact startsWithRun?_of_parts _ _ (trail_of_content chars.toList)
      | _ => rfl

theorem endsWithRun?_pieceOf (label : Label) :
    (pieceOf label).endsWithRun? = (items label.kind).getLast?.map Item.isBlank := by
  cases label with
  | mk kind notes extras =>
      cases kind with
      | text chars =>
          have last : ((items (.text chars)).getLast?.map Item.isBlank) =
              chars.toList.getLast?.map Text.isBlank := by
            rw [items, List.getLast?_map, Option.map_map]
            rfl
          rw [last, getLast?_eq_of_divide]
          exact endsWithRun?_of_parts _ _
      | _ => rfl

theorem startsWithRun_eq (labels : List Label) :
    startsWithRun (labels.map pieceOf) = startsBlank (stream (labels.map Label.kind)) := by
  induction labels with
  | nil => rfl
  | cons label rest ih =>
      rw [List.map_cons, List.map_cons, stream_cons, startsBlank_append, ← ih,
        ← startsWithRun?_pieceOf, startsWithRun, List.findSome?_cons]
      cases (pieceOf label).startsWithRun? <;> rfl

theorem endsBlank_run (seen : List Item) {run : List Item} (blank : run.all Item.isBlank = true) :
    endsBlank (seen ++ run) = (!run.isEmpty || endsBlank seen) := by
  rw [endsBlank_append]
  cases run using List.reverseRecOn with
  | nil => rfl
  | append_singleton later item =>
      simp only [List.all_append, List.all_cons, Bool.and_eq_true] at blank
      simp [blank.2.1]

theorem startsBlank_run (rest : List Item) {run : List Item} (blank : run.all Item.isBlank = true) :
    startsBlank (run ++ rest) = (!run.isEmpty || startsBlank rest) := by
  rw [startsBlank_append]
  cases run with
  | nil => rfl
  | cons item later =>
      simp only [List.all_cons, Bool.and_eq_true] at blank
      simp [blank.1]

theorem all_items_of_blank {kind : Kind} (blank : isBlankText kind = true) :
    (items kind).all Item.isBlank = true := by
  cases kind with
  | text chars =>
      rw [items, List.all_map]
      exact blank
  | _ => cases blank

theorem startsBlank_content {kind : Kind} (filled : isBlankText kind = false) (rest : List Item) :
    startsBlank (items (trimmedKind kind) ++ rest) = false := by
  cases kind with
  | text chars =>
      rw [isBlankText, isAllBlank_eq] at filled
      cases content : Text.trim chars.toList with
      | nil =>
          rw [show (Text.divide chars.toList).content = [] from content] at filled
          cases filled
      | cons c later =>
          have notBlank := Text.head?_trim (congrArg List.head? content)
          rw [trimmedKind, items, Text.toList_strip, content]
          exact notBlank
  | _ => rfl

theorem endsBlank_content {kind : Kind} (filled : isBlankText kind = false) (seen : List Item) :
    endsBlank (seen ++ items (trimmedKind kind)) = false := by
  cases kind with
  | text chars =>
      rw [isBlankText, isAllBlank_eq] at filled
      cases content : Text.trim chars.toList using List.reverseRecOn with
      | nil =>
          rw [show (Text.divide chars.toList).content = [] from content] at filled
          cases filled
      | append_singleton later c =>
          have last : (Text.trim chars.toList).getLast? = some c := by
            rw [content, List.getLast?_concat]
          have notBlank := Text.getLast?_trim last
          rw [trimmedKind, items, Text.toList_strip, content, endsBlank_append]
          simpa [Item.isBlank] using notBlank
  | _ =>
      rw [endsBlank_append]
      rfl

def leadItems : Kind → List Item
  | .text chars => (Text.divide chars.toList).lead.map .char
  | _ => []

def trailItems : Kind → List Item
  | .text chars => (Text.divide chars.toList).trail.map .char
  | _ => []

theorem all_map_char (cs : List Char) :
    (cs.map Item.char).all Item.isBlank = cs.all Text.isBlank := by
  rw [List.all_map]
  rfl

theorem all_leadItems (kind : Kind) : (leadItems kind).all Item.isBlank = true := by
  cases kind with
  | text chars => exact (all_map_char _).trans (Text.all_lead chars.toList)
  | _ => rfl

theorem all_trailItems (kind : Kind) : (trailItems kind).all Item.isBlank = true := by
  cases kind with
  | text chars => exact (all_map_char _).trans (Text.all_trail chars.toList)
  | _ => rfl

theorem items_eq (kind : Kind) :
    items kind = leadItems kind ++ items (trimmedKind kind) ++ trailItems kind := by
  cases kind with
  | text chars =>
      have whole := Text.divide_append chars.toList
      simp only [items, leadItems, trailItems, trimmedKind, Text.toList_strip]
      rw [← List.map_append, ← List.map_append]
      exact congrArg (List.map Item.char) whole.symm
  | _ => rfl

theorem lead_pieceOf (label : Label) : (pieceOf label).lead = !(leadItems label.kind).isEmpty := by
  cases label with
  | mk kind notes extras =>
      cases kind with
      | text chars => simp [pieceOf, leadItems]
      | _ => rfl

theorem trail_pieceOf (label : Label) : (pieceOf label).trail = !(trailItems label.kind).isEmpty := by
  cases label with
  | mk kind notes extras =>
      cases kind with
      | text chars => simp [pieceOf, trailItems]
      | _ => rfl

end Pieces

/-! ## Places -/

/-- The place of content among siblings of some kinds: a node that is no blank text, with the kinds of
the siblings in front of it and behind it, and the white space around its content. -/
structure Place (kinds : List Kind) where
  front : List Kind
  kind : Kind
  back : List Kind
  lead : List Item
  trail : List Item
  whole : kinds = front ++ kind :: back
  filled : isBlankText kind = false
  parts : items kind = lead ++ items (trimmedKind kind) ++ trail
  leadBlank : lead.all Item.isBlank = true
  trailBlank : trail.all Item.isBlank = true

namespace Place

variable {kinds : List Kind}

def before (place : Place kinds) : List Item :=
  stream place.front ++ place.lead

def after (place : Place kinds) : List Item :=
  place.trail ++ stream place.back

def index (place : Place kinds) : Nat :=
  (place.front.filter fun kind => !isBlankText kind).length

def first (kind : Kind) (rest : List Kind) (filled : isBlankText kind = false) :
    Place (kind :: rest) :=
  ⟨[], kind, rest, leadItems kind, trailItems kind, rfl, filled, items_eq kind, all_leadItems kind,
    all_trailItems kind⟩

def behind (kind : Kind) (place : Place kinds) : Place (kind :: kinds) :=
  { place with front := kind :: place.front, whole := congrArg (kind :: ·) place.whole }

theorem before_behind (kind : Kind) (place : Place kinds) :
    (place.behind kind).before = items kind ++ place.before := by
  rw [before, behind, stream_cons, List.append_assoc, before]

theorem index_behind_of_blank {kind : Kind} (blank : isBlankText kind = true) (place : Place kinds) :
    (place.behind kind).index = place.index := by
  simp only [index, behind, List.filter_cons, blank]
  rfl

theorem index_behind_of_filled {kind : Kind} (filled : isBlankText kind = false)
    (place : Place kinds) : (place.behind kind).index = place.index + 1 := by
  simp only [index, behind, List.filter_cons, filled]
  rfl

end Place

def keptOnly (before : Bool) (labels : List Label) : List Kept :=
  (keptFrom before (labels.map pieceOf)).filterMap id

section Kept

theorem keptOnly_cons (before : Bool) (label : Label) (rest : List Label) :
    keptOnly before (label :: rest) =
      (if isBlankText label.kind then [] else [⟨trimmed label, (pieceOf label).lead || before,
        (pieceOf label).trail || startsWithRun (rest.map pieceOf)⟩]) ++
      keptOnly ((pieceOf label).endsWithRun?.getD before) rest := by
  rw [keptOnly, keptOnly, List.map_cons, keptFrom, content_pieceOf]
  cases isBlankText label.kind <;> rfl

theorem keptOnly_blank (seen : List Item) {label : Label} (rest : List Label)
    (blank : isBlankText label.kind = true) :
    keptOnly (endsBlank seen) (label :: rest) = keptOnly (endsBlank (seen ++ items label.kind)) rest := by
  rw [keptOnly_cons, if_pos blank, endsWithRun?_pieceOf, endsBlank_append, List.nil_append]

theorem keptOnly_filled (seen : List Item) {label : Label} (rest : List Label)
    (filled : isBlankText label.kind = false) :
    keptOnly (endsBlank seen) (label :: rest) =
      ⟨trimmed label, endsBlank (seen ++ leadItems label.kind),
          startsBlank (trailItems label.kind ++ stream (rest.map Label.kind))⟩ ::
        keptOnly (endsBlank (seen ++ items label.kind)) rest := by
  rw [keptOnly_cons, filled, endsWithRun?_pieceOf, endsBlank_append seen (items _), lead_pieceOf, trail_pieceOf,
    startsWithRun_eq, endsBlank_run seen (all_leadItems _), startsBlank_run _ (all_trailItems _)]
  rfl

/-- Every child that stays has a place, and knows what is next to its content there. -/
theorem place_of_keptOnly {labels : List Label} {index : Nat} {kept : Kept} (seen : List Item)
    (here : (keptOnly (endsBlank seen) labels)[index]? = some kept) :
    ∃ child ∈ labels, ∃ place : Place (labels.map Label.kind), place.index = index ∧
      place.kind = child.kind ∧
        kept = ⟨trimmed child, endsBlank (seen ++ place.before), startsBlank place.after⟩ := by
  -- The induction carries the stream in front of the children: blank texts add to it and are gone.
  induction labels generalizing seen index with
  | nil => cases here
  | cons label rest ih =>
      cases blank : isBlankText label.kind with
      | true =>
          rw [keptOnly_blank seen rest blank] at here
          obtain ⟨child, member, place, position, same, rfl⟩ := ih _ here
          refine ⟨child, List.mem_cons_of_mem _ member, place.behind label.kind, ?_, same, ?_⟩
          · rw [Place.index_behind_of_blank blank, position]
          · rw [Place.before_behind, ← List.append_assoc]
            rfl
      | false =>
          rw [keptOnly_filled seen rest blank] at here
          cases index with
          | zero =>
              obtain rfl := Option.some.inj here
              exact ⟨label, List.mem_cons_self, .first label.kind _ blank, rfl, rfl, rfl⟩
          | succ index =>
              obtain ⟨child, member, place, position, same, rfl⟩ := ih _ here
              refine ⟨child, List.mem_cons_of_mem _ member, place.behind label.kind, ?_, same, ?_⟩
              · rw [Place.index_behind_of_filled blank, position]
              · rw [Place.before_behind, ← List.append_assoc]
                rfl

/-- What the first child that stays has in front of it is either what was seen before or what the
children start with. -/
theorem spaceBefore_head {labels : List Label} {kept : Kept} (seen : List Item)
    (here : (keptOnly (endsBlank seen) labels)[0]? = some kept) :
    kept.spaceBefore = (endsBlank seen || startsBlank (stream (labels.map Label.kind))) := by
  induction labels generalizing seen with
  | nil => cases here
  | cons label rest ih =>
      rw [List.map_cons, stream_cons]
      cases blank : isBlankText label.kind with
      | true =>
          rw [keptOnly_blank seen rest blank] at here
          rw [ih _ here, endsBlank_run seen (all_items_of_blank blank),
            startsBlank_run _ (all_items_of_blank blank)]
          cases endsBlank seen <;> simp
      | false =>
          rw [keptOnly_filled seen rest blank] at here
          obtain rfl := Option.some.inj here
          rw [items_eq, List.append_assoc, List.append_assoc, startsBlank_run _ (all_leadItems _),
            startsBlank_content blank, endsBlank_run seen (all_leadItems _)]
          cases endsBlank seen <;> simp

/-- Two children that stay next to each other agree on what is between them. -/
theorem agree_keptOnly {labels : List Label} {index : Nat} {left right : Kept} (seen : List Item)
    (here : (keptOnly (endsBlank seen) labels)[index]? = some left)
    (next : (keptOnly (endsBlank seen) labels)[index + 1]? = some right) :
    left.spaceAfter = right.spaceBefore := by
  induction labels generalizing seen index with
  | nil => cases here
  | cons label rest ih =>
      cases blank : isBlankText label.kind with
      | true =>
          rw [keptOnly_blank seen rest blank] at here next
          exact ih _ here next
      | false =>
          rw [keptOnly_filled seen rest blank] at here next
          cases index with
          | zero =>
              obtain rfl := Option.some.inj here
              rw [spaceBefore_head _ next, startsBlank_run _ (all_trailItems _), items_eq,
                ← List.append_assoc, endsBlank_run _ (all_trailItems _), ← List.append_assoc,
                endsBlank_content blank, Bool.or_false]
          | succ index => exact ih _ here next

end Kept

end TemplateSpacing.Pass
