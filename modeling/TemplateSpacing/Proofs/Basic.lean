import Mathlib.Data.List.Flatten
import Mathlib.Data.List.Forall2

/-! # Lists side by side, and results

What the laws of trees and of configurations need about lists whose items belong together one by one, about
lists with items taken out, and about operations that may be refused.
-/

set_option autoImplicit false

namespace TemplateSpacing

/-! ## Lists side by side -/

theorem exists_of_forall₂_right {α β : Type} {law : α → β → Prop} {olds : List α} {news : List β}
    (pairs : List.Forall₂ law olds news) {new : β} (member : new ∈ news) :
    ∃ old ∈ olds, law old new := by
  induction pairs with
  | nil => cases member
  | cons first _ ih =>
      rcases List.mem_cons.mp member with rfl | member
      · exact ⟨_, List.mem_cons_self, first⟩
      · obtain ⟨old, inOlds, related⟩ := ih member
        exact ⟨old, List.mem_cons_of_mem _ inOlds, related⟩

theorem getElem?_of_forall₂_right {α β : Type} {law : α → β → Prop} {olds : List α} {news : List β}
    (pairs : List.Forall₂ law olds news) {index : Nat} {new : β} (here : news[index]? = some new) :
    ∃ old, olds[index]? = some old ∧ law old new := by
  induction pairs generalizing index with
  | nil => cases here
  | cons first _ ih =>
      cases index with
      | zero =>
          obtain rfl := Option.some.inj here
          exact ⟨_, rfl, first⟩
      | succ index => exact ih here

theorem forall₂_and_right {α β : Type} {law : α → β → Prop} {holds : β → Prop} {olds : List α}
    {news : List β} (pairs : List.Forall₂ law olds news) (all : ∀ new ∈ news, holds new) :
    List.Forall₂ (fun old new => law old new ∧ holds new) olds news := by
  induction pairs with
  | nil => exact .nil
  | cons first _ ih =>
      refine .cons ⟨first, all _ List.mem_cons_self⟩ (ih ?_)
      intro new member
      exact all new (List.mem_cons_of_mem _ member)

theorem map_eq_map_of_forall₂ {α β γ : Type} {f : α → γ} {g : β → γ} {olds : List α} {news : List β}
    (pairs : List.Forall₂ (fun old new => g new = f old) olds news) : news.map g = olds.map f := by
  induction pairs with
  | nil => rfl
  | cons first _ ih => rw [List.map_cons, List.map_cons, first, ih]

theorem forall₂_of_map_eq_map {α β γ : Type} {f : α → γ} {g : β → γ} {olds : List α} {news : List β}
    (same : olds.map f = news.map g) : List.Forall₂ (fun old new => f old = g new) olds news := by
  rw [← List.forall₂_eq_eq_eq, List.forall₂_map_left_iff, List.forall₂_map_right_iff] at same
  exact same

theorem findSome?_of_forall₂ {α β γ : Type} {f : α → Option γ} {g : β → Option γ} {olds : List α}
    {news : List β} (pairs : List.Forall₂ (fun old new => g new = f old) olds news) :
    news.findSome? g = olds.findSome? f := by
  induction pairs with
  | nil => rfl
  | cons first _ ih => rw [List.findSome?_cons, List.findSome?_cons, first, ih]

theorem forall₂_map_some {α : Type} {law : α → Option α → Prop} {olds : List α}
    (same : ∀ old ∈ olds, law old (some old)) : List.Forall₂ law olds (olds.map some) := by
  rw [List.forall₂_map_right_iff]
  exact List.forall₂_same.mpr same

/-! ## Lists with items taken out -/

section Filter

variable {α : Type} {keep : α → Bool}

theorem exists_of_getElem?_filter {items : List α} {index : Nat} {item : α}
    (here : (items.filter keep)[index]? = some item) :
    ∃ front back, items = front ++ item :: back ∧ (front.filter keep).length = index ∧
      keep item = true ∧ back.filter keep = (items.filter keep).drop (index + 1) := by
  induction items generalizing index with
  | nil => cases here
  | cons first rest ih =>
      rw [List.filter_cons] at here
      split at here
      · next kept =>
          cases index with
          | zero =>
              obtain rfl := Option.some.inj here
              refine ⟨[], rest, rfl, rfl, kept, ?_⟩
              rw [List.filter_cons_of_pos kept, List.drop_one, List.tail_cons]
          | succ index =>
              obtain ⟨front, back, rfl, count, keeps, later⟩ := ih here
              refine ⟨first :: front, back, rfl, ?_, keeps, ?_⟩
              · rw [List.filter_cons_of_pos kept, List.length_cons, count]
              · rw [later, List.filter_cons_of_pos kept, List.drop_succ_cons]
      · next gone =>
          obtain ⟨front, back, rfl, count, keeps, later⟩ := ih here
          refine ⟨first :: front, back, rfl, ?_, keeps, ?_⟩
          · rw [List.filter_cons_of_neg gone, count]
          · rw [later, List.filter_cons_of_neg gone]

/-- Between two items that are neighbours once others have been taken out, all others have been. -/
theorem exists_of_neighbours_filter {items : List α} {index : Nat} {left right : α}
    (here : (items.filter keep)[index]? = some left)
    (next : (items.filter keep)[index + 1]? = some right) :
    ∃ front gap back, items = front ++ left :: (gap ++ right :: back) ∧
      (front.filter keep).length = index ∧ keep left = true ∧ keep right = true ∧
      ∀ item ∈ gap, keep item = false := by
  obtain ⟨front, later, rfl, count, keepsLeft, rest⟩ := exists_of_getElem?_filter here
  have first : (later.filter keep)[0]? = some right := by
    rw [rest, List.getElem?_drop, Nat.add_zero]
    exact next
  obtain ⟨gap, back, rfl, none, keepsRight, _⟩ := exists_of_getElem?_filter first
  refine ⟨front, gap, back, rfl, count, keepsLeft, keepsRight, ?_⟩
  intro item member
  have empty := List.length_eq_zero_iff.mp none
  exact Bool.not_eq_true _ ▸ List.filter_eq_nil_iff.mp empty item member

theorem flatMap_filter {β : Type} (items : List α) (f : α → List β) :
    (items.filter keep).flatMap f = items.flatMap fun item => if keep item then f item else [] := by
  induction items with
  | nil => rfl
  | cons first rest ih =>
      rw [List.filter_cons, List.flatMap_cons]
      split
      · rw [List.flatMap_cons, ih]
      · rw [ih, List.nil_append]

/-- Lists that lose items piece by piece lose none when no piece does. -/
theorem flatMap_eq_flatMap_iff {β : Type} {items : List α} {f g : α → List β}
    (pieces : ∀ item ∈ items, (g item).Sublist (f item)) :
    items.flatMap g = items.flatMap f ↔ ∀ item ∈ items, g item = f item := by
  refine ⟨?_, List.flatMap_congr⟩
  induction items with
  | nil => simp
  | cons first rest ih =>
      intro same
      have later : ∀ item ∈ rest, (g item).Sublist (f item) :=
        fun item member => pieces item (List.mem_cons_of_mem _ member)
      have whole := congrArg List.length same
      have own := (pieces first List.mem_cons_self).length_le
      have others := (List.Sublist.flatMap_right rest later).length_le
      rw [List.flatMap_cons, List.flatMap_cons] at same whole
      rw [List.length_append, List.length_append] at whole
      obtain ⟨here, there⟩ := List.append_inj same (by omega)
      exact List.forall_mem_cons.mpr ⟨here, ih later there⟩

end Filter

/-! ## Results and refusals -/

theorem ok_of_bind {ε α β : Type} {first : Except ε α} {next : α → Except ε β} {result : β}
    (ok : first >>= next = .ok result) : ∃ value, first = .ok value ∧ next value = .ok result := by
  cases first with
  | error e => cases ok
  | ok value => exact ⟨value, rfl, ok⟩

/-- A first operation is what is refused, or the one after it is. -/
theorem error_of_bind {ε α β : Type} {first : Except ε α} {next : α → Except ε β} {e : ε}
    (refused : first >>= next = .error e) :
    first = .error e ∨ ∃ value, first = .ok value ∧ next value = .error e := by
  cases first with
  | error other =>
      cases refused
      exact .inl rfl
  | ok value => exact .inr ⟨value, rfl, refused⟩

theorem ok_of_map {ε α β : Type} {first : Except ε α} {f : α → β} {result : β}
    (ok : first.map f = .ok result) : ∃ value, first = .ok value ∧ f value = result := by
  cases first with
  | error e => cases ok
  | ok value => exact ⟨value, rfl, Except.ok.inj ok⟩

theorem map_eq_error_iff {ε α β : Type} {first : Except ε α} {f : α → β} {e : ε} :
    first.map f = .error e ↔ first = .error e := by
  cases first with
  | error other => rw [Except.map, Except.error.injEq, Except.error.injEq]
  | ok value => exact ⟨nofun, nofun⟩

theorem exists_map_iff {ε α β : Type} {first : Except ε α} {f : α → β} :
    (∃ result, first.map f = .ok result) ↔ ∃ value, first = .ok value := by
  cases first with
  | error e => exact iff_of_false nofun nofun
  | ok value => exact iff_of_true ⟨_, rfl⟩ ⟨value, rfl⟩

theorem ok_of_toOption {ε α : Type} {result : Except ε α} {value : α} (some : result.toOption = some value) :
    result = .ok value := by
  cases result with
  | error e => cases some
  | ok held => rw [Option.some.inj some]

section Sequence

variable {ε α β : Type} {f : α → Except ε β} {items : List α}

theorem forall₂_of_mapM {results : List β} (ok : items.mapM f = .ok results) :
    List.Forall₂ (fun item result => f item = .ok result) items results := by
  induction items generalizing results with
  | nil =>
      cases ok
      exact .nil
  | cons first rest ih =>
      rw [List.mapM_cons] at ok
      obtain ⟨result, here, ok⟩ := ok_of_bind ok
      obtain ⟨later, there, ok⟩ := ok_of_bind ok
      cases ok
      exact .cons here (ih there)

/-- A sequence of operations is refused as the first of them that is refused. -/
theorem mapM_eq_error_iff {e : ε} :
    items.mapM f = .error e ↔ ∃ front item back, items = front ++ item :: back ∧ f item = .error e ∧
      ∀ earlier ∈ front, ∃ result, f earlier = .ok result := by
  refine ⟨fun refused => ?_, ?_⟩
  · induction items with
    | nil => cases refused
    | cons first rest ih =>
        rw [List.mapM_cons] at refused
        rcases error_of_bind refused with here | ⟨result, here, refused⟩
        · exact ⟨[], first, rest, rfl, here, fun _ member => absurd member List.not_mem_nil⟩
        · rcases error_of_bind refused with there | ⟨_, _, refused⟩
          · obtain ⟨front, item, back, rfl, itsOwn, earlier⟩ := ih there
            exact ⟨first :: front, item, back, rfl, itsOwn, List.forall_mem_cons.mpr ⟨⟨result, here⟩, earlier⟩⟩
          · cases refused
  · rintro ⟨front, item, back, rfl, itsOwn, earlier⟩
    induction front with
    | nil =>
        rw [List.nil_append, List.mapM_cons, itsOwn]
        rfl
    | cons first rest ih =>
        obtain ⟨⟨result, here⟩, later⟩ := List.forall_mem_cons.mp earlier
        rw [List.cons_append, List.mapM_cons, here, ih later]
        rfl

/-- A sequence of operations goes through exactly when each of them does. -/
theorem exists_mapM_iff :
    (∃ results, items.mapM f = .ok results) ↔ ∀ item ∈ items, ∃ result, f item = .ok result := by
  constructor
  · rintro ⟨results, ok⟩ item member
    obtain ⟨result, _, passes⟩ := exists_of_forall₂_right (forall₂_of_mapM ok).flip member
    exact ⟨result, passes⟩
  · intro each
    cases made : items.mapM f with
    | ok results => exact ⟨results, rfl⟩
    | error e =>
        obtain ⟨front, item, back, rfl, refused, _⟩ := mapM_eq_error_iff.mp made
        obtain ⟨result, passes⟩ := each item (List.mem_append_right _ List.mem_cons_self)
        cases refused.symm.trans passes

end Sequence

/-! ## Items at their places -/

section Places

variable {ε α β : Type} {f : Nat → α → Except ε β} {items : List α}

theorem exists_place_of_error {e : ε}
    (refused : items.zipIdx.mapM (fun place => f place.2 place.1) = .error e) :
    ∃ index item, items[index]? = some item ∧ f index item = .error e := by
  obtain ⟨front, place, back, split, fails, _⟩ := mapM_eq_error_iff.mp refused
  have member : place ∈ items.zipIdx := by
    rw [split]
    exact List.mem_append_right _ List.mem_cons_self
  exact ⟨place.2, place.1, List.mem_zipIdx_iff_getElem?.mp member, fails⟩

theorem length_of_places {results : List β}
    (ok : items.zipIdx.mapM (fun place => f place.2 place.1) = .ok results) :
    results.length = items.length := by
  have count := (forall₂_of_mapM ok).length_eq
  rw [List.length_zipIdx] at count
  exact count.symm

theorem ok_of_place {results : List β}
    (ok : items.zipIdx.mapM (fun place => f place.2 place.1) = .ok results) {index : Nat} {item : α}
    (here : items[index]? = some item) :
    ∃ result, results[index]? = some result ∧ f index item = .ok result := by
  have inside : index < results.length := by
    rw [length_of_places ok]
    exact (List.getElem?_eq_some_iff.mp here).1
  have present := List.getElem?_eq_getElem inside
  obtain ⟨place, old, result⟩ := getElem?_of_forall₂_right (forall₂_of_mapM ok) present
  rw [List.getElem?_zipIdx, here, Option.map_some, Nat.zero_add] at old
  obtain rfl := Option.some.inj old
  exact ⟨results[index], present, result⟩

end Places

end TemplateSpacing
