import Mathlib.Data.List.Nodup
import TemplateSpacing.Entries

/-! # Entries as tables

Entries with distinct keys are tables.  What is found in a table after writes is what was written last, and
writing one table over another is associative; two tables in which the same is found differ in the order of
their entries alone.
-/

set_option autoImplicit false

namespace TemplateSpacing.Entries

variable {α : Type}

def Distinct (entries : Entries α) : Prop :=
  (entries.map Prod.fst).Nodup

/-! ## Finding -/

theorem find?_append (key : String) (first rest : Entries α) :
    find? key (first ++ rest) = (find? key first).or (find? key rest) := by
  induction first with
  | nil => rfl
  | cons entry later ih =>
      obtain ⟨own, value⟩ := entry
      simp only [List.cons_append, find?, ih]
      split <;> rfl

theorem find?_eq_none {key : String} {entries : Entries α}
    (absent : ∀ entry ∈ entries, entry.1 ≠ key) : find? key entries = none := by
  induction entries with
  | nil => rfl
  | cons entry later ih =>
      obtain ⟨own, value⟩ := entry
      rw [find?, if_neg (absent _ List.mem_cons_self)]
      exact ih fun entry member => absent entry (List.mem_cons_of_mem _ member)

theorem mem_of_find? {key : String} {value : α} {entries : Entries α}
    (found : find? key entries = some value) : (key, value) ∈ entries := by
  induction entries with
  | nil => cases found
  | cons entry later ih =>
      obtain ⟨own, held⟩ := entry
      rw [find?] at found
      split at found
      · next same =>
          rw [← same, ← Option.some.inj found]
          exact List.mem_cons_self
      · exact List.mem_cons_of_mem _ (ih found)

theorem find?_of_mem {key : String} {value : α} {entries : Entries α} (distinct : Distinct entries)
    (member : (key, value) ∈ entries) : find? key entries = some value := by
  induction entries with
  | nil => cases member
  | cons entry later ih =>
      obtain ⟨own, held⟩ := entry
      obtain ⟨fresh, rest⟩ := List.nodup_cons.mp distinct
      rcases List.mem_cons.mp member with same | member
      · cases same
        rw [find?, if_pos rfl]
      · have other : own ≠ key := by
          rintro rfl
          exact fresh (List.mem_map.mpr ⟨_, member, rfl⟩)
        rw [find?, if_neg other]
        exact ih rest member

theorem find?_eq_some_iff {key : String} {value : α} {entries : Entries α} (distinct : Distinct entries) :
    find? key entries = some value ↔ (key, value) ∈ entries :=
  ⟨mem_of_find?, find?_of_mem distinct⟩

theorem Distinct.nodup {entries : Entries α} (distinct : Distinct entries) : entries.Nodup :=
  List.Nodup.of_map Prod.fst distinct

theorem Distinct.sublist {entries others : Entries α} (among : others.Sublist entries)
    (distinct : Distinct entries) : Distinct others :=
  (among.map Prod.fst).nodup distinct

theorem Distinct.perm {entries others : Entries α} (same : entries.Perm others)
    (distinct : Distinct entries) : Distinct others :=
  (same.map Prod.fst).nodup_iff.mp distinct

/-- In which order distinct entries stand makes no difference to what is found. -/
theorem find?_perm {entries others : Entries α} (same : entries.Perm others) (distinct : Distinct entries)
    (key : String) : find? key entries = find? key others := by
  apply Option.ext
  intro value
  rw [find?_eq_some_iff distinct, find?_eq_some_iff (distinct.perm same), same.mem_iff]

/-- Tables in which the same is found have the same entries. -/
theorem perm_of_find? {entries others : Entries α} (distinct : Distinct entries)
    (othersDistinct : Distinct others) (same : ∀ key, find? key entries = find? key others) :
    entries.Perm others := by
  apply (List.perm_ext_iff_of_nodup distinct.nodup othersDistinct.nodup).mpr
  rintro ⟨key, value⟩
  rw [← find?_eq_some_iff distinct, ← find?_eq_some_iff othersDistinct, same]

/-! ## Leaving keys out -/

theorem without_append (keys : List String) (first rest : Entries α) :
    without keys (first ++ rest) = without keys first ++ without keys rest :=
  List.filter_append first rest

theorem without_eq_nil {keys : List String} {entries : Entries α}
    (inside : ∀ entry ∈ entries, entry.1 ∈ keys) : without keys entries = [] := by
  apply List.filter_eq_nil_iff.mpr
  intro entry member
  simpa using inside entry member

theorem without_eq_self {keys : List String} {entries : Entries α}
    (outside : ∀ entry ∈ entries, entry.1 ∉ keys) : without keys entries = entries := by
  apply List.filter_eq_self.mpr
  intro entry member
  simpa using outside entry member

theorem without_congr {keys others : List String} (same : ∀ key, key ∈ keys ↔ key ∈ others)
    (entries : Entries α) : without keys entries = without others entries := by
  apply List.filter_congr
  intro entry _
  simp [same]

/-! ## Writing -/

section Writing

variable {key other : String} {value written : α} {entries later : Entries α}

theorem mem_put {entry : String × α} (member : entry ∈ put key value entries) :
    entry = (key, value) ∨ entry ∈ entries := by
  induction entries with
  | nil => exact .inl (List.mem_singleton.mp member)
  | cons first rest ih =>
      obtain ⟨own, held⟩ := first
      rw [put] at member
      split at member
      · next same =>
          subst same
          exact (List.mem_cons.mp member).imp id (List.mem_cons_of_mem _)
      · rcases List.mem_cons.mp member with rfl | member
        · exact .inr List.mem_cons_self
        · exact (ih member).imp id (List.mem_cons_of_mem _)

theorem put_of_absent (absent : key ∉ entries.map Prod.fst) :
    put key value entries = entries ++ [(key, value)] := by
  induction entries with
  | nil => rfl
  | cons first rest ih =>
      obtain ⟨own, held⟩ := first
      obtain ⟨otherKey, absent⟩ := not_or.mp (mt List.mem_cons.mpr absent)
      rw [put, if_neg (Ne.symm otherKey), ih absent, List.cons_append]

theorem keys_put_of_mem (member : key ∈ entries.map Prod.fst) :
    (put key value entries).map Prod.fst = entries.map Prod.fst := by
  induction entries with
  | nil => cases member
  | cons first rest ih =>
      obtain ⟨own, held⟩ := first
      rw [put]
      split
      · next same => rw [List.map_cons, List.map_cons, same]
      · next different =>
          have inRest := (List.mem_cons.mp member).resolve_left (Ne.symm different)
          rw [List.map_cons, List.map_cons, ih inRest]

theorem mem_keys_put (key : String) (value : α) (entries : Entries α) :
    key ∈ (put key value entries).map Prod.fst := by
  have found : find? key (put key value entries) = some value := by
    rw [find?_put, if_pos rfl]
  exact List.mem_map_of_mem (mem_of_find? found)

theorem distinct_put (distinct : Distinct entries) : Distinct (put key value entries) := by
  by_cases member : key ∈ entries.map Prod.fst
  · rw [Distinct, keys_put_of_mem member]
    exact distinct
  · rw [Distinct, put_of_absent member, List.map_append]
    exact List.nodup_append_comm.mp (List.nodup_cons.mpr ⟨member, distinct⟩)

/-- The last of two writes of a key wins. -/
theorem put_put (key : String) (value written : α) (entries : Entries α) :
    put key written (put key value entries) = put key written entries := by
  induction entries with
  | nil => simp [put]
  | cons first rest ih =>
      obtain ⟨own, held⟩ := first
      by_cases same : own = key
      · simp [put, same]
      · simp [put, same, ih]

/-- Writes of two keys commute when the place of one of them is given. -/
theorem put_comm (different : key ≠ other) (member : key ∈ entries.map Prod.fst) :
    put key value (put other written entries) = put other written (put key value entries) := by
  induction entries with
  | nil => cases member
  | cons first rest ih =>
      obtain ⟨own, held⟩ := first
      by_cases isKey : own = key
      · subst isKey
        simp [put, different]
      · have inRest := (List.mem_cons.mp member).resolve_left (Ne.symm isKey)
        by_cases isOther : own = other
        · subst isOther
          simp [put, isKey]
        · simp [put, isKey, isOther, ih inRest]

end Writing

/-! ## Laying entries over entries -/

section Layers

variable {entries later : Entries α}

theorem putAll_cons (entry : String × α) (entries later : Entries α) :
    putAll entries (entry :: later) = putAll (put entry.1 entry.2 entries) later := rfl

/-- What is found after writes is what was written last, or else what was there before. -/
theorem find?_putAll (key : String) (entries later : Entries α) :
    find? key (putAll entries later) = (find? key later.reverse).or (find? key entries) := by
  induction later generalizing entries with
  | nil => rfl
  | cons entry rest ih =>
      obtain ⟨own, value⟩ := entry
      rw [putAll_cons, ih, find?_put, List.reverse_cons, find?_append, Option.or_assoc]
      congr 1
      simp only [find?]
      split <;> rfl

/-- In a table that is written over entries no key comes twice, so its first entry for a key is the last. -/
theorem find?_putAll_table (key : String) (entries : Entries α) (distinct : Distinct later) :
    find? key (putAll entries later) = (find? key later).or (find? key entries) := by
  rw [find?_putAll, find?_perm later.reverse_perm (distinct.perm later.reverse_perm.symm)]

theorem mem_putAll {entry : String × α} (member : entry ∈ putAll entries later) :
    entry ∈ later ∨ entry ∈ entries := by
  induction later generalizing entries with
  | nil => exact .inr member
  | cons first rest ih =>
      rcases ih member with inRest | written
      · exact .inl (List.mem_cons_of_mem _ inRest)
      · rcases mem_put written with rfl | before
        · exact .inl List.mem_cons_self
        · exact .inr before

theorem distinct_putAll (distinct : Distinct entries) (later : Entries α) :
    Distinct (putAll entries later) := by
  induction later generalizing entries with
  | nil => exact distinct
  | cons first rest ih => exact ih (distinct_put distinct)

theorem distinct_ofWrites (writes : List (String × α)) : Distinct (ofWrites writes) :=
  distinct_putAll (show Distinct [] from List.nodup_nil) writes

theorem putAll_of_disjoint (distinct : Distinct later)
    (apart : ∀ key ∈ entries.map Prod.fst, key ∉ later.map Prod.fst) :
    putAll entries later = entries ++ later := by
  induction later generalizing entries with
  | nil => exact (List.append_nil entries).symm
  | cons first rest ih =>
      obtain ⟨own, value⟩ := first
      obtain ⟨fresh, rest_distinct⟩ := List.nodup_cons.mp distinct
      have absent : own ∉ entries.map Prod.fst := fun member => apart own member List.mem_cons_self
      rw [putAll_cons, put_of_absent absent, ih rest_distinct, List.append_assoc]
      · rfl
      · intro key member inRest
        rw [List.map_append] at member
        rcases List.mem_append.mp member with before | written
        · exact apart key before (List.mem_cons_of_mem _ inRest)
        · obtain rfl := List.mem_singleton.mp written
          exact fresh inRest

/-- Entries with distinct keys are what writing them one after the other gives. -/
theorem ofWrites_of_distinct (distinct : Distinct later) : ofWrites later = later :=
  putAll_of_disjoint distinct fun _ member => (List.not_mem_nil member).elim

/-- A write whose place is given may come after the writes of other keys. -/
theorem put_putAll {key : String} {value : α} (member : key ∈ entries.map Prod.fst)
    (absent : key ∉ later.map Prod.fst) :
    put key value (putAll entries later) = putAll (put key value entries) later := by
  induction later generalizing entries with
  | nil => rfl
  | cons first rest ih =>
      obtain ⟨own, held⟩ := first
      obtain ⟨different, absent⟩ := not_or.mp (mt List.mem_cons.mpr absent)
      have still : key ∈ (put own held entries).map Prod.fst := by
        by_cases there : own ∈ entries.map Prod.fst
        · rw [keys_put_of_mem there]
          exact member
        · rw [put_of_absent there, List.map_append]
          exact List.mem_append_left _ member
      rw [putAll_cons, putAll_cons, ih still absent, put_comm different member]

theorem putAll_put {key : String} {value : α} (distinct : Distinct later) (entries : Entries α) :
    putAll entries (put key value later) = put key value (putAll entries later) := by
  induction later generalizing entries with
  | nil => rfl
  | cons first rest ih =>
      obtain ⟨own, held⟩ := first
      obtain ⟨fresh, rest_distinct⟩ := List.nodup_cons.mp distinct
      by_cases same : own = key
      · subst same
        rw [put, if_pos rfl, putAll_cons, putAll_cons, put_putAll (mem_keys_put own held entries) fresh,
          put_put]
      · rw [put, if_neg same, putAll_cons, putAll_cons, ih rest_distinct]

theorem putAll_putAll (distinct : Distinct later) (entries last : Entries α) :
    putAll (putAll entries later) last = putAll entries (putAll later last) := by
  -- each of the last writes is made in the table between first, which stays a table
  induction last generalizing later with
  | nil => rfl
  | cons first rest ih =>
      rw [putAll_cons, putAll_cons, ← ih (distinct_put distinct), putAll_put distinct]

end Layers

/-! ## Sorting -/

section Sorted

theorem perm_sorted (entries : Entries α) : (sorted entries).Perm entries :=
  List.mergeSort_perm entries _

theorem distinct_sorted {entries : Entries α} (distinct : Distinct entries) : Distinct (sorted entries) :=
  distinct.perm (perm_sorted entries).symm

theorem find?_sorted {entries : Entries α} (distinct : Distinct entries) (key : String) :
    find? key (sorted entries) = find? key entries :=
  find?_perm (perm_sorted entries) (distinct_sorted distinct) key

theorem pairwise_sorted (entries : Entries α) :
    (sorted entries).Pairwise fun first second => first.1 ≤ second.1 := by
  have ordered := @List.pairwise_mergeSort _ (fun a b : String × α => !(b.1 < a.1)) ?_ ?_ entries
  · refine ordered.imp ?_
    intro first second before
    simp only [Bool.not_eq_true', decide_eq_false_iff_not, String.not_lt] at before
    exact before
  · intro a b c first second
    simp only [Bool.not_eq_true', decide_eq_false_iff_not, String.not_lt] at first second ⊢
    exact String.le_trans first second
  · intro a b
    simp only [Bool.or_eq_true, Bool.not_eq_true', decide_eq_false_iff_not, String.not_lt]
    exact String.le_total a.1 b.1

/-- Tables with the same entries are sorted alike. -/
theorem sorted_eq_of_perm {entries others : Entries α} (distinct : Distinct entries)
    (same : entries.Perm others) : sorted entries = sorted others := by
  have sorts := ((perm_sorted entries).trans same).trans (perm_sorted others).symm
  refine sorts.eq_of_pairwise ?_ (pairwise_sorted entries) (pairwise_sorted others)
  rintro ⟨key, value⟩ ⟨other, held⟩ inFirst inSecond before after
  obtain rfl : key = other := String.le_antisymm before after
  have first := find?_of_mem (distinct_sorted distinct) inFirst
  have second := find?_of_mem (distinct_sorted distinct) (sorts.mem_iff.mpr inSecond)
  rw [first] at second
  rw [Option.some.inj second]

end Sorted

end TemplateSpacing.Entries
