import TemplateSpacing.Command.Preference
import TemplateSpacing.Proofs.Text.Lower

/-! # Words for choices

The token of a token is the token itself, so a word stands for what its token stands for.  A word is looked up
among all words of one choice before those of the next one, and the first choice with a word of the same token
is taken, even if a later one has that very word for its key.
-/

set_option autoImplicit false

namespace TemplateSpacing.Choice

/-! ## Tokens -/

def joining (c : Char) : Char :=
  if c = '-' || c = ' ' then '_' else c

theorem toList_token (word : String) :
    (token word).toList = (Text.lower (Text.strip word)).toList.map joining :=
  String.toList_ofList

theorem joining_joining (c : Char) : joining (joining c) = joining c := by
  by_cases gap : (c = '-' || c = ' ') = true
  · have mapped : joining c = '_' := if_pos gap
    rw [mapped]
    rfl
  · have kept : joining c = c := if_neg gap
    rw [kept, kept]

theorem isBlank_joining {c : Char} (notBlank : Text.isBlank c = false) : Text.isBlank (joining c) = false := by
  rw [joining]
  split
  · rfl
  · exact notBlank

theorem isLow_joining {c : Char} (low : Text.isLow c.toNat = true) : Text.isLow (joining c).toNat = true := by
  rw [joining]
  split
  · exact Text.isLow_ascii (by decide) (by decide)
  · exact low

theorem strip_token (word : String) : Text.strip (token word) = token word := by
  have stripped : Text.strip (Text.lower (Text.strip word)) = Text.lower (Text.strip word) :=
    Text.strip_lower (Text.strip_strip word)
  have trimmed : Text.trim (Text.lower (Text.strip word)).toList = (Text.lower (Text.strip word)).toList := by
    rw [← Text.toList_strip, stripped]
  have whole : Text.trim (token word).toList = (token word).toList := by
    rw [toList_token]
    apply Text.trim_eq_self
    · intro c first
      rw [List.head?_map] at first
      obtain ⟨own, here, rfl⟩ := Option.map_eq_some_iff.mp first
      rw [← trimmed] at here
      exact isBlank_joining (Text.head?_trim here)
    · intro c last
      rw [List.getLast?_map] at last
      obtain ⟨own, here, rfl⟩ := Option.map_eq_some_iff.mp last
      rw [← trimmed] at here
      exact isBlank_joining (Text.getLast?_trim here)
  rw [Text.strip, whole, String.ofList_toList]

theorem lower_token (word : String) : Text.lower (token word) = token word := by
  have low : ∀ c ∈ (token word).toList, Text.isLow c.toNat = true := by
    rw [toList_token]
    intro c member
    obtain ⟨own, here, rfl⟩ := List.mem_map.mp member
    rw [Text.toList_lower] at here
    exact isLow_joining (Text.isLow_of_mem_lowerAfter here)
  rw [Text.lower, Text.lowerAfter_of_isLow low, String.ofList_toList]

theorem token_token (word : String) : token (token word) = token word := by
  rw [← String.toList_inj, toList_token, strip_token, lower_token, toList_token, List.map_map]
  exact List.map_congr_left fun c _ => joining_joining c

/-! ## Looking words up -/

def Answers (choice : Choice) (word : String) : Prop :=
  ∃ own ∈ choice.words, token own = token word

def Apart (choices : List Choice) : Prop :=
  choices.Pairwise fun first second => ∀ own ∈ first.words, ∀ other ∈ second.words, token own ≠ token other

section Lookup

variable {choices : List Choice} {choice : Choice} {word : String}

theorem answers_iff : (choice.words.map token).contains (token word) = true ↔ choice.Answers word := by
  rw [List.contains_iff_mem, List.mem_map]
  rfl

theorem parse?_eq_some_iff :
    parse? choices word = some choice ↔ ∃ before after, choices = before ++ choice :: after ∧
      choice.Answers word ∧ ∀ earlier ∈ before, ¬earlier.Answers word := by
  simp only [parse?, List.find?_eq_some_iff_append, Bool.not_eq_true', ← Bool.not_eq_true, answers_iff]
  constructor
  · rintro ⟨answers, before, after, whole, none⟩
    exact ⟨before, after, whole, answers, none⟩
  · rintro ⟨before, after, whole, answers, none⟩
    exact ⟨answers, before, after, whole, none⟩

theorem parse?_eq_none_iff : parse? choices word = none ↔ ∀ choice ∈ choices, ¬choice.Answers word := by
  simp only [parse?, List.find?_eq_none, answers_iff]

theorem parse?_congr {other : String} (same : token word = token other) (choices : List Choice) :
    parse? choices word = parse? choices other := by
  rw [parse?, parse?, same]

/-- Where no two choices share a token, each word stands for the choice that it is a word of. -/
theorem parse?_of_apart (apart : Apart choices) (member : choice ∈ choices) (own : word ∈ choice.words) :
    parse? choices word = some choice := by
  obtain ⟨before, after, rfl⟩ := List.append_of_mem member
  refine parse?_eq_some_iff.mpr ⟨before, after, rfl, ⟨word, own, rfl⟩, ?_⟩
  rintro earlier inBefore ⟨other, itsOwn, same⟩
  exact (List.pairwise_append.mp apart).2.2 earlier inBefore choice List.mem_cons_self other itsOwn word own same

/-! ## Reading order -/

/-- All words with their choices: key, name and further words of one choice before those of the next. -/
def spellings (choices : List Choice) : List (String × Choice) :=
  choices.flatMap fun choice => choice.words.map fun own => (own, choice)

/-- The first word with the token decides. -/
theorem parse?_eq_spellings (choices : List Choice) (word : String) :
    parse? choices word =
      ((spellings choices).find? fun entry => token entry.1 = token word).map Prod.snd := by
  induction choices with
  | nil => rfl
  | cons first rest ih =>
      have later : (((first.words.map fun own => (own, first)) ++ spellings rest).find?
            fun entry => token entry.1 = token word).map Prod.snd =
          ((first.words.find? fun own => token own = token word).map fun _ => first).or
            (parse? rest word) := by
        simp only [List.find?_append, Option.map_or, ih, List.find?_map, Option.map_map, Function.comp_def]
      rw [spellings, List.flatMap_cons, ← spellings, later, parse?, List.find?_cons]
      cases found : first.words.find? fun own => token own = token word with
      | some own =>
          have same : token own = token word := by simpa using List.find?_some found
          rw [answers_iff.mpr ⟨own, List.mem_of_find?_eq_some found, same⟩]
          rfl
      | none =>
          have silent : ¬first.Answers word := by
            rintro ⟨own, member, same⟩
            exact List.find?_eq_none.mp found own member (decide_eq_true same)
          rw [Bool.eq_false_iff.mpr (mt answers_iff.mp silent)]
          rfl

end Lookup

/-! ## Enumerations -/

section Distinct

variable {choices kept : List Choice}

theorem foldl_distinct (keys : ((kept ++ choices).map key).Nodup) :
    choices.foldl (fun kept choice =>
      if kept.any fun k => k.key = choice.key then kept else kept ++ [choice]) kept = kept ++ choices := by
  induction choices generalizing kept with
  | nil => exact (List.append_nil kept).symm
  | cons first rest ih =>
      have fresh : ¬(kept.any fun k => k.key = first.key) = true := by
        rw [List.any_eq_true]
        rintro ⟨earlier, member, same⟩
        rw [List.map_append, List.map_cons] at keys
        have apart := (List.nodup_append.mp keys).2.2 _ (List.mem_map_of_mem member) _ List.mem_cons_self
        exact apart (of_decide_eq_true same)
      rw [List.append_cons] at keys
      rw [List.foldl_cons, if_neg fresh, ih keys, ← List.append_cons]

theorem distinct_eq_self (keys : (choices.map key).Nodup) : distinct choices = choices :=
  @foldl_distinct choices [] keys

end Distinct

/-! ## Parameters -/

theorem convert_keyed (name : String) (choices : List Choice) (word : String) :
    (ChoiceParameter.mk name true choices).convert word =
      (parse? choices word).elim
        (.error ("Invalid value '" ++ word ++ "'. Must be one of: " ++ ", ".intercalate (choices.map key)))
        .ok := by
  rw [ChoiceParameter.convert, ChoiceParameter.find?, if_pos rfl]
  cases parse? choices word with
  | none => rfl
  | some choice => rfl

/-- Among choices with different keys, a word stands for the first one that has a word with its token, and for
none if there is no such choice.  It stands for what its token stands for, and a parameter converts it to that
choice or refuses it.  Where no two choices share a token, each of their words stands for its own choice. -/
theorem first_that_answers (choices : List Choice) (keys : (choices.map key).Nodup) :
    (∀ word choice, parse? (distinct choices) word = some choice ↔ ∃ before after,
      choices = before ++ choice :: after ∧ choice.Answers word ∧
        ∀ earlier ∈ before, ¬earlier.Answers word) ∧
    (∀ word, parse? (distinct choices) word = none ↔ ∀ choice ∈ choices, ¬choice.Answers word) ∧
    (∀ word, parse? (distinct choices) word =
      ((spellings choices).find? fun entry => token entry.1 = token word).map Prod.snd) ∧
    (∀ word other, token word = token other →
      parse? (distinct choices) word = parse? (distinct choices) other) ∧
    (∀ word, parse? (distinct choices) (token word) = parse? (distinct choices) word) ∧
    (∀ name word, (ChoiceParameter.mk name true (distinct choices)).convert word =
      (parse? (distinct choices) word).elim
        (.error ("Invalid value '" ++ word ++ "'. Must be one of: " ++ ", ".intercalate (choices.map key)))
        .ok) ∧
    (Apart choices → ∀ choice ∈ choices, ∀ word ∈ choice.words,
      parse? (distinct choices) word = some choice) := by
  rw [distinct_eq_self keys]
  refine ⟨?_, ?_, parse?_eq_spellings choices, ?_, ?_, ?_, ?_⟩
  · exact fun word choice => parse?_eq_some_iff
  · exact fun word => parse?_eq_none_iff
  · exact fun word other same => parse?_congr same choices
  · exact fun word => parse?_congr (token_token word) choices
  · exact fun name word => convert_keyed name choices word
  · exact fun apart choice member word own => parse?_of_apart apart member own

def shadowing : List Choice :=
  [⟨"PLAIN", "plain", "", ["Pre Line"]⟩, ⟨"PRE", "pre-line", "", []⟩]

theorem first_that_answers_shadowing :
    (shadowing.map key).Nodup ∧
      parse? (distinct shadowing) " PRE-line\t" = some ⟨"PLAIN", "plain", "", ["Pre Line"]⟩ ∧
      Apart (Config.Mode.all.map Config.Mode.choice) ∧
      parse? (distinct (Config.Mode.all.map Config.Mode.choice)) "default" = some Config.Mode.css.choice := by
  have keys : (shadowing.map key).Nodup := by decide
  have modeKeys : ((Config.Mode.all.map Config.Mode.choice).map key).Nodup := by decide
  have apart : Apart (Config.Mode.all.map Config.Mode.choice) := by
    unfold Apart
    decide +kernel
  obtain ⟨_, _, spelled, _⟩ := first_that_answers shadowing keys
  obtain ⟨_, _, _, _, _, _, own⟩ := first_that_answers _ modeKeys
  refine ⟨keys, ?_, apart, own apart _ List.mem_cons_self _ (by decide)⟩
  rw [spelled]
  decide +kernel

end TemplateSpacing.Choice
