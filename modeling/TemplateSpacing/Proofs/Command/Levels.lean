import Mathlib.Data.List.Induction
import Mathlib.Data.List.TakeWhile
import Mathlib.Data.Nat.Digits.Lemmas
import TemplateSpacing.Command.Toolkit
import TemplateSpacing.Proofs.Basic

/-! # Levels from the environment

A setting asks for a level by a number or by a name in any letter case.  A setting of digits alone is taken for
a number even if some of them are no decimal digits, or if they are too many; such a setting is refused, and
with it every run that would otherwise start.
-/

set_option autoImplicit false

namespace TemplateSpacing.Log

open TemplateSpacing.Text (decimalValue? decimalNumber? isDigitLike)

/-! ## Numbers -/

def Denotes (cs : List Char) (n : Nat) : Prop :=
  ∃ digits : List Nat, cs.map decimalValue? = digits.map some ∧ n = Nat.ofDigits 10 digits.reverse

section Numbers

variable {cs : List Char} {c : Char} {n : Nat}

theorem decimalNumber?_append (cs : List Char) (c : Char) :
    decimalNumber? (cs ++ [c]) =
      (decimalNumber? cs).bind fun sum => (decimalValue? c).map (10 * sum + ·) := by
  rw [decimalNumber?, List.foldlM_append, ← decimalNumber?]
  cases decimalNumber? cs with
  | none => rfl
  | some sum => exact bind_pure ((decimalValue? c).map (10 * sum + ·))

theorem denotes_append_iff :
    Denotes (cs ++ [c]) n ↔ ∃ sum value, Denotes cs sum ∧ decimalValue? c = some value ∧ n = 10 * sum + value := by
  constructor
  · rintro ⟨digits, values, rfl⟩
    rw [List.map_append] at values
    obtain ⟨front, last, rfl, frontValues, lastValue⟩ := List.map_eq_append_iff.mp values.symm
    obtain ⟨value, rfl, same⟩ := List.map_eq_singleton_iff.mp lastValue
    refine ⟨_, value, ⟨front, frontValues.symm, rfl⟩, same.symm, ?_⟩
    rw [List.reverse_append, List.reverse_singleton, List.singleton_append, Nat.ofDigits_cons,
      Nat.add_comm]
  · rintro ⟨_, value, ⟨digits, values, rfl⟩, last, rfl⟩
    refine ⟨digits ++ [value], ?_, ?_⟩
    · rw [List.map_append, List.map_append, values, List.map_singleton, last, List.map_singleton]
    · rw [List.reverse_append, List.reverse_singleton, List.singleton_append, Nat.ofDigits_cons,
        Nat.add_comm]

/-- The number is built from the first digit to the last. -/
theorem decimalNumber?_eq_some_iff : decimalNumber? cs = some n ↔ Denotes cs n := by
  induction cs using List.reverseRecOn generalizing n with
  | nil =>
      constructor
      · intro zero
        obtain rfl := Option.some.inj zero
        exact ⟨[], rfl, rfl⟩
      · rintro ⟨digits, values, rfl⟩
        rw [List.map_eq_nil_iff.mp values.symm]
        rfl
  | append_singleton front c ih =>
      rw [decimalNumber?_append, Option.bind_eq_some_iff, denotes_append_iff]
      simp only [ih, Option.map_eq_some_iff, exists_and_left, eq_comm (a := n)]

theorem decimalNumber?_eq_none_iff : decimalNumber? cs = none ↔ ∃ c ∈ cs, decimalValue? c = none := by
  induction cs using List.reverseRecOn with
  | nil => exact iff_of_false nofun nofun
  | append_singleton front c ih =>
      have either : (∃ d ∈ front ++ [c], decimalValue? d = none) ↔
          decimalNumber? front = none ∨ decimalValue? c = none := by
        simp only [List.mem_append, List.mem_singleton, or_and_right, exists_or, exists_eq_left, ih]
      rw [decimalNumber?_append, either]
      cases decimalNumber? front with
      | none => simp
      | some sum => simp

end Numbers

/-! ## Settings -/

/-- What is read of a setting: the text without outer blanks, in upper case. -/
def levelText (setting : String) : String :=
  Text.upper (Text.strip setting)

/-- Texts that are taken for numbers: digits of any sort, at least one. -/
def Numeric (text : String) : Prop :=
  text ≠ "" ∧ ∀ c ∈ text.toList, isDigitLike c = true

def leadingDigits (text : String) : List Char :=
  text.toList.takeWhile fun c => (decimalValue? c).isSome

inductive Asks (text : String) : Option Nat → Prop
  | number {n : Nat} (filled : text ≠ "") (short : text.toList.length ≤ Text.longestInteger)
      (denotes : Denotes text.toList n) : Asks text (some n)
  | name {level : Nat} (known : (text, level) ∈ namedLevels) : Asks text (some level)
  | nothing (notNumeric : ¬Numeric text) (unknown : ∀ level, (text, level) ∉ namedLevels) : Asks text none

/-- Texts that are taken for numbers and are none, or have too many digits. -/
inductive Defies (text : String) : LevelError → Prop
  | tooLong (numeric : Numeric text) (long : Text.longestInteger < (leadingDigits text).length) :
      Defies text (.tooLong (leadingDigits text).length)
  | notDecimal (numeric : Numeric text) (short : (leadingDigits text).length ≤ Text.longestInteger)
      {c : Char} (member : c ∈ text.toList) (noValue : decimalValue? c = none) :
      Defies text (.notDecimal text)

section Texts

variable {text : String} {n : Nat}

theorem Denotes.isSome {cs : List Char} (denotes : Denotes cs n) {c : Char} (member : c ∈ cs) :
    (decimalValue? c).isSome = true := by
  rw [Option.isSome_iff_ne_none]
  intro noValue
  have refused := decimalNumber?_eq_none_iff.mpr ⟨c, member, noValue⟩
  rw [decimalNumber?_eq_some_iff.mpr denotes] at refused
  cases refused

theorem Denotes.leadingDigits_eq (denotes : Denotes text.toList n) : leadingDigits text = text.toList :=
  List.takeWhile_eq_self_iff.mpr fun _ => denotes.isSome

theorem Denotes.numeric (denotes : Denotes text.toList n) (filled : text ≠ "") : Numeric text := by
  refine ⟨filled, fun c member => ?_⟩
  rw [isDigitLike, denotes.isSome member, Bool.true_or]

theorem digitsLevel_eq_ok_iff :
    digitsLevel text = .ok n ↔ text.toList.length ≤ Text.longestInteger ∧ Denotes text.toList n := by
  rw [digitsLevel, ← leadingDigits]
  split
  · next long =>
      refine iff_of_false nofun ?_
      rintro ⟨short, denotes⟩
      rw [denotes.leadingDigits_eq] at long
      exact Nat.not_lt.mpr short long
  · next short =>
      split
      · next none =>
          refine iff_of_false nofun ?_
          rintro ⟨_, denotes⟩
          rw [decimalNumber?_eq_some_iff.mpr denotes] at none
          cases none
      · next number some =>
          have denotes := decimalNumber?_eq_some_iff.mp some
          rw [denotes.leadingDigits_eq, Nat.not_lt] at short
          rw [← decimalNumber?_eq_some_iff, some, and_iff_right short, Except.ok.injEq, Option.some.injEq]

theorem digitsLevel_eq_error_iff (numeric : Numeric text) {e : LevelError} :
    digitsLevel text = .error e ↔ Defies text e := by
  rw [digitsLevel, ← leadingDigits]
  split
  · next long =>
      constructor
      · rintro ⟨⟩
        exact .tooLong numeric long
      · rintro (_ | ⟨_, short⟩)
        · rfl
        · exact absurd short (Nat.not_le.mpr long)
  · next short =>
      split
      · next none =>
          obtain ⟨c, member, noValue⟩ := decimalNumber?_eq_none_iff.mp none
          constructor
          · rintro ⟨⟩
            exact .notDecimal numeric (Nat.not_lt.mp short) member noValue
          · rintro (⟨_, long⟩ | _)
            · exact absurd long short
            · rfl
      · next number some =>
          refine iff_of_false nofun ?_
          rintro (⟨_, long⟩ | ⟨_, _, member, noValue⟩)
          · exact short long
          · rw [decimalNumber?_eq_none_iff.mpr ⟨_, member, noValue⟩] at some
            cases some

end Texts

/-! ## Names -/

theorem lookup_of_mem : ∀ entry ∈ namedLevels, namedLevels.lookup entry.1 = some entry.2 := by
  decide

theorem not_numeric_of_mem : ∀ entry ∈ namedLevels, ¬Numeric entry.1 := by
  have lettered : ∀ entry ∈ namedLevels, ¬entry.1.toList.all isDigitLike = true := by decide +kernel
  exact fun entry member numeric => lettered entry member (List.all_eq_true.mpr numeric.2)

theorem lookup_eq_some_iff {text : String} {level : Nat} :
    namedLevels.lookup text = some level ↔ (text, level) ∈ namedLevels := by
  constructor
  · intro found
    obtain ⟨before, after, whole, _⟩ := List.lookup_eq_some_iff.mp found
    rw [whole]
    exact List.mem_append_right before List.mem_cons_self
  · exact lookup_of_mem (text, level)

theorem toNat_lt_of_toUpper {c : Char} (ascii : c.toUpper.toNat < 128) : c.toNat < 128 := by
  by_cases small : 97 ≤ c.toNat ∧ c.toNat ≤ 122
  · omega
  · have same : c.toUpper = c := dif_neg small
    rwa [same] at ascii

theorem upper_of_ascii {spelling name : String} (ascii : ∀ c ∈ name.toList, c.toNat < 128)
    (same : spelling.toList.map Char.toUpper = name.toList) : Text.upper spelling = name := by
  have images : (spelling.toList.flatMap fun c =>
      if c.toNat < 128 then [c.toUpper] else Text.mapCase Text.upperRuns Text.upperExpansions c) =
        spelling.toList.map Char.toUpper := by
    rw [← List.flatMap_singleton' (spelling.toList.map Char.toUpper), List.flatMap_map]
    apply List.flatMap_congr
    intro c member
    rw [if_pos]
    apply toNat_lt_of_toUpper
    apply ascii
    rw [← same]
    exact List.mem_map_of_mem member
  rw [Text.upper, images, same, String.ofList_toList]

theorem ascii_of_mem : ∀ entry ∈ namedLevels, ∀ c ∈ entry.1.toList, c.toNat < 128 := by
  have ascii : ∀ entry ∈ namedLevels, (entry.1.toList.all fun c => c.toNat < 128) = true := by decide +kernel
  exact fun entry member c inName => of_decide_eq_true (List.all_eq_true.mp (ascii entry member) c inName)

section Asking

variable {text : String} {asked : Option Nat}

theorem asks_iff_of_numeric (numeric : Numeric text) :
    Asks text asked ↔ (digitsLevel text).map some = .ok asked := by
  constructor
  · rintro (⟨_, short, denotes⟩ | known | ⟨other, _⟩)
    · rw [digitsLevel_eq_ok_iff.mpr ⟨short, denotes⟩]
      rfl
    · exact absurd numeric (not_numeric_of_mem (text, _) known)
    · exact absurd numeric other
  · intro ok
    obtain ⟨n, digits, rfl⟩ := ok_of_map ok
    obtain ⟨short, denotes⟩ := digitsLevel_eq_ok_iff.mp digits
    exact .number numeric.1 short denotes

theorem asks_iff_of_not_numeric (other : ¬Numeric text) :
    Asks text asked ↔ namedLevels.lookup text = asked := by
  constructor
  · rintro (⟨filled, _, denotes⟩ | known | ⟨_, unknown⟩)
    · exact absurd (denotes.numeric filled) other
    · exact lookup_eq_some_iff.mpr known
    · exact Option.eq_none_iff_forall_ne_some.mpr fun level found =>
        unknown level (lookup_eq_some_iff.mp found)
  · rintro rfl
    cases found : namedLevels.lookup text with
    | some level => exact .name (lookup_eq_some_iff.mp found)
    | none =>
        refine .nothing other fun level known => ?_
        rw [lookup_eq_some_iff.mpr known] at found
        cases found

end Asking

/-! ## What settings ask for -/

section Settings

variable {setting : String}

theorem requestedLevel_of_numeric (numeric : Numeric (levelText setting)) :
    requestedLevel setting = (digitsLevel (levelText setting)).map some := by
  have given : setting ≠ "" := by
    rintro rfl
    exact numeric.1 rfl
  have digits : (levelText setting).toList.all isDigitLike = true := List.all_eq_true.mpr numeric.2
  rw [requestedLevel, if_neg given, ← levelText, if_pos]
  rw [decide_eq_true numeric.1, digits]
  rfl

theorem requestedLevel_of_not_numeric (other : ¬Numeric (levelText setting)) :
    requestedLevel setting = .ok (namedLevels.lookup (levelText setting)) := by
  by_cases given : setting = ""
  · subst given
    rfl
  · rw [requestedLevel, if_neg given, ← levelText, if_neg]
    rw [Bool.and_eq_true, decide_eq_true_eq, List.all_eq_true]
    exact other

theorem requestedLevel_eq_ok_iff {asked : Option Nat} :
    requestedLevel setting = .ok asked ↔ Asks (levelText setting) asked := by
  by_cases numeric : Numeric (levelText setting)
  · rw [requestedLevel_of_numeric numeric, asks_iff_of_numeric numeric]
  · rw [requestedLevel_of_not_numeric numeric, Except.ok.injEq, asks_iff_of_not_numeric numeric]

theorem requestedLevel_eq_error_iff {e : LevelError} :
    requestedLevel setting = .error e ↔ Defies (levelText setting) e := by
  by_cases numeric : Numeric (levelText setting)
  · rw [requestedLevel_of_numeric numeric, map_eq_error_iff, digitsLevel_eq_error_iff numeric]
  · rw [requestedLevel_of_not_numeric numeric]
    refine iff_of_false nofun ?_
    rintro (⟨isNumeric, _⟩ | ⟨isNumeric, _⟩)
    · exact numeric isNumeric
    · exact numeric isNumeric

theorem requestedLevel_of_spelling {name : String} {level : Nat} (known : (name, level) ∈ namedLevels)
    (same : (Text.strip setting).toList.map Char.toUpper = name.toList) :
    requestedLevel setting = .ok (some level) := by
  have spelled : levelText setting = name := upper_of_ascii (ascii_of_mem (name, level) known) same
  rw [requestedLevel_eq_ok_iff, spelled]
  exact .name known

end Settings

end TemplateSpacing.Log

namespace TemplateSpacing.Command

open TemplateSpacing.Log (LevelError Asks Defies levelText requestedLevel)

/-! ## Runs -/

/-- A run that gets as far as its level: its own switches are read, its command is found, and its flags choose a
level. -/
structure Underway (tools : Toolkit) (surroundings : Surroundings) (settings : Settings)
    (verb : Option (Verb × List String)) (chosen : Nat) : Prop where
  switches : ∃ words, requested tools surroundings .program surroundings.arguments = .ok (settings, words) ∧
    findVerb tools surroundings words = .ok verb
  flags : verbosityLevel? settings.verbose settings.quiet = some chosen

section Start

variable {tools : Toolkit} {surroundings : Surroundings} {settings : Settings} {verb : Option (Verb × List String)}
variable {chosen : Nat}

theorem prepare_eq (underway : Underway tools surroundings settings verb chosen) :
    prepare tools surroundings = (Manner.of surroundings settings).map fun manner => (manner, verb) := by
  obtain ⟨words, switches, found⟩ := underway.switches
  simp only [prepare, switches, found, bind, Except.bind, pure, Except.pure, Except.map]

/-- The level that the variable asks for comes before the level of the flags. -/
theorem prepare_of_asked (underway : Underway tools surroundings settings verb chosen) {asked : Option Nat}
    (readable : requestedLevel (levelSetting surroundings.environment) = .ok asked) :
    ∃ manner, prepare tools surroundings = .ok (manner, verb) ∧ manner.level = asked.getD chosen := by
  rw [prepare_eq underway]
  simp only [Manner.of, underway.flags, readable, bind, Except.bind, pure, Except.pure, Except.map,
    Except.mapError]
  exact ⟨_, rfl, rfl⟩

theorem prepare_of_refused (underway : Underway tools surroundings settings verb chosen) {e : LevelError}
    (refused : requestedLevel (levelSetting surroundings.environment) = .error e) :
    prepare tools surroundings = .error (.broken (.badLevel e)) := by
  rw [prepare_eq underway]
  simp only [Manner.of, underway.flags, refused, bind, Except.bind, Except.map, Except.mapError]

theorem run_of_stop {stop : Stop} (stopped : prepare tools surroundings = .error stop) :
    run tools surroundings = finish .initial ([], .error stop) := by
  rw [run, stopped]

theorem finish_broken (breakdown : Breakdown) :
    finish .initial ([], .error (.broken breakdown)) = ⟨Exit.failure.code, "", "", some breakdown⟩ := rfl

/-- A setting asks for what its text without outer blanks and in upper case says: a number in decimal digits, a
level by a name in any letter case, or nothing.  It is refused exactly when that text has digits alone, and some
that are no decimal digits or more decimal ones than a number may have.  A run that gets as far as its level takes
the one that the variable asks for, or else that of its flags, and breaks down when the setting is refused. -/
theorem level_of_underway (underway : Underway tools surroundings settings verb chosen) :
    (∀ setting asked, requestedLevel setting = .ok asked ↔ Asks (levelText setting) asked) ∧
    (∀ setting e, requestedLevel setting = .error e ↔ Defies (levelText setting) e) ∧
    (∀ setting name level, (name, level) ∈ Log.namedLevels →
      (Text.strip setting).toList.map Char.toUpper = name.toList → requestedLevel setting = .ok (some level)) ∧
    (∀ asked, Asks (levelText (levelSetting surroundings.environment)) asked →
      ∃ manner, prepare tools surroundings = .ok (manner, verb) ∧ manner.level = asked.getD chosen) ∧
    (∀ e, Defies (levelText (levelSetting surroundings.environment)) e →
      run tools surroundings = ⟨Exit.failure.code, "", "", some (.badLevel e)⟩) ∧
    ((∃ manner, prepare tools surroundings = .ok (manner, verb)) ↔
      ∀ e, ¬Defies (levelText (levelSetting surroundings.environment)) e) := by
  refine ⟨fun _ _ => Log.requestedLevel_eq_ok_iff, fun _ _ => Log.requestedLevel_eq_error_iff,
    fun _ _ _ => Log.requestedLevel_of_spelling, ?_, ?_, ?_⟩
  · exact fun asked asks => prepare_of_asked underway (Log.requestedLevel_eq_ok_iff.mpr asks)
  · intro e defies
    rw [run_of_stop (prepare_of_refused underway (Log.requestedLevel_eq_error_iff.mpr defies)), finish_broken]
  · constructor
    · rintro ⟨manner, started⟩ e defies
      rw [prepare_of_refused underway (Log.requestedLevel_eq_error_iff.mpr defies)] at started
      cases started
    · intro clear
      cases outcome : requestedLevel (levelSetting surroundings.environment) with
      | error e => exact absurd (Log.requestedLevel_eq_error_iff.mp outcome) (clear e)
      | ok asked =>
          obtain ⟨manner, started, _⟩ := prepare_of_asked underway outcome
          exact ⟨manner, started⟩

end Start

def outspoken : Surroundings where
  arguments := ["-v", "version"]
  environment := [(levelVariable, " wArn\t")]
  disk := ⟨"/srv", [], []⟩
  input := []
  isTerminal := false

theorem level_of_underway_outspoken :
    Underway toolkit outspoken { Settings.initial with verbose := 1 } (some (.version, [])) 20 ∧
      ∃ manner, prepare toolkit outspoken = .ok (manner, some (.version, [])) ∧ manner.level = 30 := by
  have underway : Underway toolkit outspoken { Settings.initial with verbose := 1 } (some (.version, [])) 20 :=
    ⟨⟨["version"], ok_of_toOption (by decide +kernel), ok_of_toOption (by decide +kernel)⟩, by decide⟩
  obtain ⟨_, _, _, starts, _⟩ := level_of_underway underway
  exact ⟨underway, starts (some 30) (.name (by decide +kernel))⟩

/-- A superscript digit counts as a digit and is no decimal one. -/
theorem not_readable_superscript : ¬∀ setting, ∃ asked, requestedLevel setting = .ok asked := by
  intro readable
  obtain ⟨asked, ok⟩ := readable "²"
  have refused : requestedLevel "²" = .error (.notDecimal "²") := by decide +kernel
  rw [refused] at ok
  cases ok

end TemplateSpacing.Command
