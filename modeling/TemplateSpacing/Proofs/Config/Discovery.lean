import TemplateSpacing.Proofs.Config.Contents

/-! # Discovery

Which configuration files are found for a path.  A directory has up to two of them: the shared file, if it has
a section for this tool, and the own file.  The directories are searched from the nearest one up to the first
with a file that says it is the root, and their files are found from the outermost one down.  A place that
cannot be looked up and a file with a defect are obstacles, and the first one on the way is all that comes of
the search.
-/

set_option autoImplicit false

namespace TemplateSpacing.Config

open TemplateSpacing.Files (Content Disk Path Location FileError)
open TemplateSpacing.Log (Gives Logged)

def places (directory : Location) : List Location :=
  [sharedName, ownName].map fun name => directory ++ [name]

def isFile (disk : Disk) (place : Location) : Bool :=
  match disk.isFileAt place with
  | .ok found => found
  | .error _ => false

/-- A path leads to a directory, or to a file in it. -/
structure Anchored (disk : Disk) (start : Path) (directory : Location) : Prop where
  usable : start.isUsable = true
  leads : ∃ location, disk.resolve? start = some location ∧ disk.directoryOf location = .ok directory

section Search

variable (reader : DocumentReader) (disk : Disk)

/-! ## What is in a directory -/

/-- Whether a place has a configuration file: the shared file has to have a section for this tool that is a
table, the own file has to be there. -/
def configures (place : Location) : Bool :=
  if (candidateAt disk place).name = sharedName then (settings? reader (candidateAt disk place)).isSome
  else isFile disk place

def configFiles (directory : Location) : List Location :=
  (places directory).filter (configures reader disk)

def saysRoot (place : Location) : Bool :=
  ((settings? reader (candidateAt disk place)).bind (Entries.find? rootKey)).any Value.isTruthy

def isTop (directory : Location) : Bool :=
  (configFiles reader disk directory).any (saysRoot reader disk)

/-- Of directories that are given nearest first, those up to the first one that ends the search. -/
def upToTop (directories : List Location) : List Location :=
  directories.takeWhile (!isTop reader disk ·) ++ (directories.find? (isTop reader disk)).toList

def considered (directory : Location) : List Location :=
  upToTop reader disk (upward directory)

def discovered (directory : Location) : List Location :=
  (considered reader disk directory).reverse.flatMap (configFiles reader disk)

/-! ## Obstacles -/

/-- What keeps the search from going past a place, and the fault that it is reported as. -/
inductive Obstacle (place : Location) : LoadFault → Prop
  | lookup {e : FileError} (failed : disk.isFileAt place = .error e) : Obstacle place (.unusable e)
  | defect {fault : LoadFault} (isHere : disk.isFileAt place = .ok true)
      (defect : Defect reader (candidateAt disk place) fault) : Obstacle place fault

def Passable (place : Location) : Prop :=
  ∀ fault, ¬Obstacle reader disk place fault

/-- Nothing is in the way up to the top. -/
def SoundUpward (directory : Location) : Prop :=
  ∀ above ∈ considered reader disk directory, ∀ place ∈ places above, Passable reader disk place

def obstacle? (place : Location) : Option LoadFault :=
  match disk.isFileAt place with
  | .error e => some (.unusable e)
  | .ok false => none
  | .ok true => fault? reader (candidateAt disk place)

def hasSettings (place : Location) : Bool :=
  isFile disk place && (settings? reader (candidateAt disk place)).isSome

def configuring (among : List Location) : List Location :=
  among.filter (hasSettings reader disk)

/-- The places that are looked up in the directories up to the top, in the order of the search. -/
def met (directories : List Location) : List Location :=
  (upToTop reader disk directories).flatMap places

def searched : Except FileError (List Location) → Except LoadFault (List Location)
  | .error e => .error (.unusable e)
  | .ok directories =>
    barring ((met reader disk directories).findSome? (obstacle? reader disk))
      ((upToTop reader disk directories).reverse.flatMap fun directory =>
        configuring reader disk (places directory))

end Search

/-! ## One directory -/

section Directory

variable {reader : DocumentReader} {disk : Disk} {directory place : Location} {among : List Location}

theorem obstacle?_eq_some_iff {fault : LoadFault} :
    obstacle? reader disk place = some fault ↔ Obstacle reader disk place fault := by
  unfold obstacle?
  constructor
  · intro found
    split at found
    · next failed =>
        obtain rfl := Option.some.inj found
        exact .lookup failed
    · cases found
    · next isHere => exact .defect isHere (fault?_eq_some_iff.mp found)
  · intro obstacle
    cases obstacle with
    | lookup failed => rw [failed]
    | defect isHere defect =>
        rw [isHere]
        exact fault?_eq_some_iff.mpr defect

theorem obstacle?_eq_none_iff : obstacle? reader disk place = none ↔ Passable reader disk place := by
  rw [Option.eq_none_iff_forall_ne_some]
  exact forall_congr' fun fault => not_congr obstacle?_eq_some_iff

instance (reader : DocumentReader) (disk : Disk) : DecidablePred (Passable reader disk) :=
  fun place => match found : obstacle? reader disk place with
    | none => .isTrue (obstacle?_eq_none_iff.mp found)
    | some fault => .isFalse fun passable => passable fault (obstacle?_eq_some_iff.mp found)

instance (reader : DocumentReader) (disk : Disk) (directory : Location) :
    Decidable (SoundUpward reader disk directory) :=
  inferInstanceAs (Decidable (∀ above ∈ considered reader disk directory, ∀ place ∈ places above,
    Passable reader disk place))

theorem sound_of_passable (passable : Passable reader disk place) (isHere : disk.isFileAt place = .ok true) :
    Sound reader (candidateAt disk place) :=
  fun fault defect => passable fault (.defect isHere defect)

theorem isFile_of_lookup {found : Bool} (looked : disk.isFileAt place = .ok found) : isFile disk place = found := by
  rw [isFile, looked]

/-- Where there is no file, nothing can be read. -/
theorem exists_error_of_absent (absent : isFile disk place = false) :
    ∃ e, (candidateAt disk place).bytes = .error e := by
  have lookup : (Files.Disk.found? (disk.findAt place)).map (fun content => content.any Content.isFile) =
      disk.isFileAt place := rfl
  have read : (candidateAt disk place).bytes = (disk.findAt place).bind Content.read := rfl
  rw [isFile, ← lookup] at absent
  rw [read]
  cases found : disk.findAt place with
  | error e => exact ⟨e, rfl⟩
  | ok content =>
      rw [found] at absent
      cases content with
      | file bytes => cases absent
      | closedFile => cases absent
      | directory => exact ⟨.isDirectory, rfl⟩
      | closedDirectory => exact ⟨.isDirectory, rfl⟩

/-- A file that cannot be read has no settings, or empty ones. -/
theorem settings?_of_error (reader : DocumentReader) {file : Candidate} {e : FileError}
    (missed : file.bytes = .error e) :
    settings? reader file = none ∨ (file.name ≠ sharedName ∧ settings? reader file = some []) := by
  by_cases null : e = .embeddedNull
  · subst null
    rw [settings?, settings_of_defect (.path missed)]
    exact .inl rfl
  · rw [settings?_of_blank (.unopened missed null)]
    split
    · exact .inl rfl
    · next own => exact .inr ⟨own, rfl⟩

theorem saysRoot_of_absent (absent : isFile disk place = false) : saysRoot reader disk place = false := by
  obtain ⟨e, missed⟩ := exists_error_of_absent absent
  rw [saysRoot]
  rcases settings?_of_error reader missed with none | ⟨_, empty⟩
  · rw [none]
    rfl
  · rw [empty]
    rfl

theorem configuring_cons (reader : DocumentReader) (disk : Disk) (place : Location) (among : List Location) :
    configuring reader disk (place :: among) =
      if hasSettings reader disk place then place :: configuring reader disk among
      else configuring reader disk among :=
  List.filter_cons

theorem findSome?_obstacle?_cons (reader : DocumentReader) (disk : Disk) (place : Location)
    (among : List Location) : (place :: among).findSome? (obstacle? reader disk) =
      (obstacle? reader disk place).or (among.findSome? (obstacle? reader disk)) := by
  rw [List.findSome?_cons]
  cases obstacle? reader disk place with
  | none => rfl
  | some fault => rfl

/-- The places of a directory are looked up one after the other, up to the first obstacle. -/
theorem gives_discoverIn (names : List String) :
    Gives (discoverIn reader disk directory names)
      (barring ((names.map fun name => directory ++ [name]).findSome? (obstacle? reader disk))
        (configuring reader disk (names.map fun name => directory ++ [name]),
          (configuring reader disk (names.map fun name => directory ++ [name])).any (saysRoot reader disk))) := by
  -- name by name; an obstacle at one of them bars all that comes after it
  induction names with
  | nil => exact Log.gives_pure _
  | cons name rest ih =>
      rw [discoverIn, List.map_cons, findSome?_obstacle?_cons, configuring_cons, hasSettings, obstacle?]
      cases looked : disk.isFileAt (directory ++ [name]) with
      | error e => exact Log.gives_throw _
      | ok found =>
          rw [isFile_of_lookup looked]
          cases found with
          | false => exact ih
          | true =>
              refine gives_barred (gives_settings _) ?_
              cases settled : settings? reader (candidateAt disk (directory ++ [name])) with
              | none => exact ih
              | some fields =>
                  have root : saysRoot reader disk (directory ++ [name]) =
                      (fields.find? rootKey).any Value.isTruthy := by
                    rw [saysRoot, settled]
                    rfl
                  rw [if_pos (by rfl), List.any_cons, root, ← Option.or_none (o := List.findSome? _ _)]
                  exact (gives_barred ih (Log.gives_pure _)).emitting _

/-- Only a file with settings can say that it is the root. -/
theorem hasSettings_of_saysRoot (root : saysRoot reader disk place = true) :
    isFile disk place = true ∧ (settings? reader (candidateAt disk place)).isSome = true := by
  refine ⟨?_, ?_⟩
  · rw [← Bool.not_eq_false]
    intro absent
    rw [saysRoot_of_absent absent] at root
    cases root
  · cases found : settings? reader (candidateAt disk place) with
    | some fields => rfl
    | none =>
        rw [saysRoot, found] at root
        cases root

theorem any_filter_saysRoot {keep : Location → Bool}
    (kept : ∀ place, saysRoot reader disk place = true → keep place = true) (among : List Location) :
    (among.filter keep).any (saysRoot reader disk) = among.any (saysRoot reader disk) := by
  rw [List.any_filter]
  refine congrArg (List.any among) (funext fun place => ?_)
  cases root : saysRoot reader disk place with
  | false => exact Bool.and_false _
  | true =>
      rw [kept place root]
      rfl

theorem any_configuring (among : List Location) :
    (configuring reader disk among).any (saysRoot reader disk) = among.any (saysRoot reader disk) := by
  refine any_filter_saysRoot (fun place root => ?_) among
  obtain ⟨isHere, set⟩ := hasSettings_of_saysRoot root
  rw [hasSettings, isHere, set, Bool.true_and]

theorem isTop_eq (reader : DocumentReader) (disk : Disk) (directory : Location) :
    isTop reader disk directory = (places directory).any (saysRoot reader disk) := by
  refine any_filter_saysRoot (fun place root => ?_) (places directory)
  obtain ⟨isHere, set⟩ := hasSettings_of_saysRoot root
  rw [configures, isHere, set, ite_self]

/-- Where nothing is in the way, it is enough to know that a file is there and has settings. -/
theorem configures_of_passable (passable : Passable reader disk place) :
    configures reader disk place = hasSettings reader disk place := by
  rw [configures, hasSettings]
  cases looked : disk.isFileAt place with
  | error e => exact absurd (.lookup looked) (passable _)
  | ok found =>
      rw [isFile_of_lookup looked]
      cases found with
      | false =>
          obtain ⟨e, missed⟩ := exists_error_of_absent (isFile_of_lookup looked)
          rw [Bool.false_and]
          split
          · next shared =>
              rcases settings?_of_error reader missed with none | ⟨own, _⟩
              · rw [none]
                rfl
              · exact absurd shared own
          · rfl
      | true =>
          rw [Bool.true_and]
          split
          · rfl
          · next own => exact (isSome_settings?_of_own (sound_of_passable passable looked) own).symm

theorem configFiles_of_passable (passable : ∀ place ∈ places directory, Passable reader disk place) :
    configFiles reader disk directory = configuring reader disk (places directory) :=
  List.filter_congr fun place member => configures_of_passable (passable place member)

theorem gives_directory (reader : DocumentReader) (disk : Disk) (directory : Location) :
    Gives (discoverIn reader disk directory [sharedName, ownName])
      (barring ((places directory).findSome? (obstacle? reader disk))
        (configuring reader disk (places directory), isTop reader disk directory)) := by
  rw [isTop_eq, ← any_configuring]
  exact gives_discoverIn [sharedName, ownName]

end Directory

/-! ## The way up -/

section Way

variable {reader : DocumentReader} {disk : Disk} {directory : Location} {directories : List Location}

theorem upToTop_cons (reader : DocumentReader) (disk : Disk) (directory : Location) (outer : List Location) :
    upToTop reader disk (directory :: outer) =
      if isTop reader disk directory then [directory] else directory :: upToTop reader disk outer := by
  rw [upToTop, List.takeWhile_cons, List.find?_cons]
  cases isTop reader disk directory with
  | true => rfl
  | false => rfl

/-- The search goes up to the top, and no place above it is looked up. -/
theorem gives_discoverUpward (directories : List Location) :
    Gives (discoverUpward reader disk directories) (searched reader disk (.ok directories)) := by
  -- from the nearest directory outwards, and no further than the first one that is the top
  rw [searched]
  induction directories with
  | nil => exact Log.gives_pure _
  | cons directory outer ih =>
      have here := gives_directory reader disk directory
      rw [discoverUpward, met, upToTop_cons]
      cases top : isTop reader disk directory with
      | true =>
          rw [top] at here
          rw [if_pos rfl, List.flatMap_cons, List.flatMap_nil, List.append_nil,
            ← Option.or_none (o := List.findSome? _ _)]
          refine gives_barred here ?_
          rw [barring, List.reverse_singleton, List.flatMap_singleton]
          exact (Log.gives_pure _).emitting _
      | false =>
          rw [top] at here
          rw [if_neg Bool.false_ne_true, List.flatMap_cons, List.findSome?_append, List.reverse_cons,
            List.flatMap_append]
          refine gives_barred here ?_
          rw [List.flatMap_singleton, ← Option.or_none (o := List.findSome? _ _)]
          exact gives_barred ih (Log.gives_pure _)

theorem gives_discover (reader : DocumentReader) (disk : Disk) (start : Path) :
    Gives (discover reader disk start) (searched reader disk (directoriesFor disk start)) := by
  unfold discover
  cases directoriesFor disk start with
  | error e => exact Log.gives_throw _
  | ok directories => exact gives_discoverUpward directories

theorem directoriesFor_of_anchored {start : Path} (anchored : Anchored disk start directory) :
    directoriesFor disk start = .ok (upward directory) := by
  obtain ⟨location, resolved, leads⟩ := anchored.leads
  simp only [directoriesFor, anchored.usable, resolved, leads, Bool.not_true, Bool.false_eq_true, if_false,
    Except.map]

theorem mem_met {place : Location} :
    place ∈ met reader disk directories ↔ ∃ above ∈ upToTop reader disk directories, place ∈ places above :=
  List.mem_flatMap

theorem findSome?_obstacle? {among : List Location} :
    among.findSome? (obstacle? reader disk) = none ↔ ∀ place ∈ among, Passable reader disk place := by
  rw [List.findSome?_eq_none_iff]
  exact forall₂_congr fun _ _ => obstacle?_eq_none_iff

theorem searched_of_passable (passable : ∀ place ∈ met reader disk directories, Passable reader disk place) :
    searched reader disk (.ok directories) =
      .ok ((upToTop reader disk directories).reverse.flatMap (configFiles reader disk)) := by
  rw [searched, findSome?_obstacle?.mpr passable, barring]
  refine congrArg Except.ok (List.flatMap_congr fun above onTheWay => ?_)
  refine (configFiles_of_passable fun place inPlaces => passable place (mem_met.mpr ⟨above, ?_, inPlaces⟩)).symm
  exact List.mem_reverse.mp onTheWay

/-- When nothing is in the way, exactly the configuration files up to the top are found. -/
theorem gives_discovered {start : Path} (anchored : Anchored disk start directory)
    (sound : SoundUpward reader disk directory) :
    Gives (discover reader disk start) (.ok (discovered reader disk directory)) := by
  have gives := gives_discover reader disk start
  rw [directoriesFor_of_anchored anchored, searched_of_passable] at gives
  · exact gives
  · intro place member
    obtain ⟨above, onTheWay, inPlaces⟩ := mem_met.mp member
    exact sound above onTheWay place inPlaces

/-- What is found when nothing is in the way are files with settings. -/
theorem sound_of_mem_configFiles (passable : ∀ place ∈ places directory, Passable reader disk place)
    {place : Location} (member : place ∈ configFiles reader disk directory) :
    Sound reader (candidateAt disk place) ∧ (settings? reader (candidateAt disk place)).isSome = true := by
  rw [configFiles_of_passable passable] at member
  obtain ⟨inPlaces, set⟩ := List.mem_filter.mp member
  obtain ⟨isHere, isSet⟩ := Bool.and_eq_true_iff.mp set
  refine ⟨sound_of_passable (passable place inPlaces) ?_, isSet⟩
  rw [isFile] at isHere
  split at isHere
  · next looked => rw [looked, isHere]
  · cases isHere

theorem sound_discovered (sound : SoundUpward reader disk directory) {place : Location}
    (member : place ∈ discovered reader disk directory) :
    Sound reader (candidateAt disk place) ∧ (settings? reader (candidateAt disk place)).isSome = true := by
  obtain ⟨above, onTheWay, among⟩ := List.mem_flatMap.mp member
  exact sound_of_mem_configFiles (sound above (List.mem_reverse.mp onTheWay)) among

end Way

/-! ## What the search depends on -/

def SameAt (disk other : Disk) (directory : Location) : Prop :=
  ∀ place ∈ places directory, disk.findAt place = other.findAt place

section Dependence

variable {reader : DocumentReader} {disk other : Disk} {directory : Location} {directories : List Location}

theorem mem_places {name : String} (member : name ∈ [sharedName, ownName]) :
    directory ++ [name] ∈ places directory :=
  List.mem_map_of_mem (f := fun name => directory ++ [name]) member

theorem candidateAt_congr {place : Location} (home : disk.home = other.home)
    (same : disk.findAt place = other.findAt place) : candidateAt disk place = candidateAt other place := by
  rw [candidateAt, candidateAt, Disk.textOf, Disk.textOf, home, Disk.readAt, Disk.readAt, same]

theorem discoverIn_congr (home : disk.home = other.home) {names : List String}
    (same : ∀ name ∈ names, disk.findAt (directory ++ [name]) = other.findAt (directory ++ [name])) :
    discoverIn reader disk directory names = discoverIn reader other directory names := by
  induction names with
  | nil => rfl
  | cons name rest ih =>
      have here := same name List.mem_cons_self
      have later := ih fun name member => same name (List.mem_cons_of_mem _ member)
      rw [discoverIn, discoverIn, candidateAt_congr home here, Disk.isFileAt, Disk.isFileAt, here, later,
        Disk.textOf, Disk.textOf, home]

/-- The search looks up nothing but the places up to the top. -/
theorem discoverUpward_congr (home : disk.home = other.home)
    (same : ∀ directory ∈ upToTop reader disk directories, SameAt disk other directory) :
    discoverUpward reader disk directories = discoverUpward reader other directories := by
  induction directories with
  | nil => rfl
  | cons directory outer ih =>
      have text : disk.textOf directory = other.textOf directory := by rw [Disk.textOf, Disk.textOf, home]
      rw [upToTop_cons] at same
      have here : SameAt disk other directory := by
        split at same
        · exact same directory List.mem_cons_self
        · exact same directory List.mem_cons_self
      have sameNames : ∀ name ∈ [sharedName, ownName],
          disk.findAt (directory ++ [name]) = other.findAt (directory ++ [name]) :=
        fun name member => here _ (mem_places member)
      rw [discoverUpward, discoverUpward, ← discoverIn_congr home sameNames]
      -- the disks agree on this directory, and so on whether the search goes on
      refine (gives_directory reader disk directory).bind_congr fun value ok => ?_
      obtain rfl := eq_of_barring ok
      split at same
      · next top =>
          simp only [top, text, if_true]
      · next below =>
          have elsewhere := ih fun above member => same above (List.mem_cons_of_mem _ member)
          simp only [below, elsewhere, if_false, Bool.false_eq_true]

theorem discover_congr {start : Path} (home : disk.home = other.home) (anchored : Anchored disk start directory)
    (otherAnchored : Anchored other start directory)
    (same : ∀ above ∈ considered reader disk directory, SameAt disk other above) :
    discover reader disk start = discover reader other start := by
  rw [discover, discover, directoriesFor_of_anchored anchored, directoriesFor_of_anchored otherAnchored]
  exact discoverUpward_congr home same

end Dependence

end TemplateSpacing.Config
