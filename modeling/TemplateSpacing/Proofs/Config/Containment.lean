import TemplateSpacing.Proofs.Config.Layering

/-! # What escapes of bad files

Loading may fail with a refused setting; any other fault escapes.  Files that cannot be opened or read and files
that are no documents count as empty, so what escapes is a place that cannot be looked up, a defect of a file, or
a mode that its refusal cannot show, and it does whenever the search or the loading comes to one.
-/

set_option autoImplicit false

namespace TemplateSpacing.Config

open TemplateSpacing.Files (Disk Path Location FileError)
open TemplateSpacing.Log (Gives)

def Contained {α : Type} (outcome : Except LoadFault α) : Prop :=
  ∀ fault, outcome = .error fault → ∃ e, fault = .refused e

def searchDirectories (disk : Disk) (start : Path) (noDiscovery : Bool) : Except FileError (List Location) :=
  if noDiscovery then .ok [] else directoriesFor disk start

section Escapes

variable (reader : DocumentReader) (disk : Disk)

/-- What escapes of a search: the path that it starts from cannot be looked up, or there is an obstacle at a
place on the way to the top. -/
inductive SearchEscape (directories : Except FileError (List Location)) : LoadFault → Prop
  | start {e : FileError} (failed : directories = .error e) : SearchEscape directories (.unusable e)
  | place {nearest : List Location} {place : Location} {fault : LoadFault} (leads : directories = .ok nearest)
      (onTheWay : place ∈ met reader disk nearest) (obstacle : Obstacle reader disk place fault) :
      SearchEscape directories fault

inductive LoadEscape (file : Candidate) : LoadFault → Prop
  | defect {fault : LoadFault} (defect : Defect reader file fault) : LoadEscape file fault
  | mode {cause : Value.LiteralError} (unshown : Unshown reader file cause) : LoadEscape file (.unwritable cause)

/-- A file that loading comes to: no file before it fails to load. -/
def Reached (files : List Candidate) (file : Candidate) : Prop :=
  ∃ front back, files = front ++ file :: back ∧ ∀ earlier ∈ front, ∃ found, draftIn reader earlier = .ok found

def findable : Except FileError (List Location) → List Location
  | .error _ => []
  | .ok directories => (upToTop reader disk directories).reverse.flatMap (configFiles reader disk)

inductive Escape (directories : Except FileError (List Location)) (explicit : List Path) : LoadFault → Prop
  | search {fault : LoadFault} (escape : SearchEscape reader disk directories fault) :
      Escape directories explicit fault
  | loading {file : Candidate} {fault : LoadFault}
      (reached : Reached reader (candidates disk (findable reader disk directories) explicit) file)
      (escape : LoadEscape reader file fault) : Escape directories explicit fault

end Escapes

/-! ## One file -/

section OneFile

variable {reader : DocumentReader} {file : Candidate} {fault : LoadFault}

theorem not_refused_of_defect (defect : Defect reader file fault) (e : ConfigError) : fault ≠ .refused e := by
  cases defect with
  | path missed => exact nofun
  | text opened refused => exact nofun
  | unread holds failed => exact nofun
  | tool shared holds present noTable => exact nofun

theorem not_refused_of_loadEscape (escape : LoadEscape reader file fault) (e : ConfigError) :
    fault ≠ .refused e := by
  cases escape with
  | defect defect => exact not_refused_of_defect defect e
  | mode unshown => exact nofun

theorem draftIn_of_settings {fields : Entries Value} (read : settings reader file = .ok (some fields)) :
    draftIn reader file = (draftOf ⟨some file.shown, fields⟩).map some := by
  rw [draftIn, read]
  rfl

theorem layer?_eq_some_iff {layer : Layer} :
    layer? reader file = some layer ↔
      ∃ fields, settings reader file = .ok (some fields) ∧ layer = ⟨some file.shown, fields⟩ := by
  rw [layer?, settings?]
  cases settings reader file with
  | error fault => simp
  | ok found => cases found <;> simp [eq_comm]

/-- Loading a file fails on what escapes of it, or on a refused setting. -/
theorem draftIn_of_loadEscape (escape : LoadEscape reader file fault) : draftIn reader file = .error fault := by
  cases escape with
  | defect defect =>
      rw [draftIn, settings_of_defect defect]
      rfl
  | mode unshown =>
      obtain ⟨layer, isLayer, lost⟩ := unshown
      obtain ⟨fields, read, rfl⟩ := layer?_eq_some_iff.mp isLayer
      rw [draftIn_of_settings read, map_eq_error_iff]
      exact draftOf_eq_error_iff.mpr (.inr ⟨_, rfl, lost⟩)

theorem loadEscape_of_draftIn (failed : draftIn reader file = .error fault) :
    LoadEscape reader file fault ∨ ∃ e, fault = .refused e := by
  rcases error_of_bind failed with failed | ⟨found, read, failed⟩
  · exact .inl (.defect (defect_of_settings failed))
  · cases found with
    | none => cases failed
    | some fields =>
        rcases draftOf_eq_error_iff.mp (map_eq_error_iff.mp failed) with ⟨e, refused, _⟩ | ⟨cause, rfl, lost⟩
        · exact .inr ⟨e, refused⟩
        · exact .inl (.mode ⟨_, layer?_eq_some_iff.mpr ⟨fields, read, rfl⟩, lost⟩)

/-- Reading a file fails on its defects, but for the tool section, which is looked at only afterwards. -/
theorem contents_eq_error_iff :
    contents reader file = .error fault ↔ Defect reader file fault ∧ fault ≠ .toolNotTable := by
  constructor
  · intro failed
    rcases contents_cases reader file with ⟨fields, holds⟩ | blank | ⟨other, defect, itsOwn⟩
    · rw [contents_of_fields holds] at failed
      cases failed
    · rw [contents_of_blank blank] at failed
      cases failed
    · obtain rfl := Except.error.inj (itsOwn.symm.trans failed)
      refine ⟨defect, ?_⟩
      rintro rfl
      cases defect with
      | tool shared holds present noTable =>
          rw [contents_of_fields holds] at failed
          cases failed
  · rintro ⟨defect, notTool⟩
    cases defect with
    | path missed => rw [contents, missed]
    | text opened refused => simp only [contents, opened, refused]
    | unread holds failed => rw [contents_of_text holds, failed]
    | tool shared holds present noTable => exact absurd rfl notTool

end OneFile

/-! ## Files one after the other -/

section Files

variable {reader : DocumentReader} {α β : Type} {base : Draft} {files : List Candidate} {fault : LoadFault}

theorem contained_merged_iff :
    Contained (merged reader base files) ↔
      ∀ file, Reached reader files file → ∀ fault, ¬LoadEscape reader file fault := by
  simp only [Contained, merged, map_eq_error_iff, mapM_eq_error_iff]
  constructor
  · -- what escapes of a file that loading comes to would be the fault, and it is no refusal
    rintro contained file ⟨front, back, rfl, earlier⟩ fault escape
    obtain ⟨e, refused⟩ := contained fault ⟨front, file, back, rfl, draftIn_of_loadEscape escape, earlier⟩
    exact not_refused_of_loadEscape escape e refused
  · rintro none fault ⟨front, file, back, rfl, failed, earlier⟩
    rcases loadEscape_of_draftIn failed with escape | refused
    · exact absurd escape (none file ⟨front, back, rfl, earlier⟩ fault)
    · exact refused

theorem loadEscape_of_merged (failed : merged reader base files = .error fault) :
    (∃ e, fault = .refused e) ∨ ∃ file, Reached reader files file ∧ LoadEscape reader file fault := by
  obtain ⟨front, file, back, rfl, itsOwn, earlier⟩ := mapM_eq_error_iff.mp (map_eq_error_iff.mp failed)
  rcases loadEscape_of_draftIn itsOwn with escape | refused
  · exact .inr ⟨file, ⟨front, back, rfl, earlier⟩, escape⟩
  · exact .inl refused

theorem not_contained_error (escapes : ∀ e, fault ≠ .refused e) : ¬Contained (.error fault : Except LoadFault α) := by
  intro contained
  obtain ⟨e, refused⟩ := contained fault rfl
  exact escapes e refused

/-- A step that cannot fail contains what it is given. -/
theorem contained_map_iff {outcome : Except LoadFault α} (f : α → β) :
    Contained (outcome.map f) ↔ Contained outcome :=
  forall_congr' fun _ => imp_congr_left map_eq_error_iff

end Files

/-! ## The search and what comes after it -/

section Loading

variable {reader : DocumentReader} {disk : Disk} {directories : Except FileError (List Location)}
  {explicit : List Path} {fault : LoadFault}

theorem not_refused_of_searchEscape (escape : SearchEscape reader disk directories fault) (e : ConfigError) :
    fault ≠ .refused e := by
  cases escape with
  | start failed => exact nofun
  | place leads onTheWay obstacle =>
      cases obstacle with
      | lookup failed => exact nofun
      | defect isHere defect => exact not_refused_of_defect defect e

/-- A search finds the configuration files up to the top, or it fails on something that escapes. -/
theorem searched_cases (reader : DocumentReader) (disk : Disk) (directories : Except FileError (List Location)) :
    ((∀ fault, ¬SearchEscape reader disk directories fault) ∧
      searched reader disk directories = .ok (findable reader disk directories)) ∨
    ∃ fault, SearchEscape reader disk directories fault ∧ searched reader disk directories = .error fault := by
  cases directories with
  | error e => exact .inr ⟨_, .start rfl, rfl⟩
  | ok nearest =>
      cases first : (met reader disk nearest).findSome? (obstacle? reader disk) with
      | none =>
          have passable := findSome?_obstacle?.mp first
          refine .inl ⟨?_, searched_of_passable passable⟩
          intro fault escape
          cases escape with
          | start failed => cases failed
          | place leads onTheWay obstacle =>
              obtain rfl := Except.ok.inj leads
              exact passable _ onTheWay _ obstacle
      | some fault =>
          obtain ⟨place, onTheWay, here⟩ := List.exists_of_findSome?_eq_some first
          refine .inr ⟨fault, .place rfl onTheWay (obstacle?_eq_some_iff.mp here), ?_⟩
          rw [searched, first, barring]

theorem contained_searched_iff :
    Contained (searched reader disk directories) ↔ ∀ fault, ¬SearchEscape reader disk directories fault := by
  rcases searched_cases reader disk directories with ⟨none, finds⟩ | ⟨fault, escape, fails⟩
  · rw [finds]
    exact iff_of_true nofun none
  · rw [fails]
    exact iff_of_false (not_contained_error (not_refused_of_searchEscape escape)) fun none => none fault escape

variable (reader disk directories explicit) in
def loaded : Except LoadFault Draft :=
  searched reader disk directories >>= fun locations =>
    merged reader .defaults (candidates disk locations explicit)

theorem contained_loaded_iff :
    Contained (loaded reader disk directories explicit) ↔
      ∀ fault, ¬Escape reader disk directories explicit fault := by
  rcases searched_cases reader disk directories with ⟨none, finds⟩ | ⟨fault, escape, fails⟩
  · have merges : loaded reader disk directories explicit =
        merged reader .defaults (candidates disk (findable reader disk directories) explicit) := by
      rw [loaded, finds]
      rfl
    rw [merges, contained_merged_iff]
    constructor
    · intro sound fault escape
      cases escape with
      | search escape => exact none fault escape
      | loading reached escape => exact sound _ reached fault escape
    · exact fun clear file reached fault escape => clear fault (.loading reached escape)
  · have fails : loaded reader disk directories explicit = .error fault := by
      rw [loaded, fails]
      rfl
    rw [fails]
    exact iff_of_false (not_contained_error (not_refused_of_searchEscape escape)) fun clear =>
      clear fault (.search escape)

theorem escape_of_loaded (failed : loaded reader disk directories explicit = .error fault) :
    (∃ e, fault = .refused e) ∨ Escape reader disk directories explicit fault := by
  rcases searched_cases reader disk directories with ⟨_, finds⟩ | ⟨other, escape, fails⟩
  · rw [loaded, finds] at failed
    exact (loadEscape_of_merged failed).imp_right fun ⟨_, reached, escape⟩ => .loading reached escape
  · rw [loaded, fails] at failed
    obtain rfl := Except.error.inj failed
    exact .inr (.search escape)

end Loading

section Building

variable {reader : DocumentReader} {disk : Disk} {start : Path} {explicit : List Path} {noDiscovery : Bool}

theorem gives_loaded (reader : DocumentReader) (disk : Disk) (start : Path) (explicit : List Path)
    (noDiscovery : Bool) :
    Gives (loadMerged reader disk start explicit noDiscovery)
      (loaded reader disk (searchDirectories disk start noDiscovery) explicit) := by
  refine gives_loadMerged explicit noDiscovery ?_
  cases noDiscovery with
  | true => exact Log.gives_pure []
  | false => exact gives_discover reader disk start

theorem override_ofMode (draft : Draft) (mode : Option Mode) :
    draft.override (Overrides.ofMode mode) = ({ draft with mode := mode.or draft.mode }, none) := by
  cases mode with
  | none => rfl
  | some mode => rfl

/-- The mode is laid over what was loaded, which cannot fail. -/
theorem build_outcome (reader : DocumentReader) (disk : Disk) (start : Path) (explicit : List Path)
    (noDiscovery : Bool) (mode : Option Mode) :
    (Log.runLogged (build reader disk start explicit noDiscovery mode)).2 =
      (loaded reader disk (searchDirectories disk start noDiscovery) explicit).map fun draft =>
        { draft with mode := mode.or draft.mode }.freeze := by
  refine Gives.outcome ((gives_loaded reader disk start explicit noDiscovery).bind fun draft _ => ?_)
  rw [override_ofMode]
  exact (Log.gives_pure _).emitting _

end Building

/-- Files that cannot be opened or read and files that are no documents count as empty.  No fault but a refused
setting comes of the search, of loading or of building a configuration, exactly when nothing escapes of what they
come to; and any other fault is one that escapes. -/
theorem containment (reader : DocumentReader) (disk : Disk) (start : Path) (explicit : List Path)
    (noDiscovery : Bool) (mode : Option Mode) :
    (∀ file, Blank reader file → (Log.runLogged (loadFields reader file)).2 = .ok []) ∧
    (∀ file fault, (Log.runLogged (loadFields reader file)).2 = .error fault ↔
      Defect reader file fault ∧ fault ≠ .toolNotTable) ∧
    (Contained (Log.runLogged (discover reader disk start)).2 ↔
      ∀ fault, ¬SearchEscape reader disk (directoriesFor disk start) fault) ∧
    (Contained (Log.runLogged (loadMerged reader disk start explicit noDiscovery)).2 ↔
      ∀ fault, ¬Escape reader disk (searchDirectories disk start noDiscovery) explicit fault) ∧
    (Contained (Log.runLogged (build reader disk start explicit noDiscovery mode)).2 ↔
      ∀ fault, ¬Escape reader disk (searchDirectories disk start noDiscovery) explicit fault) ∧
    ∀ fault, (Log.runLogged (build reader disk start explicit noDiscovery mode)).2 = .error fault →
      (∃ e, fault = .refused e) ∨
        Escape reader disk (searchDirectories disk start noDiscovery) explicit fault := by
  have built := build_outcome reader disk start explicit noDiscovery mode
  refine ⟨?_, ?_, ?_, ?_, ?_, ?_⟩
  · intro file blank
    rw [(gives_loadFields reader file).outcome, contents_of_blank blank]
  · intro file fault
    rw [(gives_loadFields reader file).outcome, contents_eq_error_iff]
  · rw [(gives_discover reader disk start).outcome, contained_searched_iff]
  · rw [(gives_loaded reader disk start explicit noDiscovery).outcome, contained_loaded_iff]
  · rw [built, contained_map_iff, contained_loaded_iff]
  · intro fault failed
    rw [built, map_eq_error_iff] at failed
    exact escape_of_loaded failed

/-- Where nothing is in the way of the search, nothing escapes of files without defects whose modes can be
shown. -/
theorem not_escape {reader : DocumentReader} {disk : Disk} {nearest : List Location} {explicit : List Path}
    (passable : ∀ place ∈ met reader disk nearest, Passable reader disk place)
    (sound : ∀ file ∈ candidates disk (findable reader disk (.ok nearest)) explicit, Sound reader file)
    (shown : ∀ file ∈ candidates disk (findable reader disk (.ok nearest)) explicit, ∀ cause,
      ¬Unshown reader file cause) (fault : LoadFault) :
    ¬Escape reader disk (.ok nearest) explicit fault := by
  intro escape
  cases escape with
  | search escape =>
      cases escape with
      | start failed => cases failed
      | place leads onTheWay obstacle =>
          obtain rfl := Except.ok.inj leads
          exact passable _ onTheWay _ obstacle
  | @loading file fault reached escape =>
      obtain ⟨front, back, split, _⟩ := reached
      have member : file ∈ candidates disk (findable reader disk (.ok nearest)) explicit :=
        split ▸ List.mem_append_right _ List.mem_cons_self
      cases escape with
      | defect defect => exact sound file member _ defect
      | mode unshown => exact shown file member _ unshown

/-- A disk with a shared file that is no document, and an own file that may not be read. -/
def broken : Disk where
  home := "/srv"
  contents := [(["pyproject.toml"], .file (Text.ascii "whitespace_sensitivity = \n")),
    (["spacemark.toml"], .closedFile)]
  working := []

/-- These files and one that is not there count as empty. -/
theorem containment_broken :
    Contained (Log.runLogged
      (build (readerOf []) broken (.ofString ".") [.ofString "gone.toml"] false (some .strict))).2 := by
  have directories : searchDirectories broken (.ofString ".") false = .ok [[]] := by decide +kernel
  have passable : ∀ place ∈ met (readerOf []) broken [[]], Passable (readerOf []) broken place := by
    decide +kernel
  have found : findable (readerOf []) broken (.ok [[]]) = [["spacemark.toml"]] := by decide +kernel
  have empty : ∀ file ∈ candidates broken [["spacemark.toml"]] [.ofString "gone.toml"],
      settings (readerOf []) file = .ok (some []) := by
    have closed : Blank (readerOf []) (candidateAt broken ["spacemark.toml"]) :=
      .unopened (e := .permission) (by decide +kernel) (by decide)
    have gone : Blank (readerOf []) (candidateOf broken (.ofString "gone.toml")) :=
      .unopened (e := .missing) (by decide +kernel) (by decide)
    refine List.forall_mem_cons.mpr ⟨settings_of_blank closed, ?_⟩
    exact List.forall_mem_singleton.mpr (settings_of_blank gone)
  obtain ⟨_, _, _, _, build, _⟩ :=
    containment (readerOf []) broken (.ofString ".") [.ofString "gone.toml"] false (some .strict)
  rw [build, directories]
  refine not_escape passable ?_ ?_
  · rw [found]
    exact fun file member => sound_of_settings (empty file member)
  · rw [found]
    rintro file member cause ⟨layer, isLayer, raw, present, _⟩
    obtain ⟨fields, read, rfl⟩ := layer?_eq_some_iff.mp isLayer
    rw [empty file member] at read
    obtain rfl := Option.some.inj (Except.ok.inj read)
    cases present

def undecodable : Disk where
  home := "/srv"
  contents := [(["spacemark.toml"], .file [0xff])]
  working := []

/-- Bytes that are no text escape. -/
theorem not_contained_undecodable :
    ¬Contained (Log.runLogged (build (readerOf []) undecodable (.ofString ".") [] false none)).2 := by
  have directories : searchDirectories undecodable (.ofString ".") false = .ok [[]] := by decide +kernel
  have onTheWay : ["spacemark.toml"] ∈ met (readerOf []) undecodable [[]] := by decide +kernel
  have obstacle : ¬Passable (readerOf []) undecodable ["spacemark.toml"] := by decide +kernel
  rw [build_outcome, contained_map_iff, contained_loaded_iff, directories]
  exact fun clear => obstacle fun fault here => clear fault (.search (.place rfl onTheWay here))

end TemplateSpacing.Config
