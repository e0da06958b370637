import TemplateSpacing.Proofs.Config.Discovery
import TemplateSpacing.Proofs.Text.Ascii

/-! # Layers from files

What comes of laying files over the defaults: the drafts of the layers that the files are, the one over the
other.  The files that are found for a path come first, then those that are given, and no other file of the disk
has a part in it.
-/

set_option autoImplicit false

namespace TemplateSpacing.Config

open TemplateSpacing.Files (Disk Path Location)
open TemplateSpacing.Log (Gives)

def layered (base : Draft) (layers : List Layer) : Except LoadFault Draft :=
  (layers.mapM draftOf).map fun drafts => drafts.foldl Draft.merge base

/-- The files that are loaded, in the order in which they are laid over one another: those that were found and
those that are given. -/
def candidates (disk : Disk) (found : List Location) (explicit : List Path) : List Candidate :=
  found.map (candidateAt disk) ++ explicit.map (candidateOf disk)

section Merged

variable (reader : DocumentReader)

/-- What loading files one after the other gives: the drafts of those that have one, one laid over the other. -/
def merged (base : Draft) (files : List Candidate) : Except LoadFault Draft :=
  (files.mapM (draftIn reader)).map fun drafts => drafts.reduceOption.foldl Draft.merge base

def Unshown (file : Candidate) (cause : Value.LiteralError) : Prop :=
  ∃ layer, layer? reader file = some layer ∧ layer.Unshown cause

end Merged

/-! ## Files one over the other -/

section Files

variable {reader : DocumentReader} {file : Candidate} {files : List Candidate}

theorem draftIn_of_sound (sound : Sound reader file) :
    draftIn reader file = match layer? reader file with
      | none => .ok none
      | some layer => (draftOf layer).map some := by
  rw [draftIn, settings_of_sound sound, layer?]
  cases settings? reader file with
  | none => rfl
  | some fields => rfl

/-- The files are loaded one after the other, up to the first one that fails. -/
theorem gives_mergeFiles (base : Draft) (files : List Candidate) :
    Gives (mergeFiles reader base files) (merged reader base files) := by
  induction files generalizing base with
  | nil => exact Log.gives_pure base
  | cons file rest ih =>
      have first : merged reader base (file :: rest) = draftIn reader file >>= fun found =>
          (rest.mapM (draftIn reader)).map fun drafts => (found :: drafts).reduceOption.foldl Draft.merge base := by
        rw [merged, List.mapM_cons]
        cases draftIn reader file with
        | error fault => rfl
        | ok found =>
            cases rest.mapM (draftIn reader) with
            | error fault => rfl
            | ok drafts => rfl
      rw [mergeFiles, first]
      refine (gives_loadFile reader file).bind fun found _ => ?_
      cases found with
      | none => exact ih base
      | some draft => exact ih (base.merge draft)

/-- Files without defects count as the layers that they are. -/
theorem mapM_draftIn (sound : ∀ file ∈ files, Sound reader file) :
    (files.mapM (draftIn reader)).map List.reduceOption = (files.filterMap (layer? reader)).mapM draftOf := by
  induction files with
  | nil => rfl
  | cons file rest ih =>
      have later := ih fun file member => sound file (List.mem_cons_of_mem _ member)
      rw [List.mapM_cons, List.filterMap_cons, draftIn_of_sound (sound file List.mem_cons_self)]
      cases layer? reader file with
      | none =>
          rw [← later]
          cases rest.mapM (draftIn reader) with
          | error fault => rfl
          | ok drafts => rfl
      | some layer =>
          simp only [List.mapM_cons, ← later]
          cases draftOf layer with
          | error fault => rfl
          | ok draft =>
              cases rest.mapM (draftIn reader) with
              | error fault => rfl
              | ok drafts => rfl

theorem merged_of_sound (base : Draft) (sound : ∀ file ∈ files, Sound reader file) :
    merged reader base files = layered base (files.filterMap (layer? reader)) := by
  rw [merged, layered, ← mapM_draftIn sound]
  cases files.mapM (draftIn reader) with
  | error fault => rfl
  | ok drafts => rfl

end Files

/-! ## Found and given files -/

section Loading

variable {reader : DocumentReader} {disk : Disk} {start : Path} {directory : Location} {explicit : List Path}
  {draft : Draft}

theorem gives_loadMerged (explicit : List Path) (noDiscovery : Bool) {found : Except LoadFault (List Location)}
    (gives : Gives (if noDiscovery then pure [] else discover reader disk start) found) :
    Gives (loadMerged reader disk start explicit noDiscovery)
      (found >>= fun locations => merged reader .defaults (candidates disk locations explicit)) := by
  have laid (locations : List Location) :
      Gives (do
        let draft ← mergeFiles reader .defaults (candidates disk locations explicit)
        Log.emit (Log.informed ("Merged config from " ++ toString draft.files.length ++ " file(s)"))
        pure draft)
      (merged reader .defaults (candidates disk locations explicit)) := by
    rw [← bind_pure (merged _ _ _)]
    exact (gives_mergeFiles .defaults _).bind fun draft _ => (Log.gives_pure draft).emitting _
  rw [loadMerged]
  split at gives
  · next skipped =>
      rw [if_pos skipped]
      exact gives.bind fun locations _ => laid locations
  · next searching =>
      rw [if_neg searching]
      exact gives.bind fun locations _ => laid locations

theorem sound_candidates (sound : SoundUpward reader disk directory)
    (explicitSound : ∀ path ∈ explicit, Sound reader (candidateOf disk path)) :
    ∀ file ∈ candidates disk (discovered reader disk directory) explicit, Sound reader file := by
  intro file member
  rcases List.mem_append.mp member with found | given
  · obtain ⟨place, isFound, rfl⟩ := List.mem_map.mp found
    exact (sound_discovered sound isFound).1
  · obtain ⟨path, isGiven, rfl⟩ := List.mem_map.mp given
    exact explicitSound path isGiven

theorem ok_of_draftOf {layer : Layer} (ok : draftOf layer = .ok draft) : layer.draft = .ok draft := by
  rw [draftOf] at ok
  cases read : layer.draft with
  | error e => rw [read] at ok; cases ok
  | ok held => rw [read] at ok; cases ok; rfl

/-- Layers are laid over one another unless one of them has a setting that is refused. -/
theorem exists_of_layered_error {base : Draft} {layers : List Layer} {fault : LoadFault}
    (failed : layered base layers = .error fault) : ∃ layer ∈ layers, draftOf layer = .error fault := by
  obtain ⟨front, layer, back, rfl, itsOwn, _⟩ := mapM_eq_error_iff.mp (map_eq_error_iff.mp failed)
  exact ⟨layer, List.mem_append_right _ List.mem_cons_self, itsOwn⟩

theorem files_of_layered {layers : List Layer} (ok : layered .defaults layers = .ok draft) :
    draft.files = layers.filterMap Layer.file := by
  obtain ⟨drafts, read, rfl⟩ := ok_of_map ok
  have pairs : List.Forall₂ Tells layers drafts :=
    (forall₂_of_mapM read).imp fun _ _ itsDraft => tells_of_draft (ok_of_draftOf itsDraft)
  exact files_layers pairs

theorem files_of_candidates (reader : DocumentReader) (files : List Candidate) :
    (files.filterMap (layer? reader)).filterMap Layer.file =
      (files.filter fun file => (settings? reader file).isSome).map Candidate.shown := by
  induction files with
  | nil => rfl
  | cons file rest ih =>
      rw [List.filterMap_cons, List.filter_cons, layer?]
      cases settings? reader file with
      | none => exact ih
      | some fields => exact congrArg (List.cons file.shown) ih

/-- The files that are recorded: all that are found, and those of the given ones that have settings. -/
theorem files_candidates (sound : SoundUpward reader disk directory) (explicit : List Path) :
    ((candidates disk (discovered reader disk directory) explicit).filterMap (layer? reader)).filterMap Layer.file =
      (discovered reader disk directory).map disk.textOf ++
        (explicit.filter fun path => (settings? reader (candidateOf disk path)).isSome).map Path.text := by
  -- every file that is found has settings, so none of them is taken out
  have allFound : ((discovered reader disk directory).map (candidateAt disk)).filter
      (fun file => (settings? reader file).isSome) =
        (discovered reader disk directory).map (candidateAt disk) := by
    rw [List.filter_eq_self]
    intro file member
    obtain ⟨place, isFound, rfl⟩ := List.mem_map.mp member
    exact (sound_discovered sound isFound).2
  rw [files_of_candidates, candidates, List.filter_append, List.map_append, allFound, List.filter_map,
    List.map_map, List.map_map]
  rfl

/-- Loading depends on nothing but the places that are searched and the files that are given. -/
theorem loadMerged_congr {other : Disk} (home : disk.home = other.home)
    (anchored : Anchored disk start directory) (otherAnchored : Anchored other start directory)
    (sound : SoundUpward reader disk directory)
    (same : ∀ above ∈ considered reader disk directory, SameAt disk other above)
    (given : ∀ path ∈ explicit, disk.read path = other.read path) :
    loadMerged reader disk start explicit false = loadMerged reader other start explicit false := by
  have explicitSame : explicit.map (candidateOf disk) = explicit.map (candidateOf other) :=
    List.map_congr_left fun path member => by rw [candidateOf, candidateOf, given path member]
  rw [loadMerged, loadMerged, if_neg Bool.false_ne_true, if_neg Bool.false_ne_true,
    ← discover_congr home anchored otherAnchored same, ← explicitSame]
  refine (gives_discovered anchored sound).bind_congr fun locations ok => ?_
  obtain rfl := Except.ok.inj ok
  have foundSame : ∀ place ∈ discovered reader disk directory, candidateAt disk place = candidateAt other place := by
    intro place member
    obtain ⟨above, onTheWay, among⟩ := List.mem_flatMap.mp member
    have sameHere := same above (List.mem_reverse.mp onTheWay)
    exact candidateAt_congr home (sameHere place (List.mem_of_mem_filter among))
  beta_reduce
  rw [List.map_congr_left foundSame]

end Loading

/-- For a path in a directory, the files that are found are those of the directories up to the top, and what is
loaded are these and then the given ones, each laid over those before it and recorded if it has settings.  Only
a refused setting prevents it, or a mode that its refusal cannot show, and no other file makes a difference. -/
theorem loadMerged_layers {reader : DocumentReader} {disk : Disk} {start : Path} {directory : Location}
    {explicit : List Path} (anchored : Anchored disk start directory) (sound : SoundUpward reader disk directory)
    (explicitSound : ∀ path ∈ explicit, Sound reader (candidateOf disk path)) :
    (Log.runLogged (discover reader disk start)).2 = .ok (discovered reader disk directory) ∧
    (Log.runLogged (loadMerged reader disk start explicit false)).2 =
      layered .defaults
        ((candidates disk (discovered reader disk directory) explicit).filterMap (layer? reader)) ∧
    (∀ fault, (Log.runLogged (loadMerged reader disk start explicit false)).2 = .error fault →
      (∃ e, fault = .refused e) ∨ ∃ cause, fault = .unwritable cause ∧
        ∃ file ∈ candidates disk (discovered reader disk directory) explicit, Unshown reader file cause) ∧
    (∀ draft, (Log.runLogged (loadMerged reader disk start explicit false)).2 = .ok draft →
      draft.files = (discovered reader disk directory).map disk.textOf ++
        (explicit.filter fun path => (settings? reader (candidateOf disk path)).isSome).map Path.text) ∧
    ∀ other : Disk, disk.home = other.home → Anchored other start directory →
      (∀ above ∈ considered reader disk directory, SameAt disk other above) →
      (∀ path ∈ explicit, disk.read path = other.read path) →
      discover reader disk start = discover reader other start ∧
      loadMerged reader disk start explicit false = loadMerged reader other start explicit false := by
  have found := gives_discovered anchored sound
  have outcome : (Log.runLogged (loadMerged reader disk start explicit false)).2 =
      layered .defaults
        ((candidates disk (discovered reader disk directory) explicit).filterMap (layer? reader)) := by
    have merges := merged_of_sound .defaults (sound_candidates sound explicitSound)
    exact (gives_loadMerged explicit false found).outcome.trans merges
  refine ⟨found.outcome, outcome, ?_, ?_, ?_⟩
  · intro fault failed
    rw [outcome] at failed
    obtain ⟨layer, member, itsOwn⟩ := exists_of_layered_error failed
    obtain ⟨file, isFile, isLayer⟩ := List.mem_filterMap.mp member
    rcases draftOf_eq_error_iff.mp itsOwn with ⟨e, refused, _⟩ | ⟨cause, lost, unshown⟩
    · exact .inl ⟨e, refused⟩
    · exact .inr ⟨cause, lost, file, isFile, layer, isLayer, unshown⟩
  · intro draft ok
    rw [outcome] at ok
    rw [files_of_layered ok, files_candidates sound]
  · intro other home otherAnchored same given
    exact ⟨discover_congr home anchored otherAnchored same,
      loadMerged_congr home anchored otherAnchored sound same given⟩

def readerOf (documents : List (String × Entries Value)) : DocumentReader := fun text =>
  match documents.lookup text with
  | some fields => .ok fields
  | none => .error (.malformed "malformed document")

def rootText : String := "root = true\ndisplay_default = \"block\"\n"

def sectionText : String := "[tool.spacemark.display]\nDIV = \"flex\"\n"

def strictText : String := "whitespace_sensitivity = \"strict\"\n"

def nestedReader : DocumentReader :=
  readerOf [(rootText, [("root", .bool true), ("display_default", .text "block")]),
    (sectionText, [("tool", .table [("spacemark", .table [("display", .table [("DIV", .text "flex")])])])]),
    (strictText, [("whitespace_sensitivity", .text "strict")])]

/-- A disk with files in three directories, where the one in the middle has the root, and one to be given. -/
def nested (outermost : List UInt8) : Disk where
  home := "/srv"
  contents := [(["spacemark.toml"], .file outermost),
    (["app", "spacemark.toml"], .file (Text.ascii rootText)),
    (["app", "ui", "pyproject.toml"], .file (Text.ascii sectionText)),
    (["app", "ui", "page.html"], .file []),
    (["extra.toml"], .file (Text.ascii strictText))]
  working := ["app"]

def nestedPage : Path := .ofString "ui/page.html"

def nestedExtra : Path := .ofString "../extra.toml"

def nestedLayers : List Layer :=
  (candidates (nested [0xff]) (discovered nestedReader (nested [0xff]) ["app", "ui"]) [nestedExtra]).filterMap
    (layer? nestedReader)

/-- The outermost file is no text, but it is above the root. -/
theorem loadMerged_layers_nested :
    (Log.runLogged (discover nestedReader (nested [0xff]) nestedPage)).2 =
      .ok [["app", "spacemark.toml"], ["app", "ui", "pyproject.toml"]] ∧
    (∃ draft, (Log.runLogged (loadMerged nestedReader (nested [0xff]) nestedPage [nestedExtra] false)).2 =
        .ok draft ∧
      draft.files = ["/srv/app/spacemark.toml", "/srv/app/ui/pyproject.toml", "../extra.toml"] ∧
      (draft.mode, draft.display) = (some .strict, ⟨[("div", "flex")], some "block"⟩)) ∧
    loadMerged nestedReader (nested [0xff]) nestedPage [nestedExtra] false =
      loadMerged nestedReader (nested (Text.ascii "display_default = \"none\"\n")) nestedPage [nestedExtra]
        false := by
  have anchored : Anchored (nested [0xff]) nestedPage ["app", "ui"] :=
    ⟨by decide +kernel, ["app", "ui", "page.html"], by decide +kernel, by decide +kernel⟩
  have otherAnchored : Anchored (nested (Text.ascii "display_default = \"none\"\n")) nestedPage ["app", "ui"] :=
    ⟨by decide +kernel, ["app", "ui", "page.html"], by decide +kernel, by decide +kernel⟩
  have sound : SoundUpward nestedReader (nested [0xff]) ["app", "ui"] := by decide +kernel
  have given : ∀ path ∈ [nestedExtra], Sound nestedReader (candidateOf (nested [0xff]) path) := by decide +kernel
  have locations : discovered nestedReader (nested [0xff]) ["app", "ui"] =
      [["app", "spacemark.toml"], ["app", "ui", "pyproject.toml"]] := by decide +kernel
  have settled : (layered .defaults nestedLayers).toOption.map (fun draft => (draft.mode, draft.display)) =
      some (some .strict, ⟨[("div", "flex")], some "block"⟩) := by decide +kernel
  obtain ⟨found, outcome, _, files, apart⟩ := loadMerged_layers anchored sound given
  rw [locations] at found
  refine ⟨found, ?_, ?_⟩
  · cases laid : layered .defaults nestedLayers with
    | error fault =>
        rw [laid] at settled
        cases settled
    | ok draft =>
        rw [laid] at settled
        refine ⟨draft, outcome.trans laid, (files draft (outcome.trans laid)).trans ?_, Option.some.inj settled⟩
        decide +kernel
  · refine (apart _ (by decide +kernel) otherAnchored ?_ ?_).2
    · show ∀ above ∈ considered nestedReader (nested [0xff]) ["app", "ui"], ∀ place ∈ places above, _ = _
      decide +kernel
    · decide +kernel

/-! ## A mode with too many digits -/

/-- A setting of the mode to an integer in hexadecimal digits. -/
def hexText (digits : Nat) : String :=
  "whitespace_sensitivity = 0x" ++ String.ofList (List.replicate digits 'f') ++ "\n"

def hexNumber (digits : Nat) : Int := (Nat.pow 16 digits - 1 : Nat)

def hexMode (digits : Nat) : Value := .int (hexNumber digits)

def hexReader (digits : Nat) : DocumentReader :=
  readerOf [(hexText digits, [(modeKey, hexMode digits)])]

def single (bytes : List UInt8) : Disk where
  home := "/srv"
  contents := [(["mode.toml"], .file bytes)]
  working := []

def hexDisk (digits : Nat) : Disk := single (Text.ascii (hexText digits))

def hexFile : Path := .ofString "mode.toml"

theorem literal_hexMode : (hexMode 3600).literal = .error .longInteger := by
  have long : Value.isLong (hexNumber 3600) = true := by decide +kernel
  rw [Value.literal, hexMode, Value.literalWithin, Value.intLiteral, if_pos long]

theorem bytes_single (bytes : List UInt8) : (candidateOf (single bytes) hexFile).bytes = .ok bytes := by
  rfl

section Digits

variable (digits : Nat)

theorem plain_hexText : ∀ c ∈ (hexText digits).toList, Text.IsPlain c := by
  have key : ∀ c ∈ "whitespace_sensitivity = 0x".toList, Text.IsPlain c := by simp [Text.IsPlain]
  have number : ∀ c ∈ (String.ofList (List.replicate digits 'f')).toList, Text.IsPlain c := by
    intro c member
    rw [String.toList_ofList] at member
    rw [List.eq_of_mem_replicate member]
    decide
  have ending : ∀ c ∈ "\n".toList, Text.IsPlain c := by simp [Text.IsPlain]
  exact Text.isPlain_append (Text.isPlain_append key number) ending

theorem settings_hexFile :
    settings (hexReader digits) (candidateOf (hexDisk digits) hexFile) =
      .ok (some [(modeKey, hexMode digits)]) := by
  have holds : HoldsText (candidateOf (hexDisk digits) hexFile) (hexText digits) :=
    ⟨_, bytes_single _, Text.readText_ascii (plain_hexText digits)⟩
  have parsed : hexReader digits (hexText digits) = .ok [(modeKey, hexMode digits)] := by
    simp only [hexReader, readerOf, List.lookup_cons, beq_self_eq_true]
  have own : (candidateOf (hexDisk digits) hexFile).name ≠ sharedName := by
    show hexFile.name ≠ sharedName
    decide
  rw [settings_of_contents (contents_of_fields ⟨_, holds, parsed⟩), if_neg own]

variable {digits} {cause : Value.LiteralError}

theorem merged_hexFile (lost : (hexMode digits).literal = .error cause) :
    merged (hexReader digits) .defaults [candidateOf (hexDisk digits) hexFile] = .error (.unwritable cause) := by
  have refused : draftOf ⟨some hexFile.text, [(modeKey, hexMode digits)]⟩ = .error (.unwritable cause) :=
    draftOf_eq_error_iff.mpr (.inr ⟨cause, rfl, hexMode digits, rfl, lost⟩)
  have failed : draftIn (hexReader digits) (candidateOf (hexDisk digits) hexFile) = .error (.unwritable cause) := by
    rw [draftIn, settings_hexFile]
    show (draftOf ⟨some hexFile.text, [(modeKey, hexMode digits)]⟩).map some = _
    rw [refused]
    rfl
  exact map_eq_error_iff.mpr (mapM_eq_error_iff.mpr ⟨[], _, [], rfl, failed, nofun⟩)

theorem loadMerged_hexFile (anchored : Anchored (hexDisk digits) (.ofString ".") [])
    (sound : SoundUpward (hexReader digits) (hexDisk digits) [])
    (nothing : discovered (hexReader digits) (hexDisk digits) [] = [])
    (lost : (hexMode digits).literal = .error cause) :
    (Log.runLogged (loadMerged (hexReader digits) (hexDisk digits) (.ofString ".") [hexFile] false)).2 =
      .error (.unwritable cause) := by
  have outcome := (gives_loadMerged [hexFile] false (gives_discovered anchored sound)).outcome
  rw [nothing] at outcome
  exact outcome.trans (merged_hexFile lost)

end Digits

/-- The mode is no word, and the refusal that says so is lost. -/
theorem not_loaded_hexFile :
    Anchored (hexDisk 3600) (.ofString ".") [] ∧ SoundUpward (hexReader 3600) (hexDisk 3600) [] ∧
      Sound (hexReader 3600) (candidateOf (hexDisk 3600) hexFile) ∧
      ∀ draft e,
        (Log.runLogged (loadMerged (hexReader 3600) (hexDisk 3600) (.ofString ".") [hexFile] false)).2 ≠
            .ok draft ∧
          (Log.runLogged (loadMerged (hexReader 3600) (hexDisk 3600) (.ofString ".") [hexFile] false)).2 ≠
            .error (.refused e) := by
  have anchored : Anchored (hexDisk 3600) (.ofString ".") [] :=
    ⟨by decide +kernel, [], by decide +kernel, by decide +kernel⟩
  have sound : SoundUpward (hexReader 3600) (hexDisk 3600) [] := by decide +kernel
  have nothing : discovered (hexReader 3600) (hexDisk 3600) [] = [] := by decide +kernel
  have lost := loadMerged_hexFile anchored sound nothing literal_hexMode
  refine ⟨anchored, sound, sound_of_settings (settings_hexFile 3600), fun draft e => ?_⟩
  rw [lost]
  exact ⟨nofun, nofun⟩

end TemplateSpacing.Config
