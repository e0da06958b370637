import TemplateSpacing.Config.Literal
import TemplateSpacing.Config.Reading
import TemplateSpacing.Files.Disk
import TemplateSpacing.Log.Logged
import TemplateSpacing.Text.Utf8

/-! # Configuration files

Configuration files are looked for in a directory and in all directories above it, up to one with a
file that says it is the root.  The files are laid over the defaults from the outermost to the
nearest, and files that are given explicitly come last.  A file that cannot be found or read as a
document counts as empty.  What the documents say is left to a reader.
-/

set_option autoImplicit false

namespace TemplateSpacing.Config

open TemplateSpacing.Files (Path Disk Location FileError)
open TemplateSpacing.Log (Logged)

/-- Why a text is no document: it is malformed, or its reader fails in some other way, which has a
name. -/
inductive ReadError
  | malformed (detail : String)
  | failed (name : String)
deriving DecidableEq, Repr

abbrev DocumentReader := String → Except ReadError (Entries Value)

/-- Why no configuration can be made of files: a refused setting, or a refusal that cannot be written; a
path that cannot be looked up, bytes that are no text, a tool section that is no table, or a failure of
the reader. -/
inductive LoadFault
  | refused (e : ConfigError)
  | unwritable (e : Value.LiteralError)
  | unusable (e : FileError)
  | notText (e : Text.Utf8Error)
  | toolNotTable
  | unread (name : String)

def LoadFault.ofConfig : ConfigError → LoadFault
  | .unwritable e => .unwritable e
  | e => .refused e

def sharedName : String := "pyproject.toml"

def ownName : String := "spacemark.toml"

def toolKey : String := "tool"

def ownKey : String := "spacemark"

structure Candidate where
  shown : String
  name : String
  bytes : Except FileError (List UInt8)

def candidateAt (disk : Disk) (location : Location) : Candidate :=
  ⟨disk.textOf location, location.getLast?.getD "", disk.readAt location⟩

def candidateOf (disk : Disk) (path : Path) : Candidate :=
  ⟨path.text, path.name, disk.read path⟩

def ownSection (fields : Entries Value) : Logged LoadFault (Option (Entries Value)) :=
  match fields.find? toolKey with
  | none => return none
  | some (.table tools) => return (Entries.find? ownKey tools).bind Value.fields?
  | some _ => throw .toolNotTable

section Reading

variable (reader : DocumentReader)

/-- The fields of a document; none are in a file that cannot be found or read as a document. -/
def loadFields (file : Candidate) : Logged LoadFault (Entries Value) := do
  match file.bytes with
  | .error .embeddedNull => throw (.unusable .embeddedNull)
  | .error e =>
    Log.emit (Log.failed ("Error loading TOML from " ++ file.shown ++ ": " ++
      e.message file.shown))
    return []
  | .ok bytes =>
    match Text.readText bytes with
    | .error e => throw (.notText e)
    | .ok text =>
      match reader text with
      | .ok fields => return fields
      | .error (.malformed detail) =>
        Log.emit (Log.failed ("Error decoding TOML from " ++ file.shown ++ ": " ++ detail))
        return []
      | .error (.failed name) => throw (.unread name)

/-- The fields that configure this tool; none when the file is the shared one and has no section
for it. -/
def ownFields (file : Candidate) : Logged LoadFault (Option (Entries Value)) := do
  let fields ← loadFields reader file
  if file.name = sharedName then ownSection fields else return some fields

def loadFile (file : Candidate) : Logged LoadFault (Option Draft) := do
  Log.emit (Log.debugged ("Creating MutableConfig from TOML config: " ++ file.shown))
  match ← ownFields reader file with
  | none =>
    Log.emit (Log.debugged ("No [tool.spacemark] section in " ++ file.shown))
    return none
  | some fields =>
    let (reports, draft) := readDocument (some file.shown) fields
    let draft ← Log.ofRecords (reports, draft.mapError .ofConfig)
    return some draft

/-! ## Discovery -/

/-- The configuration files among some names in a directory, and whether one of them says that it
is the root. -/
def discoverIn (disk : Disk) (directory : Location) :
    List String → Logged LoadFault (List Location × Bool)
  | [] => return ([], false)
  | name :: names => do
    let location := directory ++ [name]
    match disk.isFileAt location with
    | .error e => throw (.unusable e)
    | .ok false => discoverIn disk directory names
    | .ok true =>
      match ← ownFields reader (candidateAt disk location) with
      | none => discoverIn disk directory names
      | some fields =>
        Log.emit (Log.debugged ("Discovered config file: " ++ disk.textOf location))
        let isRoot := (fields.find? rootKey).any Value.isTruthy
        let (others, rootAmongOthers) ← discoverIn disk directory names
        return (location :: others, isRoot || rootAmongOthers)

def discoverUpward (disk : Disk) : List Location → Logged LoadFault (List Location)
  | [] => return []
  | directory :: outer => do
    let (found, isRoot) ← discoverIn reader disk directory [sharedName, ownName]
    if isRoot then
      Log.emit (Log.debugged ("Stopping upward config discovery at " ++ disk.textOf directory ++
        " due to root=true"))
      return found
    else return (← discoverUpward disk outer) ++ found

def upward (directory : Location) : List Location :=
  (List.range (directory.length + 1)).reverse.map fun count => directory.take count

/-- The directories to search for a path, nearest first; none when it leads above the home. -/
def directoriesFor (disk : Disk) (start : Path) : Except FileError (List Location) :=
  if !start.isUsable then .error .embeddedNull
  else
    match disk.resolve? start with
    | none => .ok []
    | some location => (disk.directoryOf location).map upward

def discover (disk : Disk) (start : Path) : Logged LoadFault (List Location) :=
  match directoriesFor disk start with
  | .error e => throw (.unusable e)
  | .ok directories => discoverUpward reader disk directories

/-! ## Layers -/

def mergeFiles : Draft → List Candidate → Logged LoadFault Draft
  | draft, [] => return draft
  | draft, file :: rest => do
    match ← loadFile reader file with
    | some layer => mergeFiles (draft.merge layer) rest
    | none => mergeFiles draft rest

def loadMerged (disk : Disk) (start : Path) (explicit : List Path) (noDiscovery : Bool) :
    Logged LoadFault Draft := do
  let discovered ← if noDiscovery then pure [] else discover reader disk start
  let files := discovered.map (candidateAt disk) ++ explicit.map (candidateOf disk)
  let draft ← mergeFiles reader .defaults files
  Log.emit (Log.informed ("Merged config from " ++ toString draft.files.length ++ " file(s)"))
  return draft

def build (disk : Disk) (start : Path) (explicit : List Path) (noDiscovery : Bool)
    (mode : Option Mode) : Logged LoadFault Config := do
  let draft ← loadMerged reader disk start explicit noDiscovery
  let (draft, _) := draft.override (Overrides.ofMode mode)
  let config := draft.freeze
  Log.emit (Log.debugged ("Effective config: " ++ config.literal))
  return config

end Reading

end TemplateSpacing.Config
