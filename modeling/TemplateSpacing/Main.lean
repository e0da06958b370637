import TemplateSpacing.Command.Toolkit

/-! # The program

Collects the surroundings of a run from the system, writes what the run writes and ends as it ends.
Of the file system, only configuration files in the directories above and files that the arguments
name are looked at.
-/

set_option autoImplicit false

namespace TemplateSpacing.Command

open TemplateSpacing.Files (Disk Content Path Location)

def canLookUp (path : String) : IO Bool := do
  return (← EIO.toBaseIO (IO.FS.realPath path)).toOption.isSome

/-- What is at a place that may not be read: the directory that it is in may be the closed one. -/
def closedAt (location : Location) : IO (Location × Content) := do
  let path := "/" ++ "/".intercalate location
  if ← canLookUp (path ++ "/.") then return (location, .directory)
  else if ← canLookUp path then return (location, .closedFile)
  else return (location.dropLast, .closedDirectory)

def contentAt (location : Location) : IO (Option (Location × Content)) := do
  match ← EIO.toBaseIO (IO.FS.readBinFile ("/" ++ "/".intercalate location)) with
  | .ok bytes => return some (location, .file bytes.toList)
  | .error (.noFileOrDirectory _ _ _) => return none
  | .error (.permissionDenied _ _ _) => return some (← closedAt location)
  | .error _ => return some (location, .directory)

/-- The places that a run may look at: configuration files and whatever an argument may name. -/
def placesToLookAt (empty : Disk) (arguments : List String) : List Location :=
  let configured := (Config.upward empty.working).flatMap fun directory =>
    [directory ++ [Config.sharedName], directory ++ [Config.ownName]]
  let names := arguments ++ arguments.filterMap fun argument => (splitValue argument).2
  configured ++ names.filterMap fun name => empty.resolve? (Path.ofString name)

def surroundingDisk (arguments : List String) : IO Disk := do
  let working := (Path.ofString (toString (← IO.currentDir))).parts
  let empty : Disk := ⟨"", [(working, .directory)], working⟩
  let mut found := []
  for location in placesToLookAt empty arguments do
    if let some entry ← contentAt location then
      found := found ++ [entry]
  return { empty with contents := found ++ empty.contents }

def surroundingVariables : IO (Entries String) := do
  let mut environment : Entries String := []
  for name in [forceColorVariable, noColorVariable, levelVariable] do
    if let some value ← IO.getEnv name then
      environment := environment.put name value
  return environment

partial def readRest (stream : IO.FS.Stream) (read : ByteArray) : IO ByteArray := do
  let chunk ← stream.read 65536
  if chunk.isEmpty then return read else readRest stream (read ++ chunk)

def runProcess (arguments : List String) : IO UInt32 := do
  let stdout ← IO.getStdout
  let stderr ← IO.getStderr
  let surroundings : Surroundings := {
    arguments := arguments
    environment := ← surroundingVariables
    disk := ← surroundingDisk arguments
    input := []
    isTerminal := ← stdout.isTty }
  let input ← if readsInput toolkit surroundings then readRest (← IO.getStdin) ByteArray.empty
    else pure ByteArray.empty
  let finished := run toolkit { surroundings with input := input.toList }
  stdout.putStr finished.out
  stderr.putStr finished.err
  if let some breakdown := finished.breakdown then
    stderr.putStrLn breakdown.message
  return UInt32.ofNat finished.code

end TemplateSpacing.Command

def main (arguments : List String) : IO UInt32 :=
  TemplateSpacing.Command.runProcess arguments
