import TemplateSpacing.Files.Path
import TemplateSpacing.Text.Quoted

/-! # Disks

The files under one directory, the home, and what is found when a path is looked up from a working
directory.  A location is the list of parts from the home on; nothing is known above the home.
-/

set_option autoImplicit false

namespace TemplateSpacing.Files

abbrev Location := List String

/-- What is at a location.  A closed file may not be read, and nothing may be looked up in a closed
directory. -/
inductive Content
  | file (bytes : List UInt8)
  | closedFile
  | directory
  | closedDirectory
deriving DecidableEq, Repr

structure Disk where
  home : String
  contents : List (Location × Content)
  working : Location

inductive FileError
  | missing
  | notDirectory
  | isDirectory
  | nameTooLong
  | permission
  | embeddedNull
deriving DecidableEq, Repr

def FileError.message (path : String) : FileError → String
  | .missing => "[Errno 2] No such file or directory: " ++ Text.quoted path
  | .notDirectory => "[Errno 20] Not a directory: " ++ Text.quoted path
  | .permission => "[Errno 13] Permission denied: " ++ Text.quoted path
  | .isDirectory => "[Errno 21] Is a directory: " ++ Text.quoted path
  | .nameTooLong => "[Errno 36] File name too long: " ++ Text.quoted path
  | .embeddedNull => "embedded null byte"

/-- Whether an error tells that nothing is there; the others leave it open. -/
def FileError.tellsAbsence : FileError → Bool
  | .nameTooLong => false
  | .permission => false
  | _ => true

namespace Content

def isFile : Content → Bool
  | .file _ => true
  | .closedFile => true
  | _ => false

def read : Content → Except FileError (List UInt8)
  | .file bytes => .ok bytes
  | .closedFile => .error .permission
  | _ => .error .isDirectory

end Content

def longestName : Nat := 255

def longestPath : Nat := 4095

namespace Disk

/-- What is at a location; directories that something is in need no entry of their own. -/
def at? (disk : Disk) (location : Location) : Option Content :=
  match disk.contents.lookup location with
  | some content => some content
  | none =>
    if location.isEmpty || disk.contents.any fun entry => location.isPrefixOf entry.1 then
      some .directory
    else none

def stays (part : String) : Bool :=
  part = "" || part = "."

/-- What parts lead to from a directory above the home: only directories are known there. -/
def followAbove : List String → Except FileError Content
  | [] => .ok .directory
  | part :: rest =>
    if stays part || part = ".." then followAbove rest
    else if longestName < part.utf8ByteSize then .error .nameTooLong
    else .error .missing

def follow (disk : Disk) : Location → List String → Except FileError Content
  | location, [] =>
    match disk.at? location with
    | some content => .ok content
    | none => .error .missing
  | location, part :: rest =>
    match disk.at? location with
    | none => .error .missing
    | some (.file _) => .error .notDirectory
    | some .closedFile => .error .notDirectory
    | some .closedDirectory =>
      if part = "" then disk.follow location rest else .error .permission
    | some .directory =>
      if stays part then disk.follow location rest
      else if part = ".." then
        if location.isEmpty then followAbove rest else disk.follow location.dropLast rest
      else if longestName < part.utf8ByteSize then .error .nameTooLong
      else disk.follow (location ++ [part]) rest

def belowHome? (disk : Disk) (parts : List String) : Option (List String) :=
  let home := (Path.ofString disk.home).parts
  if home.isPrefixOf parts then some (parts.drop home.length) else none

/-- What the parts of a text lead to, from the working directory on or, if they are absolute, from the
top.  A null character in the text, and then the length of all of it, is noticed first. -/
def followFrom (disk : Disk) (text : String) (isAbsolute : Bool) (parts : List String) :
    Except FileError Content :=
  if text.toList.contains '\x00' then .error .embeddedNull
  else if longestPath < text.utf8ByteSize then .error .nameTooLong
  else if !isAbsolute then disk.follow disk.working parts
  else
    match disk.belowHome? parts with
    | some rest => disk.follow [] rest
    | none => followAbove parts

def find (disk : Disk) (path : Path) : Except FileError Content :=
  disk.followFrom path.text path.isAbsolute path.parts

/-- What a path leads to exactly as it is written: the empty text leads nowhere, and what comes before
a slash must be a directory. -/
def findWritten (disk : Disk) (text : String) : Except FileError Content :=
  if text = "" then .error .missing
  else
    let isAbsolute := (Path.ofString text).isAbsolute
    let parts := Path.splitParts [] text.toList
    disk.followFrom text isAbsolute (if isAbsolute then parts.dropWhile (· = "") else parts)

def found? (lookup : Except FileError Content) : Except FileError (Option Content) :=
  match lookup with
  | .ok content => .ok (some content)
  | .error e => if e.tellsAbsence then .ok none else .error e

def exists? (disk : Disk) (path : Path) : Except FileError Bool :=
  (found? (disk.find path)).map Option.isSome

def read (disk : Disk) (path : Path) : Except FileError (List UInt8) :=
  (disk.find path).bind Content.read

/-- The location that a path stands for, whether or not anything is there; none above the home. -/
def resolve? (disk : Disk) (path : Path) : Option Location :=
  let descend := fun (location : Location) (part : String) =>
    if part = ".." then (if location.isEmpty then none else some location.dropLast)
    else some (location ++ [part])
  if path.isAbsolute then (disk.belowHome? path.parts).bind fun rest => rest.foldlM descend []
  else path.parts.foldlM descend disk.working

def textOf (disk : Disk) (location : Location) : String :=
  "/".intercalate (disk.home :: location)

def findAt (disk : Disk) (location : Location) : Except FileError Content :=
  if longestPath < (disk.textOf location).utf8ByteSize then .error .nameTooLong
  else disk.follow [] location

def isFileAt (disk : Disk) (location : Location) : Except FileError Bool :=
  (found? (disk.findAt location)).map fun content => content.any Content.isFile

def readAt (disk : Disk) (location : Location) : Except FileError (List UInt8) :=
  (disk.findAt location).bind Content.read

def directoryOf (disk : Disk) (location : Location) : Except FileError Location :=
  (disk.isFileAt location).map fun isFile => if isFile then location.dropLast else location

end Disk

end TemplateSpacing.Files
