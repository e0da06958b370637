/-! # Paths

A path as it is written, without empty and `.` parts.  Two leading slashes are kept, any other number
of them counts as one.
-/

set_option autoImplicit false

namespace TemplateSpacing.Files

structure Path where
  root : String
  parts : List String
deriving DecidableEq, Repr

namespace Path

/-- The parts between the slashes of a text; what has been read of the current part is reversed. -/
def splitParts : List Char → List Char → List String
  | current, [] => [String.ofList current.reverse]
  | current, c :: rest =>
    if c = '/' then String.ofList current.reverse :: splitParts [] rest
    else splitParts (c :: current) rest

def ofString (text : String) : Path where
  root :=
    match (text.toList.takeWhile (· = '/')).length with
    | 0 => ""
    | 2 => "//"
    | _ => "/"
  parts := (splitParts [] text.toList).filter fun part => part ≠ "" && part ≠ "."

def isAbsolute (path : Path) : Bool :=
  path.root ≠ ""

def text (path : Path) : String :=
  if path.root = "" && path.parts.isEmpty then "." else path.root ++ "/".intercalate path.parts

/-- Whether a path can be that of a file: no file has a null character in its path. -/
def isUsable (path : Path) : Bool :=
  path.parts.all fun part => !part.toList.contains '\x00'

def name (path : Path) : String :=
  path.parts.getLast?.getD ""

end Path

end TemplateSpacing.Files
