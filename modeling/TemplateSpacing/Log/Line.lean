import TemplateSpacing.Log.Level

/-! # Log lines

The line that a record is written as, coloured by its level.  A colour that the message closes itself
is opened again, what stands between two resets of all styles on one line is left alone, and no colour
reaches across a line feed.
-/

set_option autoImplicit false

namespace TemplateSpacing.Log

def plainLine (level : Int) (message : String) : String :=
  "[" ++ levelName level ++ "] " ++ message

structure Layer where
  opening : List Char
  closing : List Char

def layer (opening closing : String) : Layer :=
  ⟨("\x1b[" ++ opening ++ "m").toList, ("\x1b[" ++ closing ++ "m").toList⟩

def layersFor (level : Int) : List Layer :=
  if 50 ≤ level then [layer "91" "39"]
  else if 40 ≤ level then [layer "31" "39"]
  else if 30 ≤ level then [layer "33" "39"]
  else if 20 ≤ level then [layer "32" "39"]
  else if 10 ≤ level then [layer "90" "39"]
  else if 5 ≤ level then [layer "34" "39"]
  else [layer "2" "22", layer "31" "39"]

/-- The characters with every occurrence of a pattern replaced, after leaving out some of them. -/
def replacedFrom (pattern image : List Char) : Nat → List Char → List Char
  | _, [] => []
  | skip + 1, _ :: rest => replacedFrom pattern image skip rest
  | 0, c :: rest =>
    if !pattern.isEmpty && pattern.isPrefixOf (c :: rest) then
      image ++ replacedFrom pattern image (pattern.length - 1) rest
    else c :: replacedFrom pattern image 0 rest

def reopened (cs : List Char) (l : Layer) : List Char :=
  replacedFrom l.closing (l.closing ++ l.opening) 0 cs

def resetSequence : List Char := "\x1b[0m".toList

/-- The characters up to the end of the next reset, and those after it; none when there is no reset on
the line. -/
def throughReset? : List Char → Option (List Char × List Char)
  | [] => none
  | c :: rest =>
    if resetSequence.isPrefixOf (c :: rest) then
      some (resetSequence, rest.drop (resetSequence.length - 1))
    else if c = '\n' then none
    else (throughReset? rest).map fun (inside, after) => (c :: inside, after)

/-- The characters with all layers closed before each reset that has a partner on its line, and opened
after the partner; fuel bounds their number. -/
def aroundResets (closing opening : List Char) : Nat → List Char → List Char
  | 0, cs => cs
  | _, [] => []
  | fuel + 1, c :: rest =>
    let after := rest.drop (resetSequence.length - 1)
    match if resetSequence.isPrefixOf (c :: rest) then throughReset? after else none with
    | some (inside, left) =>
      closing ++ resetSequence ++ inside ++ opening ++ aroundResets closing opening fuel left
    | none => c :: aroundResets closing opening fuel rest

def aroundLines (closing opening : List Char) : List Char → List Char
  | [] => []
  | '\r' :: '\n' :: rest => closing ++ '\r' :: '\n' :: opening ++ aroundLines closing opening rest
  | '\n' :: rest => closing ++ '\n' :: opening ++ aroundLines closing opening rest
  | c :: rest => c :: aroundLines closing opening rest

def layered (layers : List Layer) (text : String) : String :=
  let opening := layers.flatMap Layer.opening
  let closing := layers.flatMap Layer.closing
  let body := layers.reverse.foldl reopened text.toList
  let body := aroundResets closing opening body.length body
  String.ofList (opening ++ aroundLines closing opening body ++ closing)

def line (colored : Bool) (level : Int) (message : String) : String :=
  let plain := plainLine level message
  if colored then layered (layersFor level) plain else plain

/-! ## Setup -/

def leastBriefLevel : Int := 20

def briefFormat : String := "[%(levelname)s] %(message)s"

def detailedFormat : String := "[%(levelname)s] [%(filename)s:%(lineno)d] [%(funcName)s] %(message)s"

structure Setup where
  level : Int
  format : String
deriving DecidableEq, Repr

def setupAt (level : Int) : Setup :=
  ⟨level, if leastBriefLevel ≤ level then briefFormat else detailedFormat⟩

/-- The setup for a given level, or else for the one that a setting asks for; a setting that asks
for nothing, or for level zero, leaves critical records alone. -/
def setup (level : Option Int) (setting : String) : Except LevelError Setup :=
  match level with
  | some level => .ok (setupAt level)
  | none =>
    (requestedLevel setting).map fun asked =>
      let chosen := asked.getD 0
      setupAt (if chosen = 0 then Severity.critical.level else chosen)

end TemplateSpacing.Log
