import TemplateSpacing.Command.Switch
import TemplateSpacing.Text.Blank
import TemplateSpacing.Text.Wrap

/-! # Help

The help of a part of the command line: its usage, what it does, and tables of its switches and
commands.  Everything is wrapped to the width of the page.
-/

set_option autoImplicit false

namespace TemplateSpacing.Command

open TemplateSpacing.Text (wrap)

def pageWidth : Nat := 80

def margin : Nat := 2

def columnGap : Nat := 2

def widestLabel : Nat := 30

def spaces (n : Nat) : String :=
  String.ofList (List.replicate n ' ')

structure Row where
  label : String
  text : String
deriving DecidableEq, Repr

def secondColumn (rows : List Row) : Nat :=
  min ((rows.map fun row => row.label.length).foldl max 0) widestLabel + columnGap

/-- The lines of a row; a label that reaches into the second column has a line of its own. -/
def Row.lines (second : Nat) (row : Row) : List String :=
  let text := wrap (pageWidth - second - margin) row.text
  let continued := fun line => spaces (margin + second) ++ line
  if row.label.length + columnGap ≤ second then
    let gap := spaces (second - row.label.length)
    (spaces margin ++ row.label ++ gap ++ text.headD "") :: (text.drop 1).map continued
  else (spaces margin ++ row.label) :: text.map continued

def table (heading : String) (rows : List Row) : List String :=
  if rows.isEmpty then []
  else "" :: (heading ++ ":") :: rows.flatMap (Row.lines (secondColumn rows))

def paragraph (text : String) : List String :=
  "" :: (wrap (pageWidth - margin - margin) text).map fun line => spaces margin ++ line

def Switch.row (switch : Switch) : Row where
  label :=
    (match switch.letter? with
      | some letter => "-" ++ String.ofList [letter] ++ ", "
      | none => "") ++ switch.name ++
    (match switch.valueName? with
      | some value => " " ++ value
      | none => "")
  text := switch.summary

/-! ## Commands -/

def wordsOf (text : String) : List String :=
  (Text.spacedWordsFrom 0 [] text.toList).map fun spaced => String.ofList spaced.word

def joinWords (words : List String) : String :=
  " ".intercalate words

def dots : String := "..."

/-- The most words of a text, from the front on, that fit into a width together with dots. -/
def shortened (width : Nat) (words : List String) : String :=
  let fitting := (List.range words.length).reverse.find? fun count =>
    (joinWords (words.take count)).length + dots.length ≤ width
  joinWords (words.take (fitting.getD 0)) ++ dots

def brief (width : Nat) (text : String) : String :=
  let words := wordsOf text
  if (joinWords words).length ≤ width then joinWords words else shortened width words

def Verb.row (verb : Verb) : Row :=
  let widest := (Verb.all.map fun v => v.name.length).foldl max 0
  ⟨verb.name, brief (pageWidth - 3 * margin - widest) (Scope.verb verb).summary⟩

def Scope.commandRows : Scope → List Row
  | .program => Verb.all.map Verb.row
  | .verb _ => []

def Scope.usage (scope : Scope) : String :=
  "Usage: " ++ scope.path ++ " " ++ scope.usageTail

def Scope.help (scope : Scope) : List String :=
  scope.usage :: paragraph scope.summary ++ table "Options" (scope.switches.map Switch.row) ++
    table "Commands" scope.commandRows ++ (scope.closing?.map paragraph).getD []

end TemplateSpacing.Command
