/-! # Wrapped lines

A text is broken into lines between its words.  Every line takes as many words as fit into the width;
the gap at a break is dropped, and a word that is too long has a line of its own.
-/

set_option autoImplicit false

namespace TemplateSpacing.Text

structure SpacedWord where
  gap : Nat
  word : List Char
deriving DecidableEq, Repr

/-- The words of a text, given the gap and the letters, reversed, that have been read of the current
one. -/
def spacedWordsFrom : Nat → List Char → List Char → List SpacedWord
  | gap, letters, [] => if letters.isEmpty then [] else [⟨gap, letters.reverse⟩]
  | gap, letters, c :: rest =>
    if c = ' ' then
      if letters.isEmpty then spacedWordsFrom (gap + 1) [] rest
      else ⟨gap, letters.reverse⟩ :: spacedWordsFrom 1 [] rest
    else spacedWordsFrom gap (c :: letters) rest

def fill (width : Nat) : List Char → List SpacedWord → List (List Char)
  | line, [] => [line]
  | line, next :: rest =>
    if line.length + next.gap + next.word.length ≤ width then
      fill width (line ++ List.replicate next.gap ' ' ++ next.word) rest
    else line :: fill width next.word rest

def wrap (width : Nat) (text : String) : List String :=
  match spacedWordsFrom 0 [] text.toList with
  | [] => []
  | first :: rest => (fill width first.word rest).map String.ofList

end TemplateSpacing.Text
