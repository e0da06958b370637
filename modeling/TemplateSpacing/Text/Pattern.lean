import TemplateSpacing.Text.Blank

/-! # Patterns and the search for them

A pattern is a sequence of pieces: runs of characters, words, and the end of the text.  The search takes the
longest run first and goes back to shorter ones when the rest of the pattern does not fit behind it.
-/

set_option autoImplicit false

namespace TemplateSpacing.Text

/-- A piece of a pattern: a run of characters that pass a test, at least so many of them; a word; or the end
of the text, before which one line break may stand. -/
inductive Atom
  | run (test : Char → Bool) (least : Nat)
  | word (chars : List Char)
  | ending

/-- The lengths that a run at the start of a text may have, the longest first. -/
def runLengths (test : Char → Bool) (least : Nat) (cs : List Char) : List Nat :=
  (List.range' least ((cs.takeWhile test).length + 1 - least)).reverse

def attempt : List Atom → List Char → Option (List (List Char))
  | [], _ => some []
  | .run test least :: pieces, cs =>
    (runLengths test least cs).findSome? fun count =>
      (attempt pieces (cs.drop count)).map (cs.take count :: ·)
  | .word chars :: pieces, cs =>
    if chars.isPrefixOf cs then (attempt pieces (cs.drop chars.length)).map (chars :: ·) else none
  | .ending :: pieces, cs =>
    if cs = [] ∨ cs = ['\n'] then (attempt pieces cs).map ([] :: ·) else none

/-! ## Runs that make up a text -/

inductive Greed
  | longest
  | shortest

structure Run where
  test : Char → Bool
  greed : Greed

def Run.lengths (run : Run) (cs : List Char) : List Nat :=
  match run.greed with
  | .longest => runLengths run.test 0 cs
  | .shortest => (runLengths run.test 0 cs).reverse

def matchRuns : List Run → List Char → Option (List (List Char))
  | [], cs => if cs = [] then some [] else none
  | run :: runs, cs =>
    (run.lengths cs).findSome? fun count => (matchRuns runs (cs.drop count)).map (cs.take count :: ·)

def dividing : List Run :=
  [⟨isBlank, .longest⟩, ⟨fun _ => true, .shortest⟩, ⟨isBlank, .longest⟩]

end TemplateSpacing.Text
