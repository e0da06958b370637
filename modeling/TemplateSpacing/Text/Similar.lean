/-! # Similar texts

How similar two texts are: the longest run of characters that they share is matched, and what is left
on either side of it is compared in the same way.  The similarity is the share of matched characters
in both texts.
-/

set_option autoImplicit false

namespace TemplateSpacing.Text

def commonStart : List Char → List Char → Nat
  | a :: as, b :: bs => if a = b then commonStart as bs + 1 else 0
  | _, _ => 0

/-- A run that two lists share: its length, and where it starts in either list. -/
structure SharedRun where
  length : Nat
  left : Nat
  right : Nat
deriving DecidableEq, Repr

/-- The longest shared run that starts at the front of the first list, and the leftmost of several
ones. -/
def longestFromStart (left : Nat) (as : List Char) : Nat → List Char → SharedRun → SharedRun
  | _, [], best => best
  | right, b :: bs, best =>
    let length := commonStart as (b :: bs)
    longestFromStart left as (right + 1) bs
      (if best.length < length then ⟨length, left, right⟩ else best)

def longestShared (bs : List Char) : Nat → List Char → SharedRun → SharedRun
  | _, [], best => best
  | left, a :: as, best =>
    longestShared bs (left + 1) as (longestFromStart left (a :: as) 0 bs best)

/-- The number of matched characters of two lists; the fuel bounds the number of nested runs. -/
def matchedFrom : Nat → List Char → List Char → Nat
  | 0, _, _ => 0
  | fuel + 1, as, bs =>
    let run := longestShared bs 0 as ⟨0, 0, 0⟩
    if run.length = 0 then 0
    else
      run.length + matchedFrom fuel (as.take run.left) (bs.take run.right) +
        matchedFrom fuel (as.drop (run.left + run.length)) (bs.drop (run.right + run.length))

def matched (a b : String) : Nat :=
  matchedFrom (a.length + 1) a.toList b.toList

def isSimilar (a b : String) : Bool :=
  3 * (a.length + b.length) ≤ 10 * matched a b

def isCloser (word a b : String) : Bool :=
  let left := matched a word * (b.length + word.length)
  let right := matched b word * (a.length + word.length)
  right < left || (left = right && b ≤ a)

def mostOffered : Nat := 3

def closeTo (word : String) (candidates : List String) : List String :=
  ((candidates.filter fun candidate => isSimilar candidate word).mergeSort
    (isCloser word)).take mostOffered

end TemplateSpacing.Text
