import TemplateSpacing.Text.CaseTable

/-! # Letter case

The full letter case mappings: a code point may be mapped to several, and a capital sigma becomes a
final sigma at the end of a word.
-/

set_option autoImplicit false

namespace TemplateSpacing.Text

def inRanges (ranges : List (Nat × Nat)) (n : Nat) : Bool :=
  ranges.any fun (first, last) => first ≤ n && n ≤ last

def runImage (runs : List CaseRun) (n : Nat) : Option Nat :=
  (runs.find? fun (first, last, step, _) => first ≤ n && n ≤ last && (n - first) % step == 0).map
    fun (first, _, _, image) => image + (n - first)

def mapCase (runs : List CaseRun) (expansions : List (Nat × List Nat)) (c : Char) : List Char :=
  match expansions.lookup c.toNat with
  | some images => images.map Char.ofNat
  | none =>
    match runImage runs c.toNat with
    | some image => [Char.ofNat image]
    | none => [c]

/-- The capital sigma, the one letter whose lower case depends on its neighbours. -/
def capitalSigma : Char := 'Σ'

def meetsCased (cs : List Char) : Bool :=
  match cs.dropWhile fun c => inRanges caseIgnorableRanges c.toNat with
  | [] => false
  | c :: _ => inRanges casedRanges c.toNat

/-- The lower case of a capital sigma between the characters before it, nearest first, and the
characters after it: final exactly when a cased letter comes before and none comes after. -/
def lowerSigma (before after : List Char) : Char :=
  if meetsCased before && !meetsCased after then 'ς' else 'σ'

/-- The lower case of the second list, whose characters come after those of the first one, which is
reversed. -/
def lowerAfter : List Char → List Char → List Char
  | _, [] => []
  | before, c :: rest =>
    let image :=
      if c = capitalSigma then [lowerSigma before rest]
      else if c.toNat < 128 then [c.toLower]
      else mapCase lowerRuns lowerExpansions c
    image ++ lowerAfter (c :: before) rest

def lower (s : String) : String :=
  String.ofList (lowerAfter [] s.toList)

def upper (s : String) : String :=
  String.ofList <| s.toList.flatMap fun c =>
    if c.toNat < 128 then [c.toUpper] else mapCase upperRuns upperExpansions c

end TemplateSpacing.Text
