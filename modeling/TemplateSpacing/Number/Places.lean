import TemplateSpacing.Number.Double

/-! # Doubles with a set number of places

The exact value of a double, rounded to a place and written with a point there: after all of it, with
an exponent, or in the one of these two forms that suits its size.  Ties go to the even neighbour.
-/

set_option autoImplicit false

namespace TemplateSpacing.Number.Double

def size : Double → Nat × Nat
  | .finite _ digits exponent =>
    let (num, den) := scaled digits 10 exponent
    match if digits = 0 then none else nearest num den with
    | some b => scaled b.mantissa 2 b.power
    | none => (0, 1)
  | _ => (0, 1)

def isNegative : Double → Bool
  | .nan => false
  | .infinite negative => negative
  | .finite negative _ _ => negative

def truncated (d : Double) : Int :=
  let (num, den) := d.size
  if d.isNegative then -(num / den : Nat) else (num / den : Nat)

/-! ## Layouts -/

inductive Layout
  | fixed
  | scientific
  | general
deriving DecidableEq, Repr

/-- Digits with a point in front of the last `places` of them; the point is kept without places only
if that is wanted. -/
def withPoint (keepsPoint : Bool) (places digits : Nat) : List Char :=
  let ds := Nat.toDigits 10 digits
  let padded := List.replicate (places + 1 - ds.length) '0' ++ ds
  let whole := padded.take (padded.length - places)
  if places = 0 then (if keepsPoint then whole ++ ['.'] else whole)
  else whole ++ '.' :: padded.drop (padded.length - places)

def withoutFinalZeros (cs : List Char) : List Char :=
  if cs.contains '.' then
    let kept := cs.reverse.dropWhile (· = '0')
    (if kept.head? = some '.' then kept.drop 1 else kept).reverse
  else cs

/-- A fraction rounded to one digit in front of the point and some places after it: its digits, and
the power of ten that belongs to the first of them. -/
def leadingDigits (places num den : Nat) : Nat × Int :=
  if num = 0 then (0, 0)
  else
    let order := decimalOrder num den
    let (n, d) := scaled 1 10 (places - order)
    let digits := roundQuotient (num * n) (den * d)
    if digits = Nat.pow 10 (places + 1) then (digits / 10, order + 1) else (digits, order)

def exponentText (e : Int) : List Char :=
  let ds := Nat.toDigits 10 e.natAbs
  'e' :: (if e < 0 then '-' else '+') :: (if ds.length < 2 then '0' :: ds else ds)

/-- A fraction in a layout.  The general one counts all digits, not places alone; it writes an
exponent below `10 ^ -4` and from as many whole digits on as there are digits, and keeps zeros at the
end only if the point is kept. -/
def layOut (keepsPoint : Bool) (places num den : Nat) : Layout → List Char
  | .fixed => withPoint keepsPoint places (roundQuotient (num * Nat.pow 10 places) den)
  | .scientific =>
    let (digits, order) := leadingDigits places num den
    withPoint keepsPoint places digits ++ exponentText order
  | .general =>
    let after := places - 1
    let (digits, order) := leadingDigits after num den
    let trim := if keepsPoint then id else withoutFinalZeros
    if leastPositional ≤ order && order ≤ after then
      trim (withPoint keepsPoint (after - order).toNat digits)
    else trim (withPoint keepsPoint after digits) ++ exponentText order

def placed (layout : Layout) (keepsPoint : Bool) (places : Nat) : Double → String
  | .nan => "nan"
  | .infinite _ => "inf"
  | d =>
    let (num, den) := d.size
    String.ofList (layOut keepsPoint places num den layout)

end TemplateSpacing.Number.Double
