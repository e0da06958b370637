/-! # Double-precision numbers by their shortest decimals

Two doubles are equal exactly when their shortest decimals are, so a double is kept as the shortest
decimal that reads back as it.  `ofDecimal` rounds a decimal to the nearest double, ties to even,
and finds that shortest decimal; all arithmetic is exact.
-/

set_option autoImplicit false

namespace TemplateSpacing.Number

/-- A double: no number, an infinity, or the shortest decimal `digits * 10 ^ exponent`, whose digits
do not end in a zero unless the number is zero. -/
inductive Double
  | nan
  | infinite (negative : Bool)
  | finite (negative : Bool) (digits : Nat) (exponent : Int)
deriving DecidableEq, Repr

namespace Double

/-! ## Rounding to a binary fraction -/

/-- A positive binary fraction `mantissa * 2 ^ power`. -/
structure Binary where
  mantissa : Nat
  power : Int
deriving DecidableEq, Repr

def roundQuotient (num den : Nat) : Nat :=
  let q := num / den
  let r := num % den
  if 2 * r < den then q else if den < 2 * r then q + 1 else if q % 2 = 0 then q else q + 1

def scaled (n base : Nat) (e : Int) : Nat × Nat :=
  if 0 ≤ e then (n * base.pow e.toNat, 1) else (n, base.pow (-e).toNat)

def leastPower : Int := -1074

def greatestPower : Int := 971

/-- The largest `k` with `2 ^ k ≤ num / den`, for a positive fraction. -/
def binaryOrder (num den : Nat) : Int :=
  let guess : Int := (num.log2 : Int) - (den.log2 : Int)
  let (n, d) :=
    if 0 ≤ guess then (num, den * Nat.pow 2 guess.toNat)
    else (num * Nat.pow 2 (-guess).toNat, den)
  if d ≤ n then guess else guess - 1

/-- The double nearest to a positive fraction, ties to even; none when it is infinite. -/
def nearest (num den : Nat) : Option Binary :=
  let power := max (binaryOrder num den - 52) leastPower
  let (n, d) :=
    if 0 ≤ power then (num, den * Nat.pow 2 power.toNat)
    else (num * Nat.pow 2 (-power).toNat, den)
  let mantissa := roundQuotient n d
  let result : Binary :=
    if mantissa = Nat.pow 2 53 then ⟨Nat.pow 2 52, power + 1⟩ else ⟨mantissa, power⟩
  if greatestPower < result.power then none else some result

/-! ## The shortest decimal -/

/-- Whether a fraction lies in the interval of numbers that are rounded to a double.  The ends
belong to it exactly when the mantissa is even.  Everything is compared in quarters of the last
place. -/
def roundsTo (b : Binary) (num den : Nat) : Bool :=
  let lower := if b.mantissa = Nat.pow 2 52 && leastPower < b.power then 4 * b.mantissa - 1
    else 4 * b.mantissa - 2
  let upper := 4 * b.mantissa + 2
  let (scaledNum, scaledDen) :=
    if 0 ≤ b.power then (4 * num, den * Nat.pow 2 b.power.toNat)
    else (4 * num * Nat.pow 2 (-b.power).toNat, den)
  if b.mantissa % 2 = 0 then lower * scaledDen ≤ scaledNum && scaledNum ≤ upper * scaledDen
  else lower * scaledDen < scaledNum && scaledNum < upper * scaledDen

def decimalOrderFrom (num den : Nat) : Nat → Int → Int
  | 0, k => k
  | fuel + 1, k =>
    let (n, d) := scaled 1 10 k
    if n * den ≤ num * d then k else decimalOrderFrom num den fuel (k - 1)

def decimalOrder (num den : Nat) : Int :=
  let bound := binaryOrder num den * 30103 / 100000 + 1
  decimalOrderFrom num den 4 bound

/-- The decimal with its last place at `10 ^ place` that is nearest to a fraction among those that
round to the double, ties to even. -/
def gridPoint? (b : Binary) (num den : Nat) (place : Int) : Option Nat :=
  let (n, d) :=
    if 0 ≤ place then (num, den * Nat.pow 10 place.toNat)
    else (num * Nat.pow 10 (-place).toNat, den)
  let below := n / d
  let above := below + 1
  let fits := fun digits =>
    let (p, q) := scaled digits 10 place
    digits ≠ 0 && roundsTo b p q
  let nearer := roundQuotient n d
  let farther := if nearer = below then above else below
  if fits nearer then some nearer else if fits farther then some farther else none

def shortestFrom (b : Binary) (num den : Nat) : Nat → Int → Nat × Int
  | 0, place => (roundQuotient num den, place)
  | fuel + 1, place =>
    match gridPoint? b num den place with
    | some digits => (digits, place)
    | none => shortestFrom b num den fuel (place - 1)

def dropZeros : Nat → Nat → Int → Nat × Int
  | 0, digits, e => (digits, e)
  | fuel + 1, digits, e =>
    if digits ≠ 0 && digits % 10 = 0 then dropZeros fuel (digits / 10) (e + 1) else (digits, e)

def shortest (b : Binary) : Nat × Int :=
  let (num, den) := scaled b.mantissa 2 b.power
  let (digits, place) := shortestFrom b num den 18 (decimalOrder num den + 1)
  dropZeros 20 digits place

def ofDecimal (negative : Bool) (digits : Nat) (exponent : Int) : Double :=
  let magnitude : Int := (Nat.toDigits 10 digits).length + exponent
  if digits = 0 || magnitude < -400 then .finite negative 0 0
  else if 400 < magnitude then .infinite negative
  else
    let (num, den) := scaled digits 10 exponent
    match nearest num den with
    | none => .infinite negative
    | some ⟨0, _⟩ => .finite negative 0 0
    | some b =>
      let (d, e) := shortest b
      .finite negative d e

/-! ## Written form -/

def isZero : Double → Bool
  | .finite _ 0 _ => true
  | _ => false

/-- Positional notation is used from `10 ^ leastPositional` up to, and without, `10 ^ 16`. -/
def leastPositional : Int := -4

def leastScientific : Int := 16

/-- The digits of a positive number in positional or scientific notation.  A whole number keeps
`.0`, and an exponent has a sign and at least two digits. -/
def unsignedText (digits : Nat) (exponent : Int) : String :=
  let ds := Nat.toDigits 10 digits
  let order : Int := ds.length - 1 + exponent
  if digits = 0 then "0.0"
  else if order < leastPositional || leastScientific ≤ order then
    let fraction := if ds.length = 1 then [] else '.' :: ds.drop 1
    let e := Nat.toDigits 10 order.natAbs
    let padded := if e.length < 2 then '0' :: e else e
    String.ofList (ds.take 1 ++ fraction ++ 'e' :: (if order < 0 then '-' else '+') :: padded)
  else if 0 ≤ exponent then
    String.ofList (ds ++ List.replicate exponent.toNat '0' ++ ['.', '0'])
  else if 0 ≤ order then
    let whole := (order + 1).toNat
    String.ofList (ds.take whole ++ '.' :: ds.drop whole)
  else
    String.ofList ('0' :: '.' :: List.replicate (-order - 1).toNat '0' ++ ds)

def textWith (infinity noNumber : String) : Double → String
  | .nan => noNumber
  | .infinite negative => (if negative then "-" else "") ++ infinity
  | .finite negative digits exponent =>
    (if negative then "-" else "") ++ unsignedText digits exponent

def text : Double → String :=
  textWith "inf" "nan"

end Double

end TemplateSpacing.Number
