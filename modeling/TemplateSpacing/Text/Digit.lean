import TemplateSpacing.Text.Case
import TemplateSpacing.Text.DigitTable

/-! # Digits

Which characters are digits, the number that a run of decimal digits of any script denotes, and how
many digits a number may have.
-/

set_option autoImplicit false

namespace TemplateSpacing.Text

/-- The most decimal digits that an integer is read from or written with. -/
def longestInteger : Nat := 4300

def decimalValue? (c : Char) : Option Nat :=
  (decimalZeros.find? fun first => first ≤ c.toNat && c.toNat ≤ first + 9).map
    fun first => c.toNat - first

def isDigitLike (c : Char) : Bool :=
  (decimalValue? c).isSome || inRanges otherDigitRanges c.toNat

/-- The number that decimal digits denote, most significant first; none for other characters. -/
def decimalNumber? (cs : List Char) : Option Nat :=
  cs.foldlM (fun sum c => (decimalValue? c).map (10 * sum + ·)) 0

end TemplateSpacing.Text
