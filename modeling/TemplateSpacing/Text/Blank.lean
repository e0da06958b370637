/-! # Blank characters

The white space of template text, and the one division of a text that every pass relies on: leading
blanks, content, trailing blanks.  The blank test, the trimmed text and the division agree because
all three are built from `isBlank`.
-/

set_option autoImplicit false

namespace TemplateSpacing.Text

/-- Unicode white space together with the four information separators. -/
def isBlank (c : Char) : Bool :=
  let n := c.toNat
  (9 ≤ n && n ≤ 13) || (28 ≤ n && n ≤ 32) || n == 0x85 || n == 0xA0 || n == 0x1680 ||
    (0x2000 ≤ n && n ≤ 0x200A) || n == 0x2028 || n == 0x2029 || n == 0x202F || n == 0x205F ||
    n == 0x3000

def trimStart (cs : List Char) : List Char :=
  cs.dropWhile isBlank

def trimEnd (cs : List Char) : List Char :=
  (cs.reverse.dropWhile isBlank).reverse

def trim (cs : List Char) : List Char :=
  trimEnd (trimStart cs)

structure Division where
  lead : List Char
  content : List Char
  trail : List Char
deriving DecidableEq, Repr

/-- The division of a text.  The lead is the longest blank start, so an all-blank text is lead
alone. -/
def divide (cs : List Char) : Division where
  lead := cs.takeWhile isBlank
  content := trim cs
  trail := ((trimStart cs).reverse.takeWhile isBlank).reverse

def isAllBlank (s : String) : Bool :=
  s.toList.all isBlank

def strip (s : String) : String :=
  String.ofList (trim s.toList)

def stripEnd (s : String) : String :=
  String.ofList (trimEnd s.toList)

theorem divide_append (cs : List Char) :
    (divide cs).lead ++ (divide cs).content ++ (divide cs).trail = cs := by
  have rest : trim cs ++ ((trimStart cs).reverse.takeWhile isBlank).reverse = trimStart cs := by
    rw [trim, trimEnd, ← List.reverse_append, List.takeWhile_append_dropWhile, List.reverse_reverse]
  simp only [divide, List.append_assoc]
  rw [rest]
  exact List.takeWhile_append_dropWhile

end TemplateSpacing.Text
