/-! # Display values

How white space next to a box with a given display behaves.  Block-like boxes swallow the white space
at their edges; an inline block does so inside and not outside; everything else is inline.  Content
that is not rendered is for the callers to see to.
-/

set_option autoImplicit false

namespace TemplateSpacing.Css

def startsWith (word text : String) : Bool :=
  word.toList.isPrefixOf text.toList

/-- Whether boxes with a display swallow the white space around them. -/
def isBlockLike (display : String) : Bool :=
  display = "block" || display = "list-item" || startsWith "table" display

/-- Whether white space before the first child and after the last one matters inside a parent with a
display. -/
def edgeMatters (display : String) : Bool :=
  !isBlockLike display && display ≠ "inline-block"

def besideMatters (display : String) : Bool :=
  !isBlockLike display

def onlyContentMatters (display : String) : Bool :=
  display ≠ "none" && !isBlockLike display && display ≠ "inline-block"

def isVerbatim (whiteSpace : String) : Bool :=
  startsWith "pre" whiteSpace

end TemplateSpacing.Css
