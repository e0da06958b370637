import TemplateSpacing.Tree.Basic
import TemplateSpacing.Log.Record

/-! # Embedded content

The content of an element can be handed to a formatter of markup.  The line breaks that a formatter
puts at the end are dropped.
-/

set_option autoImplicit false

namespace TemplateSpacing

open TemplateSpacing.Tree

def embeddedDialect : String := "html"

def withoutFinalBreaks (text : String) : String :=
  String.ofList (text.toList.reverse.dropWhile fun c => c = '\r' || c = '\n').reverse

/-- The content of an element as it is handed to a formatter; none for other nodes. -/
def embeddedText? (printChild : Node → String) (node : Node) : Option String :=
  if node.label.kind.isElement then some (String.join (node.kids.map printChild)) else none

def embedReport (tag text : String) : Log.Record :=
  Log.debugged ("embed: formatting " ++ toString text.length ++ " char(s) of <" ++ tag ++ "> as " ++
    embeddedDialect)

def embed (printChild : Node → String) (format : String → String → String) (node : Node) :
    List Log.Record × Option String :=
  match node.label.kind.tag?, embeddedText? printChild node with
  | some tag, some text =>
    ([embedReport tag text], some (withoutFinalBreaks (format text embeddedDialect)))
  | _, _ => ([], none)

end TemplateSpacing
