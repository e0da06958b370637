import TemplateSpacing.Terminal.Style

/-! # Console

What a program says to its user: text on the output stream, warnings and errors on the error
stream.  A console without colour leaves out every style and removes escape sequences.
-/

set_option autoImplicit false

namespace TemplateSpacing.Terminal

structure Console where
  colored : Bool
  out : String
  err : String

namespace Console

def fresh (colored : Bool) : Console := ⟨colored, "", ""⟩

def styler (console : Console) : Styler :=
  if console.colored then escaped else unstyled

/-- A text in the style that entries describe; a console without colour does not look at them. -/
def styled (console : Console) (entries : Entries Value) (text : String) :
    Except StyleError String :=
  if console.colored then (Style.ofEntries entries).map fun style => escaped style text
  else .ok text

def written (console : Console) (newLine : Bool) (text : String) : String :=
  (if console.colored then text else withoutSequences text) ++ (if newLine then "\n" else "")

def print (console : Console) (newLine : Bool) (text : String) : Console :=
  { console with out := console.out ++ console.written newLine text }

def remark (console : Console) (newLine : Bool) (text : String) : Console :=
  { console with err := console.err ++ console.written newLine text }

def complain (console : Console) (paint : Paint) (newLine : Bool) (text : String) : Console :=
  console.remark newLine (escaped (Style.painted paint) text)

def warn (console : Console) (newLine : Bool) (text : String) : Console :=
  console.complain (.dark .yellow) newLine text

def error (console : Console) (newLine : Bool) (text : String) : Console :=
  console.complain (.bright .red) newLine text

end Console

end TemplateSpacing.Terminal
