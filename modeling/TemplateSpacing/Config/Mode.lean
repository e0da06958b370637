import TemplateSpacing.Choice

/-! # Modes

How much the white space around elements matters: as their displays say, always, or never.
-/

set_option autoImplicit false

namespace TemplateSpacing.Config

inductive Mode
  | css
  | strict
  | ignore
deriving DecidableEq, Repr

namespace Mode

def choice : Mode → Choice
  | .css => ⟨"CSS", "css", "Respect the default CSS display value of each tag", ["default"]⟩
  | .strict => ⟨"STRICT", "strict", "Whitespace around every element is significant", []⟩
  | .ignore => ⟨"IGNORE", "ignore", "Whitespace around every element is insignificant", []⟩

def all : List Mode := [.css, .strict, .ignore]

def key (mode : Mode) : String := mode.choice.key

def parse? (word : String) : Option Mode :=
  all.find? fun mode => (mode.choice.words.map Choice.token).contains (Choice.token word)

end Mode

end TemplateSpacing.Config
