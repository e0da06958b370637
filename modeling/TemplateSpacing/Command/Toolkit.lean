import TemplateSpacing.Command.Run
import TemplateSpacing.Toml.Reader
import TemplateSpacing.Toml.Writer

/-! # The tools of a run

Readers and a writer that do for the program what it leaves to others.
-/

set_option autoImplicit false

namespace TemplateSpacing.Command

def clashName : Toml.Clash → String
  | .present => "KeyAlreadyPresent"
  | .redefined => "TOMLKitError"

def readToml : Config.DocumentReader := fun text =>
  (Toml.read text).mapError fun e =>
    match e with
    | .malformed => .malformed "malformed document"
    | .clash c => .failed (clashName c)

def toolkit : Toolkit where
  request := Scope.request
  reader := readToml
  writer := Toml.text?

end TemplateSpacing.Command
