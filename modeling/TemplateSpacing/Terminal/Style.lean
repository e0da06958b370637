import TemplateSpacing.Value.Basic

/-! # Terminal styles

A style is a foreground, a background and attributes that are switched on, switched off or left
alone; it ends after the text or goes on.  A styler shows a text in a style: as it is, with escape
codes, or tagged with the names of what the style sets.
-/

set_option autoImplicit false

namespace TemplateSpacing.Terminal

inductive Color
  | black
  | red
  | green
  | yellow
  | blue
  | magenta
  | cyan
  | white
deriving DecidableEq, Repr

def Color.index : Color → Nat
  | .black => 0
  | .red => 1
  | .green => 2
  | .yellow => 3
  | .blue => 4
  | .magenta => 5
  | .cyan => 6
  | .white => 7

def Color.name : Color → String
  | .black => "black"
  | .red => "red"
  | .green => "green"
  | .yellow => "yellow"
  | .blue => "blue"
  | .magenta => "magenta"
  | .cyan => "cyan"
  | .white => "white"

def Color.all : List Color :=
  [.black, .red, .green, .yellow, .blue, .magenta, .cyan, .white]

/-- What a text is painted with: the terminal's own colour, a palette colour in its dark or bright
variant, one of the 256 numbered colours, or a mixture of red, green and blue. -/
inductive Paint
  | own
  | dark (color : Color)
  | bright (color : Color)
  | numbered (n : Nat)
  | mixed (red green blue : Nat)
deriving DecidableEq, Repr

def Paint.name : Paint → String
  | .own => "reset"
  | .dark color => color.name
  | .bright color => "bright_" ++ color.name
  | .numbered n => toString n
  | .mixed red green blue => ",".intercalate ([red, green, blue].map toString)

def Paint.all : List Paint :=
  .own :: Color.all.map .dark ++ Color.all.map .bright

def Paint.ofName? (name : String) : Option Paint :=
  Paint.all.find? (·.name = name)

/-- The share of a colour that a value denotes, or the number of a colour. -/
def shade? : Value → Option Nat
  | .int n => if 0 ≤ n && n < 256 then some n.toNat else none
  | _ => none

def Paint.ofValue? : Value → Option Paint
  | .text name => Paint.ofName? name
  | .list [red, green, blue] => return .mixed (← shade? red) (← shade? green) (← shade? blue)
  | value => (shade? value).map .numbered

/-- The escape codes of a paint; those of a background are higher by ten. -/
def Paint.codes (shift : Nat) : Paint → List Nat
  | .own => [39 + shift]
  | .dark color => [30 + color.index + shift]
  | .bright color => [90 + color.index + shift]
  | .numbered n => [38 + shift, 5, n]
  | .mixed red green blue => [38 + shift, 2, red, green, blue]

inductive Attribute
  | bold
  | dim
  | underline
  | overline
  | italic
  | blink
  | reverse
  | strikethrough
deriving DecidableEq, Repr

def Attribute.name : Attribute → String
  | .bold => "bold"
  | .dim => "dim"
  | .underline => "underline"
  | .overline => "overline"
  | .italic => "italic"
  | .blink => "blink"
  | .reverse => "reverse"
  | .strikethrough => "strikethrough"

def Attribute.all : List Attribute :=
  [.bold, .dim, .underline, .overline, .italic, .blink, .reverse, .strikethrough]

def Attribute.code : Attribute → Bool → Nat
  | .bold, on => if on then 1 else 22
  | .dim, on => if on then 2 else 22
  | .underline, on => if on then 4 else 24
  | .overline, on => if on then 53 else 55
  | .italic, on => if on then 3 else 23
  | .blink, on => if on then 5 else 25
  | .reverse, on => if on then 7 else 27
  | .strikethrough, on => if on then 9 else 29

structure Style where
  foreground : Option Paint
  background : Option Paint
  attributes : List (Attribute × Bool)
  ends : Bool

/-- Why entries describe no style: an entry that no style has, or a value that is no paint, which is
shown if it can be written. -/
inductive StyleError
  | unknownEntry (key : String)
  | unknownPaint (written : String)
  | unwritable (e : Value.LiteralError)

def StyleError.message : StyleError → String
  | .unknownEntry key => "Unknown style " ++ Text.quoted key
  | .unknownPaint written => "Unknown color " ++ written
  | .unwritable e => e.message

namespace Style

def plain : Style := ⟨none, none, [], true⟩

def painted (paint : Paint) : Style := { plain with foreground := some paint }

def withAttribute (style : Style) (trait : Attribute) : Style :=
  { style with attributes := (trait, true) :: style.attributes }

def entryNames : List String :=
  ["fg", "bg", "reset"] ++ Attribute.all.map Attribute.name

def paintAt (key : String) (entries : Entries Value) : Except StyleError (Option Paint) :=
  match (Entries.find? key entries).filter fun value => !value.isNull with
  | none => .ok none
  | some value =>
    match Paint.ofValue? value with
    | some paint => .ok (some paint)
    | none =>
      match value.literal with
      | .ok written => .error (.unknownPaint written)
      | .error e => .error (.unwritable e)

/-- The style that entries describe.  Null entries set nothing, but a null `reset` counts as false. -/
def ofEntries (entries : Entries Value) : Except StyleError Style := do
  match (entries.map Prod.fst).find? fun key => !entryNames.contains key with
  | some key => throw (.unknownEntry key)
  | none => pure ()
  let foreground ← paintAt "fg" entries
  let background ← paintAt "bg" entries
  let attributes := Attribute.all.filterMap fun trait =>
    ((Entries.find? trait.name entries).filter fun value => !value.isNull).map fun value =>
      (trait, value.isTruthy)
  return ⟨foreground, background, attributes, (Entries.find? "reset" entries).all Value.isTruthy⟩

end Style

def escapeSequence (codes : List Nat) : String :=
  "\x1b[" ++ ";".intercalate (codes.map toString) ++ "m"

abbrev Styler := Style → String → String

def unstyled : Styler := fun _ text => text

/-- Shows a text after the escape sequences of its style; the one that ends all styles follows if the
style ends. -/
def escaped : Styler := fun style text =>
  let paints := (style.foreground.map (Paint.codes 0)).toList ++
    (style.background.map (Paint.codes 10)).toList
  let attributes := Attribute.all.filterMap fun trait =>
    (style.attributes.lookup trait).map fun on => [trait.code on]
  String.join ((paints ++ attributes).map escapeSequence) ++ text ++
    (if style.ends then escapeSequence [0] else "")

def tagged : Styler := fun style text =>
  let settings : Entries String :=
    (style.foreground.map fun p => ("fg", p.name)).toList ++
      (style.background.map fun p => ("bg", p.name)).toList ++
      style.attributes.map fun (trait, on) =>
        (trait.name, Value.boolLiteral on)
  let settings := settings.sorted.map fun (key, value) => key ++ "=" ++ value
  "[" ++ text ++ "|" ++ ",".intercalate settings ++ "]"

/-! ## Removing escape sequences -/

def isBetween (least greatest : Nat) (c : Char) : Bool :=
  least ≤ c.toNat && c.toNat ≤ greatest

/-- The length of the escape sequence that a text starts with; zero when there is none.  After the
bracket stand parameters from `0` to `?`, others from the space to `/`, and one final character from
`@` to `~`. -/
def sequenceLength : List Char → Nat
  | '\x1b' :: '[' :: rest =>
    let parameters := rest.takeWhile (isBetween 48 63)
    let others := (rest.drop parameters.length).takeWhile (isBetween 32 47)
    match rest.drop (parameters.length + others.length) with
    | last :: _ =>
      if isBetween 64 126 last then parameters.length + others.length + 3 else 0
    | [] => 0
  | _ => 0

def withoutSequencesFrom : Nat → List Char → List Char
  | _, [] => []
  | skip + 1, _ :: rest => withoutSequencesFrom skip rest
  | 0, c :: rest =>
    match sequenceLength (c :: rest) with
    | 0 => c :: withoutSequencesFrom 0 rest
    | length + 1 => withoutSequencesFrom length rest

def withoutSequences (s : String) : String :=
  String.ofList (withoutSequencesFrom 0 s.toList)

end TemplateSpacing.Terminal
