import TemplateSpacing.Entries

/-! # Properties by tag

The two CSS properties that the engine looks up by tag, with their built-in tables and the values of
tags that are in no table.  The display table is that of the HTML rendering rules, with a few
adjustments for elements whose rendering the property alone does not express.
-/

set_option autoImplicit false

namespace TemplateSpacing.Css

inductive Property
  | display
  | whiteSpace
deriving DecidableEq, Repr

def unrenderedTags : List String := [
  "area", "base", "basefont", "datalist", "head", "link", "meta", "noembed", "noframes", "rp",
  "style", "title"]

def blockTags : List String := [
  "html", "body", "address", "blockquote", "center", "div", "figure", "figcaption", "footer",
  "form", "header", "hr", "legend", "listing", "main", "p", "plaintext", "pre", "xmp", "article",
  "aside", "h1", "h2", "h3", "h4", "h5", "h6", "hgroup", "nav", "section", "dir", "dd", "dl", "dt",
  "menu", "ol", "ul", "fieldset", "frameset", "frame", "details", "summary", "dialog", "option",
  "optgroup", "source", "track", "script", "param"]

/-- Tags rendered as blocks inside and as text outside. -/
def inlineBlockTags : List String := [
  "button", "input", "marquee", "meter", "progress", "object", "video", "audio", "select"]

def otherTags : Entries String := [
  ("li", "list-item"),
  ("table", "table"),
  ("caption", "table-caption"),
  ("colgroup", "table-column-group"),
  ("col", "table-column"),
  ("thead", "table-header-group"),
  ("tbody", "table-row-group"),
  ("tfoot", "table-footer-group"),
  ("tr", "table-row"),
  ("td", "table-cell"),
  ("th", "table-cell"),
  ("ruby", "ruby"),
  ("rt", "ruby-text"),
  ("template", "inline")]

def displayTags : Entries String :=
  unrenderedTags.map (fun tag => (tag, "none")) ++ blockTags.map (fun tag => (tag, "block")) ++
    inlineBlockTags.map (fun tag => (tag, "inline-block")) ++ otherTags

def whiteSpaceTags : Entries String := [
  ("listing", "pre"),
  ("plaintext", "pre-wrap"),
  ("pre", "pre"),
  ("xmp", "pre"),
  ("textarea", "pre-wrap"),
  ("nobr", "nowrap"),
  ("table", "initial")]

namespace Property

def builtin : Property → Entries String
  | .display => displayTags
  | .whiteSpace => whiteSpaceTags

def builtinDefault : Property → String
  | .display => "inline"
  | .whiteSpace => "normal"

def sectionKey : Property → String
  | .display => "display"
  | .whiteSpace => "white_space"

def defaultKey : Property → String
  | .display => "display_default"
  | .whiteSpace => "white_space_default"

end Property

end TemplateSpacing.Css
