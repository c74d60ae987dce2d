/-!
# The vocabulary of markup

What the names of tags say about nesting: elements that never have content, elements that end when
another starts, and elements whose content is read as raw text.
-/

namespace MarkupChain.Markup

def voidTags : List String :=
  ["area", "base", "basefont", "br", "col", "command", "embed", "frame", "hr", "img", "input",
    "isindex", "keygen", "link", "meta", "param", "source", "track", "wbr"]

def isVoid (name : String) : Bool := voidTags.contains name

def headingTags : List String := ["h1", "h2", "h3", "h4", "h5", "h6"]

def formTags : List String :=
  ["input", "option", "optgroup", "select", "button", "datalist", "textarea"]

/-- The elements that end when one of the given name starts directly inside them. -/
def endedBy (name : String) : List String :=
  if name = "tr" then ["tr", "th", "td"]
  else if name = "th" then ["th"]
  else if name = "td" then ["thead", "th", "td"]
  else if name = "body" then ["head", "link", "script"]
  else if name = "li" then ["li"]
  else if name = "p" ∨ name ∈ headingTags then ["p"]
  else if name ∈ ["select", "input", "output", "button", "datalist", "textarea"] then formTags
  else if name = "option" then ["option"]
  else if name = "optgroup" then ["optgroup"]
  else []

/-- How a script is read: comments hide end tags, and a script inside a comment hides them too. -/
inductive ScriptMode where
  | plain
  | escaped
  | doubleEscaped
  deriving DecidableEq, Repr, Inhabited

/-- How the content of an element is read as raw text. -/
inductive RawMode where
  /-- With character references. -/
  | replaceable
  | verbatim
  | script (mode : ScriptMode)
  deriving DecidableEq, Repr, Inhabited

def rawMode? (name : String) : Option RawMode :=
  if name = "script" then some (.script .plain)
  else if name ∈ ["style", "xmp", "iframe", "noembed", "noframes"] then some .verbatim
  else if name ∈ ["textarea", "title"] then some .replaceable
  else none

end MarkupChain.Markup
