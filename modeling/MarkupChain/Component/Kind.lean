/-!
# Kinds of elements

Inputs and text areas are built in their own way; every other element is plain. The kind decides
under which name an attribute becomes a property.
-/

namespace MarkupChain.Component

inductive Kind where
  | plain
  | input
  | textArea
  deriving DecidableEq, Repr, Inhabited

def Kind.ofTag (name : String) : Kind :=
  if name = "input" then .input
  else if name = "textarea" then .textArea
  else .plain

/-- The property that an attribute becomes; none if the attribute is left out or has a call of its
own. -/
def Kind.property? (kind : Kind) (name : String) : Option String :=
  if name ∈ ["class", "style", "autofocus"] then none
  else if kind = .input ∧ name ∈ ["type", "checked", "value"] then none
  else if name = "accept-charset" then some "acceptCharset"
  else if name = "for" then some "htmlFor"
  else some name

def inputSubtypes : List (String × String) :=
  [("button", "Button"), ("checkbox", "Checkbox"), ("color", "Color"), ("date", "Date"),
    ("datetime", "Datetime"), ("datetime-local", "DatetimeLocal"), ("email", "Email"),
    ("file", "File"), ("hidden", "Hidden"), ("image", "Image"), ("month", "Month"),
    ("number", "Number"), ("password", "Password"), ("radio", "Radio"), ("range", "Range"),
    ("reset", "Reset"), ("search", "Search"), ("submit", "Submit"), ("tel", "Tel"),
    ("text", "Text"), ("time", "Time"), ("url", "Url"), ("week", "Week")]

/-- The constructor's ending for an input of the given type; an unknown or absent type is a text
input. -/
def inputSubtype (type : Option String) : String :=
  (type.bind (List.lookup · inputSubtypes)).getD "Text"

end MarkupChain.Component
