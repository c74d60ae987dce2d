import MarkupChain.Keyed
import MarkupChain.Text.Blank

/-!
# Inline styles

A style attribute is a list of declarations separated by semicolons. A declaration is divided at its
first colon and both sides are trimmed; a part without a colon is passed over. Of declarations of
the same key the first gives the place and the last the value.
-/

namespace MarkupChain.Component

/-- One declaration, or none if there is no colon. -/
def declaration? (cs : List Char) : Option (String × String) :=
  match cs.dropWhile (· != ':') with
  | [] => none
  | _ :: value =>
    some (String.ofList (Text.trimList (cs.takeWhile (· != ':'))),
      String.ofList (Text.trimList value))

/-- The declarations as written, in order. -/
def declarations (style : String) : List (String × String) :=
  (style.toList.splitOn ';').filterMap declaration?

def styles (style : String) : List (String × String) := Keyed.ofPairs (declarations style)

end MarkupChain.Component
