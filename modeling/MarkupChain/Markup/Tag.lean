/-!
# Tags

A tag is a name with attributes in source order. A lookup takes the first attribute of a name.
-/

namespace MarkupChain.Markup

structure Attribute where
  name : String
  value : String
  deriving DecidableEq, Repr, Inhabited

structure Tag where
  name : String
  attributes : List Attribute := []
  deriving DecidableEq, Repr, Inhabited

/-- The value of the first attribute of that name. -/
def Tag.value? (tag : Tag) (name : String) : Option String :=
  (tag.attributes.find? (·.name == name)).map (·.value)

def Tag.addAttribute (tag : Tag) (a : Attribute) : Tag :=
  { tag with attributes := tag.attributes ++ [a] }

end MarkupChain.Markup
