import MarkupChain.Markup.Tag

/-!
# Nodes

A document is a list of nodes, each a text or an element with its tag and child nodes.
-/

namespace MarkupChain.Markup

inductive Node where
  | text (content : String)
  | element (tag : Tag) (children : List Node)
  deriving Repr, Inhabited

/-- An element on its own, outside a list of nodes. -/
structure Element where
  tag : Tag
  children : List Node := []
  deriving Repr, Inhabited

def Element.toNode (e : Element) : Node := .element e.tag e.children

def Node.element? : Node → Option Element
  | .text _ => none
  | .element tag children => some ⟨tag, children⟩

@[simp] theorem Element.element?_toNode (e : Element) : e.toNode.element? = some e := rfl

/-- An element without attributes and children. -/
def Element.ofName (name : String) : Element := { tag := { name := name } }

def Element.addAttribute (e : Element) (a : Attribute) : Element :=
  { e with tag := e.tag.addAttribute a }

def Element.addChild (e : Element) (child : Node) : Element :=
  { e with children := e.children ++ [child] }

/-- An element of the given name around this one. -/
def Element.wrap (e : Element) (name : String) : Element := (ofName name).addChild e.toNode

end MarkupChain.Markup
