import MarkupChain.Markup.Node
import MarkupChain.Markup.Tokenizer

/-!
# Building nodes from tokens

The open elements are kept from the inside out, each with the children it has so far. A start tag
first ends the elements that it implies; an end tag ends the nearest open element of its name and
what is open inside it, and is passed over if there is none. Texts that meet become one.
-/

namespace MarkupChain.Markup

/-- An open element. -/
structure Opened where
  tag : Tag
  /-- The latest first. -/
  children : List Node := []
  deriving Repr, Inhabited

def Opened.toNode (o : Opened) : Node := .element o.tag o.children.reverse

structure Forest where
  /-- The finished nodes outside all open elements, the latest first. -/
  roots : List Node := []
  /-- The open elements, the innermost first. -/
  opened : List Opened := []
  deriving Repr, Inhabited

/-- Changes the list that a new node goes into. -/
def Forest.modify (f : Forest) (g : List Node → List Node) : Forest :=
  match f.opened with
  | [] => { f with roots := g f.roots }
  | o :: rest => { f with opened := { o with children := g o.children } :: rest }

def Forest.addNode (f : Forest) (n : Node) : Forest := f.modify (n :: ·)

/-- Adds a text to nodes that have the latest first. -/
def addText (content : String) : List Node → List Node
  | .text before :: rest => .text (before ++ content) :: rest
  | nodes => .text content :: nodes

def Forest.addText (f : Forest) (content : String) : Forest := f.modify (Markup.addText content)

/-- Ends the innermost element. -/
def Forest.close (f : Forest) : Forest :=
  match f.opened with
  | [] => f
  | o :: rest => { f with opened := rest }.addNode o.toNode

/-- Ends the innermost `n` elements. -/
def Forest.closeMany (f : Forest) : Nat → Forest
  | 0 => f
  | n + 1 => f.close.closeMany n

@[simp] theorem Forest.closeMany_zero (f : Forest) : f.closeMany 0 = f := rfl

@[simp] theorem Forest.closeMany_succ (f : Forest) (n : Nat) :
    f.closeMany (n + 1) = f.close.closeMany n := rfl

/-- Ends the elements that a start tag of the given name implies. -/
def Forest.closeImplied (f : Forest) (name : String) : Forest :=
  f.closeMany (f.opened.takeWhile fun o => (endedBy name).contains o.tag.name).length

def Forest.startTag (f : Forest) (tag : Tag) (selfClosing : Bool) : Forest :=
  let f := f.closeImplied tag.name
  if selfClosing || isVoid tag.name then f.addNode (.element tag [])
  else { f with opened := { tag := tag } :: f.opened }

def Forest.endTag (f : Forest) (name : String) : Forest :=
  match f.opened.findIdx? (·.tag.name == name) with
  | some i => f.closeMany (i + 1)
  | none => f

def Forest.take (f : Forest) : Token → Forest
  | .startTag tag selfClosing => f.startTag tag selfClosing
  | .endTag name => f.endTag name
  | .text content => f.addText content
  | .comment | .doctype | .null | .endOfInput => f

/-- Ends all elements. -/
def Forest.finish (f : Forest) : List Node := (f.closeMany f.opened.length).roots.reverse

def Forest.ofTokens (tokens : List Token) : List Node := (tokens.foldl Forest.take {}).finish

/-- The nodes of a text of markup. -/
def parse (html : String) : List Node := Forest.ofTokens (tokens html)

end MarkupChain.Markup
