import MarkupChain.Component.Property
import MarkupChain.Component.Style
import MarkupChain.Markup.Node

/-!
# Builder chains

An element becomes a chain of calls: the constructor with the class, then `style`, for inputs
`value` and `checked`, then `props`, and last the content. A call is left out when it would have
nothing to say. The content of a text area is the text it starts with; of every other element it is
the list of its children, without empty texts and, when trimming, without texts of filler.
-/

namespace MarkupChain.Component

open Markup Script

structure Options where
  name : String := "Component"
  /-- Texts of filler only are left out. -/
  trim : Bool := true
  deriving DecidableEq, Repr, Inhabited

/-- The member of the builder that constructs an element. -/
def constructorName (tag : Tag) : String :=
  if Kind.ofTag tag.name = .input then "input" ++ inputSubtype (tag.value? "type") else tag.name

def quoted (s : String) : Expr := .literal (Text.quote s)

/-- A further call on a chain. -/
def method (target : Expr) (name : String) (args : List Expr) : Expr :=
  .call (.member target name) args

def methodIf (condition : Bool) (target : Expr) (name : String) (args : List Expr) : Expr :=
  if condition then method target name args else target

/-- An attribute of that name that is not empty. -/
def nonEmpty? (tag : Tag) (name : String) : Option String :=
  (tag.value? name).filter (!·.isEmpty)

def construct (tag : Tag) : Expr :=
  method (.ident "h") (constructorName tag) (((nonEmpty? tag "class").map quoted).toList)

def withStyle (tag : Tag) (target : Expr) : Expr :=
  let entries := styles ((tag.value? "style").getD "")
  methodIf (!entries.isEmpty) target "style"
    [.object (entries.map fun (key, value) => (Text.quote key, quoted value))]

/-- The state of an input. -/
def withInputState (tag : Tag) (target : Expr) : Expr :=
  if Kind.ofTag tag.name = .input then
    let value := nonEmpty? tag "value"
    methodIf (tag.value? "checked").isSome
      (methodIf value.isSome target "value" ((value.map quoted).toList)) "checked" [.ident "true"]
  else target

def withProperties (tag : Tag) (target : Expr) : Expr :=
  let entries := properties (Kind.ofTag tag.name) tag.attributes
  methodIf (!entries.isEmpty) target "props"
    [.object (entries.map fun (name, value) => (Text.quote name, value.expr))]

/-- The chain of an element up to its content. -/
def opening (tag : Tag) : Expr :=
  withProperties tag (withInputState tag (withStyle tag (construct tag)))

/-- A text that is no argument of `children`. -/
def isDropped (o : Options) (content : String) : Bool :=
  content.isEmpty || o.trim && Text.isFillerText content

/-- The text that a text area starts with, if it is not empty. -/
def areaText? : List Node → Option String
  | .text content :: _ => if content.isEmpty then none else some content
  | _ => none

def withAreaText (children : List Node) (target : Expr) : Expr :=
  match areaText? children with
  | some content => method target "value" [quoted (Text.trim content)]
  | none => target

mutual

def nodeExpr (o : Options) : Node → Expr
  | .text content => quoted content
  | .element tag children =>
    if Kind.ofTag tag.name = .textArea then withAreaText children (opening tag)
    else
      let args := childExprs o children
      methodIf (!args.isEmpty) (opening tag) "children" args

/-- The children that are kept, in order. -/
def childExprs (o : Options) : List Node → List Expr
  | [] => []
  | .text content :: rest =>
    if isDropped o content then childExprs o rest else quoted content :: childExprs o rest
  | .element tag children :: rest => nodeExpr o (.element tag children) :: childExprs o rest

end

def elementExpr (o : Options) (e : Element) : Expr := nodeExpr o e.toNode

/-- The function that returns the chain of an element. -/
def definition (o : Options) (root : Element) : Definition := ⟨o.name, elementExpr o root⟩

end MarkupChain.Component
