/-!
# Script expressions

The expressions of a component script: names, quoted literals, objects, member access and calls.
Literals and object keys hold their source text. An expression is written compactly, the form in
which components are emitted, or flat, the one-line form of a laid-out script. A chain is an
expression read as a head followed by links, each a member name with the calls made on it.
-/

namespace MarkupChain.Script

inductive Expr where
  | ident (name : String)
  | literal (text : String)
  | object (entries : List (String × Expr))
  | member (target : Expr) (name : String)
  | call (callee : Expr) (args : List Expr)
  deriving Repr, Inhabited

/-- A function without parameters whose body returns one expression. -/
structure Definition where
  name : String
  body : Expr
  deriving Repr, Inhabited

mutual

/-- The form without spaces; every object entry is followed by a comma. -/
def Expr.compact : Expr → String
  | .ident name => name
  | .literal text => text
  | .object entries => "\x7b" ++ String.join (compactEntries entries) ++ "\x7d"
  | .member target name => target.compact ++ "." ++ name
  | .call callee args => callee.compact ++ "(" ++ ",".intercalate (compactArgs args) ++ ")"

def compactArgs : List Expr → List String
  | [] => []
  | e :: rest => e.compact :: compactArgs rest

def compactEntries : List (String × Expr) → List String
  | [] => []
  | (key, e) :: rest => (key ++ ":" ++ e.compact ++ ",") :: compactEntries rest

end

def Definition.compact (d : Definition) : String :=
  "function " ++ d.name ++ "() \x7b return " ++ d.body.compact ++ "; \x7d"

/-- A comma and a space stand between the items of a flat list. -/
def commaList (items : List String) : String := ", ".intercalate items

mutual

/-- The form on one line. -/
def Expr.flat : Expr → String
  | .ident name => name
  | .literal text => text
  | .object [] => "\x7b\x7d"
  | .object (entry :: rest) => "\x7b " ++ commaList (flatEntries (entry :: rest)) ++ " \x7d"
  | .member target name => target.flat ++ "." ++ name
  | .call callee args => callee.flat ++ "(" ++ commaList (flatArgs args) ++ ")"

def flatArgs : List Expr → List String
  | [] => []
  | e :: rest => e.flat :: flatArgs rest

def flatEntries : List (String × Expr) → List String
  | [] => []
  | (key, e) :: rest => (key ++ ": " ++ e.flat) :: flatEntries rest

end

/-- A member name, or none for calls made directly on the head, and the calls made on it. -/
structure Link where
  name : Option String
  calls : List (List Expr)
  deriving Repr, Inhabited

structure Chain where
  head : Expr
  links : List Link
  deriving Repr, Inhabited

/-- Reads the spine of an expression from the outside in. `calls` are those met since the last
member name, `links` the links that follow them. -/
def Expr.unwind : Expr → List (List Expr) → List Link → Chain
  | .member target name, calls, links => target.unwind [] (⟨some name, calls⟩ :: links)
  | .call callee args, calls, links => callee.unwind (args :: calls) links
  | head, [], links => ⟨head, links⟩
  | head, first :: more, links => ⟨head, ⟨none, first :: more⟩ :: links⟩

def Expr.chain (e : Expr) : Chain := e.unwind [] []

/-- How many links of the chain have a name. -/
def Expr.namedLinks (e : Expr) : Nat := e.chain.links.countP (·.name.isSome)

end MarkupChain.Script
