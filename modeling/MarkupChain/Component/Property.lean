import MarkupChain.Component.Kind
import MarkupChain.Keyed
import MarkupChain.Markup.Tag
import MarkupChain.Script.Expr
import MarkupChain.Text.Quoted

/-!
# Properties

The attributes that become properties of an element. Event handlers are left out, and so is what
the kind of the element builds otherwise. Two attributes that become the same property are one
entry, at the place of the first and with the value of the last.
-/

namespace MarkupChain.Component

open Markup Script

inductive PropertyValue where
  /-- An attribute without a value. -/
  | flag
  | text (content : String)
  deriving DecidableEq, Repr, Inhabited

def PropertyValue.ofAttribute (value : String) : PropertyValue :=
  if value.isEmpty then .flag else .text value

def PropertyValue.expr : PropertyValue → Expr
  | .flag => .ident "true"
  | .text content => .literal (Text.quote content)

/-- The names that start with `on`. -/
def isHandler (name : String) : Bool := ['o', 'n'].isPrefixOf name.toList

/-- The property of one attribute. -/
def property? (kind : Kind) (a : Attribute) : Option (String × PropertyValue) :=
  if isHandler a.name then none
  else (kind.property? a.name).map fun name => (name, .ofAttribute a.value)

def properties (kind : Kind) (attributes : List Attribute) : List (String × PropertyValue) :=
  Keyed.ofPairs (attributes.filterMap (property? kind))

end MarkupChain.Component
