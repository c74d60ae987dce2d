import MarkupChain.Component.Emit
import MarkupChain.Event
import MarkupChain.Markup.Forest
import MarkupChain.Script.Format

/-!
# Conversion

The first element at the top level of a document becomes a component; further ones are only
reported. Without an element the result is empty. The name of the component is checked before the
document is read.
-/

namespace MarkupChain.Component

open Markup Script

inductive ConversionError where
  | invalidName (name : String)
  | script (e : Script.Error)
  deriving DecidableEq, Repr, Inhabited

def ConversionError.message : ConversionError → String
  | .invalidName name => "Invalid component name `" ++ name ++ "`"
  | .script e => e.message

/-- The identifier under which an error is documented. -/
def ConversionError.code : ConversionError → String
  | .invalidName _ => "html_to_ivi::invalid_component_name"
  | .script _ => "html_to_ivi::format"

def ConversionError.help : ConversionError → String
  | .invalidName _ => "The component name must be a JavaScript identifier such as `TodoItem`."
  | .script _ =>
    "The generated code could not be formatted; tag or attribute names may not be valid identifiers."

/-- A letter, an underscore or a dollar sign, then also digits. -/
def isComponentName (name : String) : Bool :=
  match name.toList with
  | [] => false
  | c :: cs => isWordStart c && cs.all fun d => d.isAlphanum || d == '_' || d == '$'

mutual

/-- One event for each element of which the chain is written, from the inside out. -/
def nodeEvents (o : Options) : Node → List Event
  | .text _ => []
  | .element tag children =>
    (if Kind.ofTag tag.name = .textArea then [] else childEvents o children) ++
      [.emitted tag.name (nodeExpr o (.element tag children)).compact]

def childEvents (o : Options) : List Node → List Event
  | [] => []
  | node :: rest => nodeEvents o node ++ childEvents o rest

end

def topElements (html : String) : List Element := (parse html).filterMap Node.element?

/-- The component in its compact form. -/
def convertCompact (o : Options) (html : String) : Except ConversionError String :=
  if !isComponentName o.name then .error (.invalidName o.name)
  else if Text.isBlankText html then .ok ""
  else match topElements html with
    | [] => .ok ""
    | root :: _ => .ok (definition o root).compact

/-- The component laid out. -/
def convert (o : Options) (w : Widths) (html : String) : Except ConversionError String := do
  let code ← convertCompact o html
  if code.isEmpty then .ok code else (format w code).mapError .script

/-- What happens during a conversion, as far as a limit lets it through. Chains are written out only
if they are asked for. -/
def conversionEvents (limit : Level) (o : Options) (html : String) : List Event :=
  if !isComponentName o.name || Text.isBlankText html then []
  else match topElements html with
    | [] => limit.filter [.noElement]
    | root :: others =>
      (if others.isEmpty then []
        else limit.filter [.ignoredSiblings others.length root.tag.name]) ++
        if limit.allows .trace then nodeEvents o root.toNode else []

end MarkupChain.Component
