/-!
# Script errors

Why a text is not a component script. Offsets count the bytes of the UTF-8 form before the place.
-/

namespace MarkupChain.Script

inductive Error where
  | unexpectedCharacter (found : Char) (offset : Nat)
  | unexpectedToken (text : String) (offset : Nat)
  | unexpectedEnd
  deriving DecidableEq, Repr, Inhabited

def Error.message : Error → String
  | .unexpectedCharacter found offset =>
    "Unexpected character `" ++ String.singleton found ++ "` at offset " ++ toString offset
  | .unexpectedToken text offset =>
    "Unexpected token `" ++ text ++ "` at offset " ++ toString offset
  | .unexpectedEnd => "Unexpected EOF detected"

end MarkupChain.Script
