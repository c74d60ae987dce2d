import MarkupChain.Markup.Tag

/-!
# Markup tokens

Comments and document types are recognised only to be skipped, so their content is not kept.
-/

namespace MarkupChain.Markup

inductive Token where
  | startTag (tag : Tag) (selfClosing : Bool)
  | endTag (name : String)
  | text (content : String)
  | comment
  | doctype
  /-- The null character, where it is not replaced. -/
  | null
  | endOfInput
  deriving DecidableEq, Repr, Inhabited

end MarkupChain.Markup
