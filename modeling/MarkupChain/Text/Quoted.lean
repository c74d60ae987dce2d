/-!
# Quoted text

A text is written between double quotes with its line feeds, carriage returns and double quotes
escaped by a backslash. A backslash itself is written as it stands.
-/

namespace MarkupChain.Text

/-- The characters that are escaped. -/
def isSpecial (c : Char) : Bool := c == '\n' || c == '\r' || c == '"'

def escapeChar (c : Char) : List Char :=
  if c = '\n' then ['\\', 'n']
  else if c = '\r' then ['\\', 'r']
  else if c = '"' then ['\\', '"']
  else [c]

/-- A text without special characters is handed on; otherwise the part before the first of them is
copied and only the rest is written character by character. -/
def escape (s : String) : String :=
  match s.toList.dropWhile (!isSpecial ·) with
  | [] => s
  | special => String.ofList (s.toList.takeWhile (!isSpecial ·) ++ special.flatMap escapeChar)

def quote (s : String) : String := "\"" ++ escape s ++ "\""

theorem escapeChar_of_not_isSpecial {c : Char} (h : isSpecial c = false) : escapeChar c = [c] := by
  simp_all [isSpecial, escapeChar]

/-- What stands before the first special character is its own escaped form. -/
theorem flatMap_escapeChar_eq (cs : List Char) :
    cs.flatMap escapeChar =
      cs.takeWhile (!isSpecial ·) ++ (cs.dropWhile (!isSpecial ·)).flatMap escapeChar := by
  induction cs with
  | nil => rfl
  | cons c cs ih =>
    cases hc : isSpecial c with
    | true => simp [hc]
    | false => simp [hc, escapeChar_of_not_isSpecial hc, ih]

/-- Escaping goes character by character, whichever part is copied. -/
@[simp] theorem toList_escape (s : String) :
    (escape s).toList = s.toList.flatMap escapeChar := by
  rw [flatMap_escapeChar_eq, escape]
  split
  · next hnone =>
    have hall := List.takeWhile_append_dropWhile (p := (!isSpecial ·)) (l := s.toList)
    rw [hnone, List.append_nil] at hall
    rw [hnone, hall, List.flatMap_nil, List.append_nil]
  · rw [String.toList_ofList]

@[simp] theorem toList_quote (s : String) :
    (quote s).toList = '"' :: (s.toList.flatMap escapeChar ++ ['"']) := by simp [quote]

end MarkupChain.Text
