/-!
# Blank text

A blank is a character with the Unicode property White_Space; it separates the tokens of a script
and is what trimming removes at both ends of a text. Filler is the narrower class of the four
characters that indent markup.
-/

namespace MarkupChain.Text

/-- The characters with the property White_Space. -/
def isBlank (c : Char) : Bool :=
  let n := c.toNat
  (9 ≤ n && n ≤ 13) || n == 0x20 || n == 0x85 || n == 0xA0 || n == 0x1680 ||
    (0x2000 ≤ n && n ≤ 0x200A) || n == 0x2028 || n == 0x2029 || n == 0x202F || n == 0x205F ||
    n == 0x3000

/-- Removes the blanks at both ends. -/
def trimList (cs : List Char) : List Char :=
  ((cs.dropWhile isBlank).reverse.dropWhile isBlank).reverse

/-- Removes the blanks at both ends of a text. -/
def trim (s : String) : String := String.ofList (trimList s.toList)

/-- A text of blanks only; the empty text is one. -/
def isBlankText (s : String) : Bool := s.toList.all isBlank

/-- Space, tab, line feed and carriage return. -/
def isFiller (c : Char) : Bool := c == ' ' || c == '\t' || c == '\n' || c == '\r'

/-- A text of filler only; the empty text is one. -/
def isFillerText (s : String) : Bool := s.toList.all isFiller

@[simp] theorem toList_trim (s : String) : (trim s).toList = trimList s.toList := by simp [trim]

/-- Trimming takes away blanks at both ends and nothing else. -/
theorem exists_trimList (cs : List Char) : ∃ before after,
    cs = before ++ trimList cs ++ after ∧ before.all isBlank = true ∧ after.all isBlank = true := by
  let rest := (cs.dropWhile isBlank).reverse
  refine ⟨cs.takeWhile isBlank, (rest.takeWhile isBlank).reverse, ?_, ?_, ?_⟩
  · have hrest : trimList cs ++ (rest.takeWhile isBlank).reverse = cs.dropWhile isBlank := by
      rw [trimList, ← List.reverse_append, List.takeWhile_append_dropWhile, List.reverse_reverse]
    rw [List.append_assoc, hrest, List.takeWhile_append_dropWhile]
  · exact List.all_takeWhile
  · rw [List.all_reverse]
    exact List.all_takeWhile

theorem exists_trim (s : String) : ∃ before after,
    s = before ++ trim s ++ after ∧ isBlankText before = true ∧ isBlankText after = true := by
  obtain ⟨before, after, hs, hbefore, hafter⟩ := exists_trimList s.toList
  refine ⟨String.ofList before, String.ofList after, ?_, ?_, ?_⟩
  · rw [← String.toList_inj]
    simpa using hs
  · simpa [isBlankText] using hbefore
  · simpa [isBlankText] using hafter

theorem mem_of_mem_trimList {c : Char} {cs : List Char} (h : c ∈ trimList cs) : c ∈ cs := by
  rw [trimList, List.mem_reverse] at h
  have hr := (List.dropWhile_sublist _).subset h
  exact (List.dropWhile_sublist _).subset (List.mem_reverse.mp hr)

end MarkupChain.Text
