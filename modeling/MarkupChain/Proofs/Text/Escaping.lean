import MarkupChain.Text.Quoted

/-!
# Escaping is undone by replacement

A text without backslashes is read back from its quoted form by three replacements, one kind of
escape after the other. An escape is a backslash with one more character and a backslash stands
nowhere else, so no replacement makes or breaks an escape of another kind.
-/

namespace MarkupChain.Text

/-- Replaces a text that is not empty wherever it occurs, from the left and without overlap. -/
def replaceAll (old new cs : List Char) : List Char :=
  match cs with
  | [] => []
  | c :: rest =>
    if old ≠ [] ∧ old.isPrefixOf (c :: rest) then
      new ++ replaceAll old new ((c :: rest).drop old.length)
    else c :: replaceAll old new rest
termination_by cs.length
decreasing_by
  · next hold =>
    have hpos := List.length_pos_iff.mpr hold.1
    simp only [List.length_drop, List.length_cons]
    omega
  · simp

/-- Undoes the escapes of line feeds, then of carriage returns, then of quotes. -/
def replaceEscapes (cs : List Char) : List Char :=
  replaceAll ['\\', '"'] ['"'] (replaceAll ['\\', 'r'] ['\r'] (replaceAll ['\\', 'n'] ['\n'] cs))

/-- The text of a quoted form: the quotes at both ends go and the escapes are undone. -/
def readQuoted (literal : String) : String :=
  String.ofList (replaceEscapes (literal.toList.drop 1).dropLast)

/-! ### Escapes one after the other -/

/-- A character or an escape, without a backslash of its own. -/
def IsWritten (u : List Char) : Prop := ∃ c, c ≠ '\\' ∧ (u = [c] ∨ u = ['\\', c])

theorem isWritten_escapeChar {c : Char} (h : c ≠ '\\') : IsWritten (escapeChar c) := by
  unfold escapeChar
  split
  · exact ⟨'n', by decide, .inr rfl⟩
  split
  · exact ⟨'r', by decide, .inr rfl⟩
  split
  · exact ⟨'"', by decide, .inr rfl⟩
  · exact ⟨c, h, .inl rfl⟩

/-- Writes an escape as one character. -/
def resolve (letter char : Char) (u : List Char) : List Char :=
  if u = ['\\', letter] then [char] else u

theorem IsWritten.resolve {u : List Char} {char : Char} (h : IsWritten u) (letter : Char)
    (hchar : char ≠ '\\') : IsWritten (resolve letter char u) := by
  unfold Text.resolve
  split
  · exact ⟨char, hchar, .inl rfl⟩
  · exact h

theorem replaceAll_escape (letter : Char) (new cs : List Char) :
    replaceAll ['\\', letter] new ('\\' :: letter :: cs) =
      new ++ replaceAll ['\\', letter] new cs := by
  rw [replaceAll, if_pos (by simp)]
  rfl

theorem replaceAll_cons {c : Char} {cs : List Char} (letter : Char) (new : List Char)
    (h : c = '\\' → cs.head? ≠ some letter) :
    replaceAll ['\\', letter] new (c :: cs) = c :: replaceAll ['\\', letter] new cs := by
  rw [replaceAll, if_neg]
  rintro ⟨-, hpre⟩
  obtain ⟨rest, hrest⟩ := List.isPrefixOf_iff_prefix.mp hpre
  obtain ⟨rfl, rfl⟩ : '\\' = c ∧ letter :: rest = cs := by simpa using hrest
  exact h rfl rfl

/-- An escape is replaced as a whole, and what follows it on its own. -/
theorem IsWritten.replaceAll_append {u : List Char} (h : IsWritten u) (letter char : Char)
    (cs : List Char) :
    replaceAll ['\\', letter] [char] (u ++ cs) =
      Text.resolve letter char u ++ replaceAll ['\\', letter] [char] cs := by
  obtain ⟨c, hc, rfl | rfl⟩ := h
  · simp [Text.resolve, replaceAll_cons letter [char] (fun h => absurd h hc)]
  · by_cases hletter : c = letter
    · simp [hletter, Text.resolve, replaceAll_escape]
    · have hfirst : ((c :: cs).head? ≠ some letter) := by simpa using hletter
      simp [hletter, Text.resolve, replaceAll_cons letter [char] fun _ => hfirst,
        replaceAll_cons letter [char] (fun h => absurd h hc)]

theorem replaceAll_flatMap {cs : List Char} {f : Char → List Char}
    (h : ∀ c ∈ cs, IsWritten (f c)) (letter char : Char) :
    replaceAll ['\\', letter] [char] (cs.flatMap f) =
      cs.flatMap fun c => resolve letter char (f c) := by
  induction cs with
  | nil => simp [replaceAll]
  | cons c cs ih =>
    rw [List.flatMap_cons, (h c (by simp)).replaceAll_append, ih fun d hd => h d (by simp [hd]),
      List.flatMap_cons]

/-- The three replacements together undo the escape of a character. -/
theorem resolve_escapeChar (c : Char) :
    resolve '"' '"' (resolve 'r' '\r' (resolve 'n' '\n' (escapeChar c))) = [c] := by
  unfold escapeChar
  split
  · next hc => simp [resolve, hc]
  split
  · next hc => simp [resolve, hc]
  split
  · next hc => simp [resolve, hc]
  · simp [resolve]

theorem replaceEscapes_flatMap {cs : List Char} (h : '\\' ∉ cs) :
    replaceEscapes (cs.flatMap escapeChar) = cs := by
  have hplain : ∀ c ∈ cs, IsWritten (escapeChar c) := by
    intro c hc
    apply isWritten_escapeChar
    rintro rfl
    exact h hc
  have hn : ∀ c ∈ cs, IsWritten (resolve 'n' '\n' (escapeChar c)) :=
    fun c hc => (hplain c hc).resolve 'n' (by decide)
  have hr : ∀ c ∈ cs, IsWritten (resolve 'r' '\r' (resolve 'n' '\n' (escapeChar c))) :=
    fun c hc => (hn c hc).resolve 'r' (by decide)
  rw [replaceEscapes, replaceAll_flatMap hplain, replaceAll_flatMap hn, replaceAll_flatMap hr]
  simp [resolve_escapeChar]

theorem readQuoted_quote {s : String} (h : '\\' ∉ s.toList) : readQuoted (quote s) = s := by
  rw [readQuoted, toList_quote, List.drop_one, List.tail_cons, List.dropLast_concat,
    replaceEscapes_flatMap h, String.ofList_toList]

/-! ### What stands in a quoted form -/

theorem not_mem_flatMap_escapeChar {c : Char} (hc : c = '\n' ∨ c = '\r') (cs : List Char) :
    c ∉ cs.flatMap escapeChar := by
  intro h
  obtain ⟨d, -, hd⟩ := List.mem_flatMap.mp h
  unfold escapeChar at hd
  grind

theorem not_mem_quote {c : Char} (hc : c = '\n' ∨ c = '\r') (s : String) :
    c ∉ (quote s).toList := by
  have hbody := not_mem_flatMap_escapeChar hc s.toList
  rcases hc with rfl | rfl
  · simpa using hbody
  · simpa using hbody

/-- A backslash stands before each quote. -/
def QuotesGuarded (cs : List Char) : Prop :=
  ∀ before after, cs = before ++ '"' :: after → before.getLast? = some '\\'

theorem QuotesGuarded.append {cs ds : List Char} (hc : QuotesGuarded cs) (hd : QuotesGuarded ds) :
    QuotesGuarded (cs ++ ds) := by
  intro before after heq
  rcases List.append_eq_append_iff.mp heq with ⟨more, rfl, hds⟩ | ⟨more, hcs, hrest⟩
  · rw [List.getLast?_append, hd more after hds]
    rfl
  · cases more with
    | nil =>
      -- The quote is the first of `ds`, where nothing stands before it.
      have hfirst := hd [] after (by simpa using hrest.symm)
      cases hfirst
    | cons q more =>
      obtain ⟨rfl, -⟩ : '"' = q ∧ after = more ++ ds := by simpa using hrest
      exact hc before more hcs

theorem quotesGuarded_escapeChar (c : Char) : QuotesGuarded (escapeChar c) := by
  intro before after heq
  by_cases hc : c = '"'
  · subst hc
    match before with
    | [] => cases heq
    | [b] => cases heq; rfl
    | b :: d :: more => simp [escapeChar] at heq
  · have hmem : '"' ∈ escapeChar c := by simp [heq]
    unfold escapeChar at hmem
    grind

theorem quotesGuarded_flatMap (cs : List Char) : QuotesGuarded (cs.flatMap escapeChar) := by
  induction cs with
  | nil => simp [QuotesGuarded]
  | cons c cs ih => exact (quotesGuarded_escapeChar c).append ih

/-- Of the quotes in a quoted form only the first and the last have no backslash before them. -/
theorem guarded_of_inside_quote {s : String} {before after : List Char}
    (heq : (quote s).toList = before ++ '"' :: after) (hbefore : before ≠ [])
    (hafter : after ≠ []) : before.getLast? = some '\\' := by
  obtain ⟨first, before, rfl⟩ := List.exists_cons_of_ne_nil hbefore
  obtain ⟨after, last, rfl⟩ := List.eq_nil_or_concat after |>.resolve_left hafter
  have hbody : s.toList.flatMap escapeChar ++ ['"'] = (before ++ '"' :: after) ++ [last] := by
    rw [toList_quote] at heq
    simpa using (List.cons.inj heq).2
  have hinside := quotesGuarded_flatMap s.toList before after (List.append_inj' hbody rfl).1
  rw [List.getLast?_cons, hinside]
  rfl

theorem escape_append (a b : String) : escape (a ++ b) = escape a ++ escape b := by
  simp [← String.toList_inj]

/-- A text without backslashes stands on one line in its quoted form, with a backslash before each
quote inside, and is read back from it. Any text is escaped part by part, down to its characters. -/
theorem quote_reads_back_and_escape_splits :
    (∀ t : String, '\\' ∉ t.toList →
      '\n' ∉ (quote t).toList ∧ '\r' ∉ (quote t).toList ∧
      (∀ before after, (quote t).toList = before ++ '"' :: after → before ≠ [] → after ≠ [] →
        before.getLast? = some '\\') ∧
      readQuoted (quote t) = t) ∧
    (∀ a b : String, escape (a ++ b) = escape a ++ escape b) ∧
    ∀ t : String, (escape t).toList = t.toList.flatMap escapeChar := by
  refine ⟨fun t ht => ⟨?_, ?_, ?_, ?_⟩, escape_append, toList_escape⟩
  · exact not_mem_quote (.inl rfl) t
  · exact not_mem_quote (.inr rfl) t
  · exact fun before after => guarded_of_inside_quote
  · exact readQuoted_quote ht

/-- The letters of escapes beside the characters that are escaped. -/
theorem quote_reads_back_and_escape_splits_mixed :
    '\\' ∉ "n\"r\n\"\r\"".toList ∧
      '\n' ∉ (quote "n\"r\n\"\r\"").toList ∧ '\r' ∉ (quote "n\"r\n\"\r\"").toList ∧
      (∀ before after, (quote "n\"r\n\"\r\"").toList = before ++ '"' :: after →
        before ≠ [] → after ≠ [] → before.getLast? = some '\\') ∧
      readQuoted (quote "n\"r\n\"\r\"") = "n\"r\n\"\r\"" :=
  have hplain : '\\' ∉ "n\"r\n\"\r\"".toList := by decide
  ⟨hplain, quote_reads_back_and_escape_splits.1 _ hplain⟩

end MarkupChain.Text
