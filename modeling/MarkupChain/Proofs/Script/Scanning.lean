import MarkupChain.Proofs.Script.Spacing

/-!
# Where a text is read and where it is refused

A text is read into tokens exactly when it consists of them and of blanks. Any other text is stuck
somewhere: up to that place it can be read, and no token starts there. The scanner refuses the text
with the character and the offset of that place.
-/

namespace MarkupChain.Script

theorem bytes_toList (s : String) : bytes s.toList = s.utf8ByteSize := by
  have hlist : ∀ cs : List Char, bytes cs = (String.ofList cs).utf8ByteSize := by
    intro cs
    induction cs with
    | nil => rfl
    | cons c cs ih =>
      have hcons : String.ofList (c :: cs) = String.singleton c ++ String.ofList cs := by
        simp
      rw [hcons, String.utf8ByteSize_append, String.utf8ByteSize_singleton, bytes_cons, ih]
  simpa using hlist s.toList

/-! ## Places where no token starts -/

/-- No token is written at the start of the text. -/
def NoToken (cs : List Char) : Prop := ∀ l : Lexeme, l.Valid → ¬ l.text.toList <+: cs

theorem NoToken.not_wordStart {c : Char} {cs : List Char} (h : NoToken (c :: cs)) :
    isWordStart c = false := by
  rw [← Bool.not_eq_true]
  intro hc
  have hword : IsWord (String.singleton c).toList := by simpa [IsWord] using hc
  exact h (.word (String.singleton c)) hword (by simp [Lexeme.text])

theorem NoToken.not_symbol {c : Char} {cs : List Char} (h : NoToken (c :: cs)) :
    Symbol.ofChar? c = none := by
  cases hs : Symbol.ofChar? c with
  | none => rfl
  | some symbol =>
    exact absurd (by simp [Lexeme.text, Symbol.eq_char hs]) (h (.symbol symbol) trivial)

theorem LiteralBody.exists_lexeme {body : List Char} (h : LiteralBody body) :
    ∃ l : Lexeme, l.Valid ∧ (∀ cs, l.EndsAt cs) ∧ l.text.toList = '"' :: (body ++ ['"']) := by
  have ht : (String.ofList ('"' :: (body ++ ['"']))).toList = '"' :: (body ++ ['"']) := by simp
  exact ⟨.quoted (String.ofList ('"' :: (body ++ ['"']))), ⟨body, ht, h⟩, fun _ => trivial, ht⟩

/-- Behind a quote where no token starts, no quote closes the literal. -/
theorem NoToken.not_closed {cs body after : List Char} (h : NoToken ('"' :: cs))
    (hcs : cs = body ++ '"' :: after) : ¬ LiteralBody body := by
  intro hbody
  obtain ⟨l, hl, _, ht⟩ := hbody.exists_lexeme
  refine h l hl ?_
  rw [ht, hcs]
  exact ⟨after, by simp⟩

/-- The first character of a token. -/
theorem Lexeme.Valid.head {l : Lexeme} (h : l.Valid) : ∃ c rest, l.text.toList = c :: rest ∧
    (isWordStart c = true ∨ c = '"' ∨ ∃ s : Symbol, c = s.char) := by
  cases l with
  | word name =>
    obtain ⟨c, rest, hname, hc, _⟩ := IsWord.cons h
    exact ⟨c, rest, hname, .inl hc⟩
  | quoted text =>
    obtain ⟨body, htext, _⟩ := h
    exact ⟨'"', body ++ ['"'], htext, .inr (.inl rfl)⟩
  | symbol s => exact ⟨s.char, [], by simp [Lexeme.text], .inr (.inr ⟨s, rfl⟩)⟩

theorem noToken_of_head {c : Char} {cs : List Char} (hw : isWordStart c = false)
    (hq : c ≠ '"') (hs : Symbol.ofChar? c = none) : NoToken (c :: cs) := by
  intro l hl hpre
  obtain ⟨d, rest, htext, hd⟩ := hl.head
  rw [htext, List.cons_prefix_cons] at hpre
  obtain ⟨rfl, _⟩ := hpre
  rcases hd with hd | rfl | ⟨s, rfl⟩
  · simp [hw] at hd
  · exact hq rfl
  · simp at hs

/-- A quote that is not closed starts no token. -/
theorem noToken_of_not_closed {cs : List Char}
    (h : ∀ body after, cs = body ++ '"' :: after → ¬ LiteralBody body) : NoToken ('"' :: cs) := by
  intro l hl ⟨after, hafter⟩
  cases l with
  | word name =>
    obtain ⟨c, rest, hname, hc, _⟩ := IsWord.cons hl
    rw [Lexeme.text, hname] at hafter
    obtain ⟨rfl, _⟩ := List.cons.inj hafter
    simp [isWordStart] at hc
  | quoted text =>
    obtain ⟨body, htext, hbody⟩ := hl
    rw [Lexeme.text, htext] at hafter
    exact h body after (by simpa using hafter.symm) hbody
  | symbol s =>
    have hs : s.char = '"' ∧ after = cs := by simpa [Lexeme.text] using hafter
    cases s <;> simp [Symbol.char] at hs

/-! ## Every text can be read or is stuck -/

theorem Lexeme.EndsAt.apart {l : Lexeme} {cs : List Char} (h : l.EndsAt cs) (hl : l.Valid) :
    Apart l.text.toList cs := by
  cases l with
  | word name => exact .inl h
  | quoted text =>
    obtain ⟨body, htext, _⟩ := hl
    exact .inr (by simp [Lexeme.text, htext, isWordPart])
  | symbol s => exact .inr (by simp [Lexeme.text])

/-- A token is written at the start of the text and is as long as it can be. -/
def TokenFirst (cs : List Char) : Prop :=
  ∃ (l : Lexeme) (after : List Char), l.Valid ∧ l.EndsAt after ∧ cs = l.text.toList ++ after

theorem tokenFirst_or_noToken_quote (cs : List Char) :
    TokenFirst ('"' :: cs) ∨ NoToken ('"' :: cs) := by
  by_cases h : ∃ body after, cs = body ++ '"' :: after ∧ LiteralBody body
  · obtain ⟨body, after, rfl, hbody⟩ := h
    obtain ⟨l, hl, he, ht⟩ := hbody.exists_lexeme
    exact .inl ⟨l, after, hl, he after, by simp [ht]⟩
  · exact .inr (noToken_of_not_closed fun body after hcs hbody => h ⟨body, after, hcs, hbody⟩)

/-- What stands first in a text: a blank, a token, or neither. -/
theorem blank_or_tokenFirst_or_noToken (c : Char) (cs : List Char) :
    Text.isBlank c = true ∨ TokenFirst (c :: cs) ∨
      (Text.isBlank c = false ∧ NoToken (c :: cs)) := by
  cases hb : Text.isBlank c with
  | true => exact .inl rfl
  | false =>
    refine .inr ?_
    by_cases hq : c = '"'
    · subst hq
      exact (tokenFirst_or_noToken_quote cs).imp_right fun h => ⟨rfl, h⟩
    cases hw : isWordStart c with
    | true =>
      have ht : (String.ofList (c :: cs.takeWhile isWordPart)).toList =
          c :: cs.takeWhile isWordPart := by simp
      refine .inl ⟨.word (String.ofList (c :: cs.takeWhile isWordPart)), cs.dropWhile isWordPart,
        ?_, ?_, ?_⟩
      · rw [Lexeme.Valid, ht]
        exact ⟨hw, fun d hd => List.all_eq_true.mp List.all_takeWhile d hd⟩
      · intro d hd
        have hstop := List.head?_dropWhile_not isWordPart cs
        rwa [Option.mem_def.mp hd] at hstop
      · rw [Lexeme.text, ht, List.cons_append, List.takeWhile_append_dropWhile]
    | false =>
      cases hs : Symbol.ofChar? c with
      | none => exact .inr ⟨rfl, noToken_of_head hw hq hs⟩
      | some s =>
        exact .inl ⟨.symbol s, cs, trivial, trivial, by simp [Lexeme.text, Symbol.eq_char hs]⟩

/-- The text can be read up to `found`, and there no token starts. -/
structure StuckAt (o : Nat) (cs before : List Char) (found : Char) (after : List Char) : Prop where
  text : cs = before ++ found :: after
  read : ∃ ts, Spaced o before ts
  apart : Apart before (found :: after)
  solid : Text.isBlank found = false
  noToken : NoToken (found :: after)

/-- What can be read may be put before a text that is stuck. -/
theorem StuckAt.append {o : Nat} {cs ds before after : List Char} {found : Char} {ts : List Token}
    (h : StuckAt (o + bytes ds) cs before found after) (hd : Spaced o ds ts) (ha : Apart ds cs) :
    StuckAt o (ds ++ cs) (ds ++ before) found after := by
  obtain ⟨rfl, ⟨us, hus⟩, hapart, hsolid, hno⟩ := h
  cases before with
  | nil => exact ⟨by simp, ⟨ts, by simpa using hd⟩, by simpa using ha, hsolid, hno⟩
  | cons b before =>
    refine ⟨by simp, ⟨ts ++ us, hd.append hus ?_⟩, ?_, hsolid, hno⟩
    · exact ha.imp_left (by simp)
    · refine hapart.imp_right ?_
      exact (breaks_reverse_append (List.cons_ne_nil b before)).mpr

theorem spaced_or_stuckAt (o : Nat) (cs : List Char) :
    (∃ ts, Spaced o cs ts) ∨ ∃ before found after, StuckAt o cs before found after := by
  induction hn : cs.length using Nat.strongRecOn generalizing o cs with
  | _ n ih =>
    subst hn
    -- What stands in front can be read; the rest of the text is shorter.
    have hfront : ∀ ds es us, cs = ds ++ es → Spaced o ds us → Apart ds es → ds ≠ [] →
        (∃ ts, Spaced o cs ts) ∨ ∃ before found after, StuckAt o cs before found after := by
      rintro ds es us rfl hds ha hne
      have hlt : es.length < (ds ++ es).length := by simp [List.length_pos_iff.mpr hne]
      rcases ih _ hlt (o + bytes ds) es rfl with ⟨ts, hts⟩ | ⟨before, found, after, hstuck⟩
      · exact .inl ⟨_, hds.append hts ha⟩
      · exact .inr ⟨_, _, _, hstuck.append hds ha⟩
    cases cs with
    | nil => exact .inl ⟨[], .nil o⟩
    | cons c cs =>
      rcases blank_or_tokenFirst_or_noToken c cs with hb | ⟨l, after, hl, he, hcs⟩ | ⟨hb, hno⟩
      · have ha : Apart [c] cs := .inr (by simp [isWordPart_of_isBlank hb])
        exact hfront [c] cs [] rfl (.blank hb (.nil _)) ha (by simp)
      · obtain ⟨d, rest, hd, _⟩ := hl.head
        have hs : Spaced o (l.text.toList ++ []) [⟨l, o⟩] :=
          .token hl (by cases l <;> simp [Lexeme.EndsAt]) (.nil _)
        rw [List.append_nil] at hs
        exact hfront l.text.toList after _ hcs hs (he.apart hl) (by simp [hd])
      · exact .inr ⟨[], c, cs, rfl, ⟨[], .nil o⟩, .inr (by simp), hb, hno⟩

/-! ## What the scanner does where no token starts -/

/-- A literal that is never closed is refused at its opening quote. -/
theorem Scan.finish_run_open (start o : Nat) (text : String) (escaped : Bool) (ts : List Token)
    (cs : List Char) (h : ∀ body after, cs = body ++ '"' :: after →
      ¬ LiteralBody (if escaped then '\\' :: body else body)) :
    Scan.run ⟨.quoted start text escaped, o, ts⟩ cs >>= finish =
      .error (.unexpectedCharacter '"' start) := by
  induction cs generalizing o text escaped with
  | nil => rfl
  | cons c cs ih =>
    rw [run_cons]
    cases escaped with
    | true =>
      rw [step, ok_bind]
      refine ih _ _ false fun body after hcs hbody => ?_
      exact h (c :: body) after (by simp [hcs]) (.escaped c hbody)
    | false =>
      have hq : c ≠ '"' := by
        rintro rfl
        exact h [] cs rfl .nil
      rw [step, if_neg hq, ok_bind]
      refine ih _ _ _ fun body after hcs hbody => ?_
      refine h (c :: body) after (by simp [hcs]) ?_
      by_cases hc : c = '\\'
      · simpa [hc] using hbody
      · exact .plain hq hc (by simpa [hc] using hbody)

theorem NoToken.finish_run {c : Char} {cs : List Char} (h : NoToken (c :: cs))
    (hb : Text.isBlank c = false) (o : Nat) (ts : List Token) :
    Scan.run ⟨.between, o, ts⟩ (c :: cs) >>= Scan.finish = .error (.unexpectedCharacter c o) := by
  rw [Scan.run_cons, Scan.step]
  by_cases hq : c = '"'
  · subst hq
    rw [Scan.fresh_quote, ok_bind]
    exact Scan.finish_run_open _ _ _ false _ _ fun _ _ hcs => h.not_closed hcs
  · have hfresh : Scan.fresh o ts c = .error (.unexpectedCharacter c o) := by
      simp [Scan.fresh, hb, hq, h.not_wordStart, h.not_symbol]
    rw [hfresh]
    rfl

theorem StuckAt.tokenize {code : String} {before after : List Char} {found : Char}
    (h : StuckAt 0 code.toList before found after) :
    tokenize code = .error (.unexpectedCharacter found (bytes before)) := by
  obtain ⟨ts, hts⟩ := h.read
  rw [Script.tokenize, h.text, show ({} : Scan) = ⟨.between, 0, []⟩ from rfl,
    hts.finish_run_append [] h.apart, h.noToken.finish_run h.solid, Nat.zero_add]

/-- A refused text is stuck at the character and the offset of the error. -/
theorem stuckAt_of_tokenize {code : String} {e : Error} (h : tokenize code = .error e) :
    ∃ before found after, StuckAt 0 code.toList before found after ∧
      e = .unexpectedCharacter found (bytes before) := by
  rcases spaced_or_stuckAt 0 code.toList with ⟨ts, hts⟩ | ⟨before, found, after, hstuck⟩
  · rw [(tokenize_eq_ok_iff code ts).mpr hts] at h
    cases h
  · have he := hstuck.tokenize
    rw [h] at he
    exact ⟨before, found, after, hstuck, Except.error.inj he⟩

/-- A text is read into tokens exactly when it consists of them and of blanks, each token at its
offset and no word longer than the token. It is refused exactly when it can be read up to some
character that is no blank, starts no token and continues no word; the error has that character and
the bytes before it. If the character is a quote, no other quote closes it. -/
theorem tokenize_reads_or_refuses (code : String) :
    (∀ ts, tokenize code = .ok ts ↔ Spaced 0 code.toList ts) ∧
    ∀ e, tokenize code = .error e ↔ ∃ (before : String) (found : Char) (after : String),
      e = .unexpectedCharacter found before.utf8ByteSize ∧
      code = before ++ String.singleton found ++ after ∧ Text.isBlank found = false ∧
      (∃ ts, tokenize before = .ok ts) ∧ Apart before.toList (found :: after.toList) ∧
      NoToken (found :: after.toList) ∧
      (found = '"' → ∀ body rest, after.toList = body ++ '"' :: rest → ¬ LiteralBody body) := by
  refine ⟨tokenize_eq_ok_iff code, ?_⟩
  intro e
  constructor
  · intro h
    obtain ⟨before, found, after, hstuck, rfl⟩ := stuckAt_of_tokenize h
    obtain ⟨ts, hts⟩ := hstuck.read
    refine ⟨String.ofList before, found, String.ofList after, ?_, ?_, hstuck.solid, ?_, ?_, ?_, ?_⟩
    · rw [← bytes_toList, String.toList_ofList]
    · simp [← String.toList_inj, hstuck.text]
    · exact ⟨ts, (tokenize_eq_ok_iff _ ts).mpr (by simpa using hts)⟩
    · simpa using hstuck.apart
    · simpa using hstuck.noToken
    · rintro rfl body rest hrest
      exact hstuck.noToken.not_closed (by simpa using hrest)
  · rintro ⟨before, found, after, rfl, rfl, hsolid, ⟨ts, hts⟩, hapart, hno, -⟩
    rw [← bytes_toList]
    have hread : Spaced 0 before.toList ts := (tokenize_eq_ok_iff before ts).mp hts
    exact StuckAt.tokenize ⟨by simp, ⟨ts, hread⟩, hapart, hsolid, hno⟩

end MarkupChain.Script
