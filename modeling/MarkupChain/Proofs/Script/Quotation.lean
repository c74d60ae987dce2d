import MarkupChain.Proofs.Script.Spacing
import MarkupChain.Text.Quoted

/-!
# Quoted texts as literals

Backslashes are quoted as they stand, so a run of them may swallow the escape of a quote or the
closing quote itself. A quoted text is a literal exactly if each such run has even length.
-/

namespace MarkupChain.Script

/-- Each run of backslashes that a quote or the end of the text follows has even length. The run is
all of it: no backslash stands before it. -/
def EvenRuns (cs : List Char) : Prop :=
  ∀ before n after, cs = before ++ (List.replicate n '\\' ++ after) →
    before.getLast? ≠ some '\\' → (after = [] ∨ after.head? = some '"') → n % 2 = 0

theorem evenRuns_of_not_mem {cs : List Char} (h : '\\' ∉ cs) : EvenRuns cs := by
  intro before n after hcs _ _
  cases n with
  | zero => rfl
  | succ n => simp [hcs, List.replicate_succ] at h

theorem not_evenRuns_backslash : ¬ EvenRuns ['\\'] := by
  intro h
  have := h [] 1 [] rfl (by simp) (.inl rfl)
  omega

/-- A character that is no backslash belongs to no run. -/
theorem EvenRuns.tail {c : Char} {cs : List Char} (hc : c ≠ '\\') (h : EvenRuns (c :: cs)) :
    EvenRuns cs := by
  intro before n after hcs hlast hafter
  refine h (c :: before) n after (by simp [hcs]) ?_ hafter
  cases before with
  | nil => simpa using hc
  | cons b bs => simpa [List.getLast?_cons_cons] using hlast

/-- Two backslashes do not change whether a run is even. -/
theorem EvenRuns.of_pair {cs : List Char} (h : EvenRuns ('\\' :: '\\' :: cs)) : EvenRuns cs := by
  intro before n after hcs hlast hafter
  cases before with
  | nil =>
    have := h [] (n + 2) after (by simp [hcs, List.replicate_succ]) (by simp) hafter
    omega
  | cons b bs =>
    exact h ('\\' :: '\\' :: b :: bs) n after (by simp [hcs])
      (by simpa [List.getLast?_cons_cons] using hlast) hafter

theorem EvenRuns.of_single {c : Char} {cs : List Char} (hc : c ≠ '\\')
    (h : EvenRuns ('\\' :: c :: cs)) : c ≠ '"' ∧ EvenRuns cs := by
  constructor
  · rintro rfl
    have := h [] 1 ('"' :: cs) rfl (by simp) (.inr rfl)
    omega
  · intro before n after hcs hlast hafter
    refine h ('\\' :: c :: before) n after (by simp [hcs]) ?_ hafter
    cases before with
    | nil => simpa using hc
    | cons b bs => simpa [List.getLast?_cons_cons] using hlast

/-- What a character that is no backslash is written as can stand in a literal. -/
theorem LiteralBody.escapeChar_append {c : Char} {cs : List Char} (hc : c ≠ '\\')
    (h : LiteralBody cs) : LiteralBody (Text.escapeChar c ++ cs) := by
  unfold Text.escapeChar
  split
  · exact .escaped 'n' h
  split
  · exact .escaped 'r' h
  split
  · exact .escaped '"' h
  · next hq => exact .plain hq hc h

/-- What a character other than a quote is written as can stand behind a backslash. -/
theorem LiteralBody.backslash_escapeChar {c : Char} {cs : List Char} (hc : c ≠ '"')
    (h : LiteralBody cs) : LiteralBody ('\\' :: (Text.escapeChar c ++ cs)) := by
  unfold Text.escapeChar
  split
  · exact .escaped '\\' (.plain (by decide) (by decide) h)
  split
  · exact .escaped '\\' (.plain (by decide) (by decide) h)
  · exact .escaped c h

theorem EvenRuns.literalBody : (cs : List Char) → EvenRuns cs →
    LiteralBody (cs.flatMap Text.escapeChar)
  | [], _ => .nil
  | [c], h => by
    have hc : c ≠ '\\' := by
      rintro rfl
      exact not_evenRuns_backslash h
    exact .escapeChar_append hc .nil
  | c :: d :: cs, h => by
    by_cases hc : c = '\\'
    · subst hc
      by_cases hd : d = '\\'
      · subst hd
        exact .escaped '\\' (EvenRuns.literalBody cs h.of_pair)
      · obtain ⟨hq, hcs⟩ := h.of_single hd
        exact .backslash_escapeChar hq (EvenRuns.literalBody cs hcs)
    · exact .escapeChar_append hc (EvenRuns.literalBody (d :: cs) (h.tail hc))

theorem EvenRuns.isLiteral_quote {s : String} (h : EvenRuns s.toList) :
    IsLiteral (Text.quote s).toList :=
  ⟨s.toList.flatMap Text.escapeChar, by simp, h.literalBody⟩

/-! ## Literals have even runs -/

theorem evenRuns_nil : EvenRuns [] := evenRuns_of_not_mem List.not_mem_nil

theorem getLast?_tail_ne {b last : Char} {bs : List Char} (h : (b :: bs).getLast? ≠ some last) :
    bs.getLast? ≠ some last := by
  cases bs with
  | nil => simp
  | cons d ds => simpa [List.getLast?_cons_cons] using h

theorem EvenRuns.cons {c : Char} {cs : List Char} (hc : c ≠ '\\') (h : EvenRuns cs) :
    EvenRuns (c :: cs) := by
  intro before n after hcs hlast hafter
  cases before with
  | nil =>
    cases n with
    | zero => rfl
    | succ n =>
      rw [List.nil_append, List.replicate_succ] at hcs
      exact absurd (List.cons.inj hcs).1 hc
  | cons b bs =>
    obtain ⟨rfl, hbs⟩ := List.cons.inj hcs
    exact h bs n after hbs (getLast?_tail_ne hlast) hafter

theorem EvenRuns.pair {cs : List Char} (h : EvenRuns cs) : EvenRuns ('\\' :: '\\' :: cs) := by
  intro before n after hcs hlast hafter
  match before, n with
  | [], 0 => rfl
  | [], 1 =>
    obtain rfl : '\\' :: cs = after := by simpa using hcs
    simp at hafter
  | [], n + 2 =>
    have hrest : cs = List.replicate n '\\' ++ after := by simpa [List.replicate_succ] using hcs
    have := h [] n after hrest (by simp) hafter
    omega
  | [b], n =>
    obtain ⟨rfl, -⟩ := List.cons.inj hcs
    simp at hlast
  | b :: d :: more, n =>
    have hmore : cs = more ++ (List.replicate n '\\' ++ after) := by
      simpa using (List.cons.inj (List.cons.inj hcs).2).2
    exact h more n after hmore (getLast?_tail_ne (getLast?_tail_ne hlast)) hafter

theorem EvenRuns.single {d : Char} {cs : List Char} (hd : d ≠ '\\') (hq : d ≠ '"')
    (h : EvenRuns cs) : EvenRuns ('\\' :: d :: cs) := by
  intro before n after hcs hlast hafter
  match before, n with
  | [], 0 => rfl
  | [], 1 =>
    obtain rfl : d :: cs = after := by simpa using hcs
    simp [hq] at hafter
  | [], n + 2 => simp [List.replicate_succ, hd] at hcs
  | b :: bs, n =>
    obtain ⟨rfl, hbs⟩ := List.cons.inj hcs
    exact h.cons hd bs n after hbs (getLast?_tail_ne hlast) hafter

theorem not_literalBody_quote (cs : List Char) : ¬LiteralBody ('"' :: cs) := by
  intro h
  cases h with
  | plain hq _ _ => exact hq rfl

theorem LiteralBody.of_escaped {c : Char} {cs : List Char} (h : LiteralBody ('\\' :: c :: cs)) :
    LiteralBody cs := by
  cases h with
  | plain _ hb _ => exact absurd rfl hb
  | escaped _ h => exact h

theorem LiteralBody.of_plain {c : Char} {cs : List Char} (hb : c ≠ '\\')
    (h : LiteralBody (c :: cs)) : LiteralBody cs := by
  cases h with
  | plain _ _ h => exact h
  | escaped _ h => exact absurd rfl hb

theorem LiteralBody.of_escapeChar {c : Char} {cs : List Char} (hc : c ≠ '\\')
    (h : LiteralBody (Text.escapeChar c ++ cs)) : LiteralBody cs := by
  unfold Text.escapeChar at h
  split at h
  · exact h.of_escaped
  split at h
  · exact h.of_escaped
  split at h
  · exact h.of_escaped
  · exact h.of_plain hc

/-- Behind a backslash the backslash of an escape is spent, so a quote would end the literal. -/
theorem LiteralBody.of_backslash_escapeChar {c : Char} {cs : List Char}
    (h : LiteralBody ('\\' :: (Text.escapeChar c ++ cs))) : c ≠ '"' ∧ LiteralBody cs := by
  unfold Text.escapeChar at h
  split at h
  · next hc => exact ⟨by simp [hc], h.of_escaped.of_plain (by decide)⟩
  split at h
  · next hc => exact ⟨by simp [hc], h.of_escaped.of_plain (by decide)⟩
  split at h
  · exact absurd h.of_escaped (not_literalBody_quote cs)
  · next hq => exact ⟨hq, h.of_escaped⟩

theorem evenRuns_of_literalBody : (cs : List Char) → LiteralBody (cs.flatMap Text.escapeChar) →
    EvenRuns cs
  | [], _ => evenRuns_nil
  | [c], h => by
    have hc : c ≠ '\\' := by
      rintro rfl
      cases h with
      | plain _ hb _ => exact hb rfl
    exact evenRuns_nil.cons hc
  | c :: d :: cs, h => by
    by_cases hc : c = '\\'
    · subst hc
      by_cases hd : d = '\\'
      · subst hd
        exact (evenRuns_of_literalBody cs h.of_escaped).pair
      · obtain ⟨hq, hcs⟩ := LiteralBody.of_backslash_escapeChar h
        exact (evenRuns_of_literalBody cs hcs).single hd hq
    · exact (evenRuns_of_literalBody (d :: cs) (LiteralBody.of_escapeChar hc h)).cons hc

theorem isLiteral_quote_iff (s : String) : IsLiteral (Text.quote s).toList ↔ EvenRuns s.toList := by
  constructor
  · rintro ⟨body, hbody, hliteral⟩
    rw [Text.toList_quote] at hbody
    obtain rfl := List.append_cancel_right (List.cons.inj hbody).2
    exact evenRuns_of_literalBody s.toList hliteral
  · exact EvenRuns.isLiteral_quote

/-- A quoted text is scanned as one literal, all of it, exactly if each run of backslashes before a
quote or at the end of the text has even length. -/
theorem quote_is_one_literal_iff (t : String) :
    (∃ token, tokenize (Text.quote t) = .ok [token] ∧ token.lexeme = .quoted (Text.quote t)) ↔
      EvenRuns t.toList := by
  rw [← isLiteral_quote_iff]
  constructor
  · rintro ⟨token, hscan, hlexeme⟩
    have hvalid := ((tokenize_eq_ok_iff _ _).mp hscan).valid token (List.mem_singleton_self token)
    rwa [hlexeme] at hvalid
  · intro hliteral
    have hvalid : (Lexeme.quoted (Text.quote t)).Valid := hliteral
    obtain ⟨tokens, hscan, hlexemes⟩ := (Reads.lexeme hvalid).tokenize
    obtain ⟨token, rfl, hlexeme⟩ := List.map_eq_singleton_iff.mp hlexemes
    exact ⟨token, hscan, hlexeme⟩

/-- A single backslash takes the closing quote with it. -/
example : tokenize (Text.quote "a\\") = .error (.unexpectedCharacter '"' 0) := by cbv

end MarkupChain.Script
