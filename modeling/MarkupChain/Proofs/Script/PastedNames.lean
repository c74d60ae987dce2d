import MarkupChain.Proofs.Script.Splitting

/-!
# Names pasted into a script

A name is written into the text of a definition as it stands, behind `h.` and before an argument
list, at a place where an expression may start. Where the text is read as a definition, a member
name was found at that place. So the pasted name starts with a word, and directly behind the word
can only be a blank, a further member or call, or what ends an item of a list.
-/

namespace MarkupChain.Script

/-! ## The place of a name -/

/-- The name stands behind `h.` and before an argument list. What comes before is closed, and it is
nothing or ends where an argument may start. -/
def PastedIn (name text : String) : Prop :=
  ∃ before after, text.toList = before ++ 'h' :: '.' :: (name.toList ++ '(' :: after) ∧
    (before = [] ∨ ∃ front s, before = front ++ [Symbol.char s] ∧ (s = .openParen ∨ s = .comma) ∧
      Closed front)

theorem not_pastedIn_empty (name : String) : ¬ PastedIn name "" := by
  rintro ⟨before, after, h, _⟩
  simp at h

theorem PastedIn.append {name text : String} (h : PastedIn name text) (more : String) :
    PastedIn name (text ++ more) := by
  obtain ⟨before, after, htext, hbefore⟩ := h
  exact ⟨before, after ++ more.toList, by simp [htext], hbefore⟩

theorem PastedIn.behind {name text front : String} (h : PastedIn name text)
    (hf : Closed front.toList) (s : Symbol) (hs : s = .openParen ∨ s = .comma) :
    PastedIn name (front ++ String.singleton s.char ++ text) := by
  obtain ⟨before, after, htext, hbefore⟩ := h
  refine ⟨front.toList ++ s.char :: before, after, by simp [htext], .inr ?_⟩
  rcases hbefore with rfl | ⟨inner, s', rfl, hs', hi⟩
  · exact ⟨front.toList, s, rfl, hs, hf⟩
  · exact ⟨front.toList ++ ([s.char] ++ inner), s', by simp, hs',
      hf.append ((closed_symbol s).append hi)⟩

theorem PastedIn.first {name x : String} (h : PastedIn name x) (xs : List String) :
    PastedIn name (",".intercalate (x :: xs)) := by
  cases xs with
  | nil => exact h
  | cons y ys =>
    rw [String.intercalate_cons_cons, String.append_assoc]
    exact h.append _

theorem PastedIn.later {name x : String} {xs : List String} (h : PastedIn name (",".intercalate xs))
    (hx : Closed x.toList) : PastedIn name (",".intercalate (x :: xs)) := by
  cases xs with
  | nil => exact absurd h (not_pastedIn_empty name)
  | cons y ys =>
    rw [String.intercalate_cons_cons]
    exact h.behind hx .comma (.inr rfl)

/-! ## What is read there -/

/-- A member name has to come, and the expression it belongs to is no value of an object. -/
def Reading.AtMember (r : Reading) : Prop :=
  ∃ name frames target, r = .body name frames (.member target) ∧
    ∀ done key outer, frames ≠ .entries done key :: outer

/-- Behind an opening parenthesis or a comma comes a parameter, an argument or a key. -/
theorem Reading.step_separator {r q : Reading} {s : Symbol} (hs : s = .openParen ∨ s = .comma)
    (h : r.step (.symbol s) = some q) :
    (∃ name, q = .params name) ∨
      (∃ name frames callee done, q = .body name frames (.argument callee done)) ∨
      ∃ name frames done, q = .body name frames (.key done) := by
  cases r with
  | named name =>
    rcases hs with rfl | rfl
    · exact .inl ⟨name, (Option.some.inj h).symm⟩
    · cases h
  | body name frames spot =>
    cases spot with
    | after e =>
      rcases hs with rfl | rfl
      · exact .inr (.inl ⟨name, frames, e, [], (Option.some.inj h).symm⟩)
      · cases frames with
        | nil => cases h
        | cons frame frames =>
          cases frame with
          | arguments callee done =>
            exact .inr (.inl ⟨name, frames, callee, e :: done, (Option.some.inj h).symm⟩)
          | entries done key =>
            exact .inr (.inr ⟨name, frames, (key, e) :: done, (Option.some.inj h).symm⟩)
    | operand => rcases hs with rfl | rfl <;> cases h
    | argument callee done => rcases hs with rfl | rfl <;> cases h
    | key done => rcases hs with rfl | rfl <;> cases h
    | colon done key => rcases hs with rfl | rfl <;> cases h
    | member target => rcases hs with rfl | rfl <;> cases h
  | start => rcases hs with rfl | rfl <;> cases h
  | keyword => rcases hs with rfl | rfl <;> cases h
  | params name => rcases hs with rfl | rfl <;> cases h
  | signature name => rcases hs with rfl | rfl <;> cases h
  | opened name => rcases hs with rfl | rfl <;> cases h
  | ended d => rcases hs with rfl | rfl <;> cases h
  | complete d => rcases hs with rfl | rfl <;> cases h

theorem atMember_of_separator {r q : Reading} {s : Symbol} {word : String}
    (hs : s = .openParen ∨ s = .comma)
    (h : r.take [.symbol s, .word word, .symbol .dot] = some q) : q.AtMember := by
  rw [Reading.take_cons] at h
  obtain ⟨r', hr, h⟩ := Option.bind_eq_some_iff.mp h
  rcases Reading.step_separator hs hr with ⟨name, rfl⟩ | ⟨name, frames, callee, done, rfl⟩ |
    ⟨name, frames, done, rfl⟩
  · cases h
  · cases h
    exact ⟨name, _, _, rfl, by simp⟩
  · cases h

theorem atMember_of_header {name word : String} {q : Reading}
    (h : Reading.start.take (header name ++ [.word word, .symbol .dot]) = some q) : q.AtMember := by
  rw [Reading.take_header] at h
  cases h
  exact ⟨name, _, _, rfl, by simp⟩

theorem Reading.take_complete {d : Definition} {ls : List Lexeme} {q : Reading}
    (h : Reading.take (.complete d) ls = some q) : ls = [] := by
  cases ls with
  | nil => rfl
  | cons l ls => cases h

theorem Reading.take_ended {d d' : Definition} {ls : List Lexeme}
    (h : Reading.take (.ended d) ls = some (.complete d')) : ls = [.symbol .closeBrace] := by
  cases ls with
  | nil => cases h
  | cons l ls =>
    rw [Reading.take_cons] at h
    obtain ⟨r, hr, h⟩ := Option.bind_eq_some_iff.mp h
    have hl : l = .symbol .closeBrace ∧ r = .complete d := by
      simp only [Reading.step] at hr
      split at hr <;> simp_all
    obtain ⟨rfl, rfl⟩ := hl
    rw [take_complete h]

/-- Outside of objects, every other symbol behind an expression ends the definition. -/
theorem Reading.stepAfter_ends {name : String} {e : Expr} {frames : List Frame} {s : Symbol}
    {r : Reading} (hframes : ∀ done key outer, frames ≠ .entries done key :: outer)
    (hs : s ∉ [.dot, .comma, .openParen, .closeParen])
    (h : Reading.stepAfter name e frames s = some r) :
    r = .ended ⟨name, e⟩ ∨ r = .complete ⟨name, e⟩ := by
  match frames with
  | [] =>
    cases s <;> simp_all [Reading.stepAfter]
  | .arguments callee done :: outer => cases s <;> simp_all [Reading.stepAfter]
  | .entries done key :: outer => exact absurd rfl (hframes done key outer)

/-- A word comes, and behind it a symbol that goes on with the chain or with a list, unless the
definition ends there. -/
theorem Reading.AtMember.take {q : Reading} (hq : q.AtMember) {ls : List Lexeme} {d : Definition}
    (h : q.take ls = some (.complete d)) :
    ∃ word s rest, ls = .word word :: .symbol s :: rest ∧
      (s ∈ [.dot, .comma, .openParen, .closeParen] ∨ rest = [] ∨ rest = [.symbol .closeBrace]) := by
  obtain ⟨name, frames, target, rfl, hframes⟩ := hq
  match ls with
  | [] => cases h
  | .quoted text :: ls => cases h
  | .symbol s :: ls => cases h
  | [.word word] => cases h
  | .word word :: .word word' :: ls => cases h
  | .word word :: .quoted text :: ls => cases h
  | .word word :: .symbol s :: rest =>
    refine ⟨word, s, rest, rfl, ?_⟩
    by_cases hs : s ∈ [.dot, .comma, .openParen, .closeParen]
    · exact .inl hs
    · have hafter : Reading.take (.body name frames (.after (.member target word)))
          (.symbol s :: rest) = some (.complete d) := h
      rw [Reading.take_cons] at hafter
      obtain ⟨r, hr, hrest⟩ := Option.bind_eq_some_iff.mp hafter
      rcases Reading.stepAfter_ends hframes hs hr with rfl | rfl
      · exact .inr (.inr (Reading.take_ended hrest))
      · exact .inr (.inl (Reading.take_complete hrest))

/-! ## What the name is -/

/-- Blanks and a word, and directly behind the word nothing, a blank, or a character that goes on
with a chain or a list. -/
def LeadsWithWord (cs : List Char) : Prop :=
  ∃ blanks word rest, cs = blanks ++ (word ++ rest) ∧ (∀ c ∈ blanks, Text.isBlank c = true) ∧
    IsWord word ∧ ∀ c ∈ rest.head?, Text.isBlank c = true ∨ c ∈ ['.', ',', '(', ')']

theorem LeadsWithWord.isWord {cs : List Char} (h : LeadsWithWord cs)
    (hcs : ∀ c ∈ cs, Text.isBlank c = false ∧ c ∉ ['.', ',', '(', ')']) : IsWord cs := by
  obtain ⟨blanks, word, rest, rfl, hblanks, hword, hrest⟩ := h
  have hno : blanks = [] := by
    cases blanks with
    | nil => rfl
    | cons c blanks => simp [hblanks c (by simp)] at hcs
  have hall : rest = [] := by
    cases rest with
    | nil => rfl
    | cons c rest =>
      obtain ⟨hb, hc⟩ := hcs c (by simp)
      exact ((hrest c rfl).resolve_left (by simp [hb]) |> hc).elim
  simpa [hno, hall] using hword

/-- A place in two lists one behind the other is in the first or in the second. -/
theorem split_append {α : Type} {as bs before after : List α} {a : α}
    (h : as ++ bs = before ++ a :: after) :
    (∃ rest, as = before ++ a :: rest) ∨
      ∃ front, before = as ++ front ∧ bs = front ++ a :: after := by
  rcases List.append_eq_append_iff.mp h with ⟨front, hf, hb⟩ | ⟨rest, ha, hr⟩
  · exact .inr ⟨front, hf, hb⟩
  · cases rest with
    | nil => exact .inr ⟨[], by simpa using ha.symm, by simpa using hr.symm⟩
    | cons x rest =>
      obtain ⟨rfl, _⟩ := List.cons.inj hr
      exact .inl ⟨rest, ha⟩

theorem leadsWithWord_of_spaced {o : Nat} {name after : List Char} {ts : List Token}
    (h : Spaced o (name ++ '(' :: after) ts) {word : String} {s : Symbol} {rest : List Lexeme}
    (hls : ts.map (·.lexeme) = .word word :: .symbol s :: rest)
    (hs : s ∈ [.dot, .comma, .openParen, .closeParen] ∨ rest = [] ∨ rest = [.symbol .closeBrace]) :
    LeadsWithWord name := by
  obtain ⟨⟨_, p⟩, ts, rfl, rfl, hts⟩ := List.map_eq_cons_iff.mp hls
  obtain ⟨⟨_, q⟩, us, rfl, rfl, rfl⟩ := List.map_eq_cons_iff.mp hts
  obtain ⟨blanks, behind, _, htext, hblanks, hword, _, hbehind⟩ := h.first
  have hfirst : '(' ∉ blanks ++ word.toList := by
    intro hm
    rcases List.mem_append.mp hm with hm | hm
    · exact absurd (hblanks _ hm) (by decide)
    · exact absurd (IsWord.all_wordPart hword _ hm) (by decide)
  rw [← List.append_assoc] at htext
  obtain ⟨after', hcut⟩ | ⟨more, rfl, rfl⟩ := split_append htext.symm
  · rw [show blanks ++ word.toList = name ++ '(' :: after' from hcut] at hfirst
    simp at hfirst
  refine ⟨blanks, word.toList, more, by simp [Lexeme.text], hblanks, hword, ?_⟩
  cases more with
  | nil => simp
  | cons c more =>
    intro c' hc'
    obtain rfl : c = c' := by simpa using hc'
    obtain ⟨gap, tail, _, htail, hgap, _, _, hspaced⟩ := hbehind.first
    cases gap with
    | cons b gap =>
      obtain ⟨rfl, _⟩ := List.cons.inj htail
      exact .inl (hgap c (by simp))
    | nil =>
      obtain ⟨rfl, rfl⟩ : c = s.char ∧ tail = more ++ '(' :: after := by
        simpa [Lexeme.text, eq_comm] using htail
      rcases hs with hs | hs
      · refine .inr ?_
        revert hs
        cases s <;> decide
      · -- The rest is a brace at most, but the parenthesis is still to come.
        rcases hspaced.mem (c := '(') (by simp) with hb | ⟨t, ht, hc⟩
        · exact absurd hb (by decide)
        · have hmem : t.lexeme ∈ us.map (·.lexeme) := List.mem_map_of_mem ht
          rcases hs with hs | hs <;> simp only [hs, List.mem_singleton, List.not_mem_nil] at hmem
          rw [hmem] at hc
          exact absurd hc (by decide)

/-- The tokens up to a pasted name take the reader to a member name. -/
theorem exists_tokens_before {name text : String} {ts : List Token}
    (hname : IsWord name.toList) {before behind : List Char}
    (hbefore : before = [] ∨ ∃ front s, before = front ++ [Symbol.char s] ∧
      (s = .openParen ∨ s = .comma) ∧ Closed front)
    (htext : text.toList = ("function " ++ name ++ "() \x7b" ++ " " ++ "return ").toList ++
      (before ++ 'h' :: '.' :: behind)) (h : Spaced 0 text.toList ts) :
    ∃ us vs o, ts = us ++ vs ∧ Spaced o ('h' :: '.' :: behind) vs ∧
      ∀ q, Reading.start.take (us.map (·.lexeme) ++ [.word "h", .symbol .dot]) = some q →
        q.AtMember := by
  have hheader := reads_header hname isBlankText_space
  rw [htext] at h
  rcases hbefore with rfl | ⟨front, s, rfl, hs, hfront⟩
  · obtain ⟨us, vs, rfl, hus, hvs⟩ := hheader.split h (apart_header _ _)
    refine ⟨us, vs, _, rfl, hvs, ?_⟩
    rw [hus]
    exact fun q => atMember_of_header
  · have hclosed := hheader.closed.append hfront
    have hsymbol : Reads (String.singleton s.char) [.symbol s] :=
      Reads.lexeme (l := .symbol s) trivial
    rw [List.append_assoc front, ← List.append_assoc _ front] at h
    obtain ⟨us, vs, rfl, _, hvs⟩ := hclosed.split h (.inl (by simp))
    obtain ⟨ws, xs, rfl, hws, hxs⟩ := hsymbol.split (by simpa using hvs) (.inr (by simp))
    refine ⟨us ++ ws, xs, _, by simp, hxs, ?_⟩
    intro q hq
    rw [List.map_append, hws, List.append_assoc, Reading.take_append] at hq
    obtain ⟨r, _, hr⟩ := Option.bind_eq_some_iff.mp hq
    exact atMember_of_separator hs hr

/-- Where a definition is read, a pasted name starts with a word. -/
theorem leadsWithWord_of_pastedIn {name : String} {d : Definition} {tag : String}
    {ts : List Token} {e : Expr} (hname : IsWord name.toList)
    (ht : tokenize (Definition.mk name e).compact = .ok ts) (hd : Definition.ofTokens ts = .ok d)
    (hp : PastedIn tag e.compact) : LeadsWithWord tag.toList := by
  obtain ⟨before, after, htext, hbefore⟩ := hp
  have hcode : (Definition.mk name e).compact.toList =
      ("function " ++ name ++ "() \x7b" ++ " " ++ "return ").toList ++
        (before ++ 'h' :: '.' :: (tag.toList ++ '(' :: (after ++ "; \x7d".toList))) := by
    simp [Definition.compact, htext]
  obtain ⟨us, vs, o, rfl, hvs, hmember⟩ := exists_tokens_before hname hbefore hcode
    ((tokenize_eq_ok_iff _ _).mp ht)
  have hh : Reads "h" [.word "h"] :=
    Reads.lexeme (l := .word "h") (show IsWord "h".toList by decide)
  obtain ⟨ws, xs, rfl, hws, hxs⟩ := (hh.push_symbol .dot).split hvs (.inr (by simp))
  have hread := (Definition.ofTokens_eq_ok_iff _ d).mp hd
  rw [List.map_append, List.map_append, hws, ← List.append_assoc, Reading.take_append] at hread
  obtain ⟨q, hq, hrest⟩ := Option.bind_eq_some_iff.mp hread
  obtain ⟨word, s, rest, hls, hs⟩ := (hmember q hq).take hrest
  exact leadsWithWord_of_spaced hxs hls hs

end MarkupChain.Script
