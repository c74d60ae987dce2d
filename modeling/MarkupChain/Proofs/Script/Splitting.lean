import MarkupChain.Proofs.Script.Printing

/-!
# Where the tokens of a text may be split

A text is closed when no literal that starts in it is still open behind it. The tokens of a text
that starts with a closed part are those of the part followed by those of the rest. A text without
backslashes is closed if its quotes come in pairs, and so is every text that can be read by itself.
-/

namespace MarkupChain.Script

/-! ## Closed texts -/

def Scan.inLiteral (s : Scan) : Bool :=
  match s.mode with
  | .quoted _ _ _ => true
  | _ => false

/-- The next character stands behind a backslash. -/
def Scan.escaped (s : Scan) : Bool :=
  match s.mode with
  | .quoted _ _ escaped => escaped
  | _ => false

/-- A scanner that enters the text outside of literals leaves it outside of them. -/
def Closed (cs : List Char) : Prop :=
  ∀ s t : Scan, s.inLiteral = false → s.run cs = .ok t → t.inLiteral = false

theorem Closed.nil : Closed [] := by
  intro s t hs ht
  cases ht
  exact hs

theorem Closed.append {cs ds : List Char} (hc : Closed cs) (hd : Closed ds) :
    Closed (cs ++ ds) := by
  intro s t hs ht
  rw [Scan.run_append] at ht
  obtain ⟨q, hq, ht⟩ := bind_eq_ok.mp ht
  exact hd q t (hc s q hs hq) ht

/-- Between tokens a quote enters a literal and nothing else does. -/
theorem Scan.inLiteral_fresh {o : Nat} {ts : List Token} {c : Char} {t : Scan}
    (h : Scan.fresh o ts c = .ok t) :
    t.escaped = false ∧ (t.inLiteral = false ↔ c ≠ '"') := by
  rcases fresh_cases h with ⟨hb, rfl⟩ | ⟨rfl, rfl⟩ | ⟨hw, rfl⟩ | ⟨symbol, rfl, rfl⟩
  · exact ⟨rfl, iff_of_true rfl (by rintro rfl; exact absurd hb (by decide))⟩
  · exact ⟨rfl, by simp [inLiteral]⟩
  · exact ⟨rfl, iff_of_true rfl (by rintro rfl; exact absurd hw (by decide))⟩
  · exact ⟨rfl, iff_of_true rfl (by cases symbol <;> decide)⟩

/-- Without backslashes every quote enters a literal or leaves one, and nothing else does. -/
theorem Scan.inLiteral_step {s t : Scan} {c : Char} (hs : s.escaped = false) (hc : c ≠ '\\')
    (h : s.step c = .ok t) :
    t.escaped = false ∧ (t.inLiteral = s.inLiteral ↔ c ≠ '"') := by
  obtain ⟨mode, o, ts⟩ := s
  cases mode with
  | between => exact inLiteral_fresh h
  | word start text =>
    rw [step] at h
    split at h
    · next hp =>
      cases h
      exact ⟨rfl, iff_of_true rfl (by rintro rfl; exact absurd hp (by decide))⟩
    · exact inLiteral_fresh h
  | quoted start text escaped =>
    obtain rfl : escaped = false := hs
    rw [step] at h
    split at h
    · next hq =>
      cases h
      exact ⟨rfl, by simp [inLiteral, hq]⟩
    · next hq =>
      cases h
      exact ⟨by simp [Scan.escaped, hc], iff_of_true rfl hq⟩

theorem Scan.inLiteral_run {s t : Scan} {cs : List Char} (hs : s.escaped = false)
    (hcs : '\\' ∉ cs) (h : s.run cs = .ok t) :
    t.inLiteral = s.inLiteral ↔ cs.count '"' % 2 = 0 := by
  induction cs generalizing s with
  | nil =>
    cases h
    simp
  | cons c cs ih =>
    obtain ⟨hc, hcs⟩ : '\\' ≠ c ∧ '\\' ∉ cs := by simpa using hcs
    rw [run_cons] at h
    obtain ⟨q, hq, ht⟩ := bind_eq_ok.mp h
    obtain ⟨hescaped, hstep⟩ := inLiteral_step hs hc.symm hq
    have hrun := ih hescaped hcs ht
    by_cases hquote : c = '"'
    · -- The quote takes the scanner to the other side.
      have hother : q.inLiteral ≠ s.inLiteral := fun he => hstep.mp he hquote
      have hcount : (c :: cs).count '"' = cs.count '"' + 1 := by simp [hquote]
      rw [hcount]
      cases hsl : s.inLiteral <;> cases hql : q.inLiteral <;> cases htl : t.inLiteral <;>
        simp_all <;> omega
    · have hcount : (c :: cs).count '"' = cs.count '"' := by simp [hquote]
      rw [hcount, ← hrun, hstep.mpr hquote]

/-- Without backslashes, a text is closed when its quotes come in pairs. -/
theorem closed_of_even {cs : List Char} (hb : '\\' ∉ cs) (hq : cs.count '"' % 2 = 0) :
    Closed cs := by
  intro s t hs ht
  have hescaped : s.escaped = false := by
    obtain ⟨mode, o, ts⟩ := s
    cases mode with
    | between => rfl
    | word start text => rfl
    | quoted start text escaped => cases hs
  rw [(Scan.inLiteral_run hescaped hb ht).mpr hq, hs]

theorem closed_of_not_mem {cs : List Char} (hb : '\\' ∉ cs) (hq : '"' ∉ cs) : Closed cs :=
  closed_of_even hb (by simp [List.count_eq_zero.mpr hq])

theorem IsWord.closed {cs : List Char} (h : IsWord cs) : Closed cs := by
  refine closed_of_not_mem (fun hm => ?_) (fun hm => ?_) <;>
    exact absurd (h.all_wordPart _ hm) (by decide)

theorem IsLiteral.closed {cs : List Char} (h : IsLiteral cs) : Closed cs := by
  obtain ⟨body, rfl, hbody⟩ := h
  intro s t hs ht
  have hopen : ∃ o ts start, s.step '"' = .ok ⟨.quoted start "\"" false, o, ts⟩ := by
    obtain ⟨mode, o, ts⟩ := s
    cases mode with
    | between => exact ⟨_, _, _, Scan.fresh_quote o ts⟩
    | word start text => exact ⟨_, _, _, Scan.fresh_quote o _⟩
    | quoted start text escaped => cases hs
  obtain ⟨o, ts, start, hopen⟩ := hopen
  rw [Scan.run_cons, hopen, ok_bind, Scan.run_append, Scan.run_literalBody _ _ _ _ hbody, ok_bind,
    Scan.run_cons, Scan.step, if_pos rfl] at ht
  cases ht
  rfl

theorem closed_symbol (s : Symbol) : Closed [s.char] := by
  cases s <;> exact closed_of_not_mem (by decide) (by decide)

theorem Closed.intercalate {x : String} {xs : List String} (hx : Closed x.toList)
    (hxs : Closed (",".intercalate xs).toList) : Closed (",".intercalate (x :: xs)).toList := by
  cases xs with
  | nil => exact hx
  | cons y ys =>
    rw [String.intercalate_cons_cons, String.toList_append, String.toList_append]
    exact (hx.append (closed_symbol .comma)).append hxs

theorem Lexeme.Valid.closed {l : Lexeme} (h : l.Valid) : Closed l.text.toList := by
  cases l with
  | word name => exact IsWord.closed h
  | quoted text => exact IsLiteral.closed h
  | symbol s => simpa [Lexeme.text] using closed_symbol s

theorem Spaced.closed {o : Nat} {cs : List Char} {ts : List Token} (h : Spaced o cs ts) :
    Closed cs := by
  induction h with
  | nil => exact .nil
  | @blank o c cs ts hc _ ih =>
    have hb : Closed [c] := by
      refine closed_of_not_mem ?_ ?_ <;> rw [List.mem_singleton] <;> rintro rfl <;>
        exact absurd hc (by decide)
    exact hb.append ih
  | token hl _ _ ih => exact hl.closed.append ih

theorem Reads.closed {s : String} {ls : List Lexeme} (h : Reads s ls) : Closed s.toList := by
  obtain ⟨ts, hts, _⟩ := h 0
  exact hts.closed

theorem Prints.closed {p : Part} {s : String} (h : Prints p s) : Closed s.toList := by
  obtain ⟨ls, hreads, _⟩ := h
  exact hreads.closed

/-! ## Splitting -/

/-- The tokens of a part that can be read come first. -/
theorem Spaced.split {o : Nat} {cs ds : List Char} {us ts : List Token} (hc : Spaced o cs us)
    (h : Spaced o (cs ++ ds) ts) (ha : Apart cs ds) :
    ∃ vs, ts = us ++ vs ∧ Spaced (o + bytes cs) ds vs := by
  have hrun := h.finish_run []
  rw [hc.finish_run_append [] ha] at hrun
  obtain ⟨vs, hvs, hd⟩ := Scan.continues_run hrun
  exact ⟨vs, by simpa using hvs, hd⟩

/-- A closed part of a text that can be read can be read by itself. -/
theorem Closed.spaced {o : Nat} {cs ds : List Char} {ts : List Token} (hc : Closed cs)
    (h : Spaced o (cs ++ ds) ts) : ∃ us, Spaced o cs us := by
  have hrun := h.finish_run []
  rw [Scan.run_append, bind_assoc] at hrun
  obtain ⟨s, hs, _⟩ := bind_eq_ok.mp hrun
  have hout := hc _ s rfl hs
  have hfinish : ∃ us, s.finish = .ok us := by
    obtain ⟨mode, o', ts'⟩ := s
    cases mode with
    | between => exact ⟨_, rfl⟩
    | word start text => exact ⟨_, rfl⟩
    | quoted start text escaped => cases hout
  obtain ⟨us, hus⟩ := hfinish
  have hall : Scan.run ⟨.between, o, []⟩ cs >>= Scan.finish = .ok us := by rw [hs, ok_bind, hus]
  obtain ⟨vs, _, hvs⟩ := Scan.continues_run hall
  exact ⟨vs, hvs⟩

theorem Closed.split {o : Nat} {cs ds : List Char} {ts : List Token} (hc : Closed cs)
    (h : Spaced o (cs ++ ds) ts) (ha : Apart cs ds) :
    ∃ us vs, ts = us ++ vs ∧ Spaced o cs us ∧ Spaced (o + bytes cs) ds vs := by
  obtain ⟨us, hus⟩ := hc.spaced h
  obtain ⟨vs, hts, hvs⟩ := hus.split h ha
  exact ⟨us, vs, hts, hus, hvs⟩

theorem Reads.split {s : String} {ls : List Lexeme} {o : Nat} {ds : List Char} {ts : List Token}
    (hs : Reads s ls) (h : Spaced o (s.toList ++ ds) ts) (ha : Apart s.toList ds) :
    ∃ us vs, ts = us ++ vs ∧ us.map (·.lexeme) = ls ∧ Spaced (o + bytes s.toList) ds vs := by
  obtain ⟨us, hus, hls⟩ := hs o
  obtain ⟨vs, hts, hvs⟩ := hus.split h ha
  exact ⟨us, vs, hts, hls, hvs⟩

/-- What stands in a text before and behind its first token. -/
theorem Spaced.first {o : Nat} {cs : List Char} {l : Lexeme} {p : Nat} {ts : List Token}
    (h : Spaced o cs (⟨l, p⟩ :: ts)) :
    ∃ blanks rest q, cs = blanks ++ (l.text.toList ++ rest) ∧
      (∀ c ∈ blanks, Text.isBlank c = true) ∧ l.Valid ∧ l.EndsAt rest ∧ Spaced q rest ts := by
  generalize hus : (⟨l, p⟩ :: ts : List Token) = us at h
  induction h with
  | nil => cases hus
  | @blank o c cs us hc _ ih =>
    obtain ⟨blanks, rest, q, rfl, hblanks, hrest⟩ := ih hus
    exact ⟨c :: blanks, rest, q, rfl, by simpa [hc] using hblanks, hrest⟩
  | token hl he hrest _ =>
    cases hus
    exact ⟨[], _, _, rfl, by simp, hl, he, hrest⟩

/-- A text has no characters but blanks and those of its tokens. -/
theorem Spaced.mem {o : Nat} {cs : List Char} {ts : List Token} (h : Spaced o cs ts) {c : Char}
    (hc : c ∈ cs) : Text.isBlank c = true ∨ ∃ t ∈ ts, c ∈ t.lexeme.text.toList := by
  induction h with
  | nil => cases hc
  | blank hb _ ih =>
    rcases List.mem_cons.mp hc with rfl | hc
    · exact .inl hb
    · exact ih hc
  | @token o l cs ts _ _ _ ih =>
    rcases List.mem_append.mp hc with hc | hc
    · exact .inr ⟨⟨l, o⟩, by simp, hc⟩
    · rcases ih hc with hb | ⟨t, ht, hc⟩
      · exact .inl hb
      · exact .inr ⟨t, by simp [ht], hc⟩

end MarkupChain.Script
