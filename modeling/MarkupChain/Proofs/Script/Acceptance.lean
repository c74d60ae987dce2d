import MarkupChain.Proofs.Script.Grammar
import MarkupChain.Proofs.Script.Spacing

/-!
# What is accepted, and where the rest is refused

The reader accepts exactly the token lists that the grammar derives, and each of them stands for
one definition. Every place that the reader can reach is completed by some tokens. So a list that
is too short is one that can go on to an accepted list, and any other list is refused at the first
token with which no accepted list starts.
-/

namespace MarkupChain.Script

/-- A list of lexemes is derived from one definition at most. -/
theorem Definition.Derives.unique {d d' : Definition} {ts : List Token}
    (h : d.Derives (ts.map (·.lexeme))) (h' : d'.Derives (ts.map (·.lexeme))) : d = d' := by
  have hd := h.ofTokens
  rw [h'.ofTokens] at hd
  exact (Except.ok.inj hd).symm

/-- Reading succeeds on the lists of the grammar and on no others, with the definition that the
list is derived from; there is only one. -/
theorem Definition.ofTokens_accepts_grammar (ts : List Token) :
    (∀ d, Definition.ofTokens ts = .ok d ↔ d.Derives (ts.map (·.lexeme))) ∧
      ∀ d d' : Definition, d.Derives (ts.map (·.lexeme)) → d'.Derives (ts.map (·.lexeme)) →
        d = d' := by
  constructor
  · intro d
    exact ⟨derives_of_ofTokens, Derives.ofTokens⟩
  · intro d d' h h'
    exact h.unique h'

/-! ## Completions -/

/-- Some lexemes lead from here to the end of a definition. -/
def Reading.Completes (r : Reading) : Prop := ∃ ls d, r.take ls = some (.complete d)

theorem Reading.Completes.of_step {r q : Reading} (l : Lexeme) (h : r.step l = some q)
    (hq : q.Completes) : r.Completes := by
  obtain ⟨ls, d, hls⟩ := hq
  exact ⟨l :: ls, d, by simp [h, hls]⟩

/-- Behind an expression the open lists are closed one by one, then the body. -/
theorem Reading.completes_after (name : String) (frames : List Frame) (e : Expr) :
    Reading.Completes (.body name frames (.after e)) := by
  induction frames generalizing e with
  | nil => exact ⟨[.symbol .closeBrace], ⟨name, e⟩, rfl⟩
  | cons frame frames ih =>
    cases frame with
    | arguments callee done => exact .of_step (.symbol .closeParen) rfl (ih _)
    | entries done key => exact .of_step (.symbol .closeBrace) rfl (ih _)

theorem Reading.completes_operand (name : String) (frames : List Frame) :
    Reading.Completes (.body name frames .operand) :=
  .of_step (.word "h") rfl (completes_after name frames (.ident "h"))

theorem Reading.completes_body (name : String) (frames : List Frame) (spot : Spot) :
    Reading.Completes (.body name frames spot) := by
  cases spot with
  | operand => exact completes_operand name frames
  | argument callee done =>
    exact .of_step (.symbol .closeParen) rfl (completes_after name frames _)
  | key done => exact .of_step (.symbol .closeBrace) rfl (completes_after name frames _)
  | colon done key => exact .of_step (.symbol .colon) rfl (completes_operand name _)
  | member target => exact .of_step (.word "h") rfl (completes_after name frames _)
  | after e => exact completes_after name frames e

theorem Reading.completes_opened (name : String) : Reading.Completes (.opened name) :=
  .of_step (.word "return") (by simp [step]) (completes_operand name [])

theorem Reading.completes_named (name : String) : Reading.Completes (.named name) :=
  .of_step (.symbol .openParen) rfl <| .of_step (.symbol .closeParen) rfl <|
    .of_step (.symbol .openBrace) rfl (completes_opened name)

/-- No place is a dead end, whether or not it is ever reached. -/
theorem Reading.completes (r : Reading) : r.Completes := by
  have hkeyword : Reading.Completes .keyword := .of_step (.word "h") rfl (completes_named "h")
  cases r with
  | start => exact .of_step (.word "function") (by simp [step]) hkeyword
  | keyword => exact hkeyword
  | named name => exact completes_named name
  | params name =>
    exact .of_step (.symbol .closeParen) rfl <|
      .of_step (.symbol .openBrace) rfl (completes_opened name)
  | signature name => exact .of_step (.symbol .openBrace) rfl (completes_opened name)
  | opened name => exact completes_opened name
  | body name frames spot => exact completes_body name frames spot
  | ended d => exact ⟨[.symbol .closeBrace], d, rfl⟩
  | complete d => exact ⟨[], d, rfl⟩

/-! ## Refusals -/

/-- The reader stops with an error at a token that cannot stand where it is, and only there. -/
theorem Reading.run_eq_error_iff (r : Reading) (ts : List Token) (e : Error) :
    r.run ts = .error e ↔ ∃ before t after q, ts = before ++ t :: after ∧ r.run before = .ok q ∧
      q.step t.lexeme = none ∧ e = .unexpectedToken t.lexeme.text t.offset := by
  constructor
  · intro h
    induction ts generalizing r with
    | nil => cases h
    | cons t ts ih =>
      rw [run] at h
      cases hs : r.step t.lexeme with
      | none =>
        rw [hs] at h
        cases h
        exact ⟨[], t, ts, r, rfl, rfl, hs, rfl⟩
      | some next =>
        rw [hs] at h
        obtain ⟨before, u, after, q, rfl, hq, hu, he⟩ := ih next h
        exact ⟨t :: before, u, after, q, rfl, by rw [run, hs]; exact hq, hu, he⟩
  · rintro ⟨before, t, after, q, rfl, hq, ht, rfl⟩
    rw [run_append, hq, ok_bind, run, ht]

/-- The token lists that are read as a definition. -/
def Accepted (ts : List Token) : Prop := ∃ d, Definition.ofTokens ts = .ok d

/-- The token lists that an accepted list starts with. -/
def Viable (ts : List Token) : Prop := ∃ us, Accepted (ts ++ us)

theorem viable_iff (ts : List Token) : Viable ts ↔ ∃ r, Reading.start.run ts = .ok r := by
  constructor
  · rintro ⟨us, d, hd⟩
    obtain ⟨q, hq, _⟩ := bind_eq_ok.mp hd
    rw [Reading.run_append] at hq
    obtain ⟨r, hr, _⟩ := bind_eq_ok.mp hq
    exact ⟨r, hr⟩
  · rintro ⟨r, hr⟩
    obtain ⟨ls, d, hls⟩ := r.completes
    -- Offsets do not matter to what is accepted.
    refine ⟨ls.map (⟨·, 0⟩), d, ?_⟩
    have htake := (Reading.run_eq_ok_iff _ _ _).mp hr
    rw [Definition.ofTokens_eq_ok_iff, List.map_append, Reading.take_append, htake]
    simpa [Function.comp_def] using hls

theorem Viable.take {ts : List Token} (h : Viable ts) (n : Nat) : Viable (ts.take n) := by
  obtain ⟨us, hus⟩ := h
  exact ⟨ts.drop n ++ us, by rwa [← List.append_assoc, List.take_append_drop]⟩

theorem not_viable_iff (ts : List Token) :
    ¬ Viable ts ↔ ∃ e, Reading.start.run ts = .error e := by
  rw [viable_iff]
  cases Reading.start.run ts with
  | error e => simp
  | ok r => simp

theorem Definition.ofTokens_eq_unexpectedEnd_iff (ts : List Token) :
    Definition.ofTokens ts = .error .unexpectedEnd ↔ Viable ts ∧ ¬ Accepted ts := by
  rw [viable_iff, Accepted, Definition.ofTokens]
  cases h : Reading.start.run ts with
  | error e =>
    obtain ⟨_, t, _, _, _, _, _, rfl⟩ := (Reading.run_eq_error_iff _ _ _).mp h
    simp [bind, Except.bind]
  | ok r => cases r <;> simp [Reading.finish]

/-- An unexpected token is where the run of the reader stops. -/
theorem Definition.ofTokens_eq_unexpectedToken_iff (ts : List Token) (text : String)
    (offset : Nat) :
    Definition.ofTokens ts = .error (.unexpectedToken text offset) ↔
      Reading.start.run ts = .error (.unexpectedToken text offset) := by
  rw [Definition.ofTokens]
  cases Reading.start.run ts with
  | error e => simp [bind, Except.bind]
  | ok r => cases r <;> simp [Reading.finish]

/-- The token at which a run stops is the first that makes the list read so far not viable. -/
theorem Reading.run_start_eq_error_iff (ts : List Token) (text : String) (offset : Nat) :
    Reading.start.run ts = .error (.unexpectedToken text offset) ↔
      ∃ i t, ts[i]? = some t ∧ ¬ Viable (ts.take (i + 1)) ∧ (∀ j < i, Viable (ts.take (j + 1))) ∧
        text = t.lexeme.text ∧ offset = t.offset := by
  rw [run_eq_error_iff]
  constructor
  · rintro ⟨before, t, after, q, rfl, hq, ht, he⟩
    obtain ⟨rfl, rfl⟩ := Error.unexpectedToken.inj he
    have hbefore : Viable before := (viable_iff before).mpr ⟨q, hq⟩
    have htake : (before ++ t :: after).take (before.length + 1) = before ++ [t] := by
      simp [List.take_length_add_append]
    refine ⟨before.length, t, by simp, ?_, ?_, rfl, rfl⟩
    · rw [htake, not_viable_iff]
      exact ⟨_, (run_eq_error_iff _ _ _).mpr ⟨before, t, [], q, rfl, hq, ht, rfl⟩⟩
    · intro j hj
      rw [List.take_append_of_le_length hj]
      exact hbefore.take (j + 1)
  · rintro ⟨i, t, hi, hnot, hleast, rfl, rfl⟩
    obtain ⟨hlt, ht⟩ := List.getElem?_eq_some_iff.mp hi
    have hbefore : Viable (ts.take i) := by
      cases i with
      | zero => exact (viable_iff _).mpr ⟨.start, by simp⟩
      | succ i => exact hleast i (Nat.lt_succ_self i)
    obtain ⟨q, hq⟩ := (viable_iff _).mp hbefore
    refine ⟨ts.take i, t, ts.drop (i + 1), q, ?_, hq, ?_, rfl⟩
    · rw [← ht, List.getElem_cons_drop, List.take_append_drop]
    · -- Were the token taken, the list with it would be viable.
      cases hs : q.step t.lexeme with
      | none => rfl
      | some next =>
        refine absurd ((viable_iff _).mpr ⟨next, ?_⟩) hnot
        rw [List.take_succ_eq_append_getElem hlt, ht, run_append, hq, ok_bind, run, hs]
        rfl

/-- Behind a list that is not accepted, what makes it accepted is not empty. -/
theorem viable_iff_of_not_accepted {ts : List Token} (h : ¬ Accepted ts) :
    Viable ts ↔ ∃ us, us ≠ [] ∧ Accepted (ts ++ us) := by
  constructor
  · rintro ⟨us, hus⟩
    refine ⟨us, ?_, hus⟩
    rintro rfl
    exact h (by simpa using hus)
  · rintro ⟨us, _, hus⟩
    exact ⟨us, hus⟩

/-- A list is too short exactly when it is not accepted and a longer one is. A token is refused
exactly when the list is not viable; it is then the first token up to which the list is not. -/
theorem Definition.ofTokens_refuses_earliest (ts : List Token) :
    (Definition.ofTokens ts = .error .unexpectedEnd ↔
      ¬ Accepted ts ∧ ∃ us, us ≠ [] ∧ Accepted (ts ++ us)) ∧
    ((∃ text offset, Definition.ofTokens ts = .error (.unexpectedToken text offset)) ↔
      ¬ Viable ts) ∧
    ∀ text offset, Definition.ofTokens ts = .error (.unexpectedToken text offset) ↔
      ∃ i t, ts[i]? = some t ∧ ¬ Viable (ts.take (i + 1)) ∧ (∀ j < i, Viable (ts.take (j + 1))) ∧
        text = t.lexeme.text ∧ offset = t.offset := by
  refine ⟨?_, ?_, ?_⟩
  · rw [ofTokens_eq_unexpectedEnd_iff, and_comm]
    exact and_congr_right viable_iff_of_not_accepted
  · simp only [ofTokens_eq_unexpectedToken_iff, not_viable_iff]
    constructor
    · rintro ⟨text, offset, h⟩
      exact ⟨_, h⟩
    · rintro ⟨e, h⟩
      obtain ⟨_, t, _, _, _, _, _, rfl⟩ := (Reading.run_eq_error_iff _ _ _).mp h
      exact ⟨_, _, h⟩
  · intro text offset
    rw [ofTokens_eq_unexpectedToken_iff]
    exact Reading.run_start_eq_error_iff ts text offset

end MarkupChain.Script
