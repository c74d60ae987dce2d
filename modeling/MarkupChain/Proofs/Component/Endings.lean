import MarkupChain.Component.Convert
import MarkupChain.Proofs.Script.Acceptance
import MarkupChain.Proofs.Script.Scanning

/-!
# A written component comes to its end

A component is written with a semicolon and a brace at its end, whatever names and texts stand before
them. Either a literal is open there and the text is refused at its opening quote, or they are the
last two tokens. A semicolon is taken only where the definition can end, so the reader refuses some
token or reads the whole definition, and never asks for more.
-/

namespace MarkupChain.Script

/-! ### The last two tokens -/

/-- The text behind the body of a written definition. -/
def ending : String := "; \x7d"

def endingTokens (offset : Nat) : List Token :=
  [⟨.symbol .semicolon, offset⟩, ⟨.symbol .closeBrace, offset + 2⟩]

theorem Scan.finish_run_ending_between (o : Nat) (ts : List Token) :
    Scan.run ⟨.between, o, ts⟩ ending.toList >>= finish = .ok (ts.reverse ++ endingTokens o) := by
  have hrun : Scan.run ⟨.between, o, ts⟩ ending.toList =
      .ok ⟨.between, o + 3, (endingTokens o).reverse ++ ts⟩ := rfl
  rw [hrun, ok_bind, finish, List.reverse_append, List.reverse_reverse]

/-- An open literal is not closed by the ending. -/
theorem Scan.finish_run_ending_quoted (start o : Nat) (text : String) (escaped : Bool)
    (ts : List Token) :
    Scan.run ⟨.quoted start text escaped, o, ts⟩ ending.toList >>= finish =
      .error (.unexpectedCharacter '"' start) := by
  apply finish_run_open
  intro body after hending
  have hquote : '"' ∈ ending.toList := by simp [hending]
  exact absurd hquote (by decide)

theorem tokenize_ending {code : String} {us : List Token}
    (h : tokenize (code ++ ending) = .ok us) : ∃ ts o, us = ts ++ endingTokens o := by
  rw [tokenize, String.toList_append, Scan.run_append, bind_assoc] at h
  obtain ⟨⟨mode, o, ts⟩, -, hrest⟩ := bind_eq_ok.mp h
  cases mode with
  | between =>
    rw [Scan.finish_run_ending_between] at hrest
    exact ⟨ts.reverse, o, (Except.ok.inj hrest).symm⟩
  | word start text =>
    have hends : Scan.run ⟨.word start text, o, ts⟩ ending.toList =
        Scan.run ⟨.between, o, ⟨.word text, start⟩ :: ts⟩ ending.toList := rfl
    rw [hends, Scan.finish_run_ending_between] at hrest
    exact ⟨_, o, (Except.ok.inj hrest).symm⟩
  | quoted start text escaped =>
    rw [Scan.finish_run_ending_quoted] at hrest
    cases hrest

/-! ### Reading to the end -/

/-- A semicolon is taken behind the whole expression only. -/
theorem Reading.step_semicolon {r q : Reading} (h : r.step (.symbol .semicolon) = some q) :
    ∃ d, q = .ended d := by
  cases r with
  | body name frames spot =>
    cases spot with
    | after e =>
      cases frames with
      | nil => exact ⟨⟨name, e⟩, (Option.some.inj h).symm⟩
      | cons frame frames => cases frame <;> cases h
    | operand | argument callee done | key done | colon done key | member target => cases h
  | start | keyword | named name | params name | signature name | opened name | ended d
  | complete d => cases h

theorem accepted_of_viable_ending {ts : List Token} {o : Nat} (h : Viable (ts ++ endingTokens o)) :
    Accepted (ts ++ endingTokens o) := by
  obtain ⟨q, hq⟩ := (viable_iff _).mp h
  have hrun := hq
  rw [Reading.run_append] at hrun
  obtain ⟨r, _, hending⟩ := bind_eq_ok.mp hrun
  rw [endingTokens, Reading.run] at hending
  split at hending
  · next behind hstep =>
    obtain ⟨d, rfl⟩ := Reading.step_semicolon hstep
    obtain rfl : .complete d = q := Except.ok.inj hending
    exact ⟨d, by rw [Definition.ofTokens, hq]; rfl⟩
  · cases hending

/-- Only tokens can be too few. -/
theorem ofTokens_of_format {w : Widths} {code : String} (h : format w code = .error .unexpectedEnd) :
    ∃ ts, tokenize code = .ok ts ∧ Definition.ofTokens ts = .error .unexpectedEnd := by
  rw [format] at h
  split at h
  · cases h
  cases ht : tokenize code with
  | error e =>
    obtain ⟨_, found, _, _, rfl⟩ := stuckAt_of_tokenize ht
    rw [ht] at h
    cases h
  | ok ts =>
    rw [ht, ok_bind] at h
    refine ⟨ts, rfl, ?_⟩
    cases hd : Definition.ofTokens ts with
    | ok d => rw [hd] at h; cases h
    | error e => rw [hd] at h; cases h; rfl

theorem format_ending_ne_unexpectedEnd (w : Widths) (code : String) :
    format w (code ++ ending) ≠ .error .unexpectedEnd := by
  intro h
  obtain ⟨us, hus, hshort⟩ := ofTokens_of_format h
  obtain ⟨ts, o, rfl⟩ := tokenize_ending hus
  obtain ⟨hviable, hrefused⟩ := (Definition.ofTokens_eq_unexpectedEnd_iff _).mp hshort
  exact hrefused (accepted_of_viable_ending hviable)

end MarkupChain.Script

namespace MarkupChain.Component

open Markup Script

theorem compact_eq_append_ending (d : Definition) :
    d.compact = "function " ++ d.name ++ "() \x7b return " ++ d.body.compact ++ ending := rfl

/-- A refused name, nothing, or a component of an element of the document. -/
theorem convertCompact_cases (o : Options) (html : String) :
    convertCompact o html = .error (.invalidName o.name) ∨ convertCompact o html = .ok "" ∨
      ∃ root ∈ topElements html, convertCompact o html = .ok (definition o root).compact := by
  rw [convertCompact]
  split
  · exact .inl rfl
  split
  · exact .inr (.inl rfl)
  cases topElements html with
  | nil => exact .inr (.inl rfl)
  | cons root others => exact .inr (.inr ⟨root, List.mem_cons_self, rfl⟩)

/-- A conversion reports an error in a script only if that script is the component of an element of
the document. -/
theorem exists_root_of_convert {o : Options} {w : Widths} {html : String} {e : Script.Error}
    (h : convert o w html = .error (.script e)) :
    ∃ root ∈ topElements html, format w (definition o root).compact = .error e := by
  rw [convert] at h
  obtain hcode | hcode | ⟨root, hroot, hcode⟩ := convertCompact_cases o html
  · rw [hcode] at h
    cases h
  · rw [hcode] at h
    cases h
  · refine ⟨root, hroot, ?_⟩
    rw [hcode, ok_bind] at h
    split at h
    · cases h
    cases hformat : format w (definition o root).compact with
    | ok text => rw [hformat] at h; cases h
    | error e' => rw [hformat] at h; cases h; rfl

/-- No component, whatever is written in it and whatever its name is, is refused for being too short,
and so no conversion reports that. -/
theorem component_never_ends_early (o : Options) (w : Widths) :
    (∀ root : Element, format w (definition o root).compact ≠ .error .unexpectedEnd) ∧
    ∀ html, convert o w html ≠ .error (.script .unexpectedEnd) ∧
      convertCompact o html ≠ .error (.script .unexpectedEnd) := by
  have hformat (root : Element) : format w (definition o root).compact ≠ .error .unexpectedEnd := by
    rw [compact_eq_append_ending]
    exact format_ending_ne_unexpectedEnd w _
  refine ⟨hformat, fun html => ⟨fun h => ?_, fun h => ?_⟩⟩
  · obtain ⟨root, -, hroot⟩ := exists_root_of_convert h
    exact hformat root hroot
  · obtain hcode | hcode | ⟨_, -, hcode⟩ := convertCompact_cases o html
    all_goals rw [hcode] at h; cases h

-- Without its ending the same component is too short.
example : format {} "function F() \x7b return h.p()" = .error .unexpectedEnd := by rfl

end MarkupChain.Component
