import MarkupChain.Proofs.Script.Printing
import MarkupChain.Script.Format

/-!
# Formatting keeps the definition

A script and its layouts are read as the same definition, whatever the widths are.
-/

namespace MarkupChain.Script

/-- A blank text has no tokens, so it is no definition. -/
theorem tokenize_blank {code : String} (h : Text.isBlankText code = true) :
    tokenize code = .ok [] := by
  obtain ⟨ts, hts, hls⟩ := (Reads.blank_append h .empty).tokenize
  rw [List.map_eq_nil_iff.mp hls] at hts
  simpa using hts

theorem Definition.wellSpelled_of_tokenize {code : String} {ts : List Token} {d : Definition}
    (ht : tokenize code = .ok ts) (hd : Definition.ofTokens ts = .ok d) : d.WellSpelled := by
  have hspaced := (tokenize_eq_ok_iff code ts).mp ht
  refine (derives_of_ofTokens hd).wellSpelled ?_
  intro l hl
  obtain ⟨t, htmem, rfl⟩ := List.mem_map.mp hl
  exact hspaced.valid t htmem

theorem format_eq_layout {w : Widths} {code : String} {ts : List Token} {d : Definition}
    (ht : tokenize code = .ok ts) (hd : Definition.ofTokens ts = .ok d) :
    format w code = .ok (d.layout w) := by
  have hblank : Text.isBlankText code = false := by
    rw [← Bool.not_eq_true]
    intro hb
    rw [tokenize_blank hb] at ht
    cases ht
    cases hd
  simp [format, hblank, ht, hd, pure, Except.pure]

/-- A text that is formatted is blank, or it is read as a definition and laid out. -/
theorem format_cases {w : Widths} {code out : String} (h : format w code = .ok out) :
    (Text.isBlankText code = true ∧ out = "") ∨
      ∃ ts d, tokenize code = .ok ts ∧ Definition.ofTokens ts = .ok d ∧ out = d.layout w := by
  rw [format] at h
  split at h
  · next hblank => exact .inl ⟨hblank, (Except.ok.inj h).symm⟩
  · obtain ⟨ts, hts, hrest⟩ := bind_eq_ok.mp h
    obtain ⟨d, hd, hout⟩ := bind_eq_ok.mp hrest
    exact .inr ⟨ts, d, hts, hd, (Except.ok.inj hout).symm⟩

/-- Reading the laid-out text gives back the definition that was laid out. -/
theorem Definition.WellSpelled.ofTokens_layout {d : Definition} (h : d.WellSpelled) (w : Widths) :
    ∃ ts, tokenize (d.layout w) = .ok ts ∧ Definition.ofTokens ts = .ok d := by
  obtain ⟨ls, hreads, hls⟩ := h.reads_layout w
  obtain ⟨ts, hts, rfl⟩ := hreads.tokenize
  exact ⟨ts, hts, hls.ofTokens⟩

/-- Whatever text is read as a definition is formatted, for all widths, and the result is read as
the same definition. A blank text is not read as a definition. -/
theorem format_preserves_definition (w : Widths) (code : String) (ts : List Token)
    (d : Definition) (ht : tokenize code = .ok ts) (hd : Definition.ofTokens ts = .ok d) :
    ∃ out us, format w code = .ok out ∧ tokenize out = .ok us ∧ Definition.ofTokens us = .ok d := by
  obtain ⟨us, hus, hread⟩ := (Definition.wellSpelled_of_tokenize ht hd).ofTokens_layout w
  exact ⟨d.layout w, us, format_eq_layout ht hd, hus, hread⟩

/-- A line too short for the call: the argument list is broken. -/
theorem format_preserves_definition_narrow :
    ∃ out us, format ⟨2, 8⟩ "function A()\x7breturn h(b)\x7d" = .ok out ∧ tokenize out = .ok us ∧
      Definition.ofTokens us = .ok ⟨"A", .call (.ident "h") [.ident "b"]⟩ :=
  format_preserves_definition ⟨2, 8⟩ "function A()\x7breturn h(b)\x7d"
    [⟨.word "function", 0⟩, ⟨.word "A", 9⟩, ⟨.symbol .openParen, 10⟩, ⟨.symbol .closeParen, 11⟩,
      ⟨.symbol .openBrace, 12⟩, ⟨.word "return", 13⟩, ⟨.word "h", 20⟩, ⟨.symbol .openParen, 21⟩,
      ⟨.word "b", 22⟩, ⟨.symbol .closeParen, 23⟩, ⟨.symbol .closeBrace, 24⟩]
    ⟨"A", .call (.ident "h") [.ident "b"]⟩ rfl rfl

end MarkupChain.Script
