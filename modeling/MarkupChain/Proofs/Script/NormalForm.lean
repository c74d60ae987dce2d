import MarkupChain.Proofs.Script.Formatting

/-!
# Layout as a normal form

What a text is formatted to depends on the definition that it is read as and on the widths, on
nothing else. So formatting a formatted text forgets the widths it was formatted with before. A
formatter that is used again has no memory either: its buffer is empty before a definition is
written, whatever was left in it.
-/

namespace MarkupChain.Script

theorem format_blank (w : Widths) {code : String} (h : Text.isBlankText code = true) :
    format w code = .ok "" := if_pos h

/-- The widths of an earlier formatting leave no trace. -/
theorem format_of_format {w₁ : Widths} {code out : String} (h : format w₁ code = .ok out)
    (w₂ : Widths) : format w₂ out = format w₂ code := by
  rcases format_cases h with ⟨hblank, rfl⟩ | ⟨ts, d, ht, hd, rfl⟩
  · rw [format_blank w₂ hblank]
    exact format_blank w₂ rfl
  · obtain ⟨us, hus, hread⟩ := (Definition.wellSpelled_of_tokenize ht hd).ofTokens_layout w₁
    rw [format_eq_layout hus hread, format_eq_layout ht hd]

/-! ## Formatters in use -/

@[simp] theorem Formatter.widths_writeDefinition (f : Formatter) (d : Definition) :
    (f.writeDefinition d).widths = f.widths := rfl

theorem Formatter.buffer_writeDefinition (f : Formatter) (d : Definition) :
    (f.writeDefinition d).buffer = f.buffer ++ d.layout f.widths := by
  delta Definition.layout
  simp [writeDefinition, write, ← String.toList_inj]

/-- The result does not depend on the buffer, and the widths are kept. -/
theorem Formatter.format_step (f : Formatter) (code : String) :
    (f.format code).1.widths = f.widths ∧ (f.format code).2 = Script.format f.widths code := by
  rw [Formatter.format, Script.format]
  split
  · exact ⟨rfl, rfl⟩
  · have hbuffer : ∀ d : Definition, (f.clear.writeDefinition d).buffer = d.layout f.widths := by
      intro d
      rw [buffer_writeDefinition]
      simp [clear]
    cases tokenize code with
    | error e => exact ⟨rfl, rfl⟩
    | ok ts =>
      simp only [ok_bind]
      cases Definition.ofTokens ts with
      | error e => exact ⟨rfl, rfl⟩
      | ok d => exact ⟨rfl, congrArg Except.ok (hbuffer d)⟩

theorem Session.step_widths (s : Session) (request : Request) :
    (s.step request).1.widths = s.widths := (s.format_step (s.text request)).1

theorem Session.step_result (s : Session) (request : Request) :
    (s.step request).2 = format s.widths (s.text request) := (s.format_step (s.text request)).2

theorem Session.run_cons (s : Session) (request : Request) (rest : List Request) :
    s.run (request :: rest) = (s.step request).2 :: (s.step request).1.run rest := rfl

theorem Session.run_codes (s : Session) (codes : List String) :
    s.run (codes.map .code) = codes.map (format s.widths) := by
  induction codes generalizing s with
  | nil => rfl
  | cons code codes ih =>
    rw [List.map_cons, run_cons, ih, step_widths, step_result]
    rfl

/-- The last result is what a session formats when it is asked again. -/
theorem Session.last_step {s : Session} {request : Request} {out : String}
    (h : (s.step request).2 = .ok out) : (s.step request).1.last = out := by
  change (s.step request).2.toOption.getD s.last = out
  rw [h]
  rfl

/-- Formatting a formatted text gives what formatting the text itself gives, for any two widths. A
fresh formatter formats this way, and so does one in use, whatever texts it was given before and
whatever is left in its buffer; a result that it formats again stays as it is. -/
theorem format_forgets_layout_and_history :
    (∀ (w₁ w₂ : Widths) (code out : String), format w₁ code = .ok out →
      format w₂ out = format w₂ code) ∧
    (∀ (w : Widths) (code : String), (Formatter.format { widths := w } code).2 = format w code) ∧
    (∀ (s : Session) (codes : List String),
      s.run (codes.map .code) = codes.map (format s.widths)) ∧
    ∀ (s : Session) (request : Request) (out : String), (s.step request).2 = .ok out →
      ((s.step request).1.step .again).2 = .ok out := by
  refine ⟨fun w₁ w₂ code out h => format_of_format h w₂, fun w code => ?_, Session.run_codes, ?_⟩
  · exact (Formatter.format_step { widths := w } code).2
  · intro s request out h
    have hformat : format s.widths (s.text request) = .ok out := by rw [← Session.step_result, h]
    rw [Session.step_result, Session.step_widths, Session.text, Session.last_step h]
    exact (format_of_format hformat s.widths).trans hformat

/-- The lines that a narrow width made are gone under a wide one, and a formatter that holds half a
line starts anew. -/
theorem format_forgets_layout_and_history_narrow :
    (format ⟨2, 8⟩ "function A()\x7breturn h(b)\x7d" =
        .ok "function A() \x7b\n  return h(\n    b,\n  );\n\x7d\n" ∧
      format ⟨4, 80⟩ "function A() \x7b\n  return h(\n    b,\n  );\n\x7d\n" =
        .ok "function A() \x7b\n    return h(b);\n\x7d\n") ∧
    ((Session.step ⟨⟨⟨2, 8⟩, "function "⟩, ""⟩ (.code "function A()\x7breturn h(b)\x7d")).2 =
        .ok "function A() \x7b\n  return h(\n    b,\n  );\n\x7d\n" ∧
      ((Session.step ⟨⟨⟨2, 8⟩, "function "⟩, ""⟩ (.code "function A()\x7breturn h(b)\x7d")).1.step
        .again).2 = .ok "function A() \x7b\n  return h(\n    b,\n  );\n\x7d\n") := by
  have hts : tokenize "function A()\x7breturn h(b)\x7d" = .ok [⟨.word "function", 0⟩,
    ⟨.word "A", 9⟩, ⟨.symbol .openParen, 10⟩, ⟨.symbol .closeParen, 11⟩, ⟨.symbol .openBrace, 12⟩,
    ⟨.word "return", 13⟩, ⟨.word "h", 20⟩, ⟨.symbol .openParen, 21⟩, ⟨.word "b", 22⟩,
    ⟨.symbol .closeParen, 23⟩, ⟨.symbol .closeBrace, 24⟩] := rfl
  have hlayout : ∀ w : Widths, format w "function A()\x7breturn h(b)\x7d" =
      .ok (Definition.layout w ⟨"A", .call (.ident "h") [.ident "b"]⟩) :=
    fun w => format_eq_layout hts rfl
  have hnarrow : Definition.layout ⟨2, 8⟩ ⟨"A", .call (.ident "h") [.ident "b"]⟩ =
      "function A() \x7b\n  return h(\n    b,\n  );\n\x7d\n" := rfl
  have hwide : Definition.layout ⟨4, 80⟩ ⟨"A", .call (.ident "h") [.ident "b"]⟩ =
      "function A() \x7b\n    return h(b);\n\x7d\n" := rfl
  have hfirst := hlayout ⟨2, 8⟩
  rw [hnarrow] at hfirst
  have hagain := format_forgets_layout_and_history.1 ⟨2, 8⟩ ⟨4, 80⟩ _ _ hfirst
  rw [hlayout, hwide] at hagain
  have hstep := (Session.step_result ⟨⟨⟨2, 8⟩, "function "⟩, ""⟩
    (.code "function A()\x7breturn h(b)\x7d")).trans hfirst
  exact ⟨⟨hfirst, hagain⟩, hstep, format_forgets_layout_and_history.2.2.2 _ _ _ hstep⟩

end MarkupChain.Script
