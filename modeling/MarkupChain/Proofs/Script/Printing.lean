import MarkupChain.Proofs.Script.Grammar
import MarkupChain.Proofs.Script.Spacing
import MarkupChain.Script.Layout

/-!
# Written forms

A text prints an expression when its lexemes derive the expression. Blanks around a text do not
matter to what it prints, so the compact form, the flat form and every layout print the expression
they were made from, provided that its names and literals are spelled as the scanner reads them.
-/

namespace MarkupChain.Script

/-! ## Spelling -/

mutual

/-- Names are words, literals are literals, and keys are one or the other. -/
def Expr.WellSpelled : Expr → Prop
  | .ident name => IsWord name.toList
  | .literal text => IsLiteral text.toList
  | .object entries => EntriesWellSpelled entries
  | .member target name => target.WellSpelled ∧ IsWord name.toList
  | .call callee args => callee.WellSpelled ∧ ArgsWellSpelled args

def ArgsWellSpelled : List Expr → Prop
  | [] => True
  | e :: rest => e.WellSpelled ∧ ArgsWellSpelled rest

def EntriesWellSpelled : List (String × Expr) → Prop
  | [] => True
  | (key, e) :: rest =>
    (IsWord key.toList ∨ IsLiteral key.toList) ∧ e.WellSpelled ∧ EntriesWellSpelled rest

end

def Part.WellSpelled : Part → Prop
  | .expr e => e.WellSpelled
  | .args es => ArgsWellSpelled es
  | .entries es => EntriesWellSpelled es

theorem Lexeme.IsKey.spelled {k : Lexeme} {key : String} (h : k.IsKey key) (hk : k.Valid) :
    IsWord key.toList ∨ IsLiteral key.toList := by
  rcases h with rfl | rfl
  · exact .inl hk
  · exact .inr hk

theorem Lexeme.exists_key {key : String} (h : IsWord key.toList ∨ IsLiteral key.toList) :
    ∃ k : Lexeme, k.IsKey key ∧ k.Valid ∧ k.text = key := by
  rcases h with h | h
  · exact ⟨.word key, .inl rfl, h, rfl⟩
  · exact ⟨.quoted key, .inr rfl, h, rfl⟩

/-- What is derived from scanned lexemes is well spelled. -/
theorem Derives.wellSpelled {p : Part} {ls : List Lexeme} (h : Derives p ls)
    (hls : ∀ l ∈ ls, l.Valid) : p.WellSpelled := by
  induction h with
  | ident name => exact hls (.word name) (by simp)
  | literal text => exact hls (.quoted text) (by simp)
  | object _ ih => exact ih (fun l hl => hls l (by simp [hl]))
  | member name _ ih => exact ⟨ih (fun l hl => hls l (by simp [hl])), hls (.word name) (by simp)⟩
  | call _ _ ihc iha =>
    exact ⟨ihc (fun l hl => hls l (by simp [hl])), iha (fun l hl => hls l (by simp [hl]))⟩
  | noArgs => trivial
  | lastArg _ ih => exact ⟨ih hls, trivial⟩
  | arg _ _ ihe ihr =>
    exact ⟨ihe (fun l hl => hls l (by simp [hl])), ihr (fun l hl => hls l (by simp [hl]))⟩
  | noEntries => trivial
  | lastEntry hk _ ih =>
    exact ⟨hk.spelled (hls _ (by simp)), ih (fun l hl => hls l (by simp [hl])), trivial⟩
  | entry hk _ _ ihe ihr =>
    exact ⟨hk.spelled (hls _ (by simp)), ihe (fun l hl => hls l (by simp [hl])),
      ihr (fun l hl => hls l (by simp [hl]))⟩

/-! ## Printing -/

def Prints (p : Part) (s : String) : Prop := ∃ ls, Reads s ls ∧ Derives p ls

theorem Prints.ident {name : String} (h : IsWord name.toList) :
    Prints (.expr (.ident name)) name :=
  ⟨[.word name], Reads.lexeme (l := .word name) h, .ident name⟩

theorem Prints.literal {text : String} (h : IsLiteral text.toList) :
    Prints (.expr (.literal text)) text :=
  ⟨[.quoted text], Reads.lexeme (l := .quoted text) h, .literal text⟩

theorem breaks_of_isBlankText {g : String} (h : Text.isBlankText g = true) :
    Breaks g.toList := by
  intro c hc
  have hb : ∀ c ∈ g.toList, Text.isBlank c = true := by simpa [Text.isBlankText] using h
  exact isWordPart_of_isBlank (hb c (List.mem_of_mem_head? hc))

theorem Prints.blank_append {p : Part} {g s : String} (hg : Text.isBlankText g = true)
    (h : Prints p s) : Prints p (g ++ s) := by
  obtain ⟨ls, hs, hls⟩ := h
  exact ⟨ls, .blank_append hg hs, hls⟩

theorem Prints.append_blank {p : Part} {g s : String} (hg : Text.isBlankText g = true)
    (h : Prints p s) : Prints p (s ++ g) := by
  obtain ⟨ls, hs, hls⟩ := h
  have hr : Reads g [] := by simpa using Reads.blank_append hg .empty
  exact ⟨ls, by simpa using hs.append hr (breaks_of_isBlankText hg), hls⟩

theorem Reads.congr {s t : String} {ls ms : List Lexeme} (h : Reads s ls) (hs : s = t)
    (hls : ls = ms) : Reads t ms := by
  rwa [← hs, ← hls]

/-- A symbol and what follows it, behind another text. -/
theorem Reads.append_symbol {s t : String} {ls ms : List Lexeme} (hs : Reads s ls) (symbol : Symbol)
    (ht : Reads t ms) :
    Reads (s ++ String.singleton symbol.char ++ t) (ls ++ .symbol symbol :: ms) := by
  rw [String.append_assoc]
  exact hs.append (.symbol_append symbol ht) (by simp)

theorem Reads.push_symbol {s : String} {ls : List Lexeme} (hs : Reads s ls) (symbol : Symbol) :
    Reads (s ++ String.singleton symbol.char) (ls ++ [.symbol symbol]) :=
  hs.append (.lexeme (l := .symbol symbol) trivial) (by simp)

theorem Prints.member {target : Expr} {s name : String} (h : Prints (.expr target) s)
    (hn : IsWord name.toList) : Prints (.expr (.member target name)) (s ++ "." ++ name) := by
  obtain ⟨ls, hs, hls⟩ := h
  exact ⟨_, hs.append_symbol .dot (Reads.lexeme (l := .word name) hn), .member name hls⟩

theorem Prints.call {callee : Expr} {args : List Expr} {s t : String}
    (h : Prints (.expr callee) s) (ha : Prints (.args args) t) :
    Prints (.expr (.call callee args)) (s ++ "(" ++ t ++ ")") := by
  obtain ⟨ls, hs, hls⟩ := h
  obtain ⟨ms, ht, hms⟩ := ha
  have hc : Reads (t ++ ")") (ms ++ [.symbol .closeParen]) := ht.push_symbol .closeParen
  have he : s ++ "(" ++ t ++ ")" = s ++ "(" ++ (t ++ ")") := String.append_assoc
  exact ⟨_, he ▸ hs.append_symbol .openParen hc, .call hls hms⟩

theorem Prints.object {entries : List (String × Expr)} {t : String}
    (h : Prints (.entries entries) t) :
    Prints (.expr (.object entries)) ("\x7b" ++ t ++ "\x7d") := by
  obtain ⟨ms, ht, hms⟩ := h
  have hc : Reads (t ++ "\x7d") (ms ++ [.symbol .closeBrace]) := ht.push_symbol .closeBrace
  rw [String.append_assoc]
  exact ⟨_, .symbol_append .openBrace hc, .object hms⟩

theorem Prints.noArgs : Prints (.args []) "" := ⟨[], .empty, .noArgs⟩

theorem Prints.lastArg {e : Expr} {s : String} (h : Prints (.expr e) s) :
    Prints (.args [e]) s := by
  obtain ⟨ls, hs, hls⟩ := h
  exact ⟨ls, hs, .lastArg hls⟩

theorem Prints.arg {e : Expr} {rest : List Expr} {s t : String} (h : Prints (.expr e) s)
    (hr : Prints (.args rest) t) : Prints (.args (e :: rest)) (s ++ "," ++ t) := by
  obtain ⟨ls, hs, hls⟩ := h
  obtain ⟨ms, ht, hms⟩ := hr
  exact ⟨_, hs.append_symbol .comma ht, .arg hls hms⟩

theorem Prints.noEntries : Prints (.entries []) "" := ⟨[], .empty, .noEntries⟩

theorem Prints.lastEntry {key : String} {e : Expr} {s : String}
    (hk : IsWord key.toList ∨ IsLiteral key.toList) (h : Prints (.expr e) s) :
    Prints (.entries [(key, e)]) (key ++ ":" ++ s) := by
  obtain ⟨k, hkey, hvalid, rfl⟩ := Lexeme.exists_key hk
  obtain ⟨ls, hs, hls⟩ := h
  exact ⟨_, (Reads.lexeme hvalid).append_symbol .colon hs, .lastEntry hkey hls⟩

theorem Prints.entry {key : String} {e : Expr} {rest : List (String × Expr)} {s t : String}
    (hk : IsWord key.toList ∨ IsLiteral key.toList) (h : Prints (.expr e) s)
    (hr : Prints (.entries rest) t) :
    Prints (.entries ((key, e) :: rest)) (key ++ ":" ++ s ++ "," ++ t) := by
  obtain ⟨k, hkey, hvalid, rfl⟩ := Lexeme.exists_key hk
  obtain ⟨ls, hs, hls⟩ := h
  obtain ⟨ms, ht, hms⟩ := hr
  have he := ((Reads.lexeme hvalid).append_symbol .colon hs).append_symbol .comma ht
  exact ⟨_, he, by simpa using Derives.entry hkey hls hms⟩

/-! ## The compact and the flat form -/

mutual

theorem Expr.prints_compact (e : Expr) (h : e.WellSpelled) : Prints (.expr e) e.compact := by
  match e with
  | .ident name => exact .ident h
  | .literal text => exact .literal h
  | .object entries => exact .object (prints_compactEntries entries h)
  | .member target name => exact .member (target.prints_compact h.1) h.2
  | .call callee args => exact .call (callee.prints_compact h.1) (prints_compactArgs args h.2)

theorem prints_compactArgs (es : List Expr) (h : ArgsWellSpelled es) :
    Prints (.args es) (",".intercalate (compactArgs es)) := by
  match es with
  | [] => exact .noArgs
  | [e] => exact .lastArg (e.prints_compact h.1)
  | e :: e' :: rest =>
    rw [compactArgs, compactArgs, String.intercalate_cons_cons]
    exact .arg (e.prints_compact h.1) (prints_compactArgs (e' :: rest) h.2)

theorem prints_compactEntries (es : List (String × Expr)) (h : EntriesWellSpelled es) :
    Prints (.entries es) (String.join (compactEntries es)) := by
  match es with
  | [] => exact .noEntries
  | (key, e) :: rest =>
    rw [compactEntries, String.join_cons]
    exact .entry h.1 (e.prints_compact h.2.1) (prints_compactEntries rest h.2.2)

end

theorem isBlankText_space : Text.isBlankText " " = true := by decide

mutual

theorem Expr.prints_flat (e : Expr) (h : e.WellSpelled) : Prints (.expr e) e.flat := by
  match e with
  | .ident name => exact .ident h
  | .literal text => exact .literal h
  | .object [] => exact .object .noEntries
  | .object (entry :: rest) =>
    have he := (prints_flatEntries (entry :: rest) h).append_blank isBlankText_space
    have hs : (Expr.object (entry :: rest)).flat =
        "\x7b" ++ (" " ++ (commaList (flatEntries (entry :: rest)) ++ " ")) ++ "\x7d" := by
      simp [Expr.flat, ← String.toList_inj]
    rw [hs]
    exact .object (he.blank_append isBlankText_space)
  | .member target name => exact .member (target.prints_flat h.1) h.2
  | .call callee args => exact .call (callee.prints_flat h.1) (prints_flatArgs args h.2)

theorem prints_flatArgs (es : List Expr) (h : ArgsWellSpelled es) :
    Prints (.args es) (commaList (flatArgs es)) := by
  match es with
  | [] => exact .noArgs
  | [e] => exact .lastArg (e.prints_flat h.1)
  | e :: e' :: rest =>
    have hr := prints_flatArgs (e' :: rest) h.2
    have hs : commaList (flatArgs (e :: e' :: rest)) =
        e.flat ++ "," ++ (" " ++ commaList (flatArgs (e' :: rest))) := by
      simp [commaList, flatArgs, ← String.toList_inj]
    rw [hs]
    exact .arg (e.prints_flat h.1) (hr.blank_append isBlankText_space)

theorem prints_flatEntries (es : List (String × Expr)) (h : EntriesWellSpelled es) :
    Prints (.entries es) (commaList (flatEntries es)) := by
  match es with
  | [] => exact .noEntries
  | [(key, e)] =>
    have he := (e.prints_flat h.2.1).blank_append isBlankText_space
    have hs : commaList (flatEntries [(key, e)]) = key ++ ":" ++ (" " ++ e.flat) := by
      simp [commaList, flatEntries, ← String.toList_inj]
    rw [hs]
    exact .lastEntry h.1 he
  | (key, e) :: entry :: rest =>
    have he := (e.prints_flat h.2.1).blank_append isBlankText_space
    have hr := (prints_flatEntries (entry :: rest) h.2.2).blank_append isBlankText_space
    have hs : commaList (flatEntries ((key, e) :: entry :: rest)) =
        key ++ ":" ++ (" " ++ e.flat) ++ "," ++
          (" " ++ commaList (flatEntries (entry :: rest))) := by
      simp [commaList, flatEntries, ← String.toList_inj]
    rw [hs]
    exact .entry h.1 he hr

end

/-! ## Layouts -/

theorem isBlankText_append {g k : String} (hg : Text.isBlankText g = true)
    (hk : Text.isBlankText k = true) : Text.isBlankText (g ++ k) = true := by
  simp only [Text.isBlankText, String.toList_append, List.all_append, Bool.and_eq_true] at *
  exact ⟨hg, hk⟩

theorem isBlankText_lineFeed : Text.isBlankText "\n" = true := by decide

theorem Widths.isBlankText_indentation (w : Widths) (level : Nat) :
    Text.isBlankText (w.indentation level) = true := by
  simp [Text.isBlankText, indentation, Text.isBlank]

theorem Widths.isBlankText_linkStart (w : Widths) (broken : Bool) (level : Nat) (target : Expr) :
    Text.isBlankText (w.linkStart broken level target) = true := by
  unfold linkStart
  split
  · exact isBlankText_append isBlankText_lineFeed (w.isBlankText_indentation _)
  · rfl

/-- Lines between brackets. -/
theorem Widths.enclose_eq (w : Widths) (level : Nat) (opening lines closing : String) :
    w.enclose level opening lines closing =
      opening ++ ("\n" ++ (lines ++ w.indentation level)) ++ closing := by
  simp [enclose, ← String.toList_inj]

theorem Prints.lines {p : Part} {s : String} (h : Prints p s) (w : Widths) (level : Nat) :
    Prints p ("\n" ++ (s ++ w.indentation level)) :=
  (h.append_blank (w.isBlankText_indentation level)).blank_append isBlankText_lineFeed

/-- An argument on a line of its own. -/
theorem Prints.argLine {e : Expr} {rest : List Expr} {s t : String} (w : Widths) (level : Nat)
    (h : Prints (.expr e) s) (hr : Prints (.args rest) t) :
    Prints (.args (e :: rest)) (w.indentation level ++ s ++ ",\n" ++ t) := by
  have he := h.blank_append (w.isBlankText_indentation level)
  have hs : w.indentation level ++ s ++ ",\n" ++ t =
      w.indentation level ++ s ++ "," ++ ("\n" ++ t) := by simp [← String.toList_inj]
  rw [hs]
  exact .arg he (hr.blank_append isBlankText_lineFeed)

/-- An entry on a line of its own. -/
theorem Prints.entryLine {key : String} {e : Expr} {rest : List (String × Expr)} {s t : String}
    (w : Widths) (level : Nat) (hk : IsWord key.toList ∨ IsLiteral key.toList)
    (h : Prints (.expr e) s) (hr : Prints (.entries rest) t) :
    Prints (.entries ((key, e) :: rest))
      (w.indentation level ++ key ++ ": " ++ s ++ ",\n" ++ t) := by
  have he := h.blank_append isBlankText_space
  have hs : w.indentation level ++ key ++ ": " ++ s ++ ",\n" ++ t =
      w.indentation level ++ (key ++ ":" ++ (" " ++ s) ++ "," ++ ("\n" ++ t)) := by
    simp [← String.toList_inj]
  rw [hs]
  exact (Prints.entry hk he (hr.blank_append isBlankText_lineFeed)).blank_append
    (w.isBlankText_indentation level)

/-- An argument list with its parentheses. -/
def PrintsCall (args : List Expr) (s : String) : Prop :=
  ∃ t, s = "(" ++ t ++ ")" ∧ Prints (.args args) t

theorem PrintsCall.call {callee : Expr} {args : List Expr} {s t : String}
    (ha : PrintsCall args t) (h : Prints (.expr callee) s) :
    Prints (.expr (.call callee args)) (s ++ t) := by
  obtain ⟨t, rfl, ht⟩ := ha
  have hs : s ++ ("(" ++ t ++ ")") = s ++ "(" ++ t ++ ")" := by simp [← String.toList_inj]
  rw [hs]
  exact .call h ht

mutual

/-- Whichever way the widths make the layout go, it only adds blanks and commas that may stand. -/
theorem Widths.prints_layout (w : Widths) (level column suffix : Nat) (part : Option Bool)
    (e : Expr) (h : e.WellSpelled) : Prints (.expr e) (w.layout level column suffix part e) := by
  match e with
  | .ident name => exact .ident h
  | .literal text => exact .literal h
  | .object entries =>
    rw [layout]
    split
    · exact Expr.prints_flat _ h
    · rw [enclose_eq]
      exact .object ((w.prints_layoutEntries (level + 1) entries h).lines w level)
  | .member target name =>
    rw [layout]
    split
    · exact Expr.prints_flat _ h
    · have ht := w.prints_layout level column 0 (some (part.getD (target.member name).breaks))
        target h.1
      exact .member (ht.append_blank (w.isBlankText_linkStart _ _ _)) h.2
  | .call callee args =>
    rw [layout]
    split
    · exact Expr.prints_flat _ h
    · have hc := w.prints_layout level column 0 (some (part.getD (callee.call args).breaks))
        callee h.1
      exact (w.prints_layoutArgs _ _ suffix args h.2).call hc

theorem Widths.prints_layoutArgs (w : Widths) (level column suffix : Nat) (args : List Expr)
    (h : ArgsWellSpelled args) : PrintsCall args (w.layoutArgs level column suffix args) := by
  match args with
  | [] => exact ⟨"", rfl, .noArgs⟩
  | e :: rest =>
    rw [layoutArgs]
    split
    · exact ⟨_, rfl, prints_flatArgs (e :: rest) h⟩
    split
    · next ho =>
      obtain ⟨hrest, hentries⟩ := Bool.and_eq_true_iff.mp ho
      obtain rfl := List.isEmpty_iff.mp hrest
      exact ⟨_, rfl, .lastArg (w.prints_layoutOpen level e hentries h.1)⟩
    · rw [enclose_eq]
      have he := w.prints_layout (level + 1) (w.margin (level + 1)) 1 none e h.1
      have hr := w.prints_layoutItems (level + 1) rest h.2
      exact ⟨_, rfl, (Prints.argLine w (level + 1) he hr).lines w level⟩

theorem Widths.prints_layoutOpen (w : Widths) (level : Nat) (e : Expr)
    (he : e.hasEntries = true) (h : e.WellSpelled) : Prints (.expr e) (w.layoutOpen level e) := by
  match e with
  | .object entries =>
    rw [layoutOpen, enclose_eq]
    exact .object ((w.prints_layoutEntries (level + 1) entries h).lines w level)
  | .ident _ | .literal _ | .member _ _ | .call _ _ => cases he

theorem Widths.prints_layoutItems (w : Widths) (level : Nat) (es : List Expr)
    (h : ArgsWellSpelled es) : Prints (.args es) (w.layoutItems level es) := by
  match es with
  | [] => exact .noArgs
  | e :: rest =>
    exact .argLine w level (w.prints_layout level _ 1 none e h.1)
      (w.prints_layoutItems level rest h.2)

theorem Widths.prints_layoutEntries (w : Widths) (level : Nat) (es : List (String × Expr))
    (h : EntriesWellSpelled es) : Prints (.entries es) (w.layoutEntries level es) := by
  match es with
  | [] => exact .noEntries
  | (key, e) :: rest =>
    exact .entryLine w level h.1 (w.prints_layout level _ 1 none e h.2.1)
      (w.prints_layoutEntries level rest h.2.2)

end

/-! ## Definitions -/

structure Definition.WellSpelled (d : Definition) : Prop where
  name : IsWord d.name.toList
  body : d.body.WellSpelled

theorem Definition.Derives.wellSpelled {d : Definition} {ls : List Lexeme} (h : d.Derives ls)
    (hls : ∀ l ∈ ls, l.Valid) : d.WellSpelled := by
  cases h with
  | plain h =>
    exact ⟨hls (.word d.name) (by simp [header]), h.wellSpelled fun l hl => hls l (by simp [hl])⟩
  | ended h =>
    exact ⟨hls (.word d.name) (by simp [header]), h.wellSpelled fun l hl => hls l (by simp [hl])⟩

/-- The text before the body of a definition, with blanks `g` before `return`. -/
theorem reads_header {name g : String} (hn : IsWord name.toList)
    (hg : Text.isBlankText g = true) :
    Reads ("function " ++ name ++ "() \x7b" ++ g ++ "return ") (header name) := by
  have hspace : Reads (" " ++ "") [] := .blank_append isBlankText_space .empty
  have hreturn : Reads "return" [.word "return"] :=
    Reads.lexeme (l := .word "return") (show IsWord "return".toList by decide)
  have hopen := Reads.blank_append hg (hreturn.append hspace (by simp [isWordPart]))
  have hparams := Reads.symbol_append .closeParen
    (.blank_append isBlankText_space (.symbol_append .openBrace hopen))
  have hname := (Reads.lexeme (l := .word name) hn).append_symbol .openParen hparams
  have hfunction : Reads "function" [.word "function"] :=
    Reads.lexeme (l := .word "function") (show IsWord "function".toList by decide)
  have hall := hfunction.append (.blank_append isBlankText_space hname) (by simp [isWordPart])
  refine hall.congr ?_ ?_
  · simp [← String.toList_inj, Lexeme.text, Symbol.char]
  · simp [header]

/-- The header ends in a blank, so it is apart from every body. -/
theorem apart_header (front : String) (body : List Char) :
    Apart (front ++ "return ").toList body := by
  refine .inr ?_
  rw [String.toList_append, breaks_reverse_append (by simp)]
  simp [isWordPart]

/-- A printed body between the words and symbols of a definition, with blanks `g₁` before `return`
and `g₂` and `g₃` around the last brace. -/
theorem Definition.reads_around {d : Definition} {s g₁ g₂ g₃ : String}
    (hn : IsWord d.name.toList) (hs : Prints (.expr d.body) s) (h₁ : Text.isBlankText g₁ = true)
    (h₂ : Text.isBlankText g₂ = true) (h₃ : Text.isBlankText g₃ = true) :
    ∃ ls, Reads ("function " ++ d.name ++ "() \x7b" ++ g₁ ++ "return " ++ s ++ ";" ++ g₂ ++
      "\x7d" ++ g₃) ls ∧ d.Derives ls := by
  obtain ⟨ls, hreads, hls⟩ := hs
  have hend : Reads (g₃ ++ "") [] := .blank_append h₃ .empty
  have hclose := Reads.blank_append h₂ (.symbol_append .closeBrace hend)
  have hbody := hreads.append_symbol .semicolon hclose
  have hall := (reads_header hn h₁).append_apart hbody (apart_header _ _)
  refine ⟨_, hall.congr ?_ ?_, .ended hls⟩
  · simp [← String.toList_inj, Symbol.char]
  · simp

theorem Definition.WellSpelled.reads_compact {d : Definition} (h : d.WellSpelled) :
    ∃ ls, Reads d.compact ls ∧ d.Derives ls := by
  obtain ⟨ls, hreads, hls⟩ := Definition.reads_around h.name (d.body.prints_compact h.body)
    isBlankText_space isBlankText_space (show Text.isBlankText "" = true from rfl)
  refine ⟨ls, hreads.congr ?_ rfl, hls⟩
  delta Definition.compact
  simp [← String.toList_inj]

theorem Definition.WellSpelled.reads_layout {d : Definition} (h : d.WellSpelled) (w : Widths) :
    ∃ ls, Reads (d.layout w) ls ∧ d.Derives ls := by
  have hbody := w.prints_layout 1 (w.margin 1 + 7) 1 none d.body h.body
  obtain ⟨ls, hreads, hls⟩ := Definition.reads_around h.name hbody
    (isBlankText_append isBlankText_lineFeed (w.isBlankText_indentation 1))
    isBlankText_lineFeed isBlankText_lineFeed
  refine ⟨ls, hreads.congr ?_ rfl, hls⟩
  delta Definition.layout
  simp [← String.toList_inj]

end MarkupChain.Script
