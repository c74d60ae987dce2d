import MarkupChain.Proofs.Script.PrintWidth

/-!
# The lines of a layout

No line of a formatted script is empty, starts between two levels of indentation or ends in a space.
The parts of a layout start and end anywhere in a line, so they are read by a small machine that
knows what stands before the next character on its line and stops where the line would not be tidy.
A text that takes the machine from every place where a line can go on to a place behind a character
other than a space can be put behind any other such text, behind a space or behind an indentation.
All laid-out expressions are of this kind.
-/

namespace MarkupChain.Script

/-- The spaces of some level of indentation, and then another character. -/
def Widths.Indented (w : Widths) (line : List Char) : Prop :=
  ∃ level c rest, line = List.replicate (level * w.indent) ' ' ++ c :: rest ∧ c ≠ ' '

structure Widths.TidyLine (w : Widths) (line : List Char) : Prop where
  indented : w.Indented line
  ending : line.getLast? ≠ some ' '

theorem Widths.Indented.concat {w : Widths} {line : List Char} (h : w.Indented line) (c : Char) :
    w.Indented (line ++ [c]) := by
  obtain ⟨level, d, rest, rfl, hd⟩ := h
  exact ⟨level, d, rest ++ [c], by simp, hd⟩

/-! ## Reading lines -/

/-- What stands before a character on its line. -/
inductive LinePlace where
  /-- Nothing but the given number of spaces. -/
  | margin (spaces : Nat)
  /-- Something, and last a character other than a space. -/
  | solid
  /-- Something, and last a space. -/
  | gap

/-- The place behind one more character, or none if no tidy line goes on this way. -/
def LinePlace.step (w : Widths) : LinePlace → Char → Option LinePlace
  | .margin n, c =>
    if c = ' ' then some (.margin (n + 1))
    else if c = '\n' then none
    else if w.indent ∣ n then some .solid else none
  | .solid, c =>
    if c = ' ' then some .gap else if c = '\n' then some (.margin 0) else some .solid
  | .gap, c => if c = ' ' then some .gap else if c = '\n' then none else some .solid

def LinePlace.run (w : Widths) : LinePlace → List Char → Option LinePlace
  | p, [] => some p
  | p, c :: cs => (p.step w c).bind fun q => q.run w cs

section Reading

variable {w : Widths} {p q : LinePlace} {c : Char} {line : List Char}

@[simp] theorem LinePlace.run_nil : p.run w [] = some p := rfl

@[simp] theorem LinePlace.run_cons (cs : List Char) :
    p.run w (c :: cs) = (p.step w c).bind fun q => q.run w cs := rfl

theorem LinePlace.run_append (p : LinePlace) (cs ds : List Char) :
    p.run w (cs ++ ds) = (p.run w cs).bind fun q => q.run w ds := by
  induction cs generalizing p with
  | nil => rfl
  | cons c cs ih =>
    rw [List.cons_append, run_cons, run_cons]
    cases p.step w c with
    | none => rfl
    | some q => exact ih q

/-- Only behind a character other than a space a line may end. -/
theorem LinePlace.step_lineFeed (h : p.step w '\n' = some q) : p = .solid ∧ q = .margin 0 := by
  cases p with
  | margin n => simp [step] at h
  | gap => simp [step] at h
  | solid => exact ⟨rfl, by simpa [step] using h.symm⟩

/-- What a place says about the line up to it. -/
def LinePlace.Behind (w : Widths) (line : List Char) : LinePlace → Prop
  | .margin n => line = List.replicate n ' '
  | .solid => w.TidyLine line
  | .gap => w.Indented line

/-- A character other than a line feed leads to a place on the same line. -/
theorem LinePlace.Behind.step (h : p.Behind w line) (hc : c ≠ '\n') (hq : p.step w c = some q) :
    q.Behind w (line ++ [c]) := by
  have hlast : c ≠ ' ' → (line ++ [c]).getLast? ≠ some ' ' := by simp
  cases p with
  | margin n =>
    obtain rfl : line = List.replicate n ' ' := h
    by_cases hs : c = ' '
    · obtain rfl : LinePlace.margin (n + 1) = q := by simpa [LinePlace.step, hs] using hq
      rw [hs]
      exact List.replicate_succ'.symm
    · obtain ⟨⟨level, rfl⟩, rfl⟩ : w.indent ∣ n ∧ LinePlace.solid = q := by
        simpa [LinePlace.step, hs, hc] using hq
      exact ⟨⟨level, c, [], by rw [Nat.mul_comm], hs⟩, hlast hs⟩
  | solid =>
    by_cases hs : c = ' '
    · obtain rfl : LinePlace.gap = q := by simpa [LinePlace.step, hs] using hq
      exact h.indented.concat c
    · obtain rfl : LinePlace.solid = q := by simpa [LinePlace.step, hs, hc] using hq
      exact ⟨h.indented.concat c, hlast hs⟩
  | gap =>
    by_cases hs : c = ' '
    · obtain rfl : LinePlace.gap = q := by simpa [LinePlace.step, hs] using hq
      exact Widths.Indented.concat h c
    · obtain rfl : LinePlace.solid = q := by simpa [LinePlace.step, hs, hc] using hq
      exact ⟨Widths.Indented.concat h c, hlast hs⟩

/-- The lines of a text that is read up to a solid place are tidy, the one that was begun before it
included. -/
theorem LinePlace.Behind.tidy_run {cs : List Char} (h : p.Behind w line) (hline : '\n' ∉ line)
    (hrun : p.run w cs = some .solid) : ∀ l ∈ (line ++ cs).splitOn '\n', w.TidyLine l := by
  induction cs generalizing p line with
  | nil =>
    cases hrun
    rw [List.append_nil, List.splitOn_eq_singleton hline]
    intro l hl
    obtain rfl := List.mem_singleton.mp hl
    exact h
  | cons c cs ih =>
    rw [run_cons, Option.bind_eq_some_iff] at hrun
    obtain ⟨q, hstep, hq⟩ := hrun
    by_cases hc : c = '\n'
    · subst hc
      obtain ⟨rfl, rfl⟩ := step_lineFeed hstep
      have hnext : (LinePlace.margin 0).Behind w [] := rfl
      rw [List.splitOn_append_cons_self_of_not_mem hline]
      exact List.forall_mem_cons.mpr ⟨h, ih hnext (by simp) hq⟩
    · have hall := ih (h.step hc hstep) (by simp [hline, Ne.symm hc]) hq
      rwa [List.append_assoc, List.singleton_append] at hall

/-- A text that is read up to a solid place does not end in a line feed. -/
theorem LinePlace.getLast?_of_run {cs : List Char} (h : p.run w cs = some .solid) :
    cs.getLast? ≠ some '\n' := by
  intro hlast
  obtain ⟨front, rfl⟩ := List.getLast?_eq_some_iff.mp hlast
  rw [run_append, Option.bind_eq_some_iff] at h
  obtain ⟨q, -, hq⟩ := h
  rw [run_cons, Option.bind_eq_some_iff] at hq
  obtain ⟨r, hstep, hr⟩ := hq
  obtain ⟨-, rfl⟩ := step_lineFeed hstep
  cases hr

end Reading

/-! ## Solid texts -/

/-- The places where a line can go on. -/
def LinePlace.Ready (w : Widths) : LinePlace → Prop
  | .margin n => w.indent ∣ n
  | .solid | .gap => True

/-- Wherever a line can go on, the text can stand, and it ends inside a line and not in a space. -/
def Widths.Solid (w : Widths) (s : String) : Prop :=
  ∀ p : LinePlace, p.Ready w → p.run w s.toList = some .solid

/-- Whole lines. -/
def Widths.Block (w : Widths) (s : String) : Prop :=
  (LinePlace.margin 0).run w s.toList = some (.margin 0)

section Solid

variable {w : Widths} {s t : String}

theorem Widths.Solid.congr (h : w.Solid s) (hs : s = t) : w.Solid t := by
  rwa [← hs]

theorem LinePlace.step_of_ready {p : LinePlace} (h : p.Ready w) {c : Char} (hs : c ≠ ' ')
    (hf : c ≠ '\n') : p.step w c = some .solid := by
  cases p with
  | margin n =>
    rw [step, if_neg hs, if_neg hf]
    exact if_pos h
  | solid => rw [step, if_neg hs, if_neg hf]
  | gap => rw [step, if_neg hs, if_neg hf]

/-! ### Pieces on one line -/

/-- Neither a space nor a line feed. -/
def isMark (c : Char) : Bool := c != ' ' && c != '\n'

theorem LinePlace.step_of_isMark {p : LinePlace} (h : p.Ready w) {c : Char} (hc : isMark c = true) :
    p.step w c = some .solid := by
  obtain ⟨hspace, hfeed⟩ := Bool.and_eq_true_iff.mp hc
  exact step_of_ready h (bne_iff_ne.mp hspace) (bne_iff_ne.mp hfeed)

theorem Widths.solid_of_marks {c : Char} {cs : List Char} (hs : s.toList = c :: cs)
    (h : (c :: cs).all isMark = true) : w.Solid s := by
  intro p hp
  rw [hs]
  clear hs
  induction cs generalizing c p with
  | nil =>
    obtain ⟨hc, -⟩ := Bool.and_eq_true_iff.mp h
    rw [LinePlace.run_cons, LinePlace.step_of_isMark hp hc]
    rfl
  | cons d cs ih =>
    obtain ⟨hc, hcs⟩ := Bool.and_eq_true_iff.mp h
    rw [LinePlace.run_cons, LinePlace.step_of_isMark hp hc]
    exact ih hcs .solid trivial

theorem Widths.solid_word {name : String} (h : IsWord name.toList) : w.Solid name := by
  obtain ⟨c, rest, hname, hc, hrest⟩ := h.cons
  have hpart : ∀ d ∈ c :: rest, isWordPart d = true :=
    List.forall_mem_cons.mpr ⟨isWordPart_of_isWordStart hc, hrest⟩
  apply solid_of_marks hname
  rw [List.all_eq_true]
  intro d hd
  have hd := hpart d hd
  rw [isMark, Bool.and_eq_true_iff, bne_iff_ne, bne_iff_ne]
  constructor
  · rintro rfl
    exact absurd hd (by decide)
  · rintro rfl
    exact absurd hd (by decide)

/-- Without a line feed a line that has begun goes on. -/
theorem LinePlace.run_of_not_mem {p : LinePlace} {cs : List Char} (hp : p = .solid ∨ p = .gap)
    (h : '\n' ∉ cs) : p.run w cs = some .solid ∨ p.run w cs = some .gap := by
  induction cs generalizing p with
  | nil => simpa using hp
  | cons c cs ih =>
    have hc : c ≠ '\n' := fun hc => h (by simp [hc])
    have hcs : '\n' ∉ cs := fun hcs => h (by simp [hcs])
    rw [run_cons]
    by_cases hs : c = ' '
    · have hstep : p.step w c = some .gap := by rcases hp with rfl | rfl <;> simp [step, hs]
      rw [hstep]
      exact ih (.inr rfl) hcs
    · have hready : p.Ready w := by rcases hp with rfl | rfl <;> trivial
      rw [step_of_ready hready hs hc]
      exact ih (.inl rfl) hcs

/-- The spaces of a literal stand between its quotes. -/
theorem Widths.solid_literal {text : String} (h : IsLiteral text.toList)
    (hf : '\n' ∉ text.toList) : w.Solid text := by
  obtain ⟨body, htext, -⟩ := h
  rw [htext] at hf
  intro p hp
  have hbody : LinePlace.solid.run w body = some .solid ∨ LinePlace.solid.run w body = some .gap :=
    LinePlace.run_of_not_mem (.inl rfl) fun hm => hf (by simp [hm])
  rw [htext, LinePlace.run_cons, LinePlace.step_of_ready hp (by decide) (by decide),
    Option.bind_some, LinePlace.run_append]
  rcases hbody with hbody | hbody
  · rw [hbody]
    rfl
  · rw [hbody]
    rfl

/-! ### Putting texts together -/

theorem Widths.Solid.append (hs : w.Solid s) (ht : w.Solid t) : w.Solid (s ++ t) := by
  intro p hp
  rw [String.toList_append, LinePlace.run_append, hs p hp]
  exact ht .solid trivial

/-- With a space between them. -/
theorem Widths.Solid.spaced (hs : w.Solid s) (ht : w.Solid t) : w.Solid (s ++ " " ++ t) := by
  intro p hp
  rw [String.append_assoc, String.toList_append, LinePlace.run_append, hs p hp,
    String.toList_append]
  exact ht .gap trivial

theorem LinePlace.run_replicate (m n : Nat) :
    (margin m).run w (List.replicate n ' ') = some (margin (m + n)) := by
  induction n generalizing m with
  | zero => rfl
  | succ n ih =>
    rw [List.replicate_succ, run_cons, step, if_pos rfl, Option.bind_some, ih]
    congr 2
    omega

theorem LinePlace.run_indentation (w : Widths) (level : Nat) :
    (margin 0).run w (w.indentation level).toList = some (margin (w.margin level)) := by
  rw [Widths.indentation, String.toList_ofList, run_replicate, Nat.zero_add]

theorem LinePlace.ready_margin (w : Widths) (level : Nat) : (margin (w.margin level)).Ready w :=
  Nat.dvd_mul_left w.indent level

theorem Widths.block_empty : w.Block "" := rfl

/-- A line in front of others. -/
theorem Widths.Block.line (level : Nat) (hs : w.Solid s) (ht : w.Block t) :
    w.Block (w.indentation level ++ s ++ "\n" ++ t) := by
  simp only [Block, String.toList_append, LinePlace.run_append]
  rw [LinePlace.run_indentation, Option.bind_some, hs _ (LinePlace.ready_margin w level)]
  exact ht

/-- Lines between two texts, the second of which starts a line of its own. -/
theorem Widths.Solid.enclose {lines : String} (hs : w.Solid s) (hlines : w.Block lines)
    (level : Nat) (ht : w.Solid t) : w.Solid (w.enclose level s lines t) := by
  have hfeed : LinePlace.solid.run w "\n".toList = some (.margin 0) := rfl
  intro p hp
  simp only [Widths.enclose, String.toList_append, LinePlace.run_append]
  rw [hs p hp, Option.bind_some, hfeed, Option.bind_some, hlines, Option.bind_some,
    LinePlace.run_indentation]
  exact ht _ (LinePlace.ready_margin w level)

/-- With a line feed and an indentation between them. -/
theorem Widths.Solid.lineBreak (hs : w.Solid s) (level : Nat) (ht : w.Solid t) :
    w.Solid (s ++ ("\n" ++ w.indentation level) ++ t) :=
  (hs.enclose block_empty level ht).congr (by simp [Widths.enclose, ← String.toList_inj])

end Solid

/-! ## Flat texts -/

section Flat

variable {w : Widths}

theorem Widths.solid_symbol (symbol : Symbol) : w.Solid (String.singleton symbol.char) := by
  cases symbol <;> exact solid_of_marks rfl rfl

/-- The items of a list with commas between them. -/
theorem Widths.solid_commaList {s : String} {ss : List String} (h : ∀ t ∈ s :: ss, w.Solid t) :
    w.Solid (commaList (s :: ss)) := by
  induction ss generalizing s with
  | nil => simpa [commaList] using h s (by simp)
  | cons s' ss ih =>
    have hrest := ih (s := s') (fun t ht => h t (by simp [ht]))
    have hitem := (h s (by simp)).append (solid_symbol .comma)
    refine (hitem.spaced hrest).congr ?_
    simp [commaList, Symbol.char, ← String.toList_inj]

theorem Widths.solid_key {key : String} (h : IsWord key.toList ∨ IsLiteral key.toList)
    (hf : '\n' ∉ key.toList) : w.Solid key :=
  h.elim solid_word fun hkey => solid_literal hkey hf

theorem Widths.Solid.keyed {key s : String} (hk : w.Solid key) (hs : w.Solid s) :
    w.Solid (key ++ ": " ++ s) :=
  ((hk.append (solid_symbol .colon)).spaced hs).congr (by simp [Symbol.char, ← String.toList_inj])

/-- An item on a line of its own. -/
theorem Widths.Solid.item {s t : String} (level : Nat) (hs : w.Solid s) (ht : w.Block t) :
    w.Block (w.indentation level ++ s ++ ",\n" ++ t) := by
  have hline := ht.line level (hs.append (solid_symbol .comma))
  simpa [Symbol.char, String.append_assoc] using hline

theorem Widths.Block.inBraces {lines : String} (h : w.Block lines) (level : Nat) :
    w.Solid (w.enclose level "\x7b" lines "\x7d") :=
  (solid_symbol .openBrace).enclose h level (solid_symbol .closeBrace)

/-- What stands before a member name. -/
theorem Widths.Solid.link {s t : String} {broken : Bool} {level : Nat} {target : Expr}
    (hs : w.Solid s) (ht : w.Solid t) : w.Solid (s ++ w.linkStart broken level target ++ t) := by
  rw [linkStart]
  split
  · exact hs.lineBreak (level + 1) ht
  · rw [String.append_empty]
    exact hs.append ht

mutual

theorem Expr.solid_flat (e : Expr) (h : e.WellSpelled) (hf : '\n' ∉ e.flat.toList) :
    w.Solid e.flat := by
  match e with
  | .ident name => exact Widths.solid_word h
  | .literal text => exact Widths.solid_literal h hf
  | .object [] => exact Widths.solid_of_marks rfl rfl
  | .object (entry :: rest) =>
    have hitems : w.Solid (commaList (flatEntries (entry :: rest))) := Widths.solid_commaList
      (solid_flatEntries (entry :: rest) h (Expr.not_mem_flat_entries hf))
    have hopen := (Widths.solid_symbol .openBrace).spaced hitems
    refine (hopen.spaced (Widths.solid_symbol .closeBrace)).congr ?_
    simp [Expr.flat, Symbol.char, ← String.toList_inj]
  | .member target name =>
    have htarget := target.solid_flat h.1 (Expr.not_mem_flat_member hf)
    exact (htarget.append (Widths.solid_symbol .dot)).append (Widths.solid_word h.2)
  | .call callee args =>
    obtain ⟨hc, ha⟩ := Expr.not_mem_flat_call hf
    refine ((callee.solid_flat h.1 hc).append (solid_flatCall args h.2 ha)).congr ?_
    simp [Expr.flat, ← String.toList_inj]

/-- An argument list with its parentheses. -/
theorem solid_flatCall (es : List Expr) (h : ArgsWellSpelled es)
    (hf : '\n' ∉ (commaList (flatArgs es)).toList) :
    w.Solid ("(" ++ commaList (flatArgs es) ++ ")") := by
  match es with
  | [] => exact Widths.solid_of_marks rfl rfl
  | e :: rest =>
    have hitems := Widths.solid_commaList (solid_flatArgs (e :: rest) h hf)
    exact ((Widths.solid_symbol .openParen).append hitems).append (Widths.solid_symbol .closeParen)

theorem solid_flatArgs (es : List Expr) (h : ArgsWellSpelled es)
    (hf : '\n' ∉ (commaList (flatArgs es)).toList) : ∀ s ∈ flatArgs es, w.Solid s := by
  match es with
  | [] => simp [flatArgs]
  | e :: rest =>
    obtain ⟨he, hrest⟩ := lineFeed_not_mem_commaList_cons.mp hf
    exact List.forall_mem_cons.mpr ⟨e.solid_flat h.1 he, solid_flatArgs rest h.2 hrest⟩

theorem solid_flatEntries (es : List (String × Expr)) (h : EntriesWellSpelled es)
    (hf : '\n' ∉ (commaList (flatEntries es)).toList) : ∀ s ∈ flatEntries es, w.Solid s := by
  match es with
  | [] => simp [flatEntries]
  | (key, e) :: rest =>
    obtain ⟨hkey, he, hrest⟩ := not_mem_flatEntries_cons hf
    have hline := (Widths.solid_key h.1 hkey).keyed (e.solid_flat h.2.1 he)
    exact List.forall_mem_cons.mpr ⟨hline, solid_flatEntries rest h.2.2 hrest⟩

end

end Flat

/-! ## Layouts -/

mutual

/-- Wherever the layout breaks, it breaks behind a bracket, a comma or a link of a chain, and goes
on behind the indentation of some level. -/
theorem Widths.solid_layout (w : Widths) (level column suffix : Nat) (part : Option Bool) (e : Expr)
    (h : e.WellSpelled) (hf : '\n' ∉ e.flat.toList) :
    w.Solid (w.layout level column suffix part e) := by
  match e with
  | .ident name => exact solid_word h
  | .literal text => exact solid_literal h hf
  | .object entries =>
    rw [layout]
    split
    · exact Expr.solid_flat _ h hf
    · exact (w.block_layoutEntries (level + 1) entries h
        (Expr.not_mem_flat_entries hf)).inBraces level
  | .member target name =>
    rw [layout]
    split
    · exact Expr.solid_flat _ h hf
    · have hfront := w.solid_layout level column 0 (some (part.getD (target.member name).breaks))
        target h.1 (Expr.not_mem_flat_member hf)
      exact (hfront.link (solid_symbol .dot)).append (solid_word h.2)
  | .call callee args =>
    obtain ⟨hc, ha⟩ := Expr.not_mem_flat_call hf
    rw [layout]
    split
    · exact Expr.solid_flat _ h hf
    · exact (w.solid_layout level column 0 _ callee h.1 hc).append
        (w.solid_layoutArgs _ _ suffix args h.2 ha)

theorem Widths.solid_layoutArgs (w : Widths) (level column suffix : Nat) (args : List Expr)
    (h : ArgsWellSpelled args) (hf : '\n' ∉ (commaList (flatArgs args)).toList) :
    w.Solid (w.layoutArgs level column suffix args) := by
  match args with
  | [] =>
    rw [layoutArgs]
    exact solid_of_marks rfl rfl
  | e :: rest =>
    obtain ⟨he, hrest⟩ := lineFeed_not_mem_commaList_cons.mp hf
    rw [layoutArgs]
    split
    · exact solid_flatCall (e :: rest) h hf
    split
    · next ho =>
      have hentries := (Bool.and_eq_true_iff.mp ho).2
      exact ((solid_symbol .openParen).append (w.solid_layoutOpen level e hentries h.1 he)).append
        (solid_symbol .closeParen)
    · have hfirst := w.solid_layout (level + 1) (w.margin (level + 1)) 1 none e h.1 he
      exact (solid_symbol .openParen).enclose
        (hfirst.item (level + 1) (w.block_layoutItems (level + 1) rest h.2 hrest)) level
        (solid_symbol .closeParen)

theorem Widths.solid_layoutOpen (w : Widths) (level : Nat) (e : Expr) (he : e.hasEntries = true)
    (h : e.WellSpelled) (hf : '\n' ∉ e.flat.toList) : w.Solid (w.layoutOpen level e) := by
  match e with
  | .object entries =>
    exact (w.block_layoutEntries (level + 1) entries h
      (Expr.not_mem_flat_entries hf)).inBraces level
  | .ident _ | .literal _ | .member _ _ | .call _ _ => cases he

theorem Widths.block_layoutItems (w : Widths) (level : Nat) (es : List Expr)
    (h : ArgsWellSpelled es) (hf : '\n' ∉ (commaList (flatArgs es)).toList) :
    w.Block (w.layoutItems level es) := by
  match es with
  | [] => exact block_empty
  | e :: rest =>
    obtain ⟨he, hrest⟩ := lineFeed_not_mem_commaList_cons.mp hf
    exact (w.solid_layout level (w.margin level) 1 none e h.1 he).item level
      (w.block_layoutItems level rest h.2 hrest)

theorem Widths.block_layoutEntries (w : Widths) (level : Nat) (es : List (String × Expr))
    (h : EntriesWellSpelled es) (hf : '\n' ∉ (commaList (flatEntries es)).toList) :
    w.Block (w.layoutEntries level es) := by
  match es with
  | [] => exact block_empty
  | (key, e) :: rest =>
    obtain ⟨hkey, he, hrest⟩ := not_mem_flatEntries_cons hf
    have hvalue := w.solid_layout level (w.margin level + key.length + 2) 1 none e h.2.1 he
    have hline := ((solid_key h.1 hkey).keyed hvalue).item level
      (w.block_layoutEntries level rest h.2.2 hrest)
    simpa [layoutEntries, String.append_assoc] using hline

end

/-! ## Formatted texts -/

/-- The text of a definition up to its last line feed. -/
theorem Definition.WellSpelled.solid_layout {d : Definition} (h : d.WellSpelled)
    (hf : '\n' ∉ d.body.flat.toList) (w : Widths) :
    ∃ body, d.layout w = body ++ "\n" ∧ w.Solid body := by
  have hsignature : w.Solid ("function" ++ " " ++ (d.name ++ "()") ++ " " ++ "\x7b") :=
    ((Widths.solid_word (by decide)).spaced ((Widths.solid_word h.name).append
      (Widths.solid_of_marks rfl rfl))).spaced (Widths.solid_symbol .openBrace)
  have hbody := w.solid_layout 1 (w.margin 1 + 7) 1 none d.body h.body hf
  have hreturn : w.Solid ("return" ++ " " ++ (w.layout 1 (w.margin 1 + 7) 1 none d.body ++ ";")) :=
    (Widths.solid_word (by decide)).spaced (hbody.append (Widths.solid_symbol .semicolon))
  have hall := (hsignature.lineBreak 1 hreturn).lineBreak 0 (Widths.solid_symbol .closeBrace)
  refine ⟨_, ?_, hall⟩
  delta Definition.layout
  simp [Widths.indentation, Widths.margin, Symbol.char, ← String.toList_inj]

/-- A formatted script is empty if the code is blank. Otherwise it ends in one line feed, and each
of its lines is indented by some number of levels, goes on with a character other than a space and
does not end in a space. -/
theorem format_lines_tidy (w : Widths) (code out : String) (hf : format w code = .ok out)
    (hl : LiteralsOnOneLine code) :
    (Text.isBlankText code = true ∧ out = "") ∨
      ∃ body, out = body ++ "\n" ∧ body.toList.getLast? ≠ some '\n' ∧
        ∀ line ∈ body.toList.splitOn '\n', w.TidyLine line := by
  rcases format_cases hf with hblank | ⟨ts, d, ht, hd, rfl⟩
  · exact .inl hblank
  · obtain ⟨body, hout, hsolid⟩ :=
      (Definition.wellSpelled_of_tokenize ht hd).solid_layout (hl.body ht hd) w
    have hrun := hsolid (.margin 0) (Nat.dvd_zero w.indent)
    have hstart : (LinePlace.margin 0).Behind w [] := rfl
    exact .inr ⟨body, hout, LinePlace.getLast?_of_run hrun, hstart.tidy_run (by simp) hrun⟩

/-- A chain that is broken behind its first link, with a space before the quote of a literal. -/
theorem format_lines_tidy_chain :
    LiteralsOnOneLine "function A()\x7breturn h.p(\"a \").q().r()\x7d" ∧
    format ⟨2, 12⟩ "function A()\x7breturn h.p(\"a \").q().r()\x7d" =
      .ok "function A() \x7b\n  return h.p(\n    \"a \",\n  )\n    .q()\n    .r();\n\x7d\n" ∧
    ∃ body, "function A() \x7b\n  return h.p(\n    \"a \",\n  )\n    .q()\n    .r();\n\x7d\n" =
        body ++ "\n" ∧ body.toList.getLast? ≠ some '\n' ∧
      ∀ line ∈ body.toList.splitOn '\n', Widths.TidyLine ⟨2, 12⟩ line := by
  have hts : tokenize "function A()\x7breturn h.p(\"a \").q().r()\x7d" = .ok
      [⟨.word "function", 0⟩, ⟨.word "A", 9⟩, ⟨.symbol .openParen, 10⟩, ⟨.symbol .closeParen, 11⟩,
        ⟨.symbol .openBrace, 12⟩, ⟨.word "return", 13⟩, ⟨.word "h", 20⟩, ⟨.symbol .dot, 21⟩,
        ⟨.word "p", 22⟩, ⟨.symbol .openParen, 23⟩, ⟨.quoted "\"a \"", 24⟩,
        ⟨.symbol .closeParen, 28⟩, ⟨.symbol .dot, 29⟩, ⟨.word "q", 30⟩, ⟨.symbol .openParen, 31⟩,
        ⟨.symbol .closeParen, 32⟩, ⟨.symbol .dot, 33⟩, ⟨.word "r", 34⟩, ⟨.symbol .openParen, 35⟩,
        ⟨.symbol .closeParen, 36⟩, ⟨.symbol .closeBrace, 37⟩] := rfl
  have hl : LiteralsOnOneLine "function A()\x7breturn h.p(\"a \").q().r()\x7d" := by
    intro ts text ht hm
    rw [hts] at ht
    cases ht
    obtain rfl : text = "\"a \"" := by simpa using hm
    decide
  have hf : format ⟨2, 12⟩ "function A()\x7breturn h.p(\"a \").q().r()\x7d" =
      .ok "function A() \x7b\n  return h.p(\n    \"a \",\n  )\n    .q()\n    .r();\n\x7d\n" :=
    format_eq_layout hts rfl
  exact ⟨hl, hf, (format_lines_tidy _ _ _ hf hl).resolve_left (by decide)⟩

end MarkupChain.Script
