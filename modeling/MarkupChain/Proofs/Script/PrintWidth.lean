import MarkupChain.Proofs.Script.Brackets
import MarkupChain.Proofs.Script.Formatting

/-!
# The print width

A laid-out script keeps each bracket group on one line if the group fits there, and breaks it
otherwise. The column passed down by the layout is the column at which the text really starts, at
every depth, so the decision is made for the place where the group stands. Behind a group at most a
closing parenthesis and a comma or semicolon are counted, which leaves two columns in which a group
that fits may still be broken.
-/

namespace MarkupChain.Script

/-! ## Columns -/

theorem columnAfter_of_not_mem {s : String} (h : '\n' ∉ s.toList) (c : Nat) :
    columnAfter c s = c + s.length := by
  rw [columnAfter, ← String.length_toList]
  generalize s.toList = cs at h
  induction cs generalizing c with
  | nil => rfl
  | cons d cs ih =>
    have hd : d ≠ '\n' := fun hd => h (by simp [hd])
    rw [List.foldl_cons, if_neg hd, ih _ (fun hcs => h (by simp [hcs])), List.length_cons]
    omega

theorem columnAfter_lineFeed (c : Nat) : columnAfter c "\n" = 0 := rfl

theorem Widths.columnAfter_indentation (w : Widths) (level : Nat) :
    columnAfter 0 (w.indentation level) = w.margin level := by
  have h : '\n' ∉ (w.indentation level).toList := by simp [indentation]
  rw [columnAfter_of_not_mem h]
  simp [indentation, ← String.length_toList]

/-! ## Pieces of a text -/

theorem EachGroup.congr {P : Nat → Group → String → Prop} {c : Nat} {s t : String}
    (h : EachGroup P c s) (hs : s = t) : EachGroup P c t := by
  rwa [← hs]

theorem breaks_reverse_of_isBlankText {g : String} (h : Text.isBlankText g = true) :
    Breaks g.toList.reverse := by
  intro c hc
  have hb : ∀ c ∈ g.toList, Text.isBlank c = true := by simpa [Text.isBlankText] using h
  exact isWordPart_of_isBlank (hb c (List.mem_reverse.mp (List.mem_of_mem_head? hc)))

section Pieces

variable {P : Nat → Group → String → Prop} {c : Nat} {s t g : String}

theorem EachGroup.blank (hg : Text.isBlankText g = true) : EachGroup P c g := by
  have hr : Reads g [] := by simpa using Reads.blank_append hg .empty
  exact .plain hr (by simp)

theorem EachGroup.blank_append (hg : Text.isBlankText g = true)
    (hs : EachGroup P (columnAfter c g) s) : EachGroup P c (g ++ s) :=
  (EachGroup.blank hg).append hs (.inr (breaks_reverse_of_isBlankText hg))

theorem EachGroup.word {name : String} (h : IsWord name.toList) : EachGroup P c name :=
  .plain (Reads.lexeme (l := .word name) h) (by simp)

theorem EachGroup.literal {text : String} (h : IsLiteral text.toList) : EachGroup P c text :=
  .plain (Reads.lexeme (l := .quoted text) h) (by simp)

/-- A member name behind its target, perhaps on the next line. -/
theorem EachGroup.member {name : String} (hs : EachGroup P c s) (hg : Text.isBlankText g = true)
    (hn : IsWord name.toList) : EachGroup P c (s ++ g ++ "." ++ name) := by
  have hr : Reads (g ++ ("." ++ name)) [.symbol .dot, .word name] :=
    .blank_append hg (.symbol_append .dot (Reads.lexeme (l := .word name) hn))
  have hb : Breaks (g ++ ("." ++ name)).toList := by
    rw [String.toList_append]
    exact (breaks_of_isBlankText hg).append (by simp [isWordPart])
  have h := hs.append (.plain hr (by simp [Symbol.turn])) (.inl hb)
  simpa [String.append_assoc] using h

/-- Two items with a comma and blanks between them. -/
theorem EachGroup.separated (hg : Text.isBlankText g = true) (hs : EachGroup P c s)
    (ht : EachGroup P (columnAfter c (s ++ ("," ++ g))) t) :
    EachGroup P c (s ++ ("," ++ g) ++ t) := by
  have hr : Reads ("," ++ g) [.symbol .comma] :=
    .symbol_append .comma (by simpa using Reads.blank_append hg .empty)
  have hsep := hs.append (.plain hr (by simp [Symbol.turn])) (.inl (by simp [isWordPart]))
  refine hsep.append ht (.inr ?_)
  simp only [String.toList_append, List.reverse_append, List.append_assoc]
  exact (breaks_reverse_of_isBlankText hg).append (by simp [isWordPart])

theorem EachGroup.keyed {key : String} (hk : IsWord key.toList ∨ IsLiteral key.toList)
    (hs : EachGroup P (columnAfter c (key ++ ": ")) s) : EachGroup P c (key ++ ": " ++ s) := by
  obtain ⟨k, hkey, hvalid, rfl⟩ := Lexeme.exists_key hk
  have hr := (Reads.lexeme hvalid).append_symbol .colon (.blank_append isBlankText_space .empty)
  have hcolon : k.text ++ String.singleton Symbol.colon.char ++ (" " ++ "") = k.text ++ ": " := by
    simp [← String.toList_inj, Symbol.char]
  rw [hcolon] at hr
  refine (EachGroup.plain hr ?_).append hs (.inr (by simp [isWordPart]))
  simp [hkey.turn, Symbol.turn]

end Pieces

/-! ## Flat texts -/

/-- A group that is written in its flat form. -/
def IsFlat (_ : Nat) (g : Group) (text : String) : Prop := text = g.flat

mutual

theorem Expr.eachGroup_flat (e : Expr) (h : e.WellSpelled) (c : Nat) :
    EachGroup IsFlat c e.flat := by
  match e with
  | .ident name => exact .word h
  | .literal text => exact .literal h
  | .object [] => exact .braces .noEntries (.blank rfl) (by simp)
  | .object (entry :: rest) =>
    have hp := (prints_flatEntries (entry :: rest) h).append_blank isBlankText_space
    have he := (eachGroup_flatEntries (entry :: rest) h (columnAfter (c + 1) " ")).append
      (.blank isBlankText_space) (.inl (breaks_of_isBlankText isBlankText_space))
    have hs : (Expr.object (entry :: rest)).flat =
        "\x7b" ++ (" " ++ (commaList (flatEntries (entry :: rest)) ++ " ")) ++ "\x7d" := by
      simp [Expr.flat, ← String.toList_inj]
    rw [hs]
    refine .braces (hp.blank_append isBlankText_space) (.blank_append isBlankText_space he) ?_
    rintro first more ⟨⟩
    exact hs.symm
  | .member target name =>
    have ht := (target.eachGroup_flat h.1 c).member (g := "") rfl h.2
    simpa [Expr.flat] using ht
  | .call callee args =>
    have hc := (callee.eachGroup_flat h.1 c).append (eachGroup_flatCall args h.2 _)
      (.inl (by simp [isWordPart]))
    simpa [Expr.flat, String.append_assoc] using hc

/-- An argument list with its parentheses. -/
theorem eachGroup_flatCall (es : List Expr) (h : ArgsWellSpelled es) (c : Nat) :
    EachGroup IsFlat c ("(" ++ commaList (flatArgs es) ++ ")") := by
  refine .parens (prints_flatArgs es h) (eachGroup_flatArgs es h _) ?_
  rintro first rest rfl
  rfl

theorem eachGroup_flatArgs (es : List Expr) (h : ArgsWellSpelled es) (c : Nat) :
    EachGroup IsFlat c (commaList (flatArgs es)) := by
  match es with
  | [] => exact .blank rfl
  | [e] => exact e.eachGroup_flat h.1 c
  | e :: e' :: rest =>
    have hs : commaList (flatArgs (e :: e' :: rest)) =
        e.flat ++ ("," ++ " ") ++ commaList (flatArgs (e' :: rest)) := by
      simp [commaList, flatArgs]
    rw [hs]
    exact .separated isBlankText_space (e.eachGroup_flat h.1 c)
      (eachGroup_flatArgs (e' :: rest) h.2 _)

theorem eachGroup_flatEntries (es : List (String × Expr)) (h : EntriesWellSpelled es) (c : Nat) :
    EachGroup IsFlat c (commaList (flatEntries es)) := by
  match es with
  | [] => exact .blank rfl
  | [(key, e)] => exact .keyed h.1 (e.eachGroup_flat h.2.1 _)
  | (key, e) :: entry :: rest =>
    have hs : commaList (flatEntries ((key, e) :: entry :: rest)) =
        key ++ ": " ++ e.flat ++ ("," ++ " ") ++ commaList (flatEntries (entry :: rest)) := by
      simp [commaList, flatEntries]
    rw [hs]
    exact .separated isBlankText_space (.keyed h.1 (e.eachGroup_flat h.2.1 _))
      (eachGroup_flatEntries (entry :: rest) h.2.2 _)

end

/-! ## Layouts -/

/-- A group on one line ends within the print width; a group on several lines would not have fitted
if two more columns were needed behind it. -/
structure Widths.Keeps (w : Widths) (c : Nat) (g : Group) (text : String) : Prop where
  fits : '\n' ∉ text.toList → c + g.flat.length ≤ w.print
  broken : '\n' ∈ text.toList → w.print < c + g.flat.length + 2

theorem EachGroup.keeps {c : Nat} {s : String} (h : EachGroup IsFlat c s) (w : Widths)
    (hs : '\n' ∉ s.toList) (hfit : c + s.length ≤ w.print) : EachGroup w.Keeps c s := by
  refine ⟨h.balanced, ?_⟩
  intro o ts g pre text hts hg
  have hflat : text = g.flat := h.holds o ts g pre text hts hg
  obtain ⟨post, _, _, _, _, _, rfl, _⟩ := hg
  have hpre : '\n' ∉ pre.toList := fun hm => hs (by simp [hm])
  have htext : '\n' ∉ text.toList := fun hm => hs (by simp [hm])
  rw [String.length_append, String.length_append] at hfit
  rw [columnAfter_of_not_mem hpre]
  subst hflat
  exact ⟨fun _ => by omega, fun hm => absurd hm htext⟩

theorem Widths.keeps_of_fits {w : Widths} {c suffix : Nat} {s : String}
    (h : EachGroup IsFlat c s) (hs : '\n' ∉ s.toList) (hfit : w.fits c s suffix = true) :
    EachGroup w.Keeps c s := by
  refine h.keeps w hs ?_
  have := of_decide_eq_true hfit
  omega

/-- Lines of a deeper level, with the line feed before them and the indentation behind. -/
theorem EachGroup.lines {P : Nat → Group → String → Prop} {s : String} (h : EachGroup P 0 s)
    (w : Widths) (level c : Nat) : EachGroup P c ("\n" ++ (s ++ w.indentation level)) :=
  .blank_append isBlankText_lineFeed <| h.append (.blank (w.isBlankText_indentation level))
    (.inl (breaks_of_isBlankText (w.isBlankText_indentation level)))

/-- An item on a line of its own. -/
theorem EachGroup.line {P : Nat → Group → String → Prop} {s t : String} (w : Widths) (level : Nat)
    (hs : EachGroup P (w.margin level) s) (ht : EachGroup P 0 t) :
    EachGroup P 0 (w.indentation level ++ s ++ ",\n" ++ t) := by
  have hcolumn : columnAfter (w.margin level) (s ++ ("," ++ "\n")) = 0 := by
    rw [columnAfter_append, columnAfter_append, columnAfter_lineFeed]
  have hline := hs.separated isBlankText_lineFeed (by rwa [hcolumn])
  rw [← w.columnAfter_indentation level] at hline
  have hall := hline.blank_append (w.isBlankText_indentation level)
  simpa [String.append_assoc] using hall

/-- The comma and the space of a flat list are no line feeds. -/
theorem lineFeed_not_mem_commaList_cons {s : String} {ss : List String} :
    '\n' ∉ (commaList (s :: ss)).toList ↔ '\n' ∉ s.toList ∧ '\n' ∉ (commaList ss).toList := by
  cases ss with
  | nil => simp [commaList]
  | cons s' ss => simp [commaList]

/-- A group that is broken into lines. -/
theorem Widths.keeps_of_broken {w : Widths} {c : Nat} {g : Group} {text : String}
    (ht : '\n' ∈ text.toList) (h : w.print < c + g.flat.length + 2) : w.Keeps c g text where
  fits := fun hn => absurd ht hn
  broken := fun _ => h

/-- Entries on lines of their own, when the object is too wide. -/
theorem EachGroup.enclose_entries {w : Widths} {lines : String} {entries : List (String × Expr)}
    (level : Nat) {column : Nat} (hp : Prints (.entries entries) lines)
    (h : EachGroup w.Keeps 0 lines)
    (hwide : w.print < column + (Expr.object entries).flat.length + 2) :
    EachGroup w.Keeps column (w.enclose level "\x7b" lines "\x7d") := by
  rw [Widths.enclose_eq]
  refine .braces (hp.lines w level) (h.lines w level _) ?_
  rintro first rest rfl
  exact Widths.keeps_of_broken (by simp) hwide

/-- Arguments on lines of their own, when the list is too wide. -/
theorem EachGroup.enclose_args {w : Widths} {lines : String} {args : List Expr} (level : Nat)
    {column : Nat} (hp : Prints (.args args) lines) (h : EachGroup w.Keeps 0 lines)
    (hwide : w.print < column + ("(" ++ commaList (flatArgs args) ++ ")").length + 2) :
    EachGroup w.Keeps column (w.enclose level "(" lines ")") := by
  rw [Widths.enclose_eq]
  refine .parens (hp.lines w level) (h.lines w level _) ?_
  rintro first rest rfl
  exact Widths.keeps_of_broken (by simp) hwide

theorem Widths.mem_layoutOpen (w : Widths) (level : Nat) {e : Expr} (h : e.hasEntries = true) :
    '\n' ∈ (w.layoutOpen level e).toList := by
  cases e with
  | object entries => simp [layoutOpen, enclose]
  | _ => cases h

theorem PrintsCall.breaks {args : List Expr} {s : String} (h : PrintsCall args s) :
    Breaks s.toList := by
  obtain ⟨t, rfl, _⟩ := h
  simp [isWordPart]

theorem Widths.print_lt {w : Widths} {column suffix : Nat} {flat : String}
    (h : ¬ w.fits column flat suffix = true) : w.print < column + flat.length + suffix := by
  simpa [fits] using h

theorem Expr.not_mem_flat_entries {entries : List (String × Expr)}
    (h : '\n' ∉ (Expr.object entries).flat.toList) :
    '\n' ∉ (commaList (flatEntries entries)).toList := by
  cases entries with
  | nil => simp [flatEntries, commaList]
  | cons entry rest => exact fun hm => h (by simp [Expr.flat, hm])

theorem Expr.not_mem_flat_member {target : Expr} {name : String}
    (h : '\n' ∉ (Expr.member target name).flat.toList) : '\n' ∉ target.flat.toList :=
  fun hm => h (by simp [Expr.flat, hm])

theorem Expr.not_mem_flat_call {callee : Expr} {args : List Expr}
    (h : '\n' ∉ (Expr.call callee args).flat.toList) :
    '\n' ∉ callee.flat.toList ∧ '\n' ∉ (commaList (flatArgs args)).toList :=
  ⟨fun hm => h (by simp [Expr.flat, hm]), fun hm => h (by simp [Expr.flat, hm])⟩

theorem not_mem_flatEntries_cons {key : String} {e : Expr} {rest : List (String × Expr)}
    (h : '\n' ∉ (commaList (flatEntries ((key, e) :: rest))).toList) :
    '\n' ∉ key.toList ∧ '\n' ∉ e.flat.toList ∧ '\n' ∉ (commaList (flatEntries rest)).toList := by
  obtain ⟨hentry, hrest⟩ := lineFeed_not_mem_commaList_cons.mp h
  exact ⟨fun hm => hentry (by simp [hm]), fun hm => hentry (by simp [hm]), hrest⟩

mutual

/-- Each decision of the layout is made for the column where the text stands. At most one column is
asked for behind an expression. -/
theorem Widths.keeps_layout (w : Widths) (level column suffix : Nat) (part : Option Bool)
    (e : Expr) (h : e.WellSpelled) (hl : '\n' ∉ e.flat.toList) (hs : suffix ≤ 1) :
    EachGroup w.Keeps column (w.layout level column suffix part e) := by
  match e with
  | .ident name => exact .word h
  | .literal text => exact .literal h
  | .object [] => exact .braces .noEntries (.blank rfl) (by simp)
  | .object (entry :: rest) =>
    rw [layout]
    split
    · next hfit => exact keeps_of_fits (Expr.eachGroup_flat _ h column) hl hfit
    · next hfit =>
      have hwide := print_lt hfit
      exact .enclose_entries level (w.prints_layoutEntries (level + 1) (entry :: rest) h)
        (w.keeps_layoutEntries (level + 1) (entry :: rest) h (Expr.not_mem_flat_entries hl))
        (by omega)
  | .member target name =>
    rw [layout]
    split
    · next hfit =>
      exact keeps_of_fits (Expr.eachGroup_flat _ h column) hl (Bool.and_eq_true_iff.mp hfit).2
    · have ht := Expr.not_mem_flat_member hl
      exact (w.keeps_layout level column 0 _ target h.1 ht (by omega)).member
        (w.isBlankText_linkStart _ _ _) h.2
  | .call callee args =>
    rw [layout]
    split
    · next hfit =>
      exact keeps_of_fits (Expr.eachGroup_flat _ h column) hl (Bool.and_eq_true_iff.mp hfit).2
    · obtain ⟨hc, ha⟩ := Expr.not_mem_flat_call hl
      exact (w.keeps_layout level column 0 _ callee h.1 hc (by omega)).append
        (w.keeps_layoutArgs _ _ suffix args h.2 ha hs)
        (.inl (w.prints_layoutArgs _ _ suffix args h.2).breaks)

theorem Widths.keeps_layoutArgs (w : Widths) (level column suffix : Nat) (args : List Expr)
    (h : ArgsWellSpelled args) (hl : '\n' ∉ (commaList (flatArgs args)).toList)
    (hs : suffix ≤ 1) : EachGroup w.Keeps column (w.layoutArgs level column suffix args) := by
  match args with
  | [] => exact .parens .noArgs (.blank rfl) (by simp)
  | e :: rest =>
    obtain ⟨he, hrest⟩ := lineFeed_not_mem_commaList_cons.mp hl
    rw [layoutArgs]
    split
    · next hfit =>
      exact keeps_of_fits (eachGroup_flatCall (e :: rest) h column) (by simpa using hl) hfit
    next hfit =>
    have hwide := print_lt hfit
    split
    · next ho =>
      obtain ⟨hempty, hentries⟩ := Bool.and_eq_true_iff.mp ho
      obtain rfl := List.isEmpty_iff.mp hempty
      have hlength : ("(" ++ commaList (flatArgs [e]) ++ ")").length = e.flat.length + 2 := by
        simp [flatArgs, commaList, ← String.length_toList]
      refine .parens (.lastArg (w.prints_layoutOpen level e hentries h.1))
        (w.keeps_layoutOpen level (column + 1) e hentries h.1 he (by omega)) ?_
      rintro first more ⟨⟩
      exact keeps_of_broken (by simp [w.mem_layoutOpen level hentries]) (by
        simp only [Group.flat]
        omega)
    · have hp := Prints.argLine w (level + 1)
        (w.prints_layout (level + 1) (w.margin (level + 1)) 1 none e h.1)
        (w.prints_layoutItems (level + 1) rest h.2)
      exact .enclose_args level hp
        (.line w (level + 1) (w.keeps_layout (level + 1) _ 1 none e h.1 he (by omega))
          (w.keeps_layoutItems (level + 1) rest h.2 hrest)) (by omega)

theorem Widths.keeps_layoutOpen (w : Widths) (level column : Nat) (e : Expr)
    (he : e.hasEntries = true) (h : e.WellSpelled) (hl : '\n' ∉ e.flat.toList)
    (hwide : w.print < column + e.flat.length + 2) :
    EachGroup w.Keeps column (w.layoutOpen level e) := by
  match e with
  | .object entries =>
    exact .enclose_entries level (w.prints_layoutEntries (level + 1) entries h)
      (w.keeps_layoutEntries (level + 1) entries h (Expr.not_mem_flat_entries hl)) hwide
  | .ident _ | .literal _ | .member _ _ | .call _ _ => cases he

theorem Widths.keeps_layoutItems (w : Widths) (level : Nat) (es : List Expr)
    (h : ArgsWellSpelled es) (hl : '\n' ∉ (commaList (flatArgs es)).toList) :
    EachGroup w.Keeps 0 (w.layoutItems level es) := by
  match es with
  | [] => exact .blank rfl
  | e :: rest =>
    obtain ⟨he, hrest⟩ := lineFeed_not_mem_commaList_cons.mp hl
    exact .line w level (w.keeps_layout level _ 1 none e h.1 he (by omega))
      (w.keeps_layoutItems level rest h.2 hrest)

theorem Widths.keeps_layoutEntries (w : Widths) (level : Nat) (es : List (String × Expr))
    (h : EntriesWellSpelled es) (hl : '\n' ∉ (commaList (flatEntries es)).toList) :
    EachGroup w.Keeps 0 (w.layoutEntries level es) := by
  match es with
  | [] => exact .blank rfl
  | (key, e) :: rest =>
    obtain ⟨hkey, he, hrest⟩ := not_mem_flatEntries_cons hl
    have hcolumn :
        columnAfter (w.margin level) (key ++ ": ") = w.margin level + key.length + 2 := by
      rw [columnAfter_of_not_mem (by simpa using hkey), String.length_append]
      rfl
    have hline := w.keeps_layout level (w.margin level + key.length + 2) 1 none e h.2.1 he
      (by omega)
    rw [← hcolumn] at hline
    have hall := EachGroup.line w level (.keyed h.1 hline)
      (w.keeps_layoutEntries level rest h.2.2 hrest)
    rw [layoutEntries, ← hcolumn]
    simpa [String.append_assoc] using hall

end

/-! ## Definitions -/

/-- A semicolon stands only behind the body of a definition. -/
theorem Derives.semicolon_not_mem {p : Part} {ls : List Lexeme} (h : Derives p ls) :
    .symbol .semicolon ∉ ls := by
  have hkey : ∀ (k : Lexeme) (key : String), k.IsKey key → .symbol .semicolon ≠ k := by
    rintro k key (rfl | rfl) <;> simp
  induction h with
  | ident name => simp
  | literal text => simp
  | object _ ih => simpa using ih
  | member name _ ih => simpa using ih
  | call _ _ ihc iha => simpa using ⟨ihc, iha⟩
  | noArgs => simp
  | lastArg _ ih => exact ih
  | arg _ _ ihe ihr => simpa using ⟨ihe, ihr⟩
  | noEntries => simp
  | lastEntry hk _ ih => simpa using ⟨hkey _ _ hk, ih⟩
  | entry hk _ _ ihe ihr => simpa using ⟨hkey _ _ hk, ihe, ihr⟩

theorem reads_semicolon : Reads ";\n" [.symbol .semicolon] :=
  (Reads.symbol_append .semicolon (.blank_append isBlankText_lineFeed .empty)).congr rfl rfl

/-- A word and the space behind it. -/
theorem reads_word_space {name : String} (h : IsWord name.toList) :
    Reads (name ++ " ") [.word name] :=
  (Reads.lexeme (l := .word name) h).append
    (by simpa using Reads.blank_append isBlankText_space .empty) (by simp [isWordPart])

/-- The braces of a definition are no group, since there is a semicolon between them. -/
theorem EachGroup.body {P : Nat → Group → String → Prop} {c : Nat} {e : Expr} {s : String}
    (w : Widths) (hp : Prints (.expr e) s) (h : EachGroup P (w.margin 1 + 7) s) :
    EachGroup P c
      ("\x7b" ++ ("\n" ++ (w.indentation 1 ++ ("return " ++ (s ++ ";\n")))) ++ "\x7d") := by
  obtain ⟨ms, hms, hder⟩ := hp
  have hreturn : Reads "return " [.word "return"] :=
    (reads_word_space (show IsWord "return".toList by decide)).congr rfl rfl
  have hreads : Reads ("\n" ++ (w.indentation 1 ++ ("return " ++ (s ++ ";\n"))))
      ([.word "return"] ++ (ms ++ [.symbol .semicolon])) :=
    .blank_append isBlankText_lineFeed <| .blank_append (w.isBlankText_indentation 1) <|
      hreturn.append_apart (hms.append reads_semicolon (by simp [isWordPart]))
        (.inr (by simp [isWordPart]))
  have hcolumn : columnAfter (columnAfter 0 (w.indentation 1)) "return " = w.margin 1 + 7 := by
    rw [w.columnAfter_indentation]
    rfl
  have hline : EachGroup P 0 (w.indentation 1 ++ ("return " ++ (s ++ ";\n"))) := by
    refine .blank_append (w.isBlankText_indentation 1) ((EachGroup.plain hreturn (by simp)).append
      ?_ (.inr (by simp [isWordPart])))
    rw [hcolumn]
    exact h.append (.plain reads_semicolon (by simp [Symbol.turn])) (.inl (by simp [isWordPart]))
  refine .enclose .openBrace .closeBrace (.blank_append isBlankText_lineFeed hline) rfl rfl ?_
  intro g ls hls hd
  cases hd with
  | entries hd =>
    rw [hls.unique hreads] at hd
    exact absurd (by simp) hd.semicolon_not_mem

theorem Definition.WellSpelled.keeps_layout {d : Definition} (h : d.WellSpelled)
    (hl : '\n' ∉ d.body.flat.toList) (w : Widths) : EachGroup w.Keeps 0 (d.layout w) := by
  have hname : EachGroup w.Keeps 0 ("function" ++ " " ++ d.name) :=
    .append (.plain (reads_word_space (by decide)) (by simp)) (.word h.name)
      (.inr (by simp [isWordPart]))
  have hparams : ∀ c, EachGroup w.Keeps c ("(" ++ "" ++ ")" ++ " ") := fun c =>
    .append (.parens .noArgs (.blank rfl) (by simp)) (.blank isBlankText_space)
      (.inl (by simp [isWordPart]))
  have hbody : ∀ c, EachGroup w.Keeps c _ := fun c => EachGroup.body w
    (w.prints_layout 1 (w.margin 1 + 7) 1 none d.body h.body)
    (w.keeps_layout 1 _ 1 none d.body h.body hl (by omega))
  have hfront := hname.append (hparams _) (.inl (by simp [isWordPart]))
  have hback := hfront.append (hbody _) (.inl (by simp [isWordPart]))
  have hall := hback.append (.blank isBlankText_lineFeed) (.inl (by simp [isWordPart]))
  refine hall.congr ?_
  delta Definition.layout
  simp [← String.toList_inj]

/-! ## Literals on one line -/

/-- The form of a part on one line, without brackets around it. -/
def Part.flat : Part → String
  | .expr e => e.flat
  | .args es => commaList (flatArgs es)
  | .entries es => commaList (flatEntries es)

theorem Lexeme.IsKey.text {k : Lexeme} {key : String} (h : k.IsKey key) : k.text = key := by
  rcases h with rfl | rfl <;> rfl

/-- What is derived from lexemes without a line feed is flat on one line. -/
theorem Derives.lineFeed_not_mem {p : Part} {ls : List Lexeme} (h : Derives p ls)
    (hls : ∀ l ∈ ls, '\n' ∉ l.text.toList) : '\n' ∉ p.flat.toList := by
  induction h with
  | ident name => exact hls (.word name) (by simp)
  | literal text => exact hls (.quoted text) (by simp)
  | @object entries ls _ ih =>
    have he := ih fun l hl => hls l (by simp [hl])
    cases entries with
    | nil => simp [Part.flat, Expr.flat]
    | cons entry rest => simpa [Part.flat, Expr.flat] using he
  | member name _ ih =>
    have ht := ih fun l hl => hls l (by simp [hl])
    have hn := hls (.word name) (by simp)
    simpa [Part.flat, Expr.flat] using ⟨ht, hn⟩
  | call _ _ ihc iha =>
    have hc := ihc fun l hl => hls l (by simp [hl])
    have ha := iha fun l hl => hls l (by simp [hl])
    simpa [Part.flat, Expr.flat] using ⟨hc, ha⟩
  | noArgs => simp [Part.flat, flatArgs, commaList]
  | lastArg _ ih => exact ih hls
  | arg _ _ ihe ihr =>
    exact lineFeed_not_mem_commaList_cons.mpr ⟨ihe fun l hl => hls l (by simp [hl]),
      ihr fun l hl => hls l (by simp [hl])⟩
  | noEntries => simp [Part.flat, flatEntries, commaList]
  | @lastEntry key k e ls hk _ ih =>
    have he := ih fun l hl => hls l (by simp [hl])
    have hkey := hls k (by simp)
    rw [hk.text] at hkey
    simpa [Part.flat, flatEntries, commaList] using ⟨hkey, he⟩
  | @entry key k e rest ls ms hk _ _ ihe ihr =>
    have he := ihe fun l hl => hls l (by simp [hl])
    have hkey := hls k (by simp)
    rw [hk.text] at hkey
    refine lineFeed_not_mem_commaList_cons.mpr ⟨?_, ihr fun l hl => hls l (by simp [hl])⟩
    simpa using ⟨hkey, he⟩

theorem IsWord.lineFeed_not_mem {cs : List Char} (h : IsWord cs) : '\n' ∉ cs := by
  obtain ⟨c, rest, rfl, hc, hrest⟩ := h.cons
  intro hm
  rcases List.mem_cons.mp hm with rfl | hm
  · exact absurd hc (by decide)
  · exact absurd (hrest _ hm) (by decide)

/-- The literals of a text have no line feed between their quotes. -/
def LiteralsOnOneLine (code : String) : Prop :=
  ∀ ts text, tokenize code = .ok ts → .quoted text ∈ ts.map (·.lexeme) → '\n' ∉ text.toList

theorem LiteralsOnOneLine.body {code : String} {ts : List Token} {d : Definition}
    (h : LiteralsOnOneLine code) (ht : tokenize code = .ok ts)
    (hd : Definition.ofTokens ts = .ok d) : '\n' ∉ d.body.flat.toList := by
  have hls : ∀ l ∈ ts.map (·.lexeme), '\n' ∉ l.text.toList := by
    intro l hl
    obtain ⟨t, htmem, rfl⟩ := List.mem_map.mp hl
    have hvalid := ((tokenize_eq_ok_iff code ts).mp ht).valid t htmem
    cases hlex : t.lexeme with
    | word name =>
      rw [hlex] at hvalid
      exact hvalid.lineFeed_not_mem
    | quoted text => exact h ts text ht (hlex ▸ hl)
    | symbol s => cases s <;> decide
  have hder := Definition.derives_of_ofTokens hd
  generalize ts.map (·.lexeme) = ls at hder hls
  cases hder with
  | plain hbody => exact hbody.lineFeed_not_mem fun l hl => hls l (by simp [hl])
  | ended hbody => exact hbody.lineFeed_not_mem fun l hl => hls l (by simp [hl])

/-! ## Formatted texts -/

/-- The column behind a text: its characters since the last line feed. -/
def column (s : String) : Nat := (s.toList.reverse.takeWhile (· ≠ '\n')).length

theorem columnAfter_zero (s : String) : columnAfter 0 s = column s := by
  rw [columnAfter, column]
  have h : ∀ cs : List Char, cs.reverse.foldl (fun n d => if d = '\n' then 0 else n + 1) 0 =
      (cs.takeWhile (· ≠ '\n')).length := by
    intro cs
    induction cs with
    | nil => rfl
    | cons d cs ih =>
      rw [List.reverse_cons, List.foldl_append, ih]
      by_cases hd : d = '\n'
      · simp [hd]
      · simp [hd]
  simpa using h s.toList.reverse

/-- The group `g` of the script `out` stands behind the text `pre` and is written as `text`. -/
def GroupIn (out : String) (g : Group) (pre text : String) : Prop :=
  ∃ ts, tokenize out = .ok ts ∧ GroupAt 0 out ts g pre text

/-- A formatted text is empty or the layout of a definition. -/
theorem format_eq_ok {w : Widths} {code out : String} (h : format w code = .ok out) :
    out = "" ∨ ∃ ts d, tokenize code = .ok ts ∧ Definition.ofTokens ts = .ok d ∧
      out = d.layout w :=
  (format_cases h).imp_left And.right

theorem not_groupIn_empty {g : Group} {pre text : String} : ¬ GroupIn "" g pre text := by
  rintro ⟨ts, hts, post, before, inner, after, opening, closing, _, rfl, _⟩
  rw [tokenize_blank rfl] at hts
  simp at hts

/-- Whatever is formatted, a bracket group of the result that stands on one line does not pass the
print width, and one that takes several lines would pass it with two more columns. -/
theorem format_breaks_groups_by_width (w : Widths) (code out : String)
    (hf : format w code = .ok out) (hl : LiteralsOnOneLine code) (g : Group) (pre text : String)
    (hg : GroupIn out g pre text) :
    ('\n' ∉ text.toList → column pre + g.flat.length ≤ w.print) ∧
      ('\n' ∈ text.toList → w.print < column pre + g.flat.length + 2) := by
  rcases format_eq_ok hf with rfl | ⟨ts, d, ht, hd, rfl⟩
  · exact absurd hg not_groupIn_empty
  obtain ⟨us, hus, hat⟩ := hg
  have hkeep := ((Definition.wellSpelled_of_tokenize ht hd).keeps_layout (hl.body ht hd) w).holds 0
    us g pre text ((tokenize_eq_ok_iff _ us).mp hus) hat
  rw [columnAfter_zero] at hkeep
  exact ⟨hkeep.fits, hkeep.broken⟩

/-- A call whose argument list is broken, while the one inside of it just fits on its line. -/
theorem format_breaks_groups_by_width_nested :
    format ⟨2, 11⟩ "function A()\x7breturn h(f(\"b\"))\x7d" =
      .ok "function A() \x7b\n  return h(\n    f(\"b\"),\n  );\n\x7d\n" ∧
    LiteralsOnOneLine "function A()\x7breturn h(f(\"b\"))\x7d" ∧
    (GroupIn "function A() \x7b\n  return h(\n    f(\"b\"),\n  );\n\x7d\n"
        (.args (.call (.ident "f") [.literal "\"b\""]) []) "function A() \x7b\n  return h"
        "(\n    f(\"b\"),\n  )" ∧
      '\n' ∈ "(\n    f(\"b\"),\n  )".toList ∧ 11 < column "function A() \x7b\n  return h" +
        (Group.args (.call (.ident "f") [.literal "\"b\""]) []).flat.length + 2) ∧
    (GroupIn "function A() \x7b\n  return h(\n    f(\"b\"),\n  );\n\x7d\n"
        (.args (.literal "\"b\"") []) "function A() \x7b\n  return h(\n    f" "(\"b\")" ∧
      '\n' ∉ "(\"b\")".toList ∧ column "function A() \x7b\n  return h(\n    f" +
        (Group.args (.literal "\"b\"") []).flat.length ≤ 11) := by
  have hts : tokenize "function A()\x7breturn h(f(\"b\"))\x7d" = .ok
      [⟨.word "function", 0⟩, ⟨.word "A", 9⟩, ⟨.symbol .openParen, 10⟩, ⟨.symbol .closeParen, 11⟩,
        ⟨.symbol .openBrace, 12⟩, ⟨.word "return", 13⟩, ⟨.word "h", 20⟩, ⟨.symbol .openParen, 21⟩,
        ⟨.word "f", 22⟩, ⟨.symbol .openParen, 23⟩, ⟨.quoted "\"b\"", 24⟩, ⟨.symbol .closeParen, 27⟩,
        ⟨.symbol .closeParen, 28⟩, ⟨.symbol .closeBrace, 29⟩] := rfl
  have hl : LiteralsOnOneLine "function A()\x7breturn h(f(\"b\"))\x7d" := by
    intro ts text ht hm
    rw [hts] at ht
    cases ht
    obtain rfl : text = "\"b\"" := by simpa using hm
    decide
  have hf : format ⟨2, 11⟩ "function A()\x7breturn h(f(\"b\"))\x7d" = .ok (Definition.layout ⟨2, 11⟩
      ⟨"A", .call (.ident "h") [.call (.ident "f") [.literal "\"b\""]]⟩) := format_eq_layout hts rfl
  have hlayout : Definition.layout ⟨2, 11⟩
      ⟨"A", .call (.ident "h") [.call (.ident "f") [.literal "\"b\""]]⟩ =
      "function A() \x7b\n  return h(\n    f(\"b\"),\n  );\n\x7d\n" := rfl
  rw [hlayout] at hf
  have hout : tokenize "function A() \x7b\n  return h(\n    f(\"b\"),\n  );\n\x7d\n" = .ok
      [⟨.word "function", 0⟩, ⟨.word "A", 9⟩, ⟨.symbol .openParen, 10⟩, ⟨.symbol .closeParen, 11⟩,
        ⟨.symbol .openBrace, 13⟩, ⟨.word "return", 17⟩, ⟨.word "h", 24⟩, ⟨.symbol .openParen, 25⟩,
        ⟨.word "f", 31⟩, ⟨.symbol .openParen, 32⟩, ⟨.quoted "\"b\"", 33⟩, ⟨.symbol .closeParen, 36⟩,
        ⟨.symbol .comma, 37⟩, ⟨.symbol .closeParen, 41⟩, ⟨.symbol .semicolon, 42⟩,
        ⟨.symbol .closeBrace, 44⟩] := rfl
  have hbroken : GroupIn "function A() \x7b\n  return h(\n    f(\"b\"),\n  );\n\x7d\n"
      (.args (.call (.ident "f") [.literal "\"b\""]) []) "function A() \x7b\n  return h"
      "(\n    f(\"b\"),\n  )" :=
    ⟨_, hout, ";\n\x7d\n", [_, _, _, _, _, _, _], [_, _, _, _, _], [_, _], _, _, rfl, rfl, rfl, rfl,
      .args (.arg (.call (.ident _) (.lastArg (.literal _))) .noArgs)⟩
  have hfits : GroupIn "function A() \x7b\n  return h(\n    f(\"b\"),\n  );\n\x7d\n"
      (.args (.literal "\"b\"") []) "function A() \x7b\n  return h(\n    f" "(\"b\")" :=
    ⟨_, hout, ",\n  );\n\x7d\n", [_, _, _, _, _, _, _, _, _], [_], [_, _, _, _], _, _, rfl, rfl,
      rfl, rfl, .args (.lastArg (.literal _))⟩
  exact ⟨hf, hl,
    ⟨hbroken, by decide,
      (format_breaks_groups_by_width _ _ _ hf hl _ _ _ hbroken).2 (by decide)⟩,
    ⟨hfits, by decide, (format_breaks_groups_by_width _ _ _ hf hl _ _ _ hfits).1 (by decide)⟩⟩

end MarkupChain.Script
