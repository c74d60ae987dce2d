import MarkupChain.Script.Token

/-!
# Tokens and the text they stand in

A text is read into tokens exactly when it consists of their lexemes in order, with blanks before,
between and behind them, and no word is directly followed by a character that would continue it.
The scanner is compared with this reading in both directions.
-/

namespace MarkupChain.Script

@[simp] theorem ok_bind {ε α β : Type} (a : α) (f : α → Except ε β) :
    ((.ok a : Except ε α) >>= f) = f a := rfl

theorem bind_eq_ok {ε α β : Type} {x : Except ε α} {f : α → Except ε β} {b : β} :
    (x >>= f) = .ok b ↔ ∃ a, x = .ok a ∧ f a = .ok b := by
  cases x with
  | error e => simp [bind, Except.bind]
  | ok a => simp

/-- The bytes of the UTF-8 form. -/
def bytes : List Char → Nat
  | [] => 0
  | c :: cs => c.utf8Size + bytes cs

@[simp] theorem bytes_nil : bytes [] = 0 := rfl

@[simp] theorem bytes_cons (c : Char) (cs : List Char) :
    bytes (c :: cs) = c.utf8Size + bytes cs := rfl

@[simp] theorem bytes_append (cs ds : List Char) : bytes (cs ++ ds) = bytes cs + bytes ds := by
  induction cs with
  | nil => simp
  | cons c cs ih => rw [List.cons_append, bytes_cons, ih, bytes_cons, Nat.add_assoc]

/-- A character that starts a word, then any that continue one. -/
def IsWord : List Char → Prop
  | [] => False
  | c :: rest => isWordStart c = true ∧ ∀ d ∈ rest, isWordPart d = true

instance : DecidablePred IsWord
  | [] => inferInstanceAs (Decidable False)
  | c :: rest =>
    -- Going through the characters of `rest`, not through all characters.
    have := List.decidableBAll (isWordPart · = true) rest
    inferInstanceAs (Decidable (isWordStart c = true ∧ ∀ d ∈ rest, isWordPart d = true))

theorem IsWord.cons {cs : List Char} (h : IsWord cs) :
    ∃ c rest, cs = c :: rest ∧ isWordStart c = true ∧ ∀ d ∈ rest, isWordPart d = true := by
  cases cs with
  | nil => exact h.elim
  | cons c rest => exact ⟨c, rest, rfl, h⟩

/-- What may stand between the quotes of a literal: a backslash goes with the character behind it,
and a quote stands only there. -/
inductive LiteralBody : List Char → Prop where
  | nil : LiteralBody []
  | plain {c : Char} {cs : List Char} :
    c ≠ '"' → c ≠ '\\' → LiteralBody cs → LiteralBody (c :: cs)
  | escaped (c : Char) {cs : List Char} : LiteralBody cs → LiteralBody ('\\' :: c :: cs)

def IsLiteral (cs : List Char) : Prop := ∃ body, cs = '"' :: (body ++ ['"']) ∧ LiteralBody body

def Lexeme.Valid : Lexeme → Prop
  | .word name => IsWord name.toList
  | .quoted text => IsLiteral text.toList
  | .symbol _ => True

/-- The text does not start with a character that continues a word. -/
def Breaks (cs : List Char) : Prop := ∀ c ∈ cs.head?, isWordPart c = false

@[simp] theorem breaks_nil : Breaks [] := by simp [Breaks]
@[simp] theorem breaks_cons (c : Char) (cs : List Char) :
    Breaks (c :: cs) ↔ isWordPart c = false := by simp [Breaks]

theorem Breaks.append {cs ds : List Char} (hc : Breaks cs) (hd : Breaks ds) :
    Breaks (cs ++ ds) := by
  cases cs with
  | nil => exact hd
  | cons c cs => simpa using hc

/-- A word is as long as it can be; the other lexemes end by themselves. -/
def Lexeme.EndsAt : Lexeme → List Char → Prop
  | .word _, rest => Breaks rest
  | _, _ => True

/-- No word runs from the end of the first text into the second. -/
def Apart (cs ds : List Char) : Prop := Breaks ds ∨ Breaks cs.reverse

/-- Only the second of two texts matters to how both end, unless it is empty. -/
theorem breaks_reverse_append {cs ds : List Char} (h : ds ≠ []) :
    Breaks (cs ++ ds).reverse ↔ Breaks ds.reverse := by
  rw [List.reverse_append]
  cases hds : ds.reverse with
  | nil => exact absurd (List.reverse_eq_nil_iff.mp hds) h
  | cons d ds => simp

theorem Apart.of_append {cs ds es : List Char} (h : Apart (cs ++ ds) es) : Apart ds es := by
  refine h.imp_right ?_
  cases ds with
  | nil => simp
  | cons d ds => exact (breaks_reverse_append (List.cons_ne_nil d ds)).mp

theorem Apart.of_cons {c : Char} {cs es : List Char} (h : Apart (c :: cs) es) : Apart cs es := by
  rw [← List.singleton_append] at h
  exact h.of_append

/-- The text that starts at the given offset consists of the tokens and blanks. -/
inductive Spaced : Nat → List Char → List Token → Prop where
  | nil (o : Nat) : Spaced o [] []
  | blank {o : Nat} {c : Char} {cs : List Char} {ts : List Token} :
    Text.isBlank c = true → Spaced (o + c.utf8Size) cs ts → Spaced o (c :: cs) ts
  | token {o : Nat} {l : Lexeme} {cs : List Char} {ts : List Token} :
    l.Valid → l.EndsAt cs → Spaced (o + bytes l.text.toList) cs ts →
    Spaced o (l.text.toList ++ cs) (⟨l, o⟩ :: ts)

theorem Spaced.valid {o : Nat} {cs : List Char} {ts : List Token} (h : Spaced o cs ts) :
    ∀ t ∈ ts, t.lexeme.Valid := by
  induction h with
  | nil => simp
  | blank _ _ ih => exact ih
  | token hl _ _ ih =>
    intro t ht
    cases ht with
    | head => exact hl
    | tail _ ht => exact ih t ht

/-! ## Classes of characters -/

theorem isWordPart_iff (c : Char) : isWordPart c = true ↔
    (48 ≤ c.toNat ∧ c.toNat ≤ 57) ∨ (65 ≤ c.toNat ∧ c.toNat ≤ 90) ∨
      (97 ≤ c.toNat ∧ c.toNat ≤ 122) ∨ c = '_' ∨ c = '$' ∨ c = '-' := by
  delta isWordPart Char.isAlphanum Char.isAlpha Char.isUpper Char.isLower Char.isDigit
  simp only [Bool.or_eq_true, Bool.and_eq_true, decide_eq_true_eq, UInt32.le_iff_toNat_le,
    ge_iff_le, beq_iff_eq, Char.toNat]
  simp only [Char.reduceVal, UInt32.reduceToNat, Char.toNat_val]
  grind

theorem isWordPart_of_isWordStart {c : Char} (h : isWordStart c = true) : isWordPart c = true := by
  simp only [isWordStart, isWordPart, Char.isAlphanum, Bool.or_eq_true] at h ⊢
  grind

theorem isBlank_of_isWordPart {c : Char} (h : isWordPart c = true) : Text.isBlank c = false := by
  rw [← Bool.not_eq_true]
  intro hb
  rcases (isWordPart_iff c).mp h with h | h | h | rfl | rfl | rfl
  all_goals simp [Text.isBlank] at hb <;> omega

theorem isWordPart_of_isBlank {c : Char} (h : Text.isBlank c = true) : isWordPart c = false := by
  rw [← Bool.not_eq_true]
  intro hp
  simp [isBlank_of_isWordPart hp] at h

theorem Symbol.eq_char {c : Char} {s : Symbol} (h : Symbol.ofChar? c = some s) : c = s.char := by
  grind [Symbol.ofChar?, Symbol.char]

@[simp] theorem isWordPart_symbol (s : Symbol) : isWordPart s.char = false := by
  cases s <;> rfl

/-! ## What the scanner does with a lexeme -/

theorem Scan.fresh_blank (o : Nat) (ts : List Token) {c : Char} (h : Text.isBlank c = true) :
    Scan.fresh o ts c = .ok ⟨.between, o + c.utf8Size, ts⟩ := by
  simp [fresh, h]

theorem Scan.fresh_quote (o : Nat) (ts : List Token) :
    Scan.fresh o ts '"' = .ok ⟨.quoted o "\"" false, o + '"'.utf8Size, ts⟩ := rfl

theorem Scan.fresh_wordStart (o : Nat) (ts : List Token) {c : Char} (h : isWordStart c = true) :
    Scan.fresh o ts c = .ok ⟨.word o (String.singleton c), o + c.utf8Size, ts⟩ := by
  have hb : Text.isBlank c = false := isBlank_of_isWordPart (isWordPart_of_isWordStart h)
  have hq : c ≠ '"' := by rintro rfl; exact absurd h (by decide)
  simp [fresh, h, hb, hq]

theorem Scan.fresh_symbol (o : Nat) (ts : List Token) (s : Symbol) :
    Scan.fresh o ts s.char = .ok ⟨.between, o + s.char.utf8Size, ⟨.symbol s, o⟩ :: ts⟩ := by
  cases s <;> rfl

/-- A character that starts no token is refused; every other one is a blank, a quote, the first of a
word or a symbol. -/
theorem Scan.fresh_cases {o : Nat} {ts : List Token} {c : Char} {s : Scan}
    (h : Scan.fresh o ts c = .ok s) :
    (Text.isBlank c = true ∧ s = ⟨.between, o + c.utf8Size, ts⟩) ∨
    (c = '"' ∧ s = ⟨.quoted o "\"" false, o + c.utf8Size, ts⟩) ∨
    (isWordStart c = true ∧ s = ⟨.word o (String.singleton c), o + c.utf8Size, ts⟩) ∨
    (∃ symbol : Symbol, c = symbol.char ∧
      s = ⟨.between, o + c.utf8Size, ⟨.symbol symbol, o⟩ :: ts⟩) := by
  simp only [fresh] at h
  split at h
  · next hb => exact .inl ⟨hb, (Except.ok.inj h).symm⟩
  split at h
  · next hq => exact .inr (.inl ⟨hq, (Except.ok.inj h).symm⟩)
  split at h
  · next hw => exact .inr (.inr (.inl ⟨hw, (Except.ok.inj h).symm⟩))
  split at h
  · next symbol hs =>
    exact .inr (.inr (.inr ⟨symbol, Symbol.eq_char hs, (Except.ok.inj h).symm⟩))
  · cases h

theorem push_append_ofList (text : String) (c : Char) (cs : List Char) :
    text.push c ++ String.ofList cs = text ++ String.ofList (c :: cs) := by
  simp [← String.toList_inj]

theorem Scan.run_word (o start : Nat) (text : String) (ts : List Token) (cs : List Char)
    (h : ∀ c ∈ cs, isWordPart c = true) :
    Scan.run ⟨.word start text, o, ts⟩ cs =
      .ok ⟨.word start (text ++ String.ofList cs), o + bytes cs, ts⟩ := by
  induction cs generalizing o text with
  | nil => simp
  | cons c cs ih =>
    have hc : isWordPart c = true := h c (by simp)
    have hcs := ih (o + c.utf8Size) (text.push c) (fun d hd => h d (by simp [hd]))
    rw [run_cons, step, if_pos hc]
    refine hcs.trans ?_
    rw [push_append_ofList, bytes_cons, Nat.add_assoc]

theorem Scan.run_literalBody (o start : Nat) (text : String) (ts : List Token) {cs : List Char}
    (h : LiteralBody cs) :
    Scan.run ⟨.quoted start text false, o, ts⟩ cs =
      .ok ⟨.quoted start (text ++ String.ofList cs) false, o + bytes cs, ts⟩ := by
  induction h generalizing o text with
  | nil => simp
  | @plain c cs hq hb _ ih =>
    rw [run_cons, step, if_neg hq, show (c == '\\') = false by simpa using hb]
    refine (ih (o + c.utf8Size) (text.push c)).trans ?_
    rw [push_append_ofList, bytes_cons, Nat.add_assoc]
  | @escaped c cs _ ih =>
    rw [run_cons, step, if_neg (by decide)]
    change Scan.run ⟨.quoted start (text.push '\\') true, o + '\\'.utf8Size, ts⟩ (c :: cs) = _
    rw [run_cons, step]
    refine (ih _ ((text.push '\\').push c)).trans ?_
    rw [push_append_ofList, push_append_ofList, bytes_cons, bytes_cons, Nat.add_assoc,
      Nat.add_assoc]

/-- A lexeme that starts between tokens; a word stays open until something ends it. -/
def Scan.behind (o : Nat) (ts : List Token) (l : Lexeme) : Scan :=
  match l with
  | .word name => ⟨.word o name, o + bytes name.toList, ts⟩
  | _ => ⟨.between, o + bytes l.text.toList, ⟨l, o⟩ :: ts⟩

theorem Scan.run_lexeme (o : Nat) (ts : List Token) {l : Lexeme} (h : l.Valid) :
    Scan.run ⟨.between, o, ts⟩ l.text.toList = .ok (Scan.behind o ts l) := by
  cases l with
  | word name =>
    obtain ⟨c, rest, hname, hc, hrest⟩ := IsWord.cons h
    have ht : String.singleton c ++ String.ofList rest = name := by
      simp [← String.toList_inj, hname]
    rw [Lexeme.text, hname, run_cons, step, fresh_wordStart o ts hc]
    refine (run_word _ _ _ _ _ hrest).trans ?_
    rw [ht, behind, hname, bytes_cons, Nat.add_assoc]
  | quoted text =>
    obtain ⟨body, htext, hbody⟩ := h
    rw [Lexeme.text, htext, run_cons, step, fresh_quote, ok_bind]
    have ht : ("\"" ++ String.ofList body).push '"' = text := by
      simp [← String.toList_inj, htext]
    rw [run_append, run_literalBody _ _ _ _ hbody, ok_bind, run_cons, step, if_pos rfl, ht]
    simp [behind, Lexeme.text, htext, Nat.add_assoc]
  | symbol s =>
    have hs : (Lexeme.symbol s).text.toList = [s.char] := by simp [Lexeme.text]
    simp [hs, step, fresh_symbol, behind]

/-- An open word is as good as finished when the rest of the text does not continue it. -/
theorem Scan.run_behind (o : Nat) (ts : List Token) (l : Lexeme) {cs : List Char}
    (h : l.EndsAt cs) :
    (Scan.behind o ts l).run cs >>= finish =
      Scan.run ⟨.between, o + bytes l.text.toList, ⟨l, o⟩ :: ts⟩ cs >>= finish := by
  cases l with
  | word name =>
    cases cs with
    | nil => rfl
    | cons c cs =>
      have hc : isWordPart c = false := (breaks_cons c cs).mp h
      simp only [behind, run_cons, step, hc, Bool.false_eq_true, if_false, Lexeme.text]
  | quoted text => rfl
  | symbol s => rfl

theorem IsWord.all_wordPart {cs : List Char} (h : IsWord cs) : ∀ c ∈ cs, isWordPart c = true := by
  obtain ⟨c, rest, rfl, hc, hrest⟩ := h.cons
  simpa [isWordPart_of_isWordStart hc] using hrest

theorem IsWord.not_breaks_reverse {cs : List Char} (h : IsWord cs) : ¬ Breaks cs.reverse := by
  intro hb
  obtain ⟨c, rest, rfl, _⟩ := h.cons
  have hlast := hb ((c :: rest).getLast (List.cons_ne_nil c rest))
    (by rw [List.head?_reverse, List.getLast?_eq_some_getLast]; rfl)
  simp [h.all_wordPart _ (List.getLast_mem _)] at hlast

/-- A lexeme that ends where it does still ends there when a text apart from it follows. -/
theorem Lexeme.EndsAt.append {l : Lexeme} {cs ds : List Char} (h : l.EndsAt cs) (hl : l.Valid)
    (ha : Apart (l.text.toList ++ cs) ds) : l.EndsAt (cs ++ ds) := by
  cases l with
  | word name =>
    cases cs with
    | nil =>
      rw [List.append_nil] at ha
      exact ha.resolve_right hl.not_breaks_reverse
    | cons c cs => exact h
  | quoted text => trivial
  | symbol s => trivial

/-- Tokens and blanks are put away before the scanner goes on to a text apart from them. -/
theorem Spaced.finish_run_append {o : Nat} {cs ds : List Char} {us : List Token}
    (h : Spaced o cs us) (ts : List Token) (ha : Apart cs ds) :
    Scan.run ⟨.between, o, ts⟩ (cs ++ ds) >>= Scan.finish =
      Scan.run ⟨.between, o + bytes cs, us.reverse ++ ts⟩ ds >>= Scan.finish := by
  induction h generalizing ts with
  | nil o => simp
  | @blank o c cs us hc _ ih =>
    rw [List.cons_append, Scan.run_cons, Scan.step, Scan.fresh_blank _ _ hc, ok_bind,
      ih ts ha.of_cons, bytes_cons, Nat.add_assoc]
  | @token o l cs us hl he _ ih =>
    rw [List.append_assoc, Scan.run_append, Scan.run_lexeme o ts hl, ok_bind,
      Scan.run_behind o ts l (he.append hl ha), ih _ ha.of_append]
    simp [Nat.add_assoc]

theorem Spaced.finish_run {o : Nat} {cs : List Char} {us : List Token} (h : Spaced o cs us)
    (ts : List Token) :
    Scan.run ⟨.between, o, ts⟩ cs >>= Scan.finish = .ok (ts.reverse ++ us) := by
  have hrun := h.finish_run_append ts (.inl breaks_nil)
  rw [List.append_nil] at hrun
  rw [hrun]
  simp [Scan.finish]

/-! ## What was scanned -/

/-- What the rest of a text consists of, seen from the place the scanner has reached. -/
def Scan.Continues (s : Scan) (cs : List Char) (us : List Token) : Prop :=
  match s.mode with
  | .between => Spaced s.offset cs us
  | .word start text => ∃ more rest us', cs = more ++ rest ∧ (∀ c ∈ more, isWordPart c = true) ∧
      Breaks rest ∧ us = ⟨.word (text ++ String.ofList more), start⟩ :: us' ∧
      Spaced (s.offset + bytes more) rest us'
  | .quoted start text escaped => ∃ more rest us', cs = more ++ '"' :: rest ∧
      LiteralBody (if escaped then '\\' :: more else more) ∧
      us = ⟨.quoted (text ++ String.ofList (more ++ ['"'])), start⟩ :: us' ∧
      Spaced (s.offset + bytes (more ++ ['"'])) rest us'

theorem Spaced.quoted {o : Nat} {more rest : List Char} {us : List Token}
    (hb : LiteralBody more) (h : Spaced (o + '"'.utf8Size + bytes (more ++ ['"'])) rest us) :
    Spaced o ('"' :: (more ++ '"' :: rest))
      (⟨.quoted ("\"" ++ String.ofList (more ++ ['"'])), o⟩ :: us) := by
  have ht : ("\"" ++ String.ofList (more ++ ['"'])).toList = '"' :: (more ++ ['"']) := by simp
  have hl : (Lexeme.quoted ("\"" ++ String.ofList (more ++ ['"']))).Valid := ⟨more, ht, hb⟩
  have hs : Spaced o (_ ++ rest) _ :=
    .token hl trivial (by rwa [Lexeme.text, ht, bytes_cons, ← Nat.add_assoc])
  rw [Lexeme.text, ht] at hs
  simpa using hs

/-- One character read between tokens. -/
theorem Scan.continues_fresh {o : Nat} {ts : List Token} {c : Char} {s : Scan} {cs : List Char}
    {us : List Token} (hs : Scan.fresh o ts c = .ok s) (h : s.Continues cs us) :
    ∃ vs, s.tokens.reverse ++ us = ts.reverse ++ vs ∧ Spaced o (c :: cs) vs := by
  rcases fresh_cases hs with ⟨hb, rfl⟩ | ⟨rfl, rfl⟩ | ⟨hw, rfl⟩ | ⟨symbol, rfl, rfl⟩
  · exact ⟨us, rfl, .blank hb h⟩
  · obtain ⟨more, rest, us', rfl, hbody, rfl, hrest⟩ := h
    exact ⟨_, rfl, .quoted hbody hrest⟩
  · obtain ⟨more, rest, us', rfl, hmore, hbreak, rfl, hrest⟩ := h
    refine ⟨_, rfl, ?_⟩
    have ht : (String.singleton c ++ String.ofList more).toList = c :: more := by simp
    have hl : (Lexeme.word (String.singleton c ++ String.ofList more)).Valid := by
      rw [Lexeme.Valid, ht]
      exact ⟨hw, hmore⟩
    have hsp : Spaced o (_ ++ rest) _ :=
      .token hl hbreak (by rwa [Lexeme.text, ht, bytes_cons, ← Nat.add_assoc])
    rwa [Lexeme.text, ht] at hsp
  · refine ⟨⟨.symbol symbol, o⟩ :: us, by simp, ?_⟩
    have ht : (Lexeme.symbol symbol).text.toList = [symbol.char] := by simp [Lexeme.text]
    have hcs : Spaced (o + symbol.char.utf8Size) cs us := h
    have hsp : Spaced o (_ ++ cs) (⟨.symbol symbol, o⟩ :: us) :=
      .token trivial trivial (by simpa [ht] using hcs)
    rwa [ht] at hsp

/-- One character read inside a literal. -/
theorem Scan.continues_quoted {o start : Nat} {text : String} {escaped : Bool} {ts : List Token}
    {c : Char} {s : Scan} {cs : List Char} {us : List Token}
    (hs : Scan.step ⟨.quoted start text escaped, o, ts⟩ c = .ok s) (h : s.Continues cs us) :
    ∃ vs, s.tokens.reverse ++ us = ts.reverse ++ vs ∧
      Scan.Continues ⟨.quoted start text escaped, o, ts⟩ (c :: cs) vs := by
  cases escaped with
  | true =>
    cases hs
    obtain ⟨more, rest, us', rfl, hbody, rfl, hrest⟩ := h
    refine ⟨_, rfl, c :: more, rest, us', rfl, .escaped c hbody, ?_, ?_⟩
    · simp [← String.toList_inj]
    · simpa [Nat.add_assoc] using hrest
  | false =>
    rw [step] at hs
    split at hs
    · next hc =>
      subst hc
      cases hs
      refine ⟨⟨.quoted (text.push '"'), start⟩ :: us, by simp, [], cs, us, rfl, .nil, ?_, h⟩
      simp [← String.toList_inj]
    · next hc =>
      cases hs
      obtain ⟨more, rest, us', rfl, hbody, rfl, hrest⟩ := h
      refine ⟨_, rfl, c :: more, rest, us', rfl, ?_, ?_, ?_⟩
      · by_cases he : c = '\\'
        · simpa [he] using hbody
        · exact .plain hc he (by simpa [he] using hbody)
      · simp [← String.toList_inj]
      · simpa [Nat.add_assoc] using hrest

/-- One character read anywhere. -/
theorem Scan.continues_step {s t : Scan} {c : Char} {cs : List Char} {us : List Token}
    (ht : s.step c = .ok t) (h : t.Continues cs us) :
    ∃ vs, t.tokens.reverse ++ us = s.tokens.reverse ++ vs ∧ s.Continues (c :: cs) vs := by
  obtain ⟨mode, o, ts⟩ := s
  cases mode with
  | between => exact continues_fresh ht h
  | quoted start text escaped => exact continues_quoted ht h
  | word start text =>
    rw [step] at ht
    split at ht
    · next hc =>
      cases ht
      obtain ⟨more, rest, us', rfl, hmore, hbreak, rfl, hrest⟩ := h
      refine ⟨_, rfl, c :: more, rest, us', rfl, ?_, hbreak, ?_, ?_⟩
      · intro d hd
        cases hd with
        | head => exact hc
        | tail _ hd => exact hmore d hd
      · simp [← String.toList_inj]
      · simpa [Nat.add_assoc] using hrest
    · next hc =>
      obtain ⟨vs, hvs, hsp⟩ := continues_fresh ht h
      refine ⟨⟨.word text, start⟩ :: vs, by simpa using hvs, [], c :: cs, vs, rfl, ?_, ?_, ?_, ?_⟩
      · simp
      · simpa using hc
      · simp
      · simpa using hsp

/-- Every text that is scanned to its end consists of the tokens found and blanks. -/
theorem Scan.continues_run {s : Scan} {cs : List Char} {ts : List Token}
    (h : s.run cs >>= finish = .ok ts) : ∃ us, ts = s.tokens.reverse ++ us ∧ s.Continues cs us := by
  induction cs generalizing s with
  | nil =>
    obtain ⟨mode, o, ts'⟩ := s
    cases mode with
    | between => cases h; exact ⟨[], by simp, .nil o⟩
    | word start text =>
      cases h
      exact ⟨[⟨.word text, start⟩], by simp, [], [], [], rfl, by simp, by simp, by simp, .nil _⟩
    | quoted start text escaped => cases h
  | cons c cs ih =>
    rw [run_cons, bind_assoc] at h
    obtain ⟨t, ht, hrun⟩ := bind_eq_ok.mp h
    obtain ⟨us, rfl, hus⟩ := ih hrun
    exact continues_step ht hus

/-- A text is read into tokens exactly when it consists of them and of blanks. -/
theorem tokenize_eq_ok_iff (code : String) (ts : List Token) :
    tokenize code = .ok ts ↔ Spaced 0 code.toList ts := by
  constructor
  · intro h
    obtain ⟨us, rfl, hus⟩ := Scan.continues_run h
    exact hus
  · intro h
    exact h.finish_run []

/-! ## Texts and their lexemes -/

/-- The lexemes of a text, wherever it stands. -/
def Reads (s : String) (ls : List Lexeme) : Prop :=
  ∀ o, ∃ ts, Spaced o s.toList ts ∧ ts.map (·.lexeme) = ls

theorem Reads.tokenize {s : String} {ls : List Lexeme} (h : Reads s ls) :
    ∃ ts, tokenize s = .ok ts ∧ ts.map (·.lexeme) = ls := by
  obtain ⟨ts, hts, hls⟩ := h 0
  exact ⟨ts, (tokenize_eq_ok_iff s ts).mpr hts, hls⟩

theorem Reads.empty : Reads "" [] := fun o => ⟨[], .nil o, rfl⟩

theorem Reads.lexeme {l : Lexeme} (h : l.Valid) : Reads l.text [l] := by
  intro o
  have he : l.EndsAt [] := by cases l <;> simp [Lexeme.EndsAt]
  have hs : Spaced o (l.text.toList ++ []) [⟨l, o⟩] := .token h he (.nil _)
  exact ⟨_, by simpa using hs, rfl⟩

theorem Spaced.append {o : Nat} {cs ds : List Char} {ts us : List Token} (h : Spaced o cs ts)
    (hd : Spaced (o + bytes cs) ds us) (ha : Apart cs ds) : Spaced o (cs ++ ds) (ts ++ us) := by
  induction h with
  | nil o => simpa using hd
  | @blank o c cs ts hc _ ih =>
    exact .blank hc (ih (by simpa [Nat.add_assoc] using hd) ha.of_cons)
  | @token o l cs ts hl he _ ih =>
    rw [List.append_assoc]
    exact .token hl (he.append hl ha) (ih (by simpa [Nat.add_assoc] using hd) ha.of_append)

/-- Two texts side by side, when no word runs from the first into the second. -/
theorem Reads.append_apart {s t : String} {ls ms : List Lexeme} (hs : Reads s ls)
    (ht : Reads t ms) (ha : Apart s.toList t.toList) : Reads (s ++ t) (ls ++ ms) := by
  intro o
  obtain ⟨ts, hts, rfl⟩ := hs o
  obtain ⟨us, hus, rfl⟩ := ht (o + bytes s.toList)
  exact ⟨ts ++ us, by simpa using hts.append hus ha, by simp⟩

theorem Reads.append {s t : String} {ls ms : List Lexeme} (hs : Reads s ls) (ht : Reads t ms)
    (hb : Breaks t.toList) : Reads (s ++ t) (ls ++ ms) :=
  hs.append_apart ht (.inl hb)

theorem Reads.symbol_append (s : Symbol) {t : String} {ms : List Lexeme} (ht : Reads t ms) :
    Reads (String.singleton s.char ++ t) (.symbol s :: ms) := by
  intro o
  obtain ⟨us, hus, rfl⟩ := ht (o + bytes (Lexeme.symbol s).text.toList)
  have hs : Spaced o ((Lexeme.symbol s).text.toList ++ t.toList) _ := .token trivial trivial hus
  exact ⟨_, by simpa [Lexeme.text] using hs, rfl⟩

theorem Reads.blank_append {g t : String} {ms : List Lexeme} (hg : Text.isBlankText g = true)
    (ht : Reads t ms) : Reads (g ++ t) ms := by
  intro o
  rw [String.toList_append]
  have hb : ∀ c ∈ g.toList, Text.isBlank c = true := by simpa [Text.isBlankText] using hg
  generalize g.toList = cs at hb
  induction cs generalizing o with
  | nil => exact ht o
  | cons c cs ih =>
    obtain ⟨us, hus, hms⟩ := ih (o + c.utf8Size) (fun d hd => hb d (by simp [hd]))
    exact ⟨us, .blank (hb c (by simp)) hus, hms⟩

end MarkupChain.Script
