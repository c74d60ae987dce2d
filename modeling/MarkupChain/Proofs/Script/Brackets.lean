import MarkupChain.Proofs.Script.Printing
import MarkupChain.Proofs.Script.Scanning

/-!
# Bracket groups of a text

A group is an argument list or an object literal with something in it. In a text it is found by its
tokens: an opening bracket, what derives the items, and the closing bracket. Whatever the grammar
derives closes the brackets that it opens, so a group that starts in such a piece of a text also
ends there. This reduces a statement about all groups of a text to its pieces and to the brackets
that are put around them.
-/

namespace MarkupChain.Script

/-! ## Depth -/

/-- What a symbol adds to the number of open brackets. -/
def Symbol.turn : Symbol → Int
  | .openParen | .openBrace => 1
  | .closeParen | .closeBrace => -1
  | .colon | .comma | .dot | .semicolon => 0

def Lexeme.turn : Lexeme → Int
  | .symbol s => s.turn
  | .word _ | .quoted _ => 0

@[simp] theorem Lexeme.turn_word (name : String) : (Lexeme.word name).turn = 0 := rfl
@[simp] theorem Lexeme.turn_quoted (text : String) : (Lexeme.quoted text).turn = 0 := rfl
@[simp] theorem Lexeme.turn_symbol (s : Symbol) : (Lexeme.symbol s).turn = s.turn := rfl

def depth : List Lexeme → Int
  | [] => 0
  | l :: ls => l.turn + depth ls

@[simp] theorem depth_nil : depth [] = 0 := rfl

@[simp] theorem depth_cons (l : Lexeme) (ls : List Lexeme) :
    depth (l :: ls) = l.turn + depth ls := rfl

@[simp] theorem depth_append (ls ms : List Lexeme) : depth (ls ++ ms) = depth ls + depth ms := by
  induction ls with
  | nil => simp
  | cons l ls ih => rw [List.cons_append, depth_cons, ih, depth_cons, Int.add_assoc]

/-- Every bracket that is opened is closed, and no other. -/
structure Balanced (ls : List Lexeme) : Prop where
  level : depth ls = 0
  nonneg : ∀ ms, ms <+: ls → 0 ≤ depth ms

theorem Balanced.nil : Balanced [] where
  level := rfl
  nonneg := by
    intro ms hms
    simp [List.prefix_nil.mp hms]

theorem Balanced.append {ls ms : List Lexeme} (hl : Balanced ls) (hm : Balanced ms) :
    Balanced (ls ++ ms) where
  level := by simp [hl.level, hm.level]
  nonneg := by
    intro ns hns
    rcases List.prefix_or_prefix_of_prefix hns (List.prefix_append ls ms) with h | ⟨ps, rfl⟩
    · exact hl.nonneg ns h
    · have hps := hm.nonneg ps ((List.prefix_append_right_inj ls).mp hns)
      simpa [hl.level] using hps

theorem Balanced.of_turn_eq_zero {ls : List Lexeme} (h : ∀ l ∈ ls, l.turn = 0) : Balanced ls := by
  have hzero : ∀ ms : List Lexeme, (∀ l ∈ ms, l.turn = 0) → depth ms = 0 := by
    intro ms hms
    induction ms with
    | nil => rfl
    | cons m ms ih => simp [hms m (by simp), ih fun l hl => hms l (by simp [hl])]
  refine ⟨hzero ls h, ?_⟩
  intro ms hms
  exact Int.le_of_eq (hzero ms fun l hl => h l (hms.subset hl)).symm

/-- Brackets around a balanced list. -/
theorem Balanced.enclose {ls : List Lexeme} {opening closing : Lexeme} (h : Balanced ls)
    (ho : opening.turn = 1) (hc : closing.turn = -1) :
    Balanced (opening :: (ls ++ [closing])) where
  level := by simp [h.level, ho, hc]
  nonneg := by
    intro ms hms
    rcases List.prefix_cons_iff.mp hms with rfl | ⟨ns, rfl, hns⟩
    · simp
    rcases List.prefix_concat_iff.mp hns with rfl | hns
    · simp [h.level, ho, hc]
    · have := h.nonneg ns hns
      simp only [depth_cons, ho]
      omega

theorem Lexeme.IsKey.turn {k : Lexeme} {key : String} (h : k.IsKey key) : k.turn = 0 := by
  rcases h with rfl | rfl <;> rfl

theorem Derives.balanced {p : Part} {ls : List Lexeme} (h : Derives p ls) : Balanced ls := by
  have hplain : ∀ l : Lexeme, l.turn = 0 → Balanced [l] :=
    fun l hl => .of_turn_eq_zero (by simpa using hl)
  have hkey : ∀ (k : Lexeme) (key : String), k.IsKey key → Balanced [k, .symbol .colon] :=
    fun k key hk => (hplain k hk.turn).append (hplain (.symbol .colon) rfl)
  induction h with
  | ident name => exact hplain _ rfl
  | literal text => exact hplain _ rfl
  | object _ ih => exact ih.enclose rfl rfl
  | member name _ ih => exact ih.append (.of_turn_eq_zero (by simp [Symbol.turn]))
  | call _ _ ihc iha => exact ihc.append (iha.enclose rfl rfl)
  | noArgs => exact .nil
  | lastArg _ ih => exact ih
  | arg _ _ ihe ihr => exact ihe.append ((hplain (.symbol .comma) rfl).append ihr)
  | noEntries => exact .nil
  | lastEntry hk _ ih => exact (hkey _ _ hk).append ih
  | entry hk _ _ ihe ihr =>
    exact (hkey _ _ hk).append (ihe.append ((hplain (.symbol .comma) rfl).append ihr))

/-! ## Groups in a list of tokens -/

/-- An argument list or an object literal with something in it. -/
inductive Group where
  | args (first : Expr) (rest : List Expr)
  | entries (first : String × Expr) (rest : List (String × Expr))

/-- The form on one line, with the brackets. -/
def Group.flat : Group → String
  | .args first rest => "(" ++ commaList (flatArgs (first :: rest)) ++ ")"
  | .entries first rest => (Expr.object (first :: rest)).flat

/-- The opening bracket, the lexemes between the brackets and the closing bracket of a group. -/
inductive Group.Derives : Group → Lexeme → List Lexeme → Lexeme → Prop where
  | args {first : Expr} {rest : List Expr} {ls : List Lexeme} :
    Script.Derives (.args (first :: rest)) ls →
    Derives (.args first rest) (.symbol .openParen) ls (.symbol .closeParen)
  | entries {first : String × Expr} {rest : List (String × Expr)} {ls : List Lexeme} :
    Script.Derives (.entries (first :: rest)) ls →
    Derives (.entries first rest) (.symbol .openBrace) ls (.symbol .closeBrace)

theorem Group.Derives.balanced {g : Group} {opening closing : Lexeme} {ls : List Lexeme}
    (h : g.Derives opening ls closing) :
    opening.turn = 1 ∧ Balanced ls ∧ closing.turn = -1 := by
  cases h with
  | args h => exact ⟨rfl, h.balanced, rfl⟩
  | entries h => exact ⟨rfl, h.balanced, rfl⟩

/-- A bracketed stretch that starts in a balanced list also ends there. -/
theorem Balanced.split {xs ys before inner after : List Token} {opening closing : Token}
    (hx : Balanced (xs.map (·.lexeme))) (hi : Balanced (inner.map (·.lexeme)))
    (ho : opening.lexeme.turn = 1)
    (h : xs ++ ys = before ++ opening :: (inner ++ closing :: after)) :
    (∃ tail, xs = before ++ opening :: (inner ++ closing :: tail) ∧ after = tail ++ ys) ∨
      ∃ head, before = xs ++ head ∧ ys = head ++ opening :: (inner ++ closing :: after) := by
  -- Had `xs` ended inside of the brackets, a bracket before them would have been missing.
  have hopen : ∀ front, front <+: inner → xs ≠ before ++ opening :: front := by
    rintro front hfront rfl
    have hlevel := hx.level
    have hbefore := hx.nonneg (before.map (·.lexeme)) ((List.prefix_append before _).map _)
    have hin := hi.nonneg (front.map (·.lexeme)) (hfront.map _)
    simp only [List.map_append, List.map_cons, depth_append, depth_cons, ho] at hlevel
    omega
  rcases List.append_eq_append_iff.mp h with ⟨head, hhead, hys⟩ | ⟨tail, hxs, hrest⟩
  · exact .inr ⟨head, hhead, hys⟩
  cases tail with
  | nil => exact .inr ⟨[], by simpa using hxs.symm, by simpa using hrest.symm⟩
  | cons t tail =>
    rw [List.cons_append] at hrest
    obtain ⟨rfl, hin⟩ := List.cons.inj hrest
    rcases List.append_eq_append_iff.mp hin with ⟨more, htail, hmore⟩ | ⟨more, hinner, _⟩
    · cases more with
      | nil => exact absurd hxs (hopen tail (by simp [htail]))
      | cons m more =>
        rw [List.cons_append] at hmore
        obtain ⟨rfl, hafter⟩ := List.cons.inj hmore
        exact .inl ⟨more, by rw [hxs, htail], hafter⟩
    · exact absurd hxs (hopen tail ⟨more, hinner.symm⟩)

/-- A bracketed stretch of a list in brackets is all of it or stands between the brackets. -/
theorem Balanced.split_enclosed {xs before inner after : List Token} {o c opening closing : Token}
    (hx : Balanced (xs.map (·.lexeme))) (hi : Balanced (inner.map (·.lexeme)))
    (ho : opening.lexeme.turn = 1) (hc : closing.lexeme.turn = -1)
    (h : o :: (xs ++ [c]) = before ++ opening :: (inner ++ closing :: after)) :
    (before = [] ∧ o = opening ∧ xs = inner ∧ c = closing ∧ after = []) ∨
      ∃ head tail, before = o :: head ∧ xs = head ++ opening :: (inner ++ closing :: tail) ∧
        after = tail ++ [c] := by
  cases before with
  | nil =>
    rw [List.nil_append] at h
    obtain ⟨rfl, hin⟩ := List.cons.inj h
    refine .inl ⟨rfl, rfl, ?_⟩
    rcases List.append_eq_append_iff.mp hin with ⟨more, hinner, hmore⟩ | ⟨more, hxs, hmore⟩
    · cases more with
      | nil => simp_all
      | cons m more => simp at hmore
    · cases more with
      | nil => simp_all
      | cons m more =>
        -- The closing bracket would stand in `xs` without the one that it closes.
        rw [List.cons_append] at hmore
        obtain ⟨rfl, _⟩ := List.cons.inj hmore
        have hneg := hx.nonneg ((inner ++ [closing]).map (·.lexeme))
          (List.IsPrefix.map _ ⟨more, by simp [hxs]⟩)
        simp only [List.map_append, List.map_cons, List.map_nil, depth_append, depth_cons,
          depth_nil, hi.level, hc] at hneg
        omega
  | cons b before =>
    rw [List.cons_append] at h
    obtain ⟨rfl, hin⟩ := List.cons.inj h
    rcases hx.split hi ho hin with ⟨tail, hxs, hafter⟩ | ⟨head, _, hlast⟩
    · exact .inr ⟨before, tail, rfl, hxs, hafter⟩
    · have hlen := congrArg List.length hlast
      simp at hlen
      omega

/-! ## Groups in a text -/

/-- The group `g` stands in `s` behind the text `pre` and is written as `text`. The tokens of `s`
are `ts`, with `o` bytes before them. -/
def GroupAt (o : Nat) (s : String) (ts : List Token) (g : Group) (pre text : String) : Prop :=
  ∃ (post : String) (before inner after : List Token) (opening closing : Token),
    s = pre ++ text ++ post ∧ ts = before ++ opening :: (inner ++ closing :: after) ∧
    opening.offset = o + pre.utf8ByteSize ∧
    closing.offset + 1 = o + (pre ++ text).utf8ByteSize ∧
    g.Derives opening.lexeme (inner.map (·.lexeme)) closing.lexeme

theorem Spaced.unique {o : Nat} {cs : List Char} {ts us : List Token} (ht : Spaced o cs ts)
    (hu : Spaced o cs us) : ts = us := by
  have h := (ht.finish_run []).symm.trans (hu.finish_run [])
  simpa using h

theorem Reads.unique {s : String} {ls ms : List Lexeme} (hl : Reads s ls) (hm : Reads s ms) :
    ls = ms := by
  obtain ⟨ts, hts, rfl⟩ := hl 0
  obtain ⟨us, hus, rfl⟩ := hm 0
  rw [hts.unique hus]

/-- The tokens of a text lie between its ends. -/
theorem Spaced.bounds {o : Nat} {cs : List Char} {ts : List Token} (h : Spaced o cs ts) :
    ∀ t ∈ ts, o ≤ t.offset ∧ t.offset + bytes t.lexeme.text.toList ≤ o + bytes cs := by
  induction h with
  | nil => simp
  | blank _ _ ih =>
    intro t ht
    have := ih t ht
    rw [bytes_cons]
    omega
  | token _ _ _ ih =>
    intro t ht
    rw [bytes_append]
    cases ht with
    | head => simp
    | tail _ ht =>
      have := ih t ht
      omega

/-- Of two fronts of a text the one with fewer bytes is a front of the other. -/
theorem exists_append_of_utf8ByteSize_le {s t pre post : String} (h : s ++ t = pre ++ post)
    (hle : pre.utf8ByteSize ≤ s.utf8ByteSize) : ∃ mid, s = pre ++ mid ∧ post = mid ++ t := by
  rw [← String.toList_inj, String.toList_append, String.toList_append] at h
  rcases List.append_eq_append_iff.mp h with ⟨mid, hpre, ht⟩ | ⟨mid, hs, hpost⟩
  · obtain rfl : pre = s ++ String.ofList mid := by simp [← String.toList_inj, hpre]
    rw [String.utf8ByteSize_append] at hle
    have hmid : String.ofList mid = "" := String.utf8ByteSize_eq_zero_iff.mp (by omega)
    refine ⟨"", by simp [hmid], ?_⟩
    simpa [← String.toList_inj, String.ofList_eq_empty_iff.mp hmid] using ht.symm
  · refine ⟨String.ofList mid, ?_, ?_⟩
    · simp [← String.toList_inj, hs]
    · simp [← String.toList_inj, hpost]

theorem Group.Derives.bytes_closing {g : Group} {opening closing : Lexeme} {ls : List Lexeme}
    (h : g.Derives opening ls closing) : bytes closing.text.toList = 1 := by
  cases h <;> rfl

/-- A group whose tokens belong to the middle part of a text stands in that part. -/
theorem GroupAt.of_middle {o : Nat} {u t v pre text post : String} {g : Group}
    {ts head inner tail : List Token} {opening closing : Token}
    (ht : Spaced (o + u.utf8ByteSize) t.toList ts)
    (hts : ts = head ++ opening :: (inner ++ closing :: tail))
    (htext : u ++ t ++ v = pre ++ text ++ post) (ho : opening.offset = o + pre.utf8ByteSize)
    (hc : closing.offset + 1 = o + (pre ++ text).utf8ByteSize)
    (hd : g.Derives opening.lexeme (inner.map (·.lexeme)) closing.lexeme) :
    ∃ mid, pre = u ++ mid ∧ GroupAt (o + u.utf8ByteSize) t ts g mid text := by
  have hstart := (ht.bounds opening (by simp [hts])).1
  have hend := (ht.bounds closing (by simp [hts])).2
  rw [hd.bytes_closing, bytes_toList] at hend
  rw [String.append_assoc, String.append_assoc] at htext
  obtain ⟨mid, rfl, hrest⟩ := exists_append_of_utf8ByteSize_le htext.symm (by omega)
  rw [String.append_assoc, String.utf8ByteSize_append] at hc
  rw [← String.append_assoc] at hrest
  obtain ⟨last, rfl, _⟩ := exists_append_of_utf8ByteSize_le hrest (by omega)
  rw [String.utf8ByteSize_append] at ho
  exact ⟨mid, rfl, last, head, inner, tail, opening, closing, rfl, hts, by omega, by omega, hd⟩

@[simp] theorem Symbol.utf8Size_char (s : Symbol) : s.char.utf8Size = 1 := by cases s <;> rfl

@[simp] theorem columnAfter_symbol (c : Nat) (s : Symbol) :
    columnAfter c (String.singleton s.char) = c + 1 := by
  cases s <;> simp [columnAfter, Symbol.char]

theorem Spaced.enclose {o : Nat} {cs : List Char} {ts : List Token} (opening closing : Symbol)
    (h : Spaced (o + 1) cs ts) :
    Spaced o (opening.char :: (cs ++ [closing.char]))
      (⟨.symbol opening, o⟩ :: (ts ++ [⟨.symbol closing, o + 1 + bytes cs⟩])) := by
  have hsymbol : ∀ (s : Symbol) (o : Nat) (cs : List Char) (ts : List Token),
      Spaced (o + 1) cs ts → Spaced o (s.char :: cs) (⟨.symbol s, o⟩ :: ts) := by
    intro s o cs ts hcs
    have ht : (Lexeme.symbol s).text.toList = [s.char] := by simp [Lexeme.text]
    have hs : Spaced o ((Lexeme.symbol s).text.toList ++ cs) (⟨.symbol s, o⟩ :: ts) :=
      .token trivial trivial (by simpa [ht] using hcs)
    rwa [ht] at hs
  exact hsymbol _ _ _ _ (h.append (hsymbol _ _ _ _ (.nil _)) (.inl (by simp)))

/-- The text closes the brackets that it opens, and `P` holds of the column and the text of each
group in it, if the text starts at column `c`. -/
structure EachGroup (P : Nat → Group → String → Prop) (c : Nat) (s : String) : Prop where
  balanced : ∃ ls, Reads s ls ∧ Balanced ls
  holds : ∀ o ts g pre text, Spaced o s.toList ts → GroupAt o s ts g pre text →
    P (columnAfter c pre) g text

section EachGroup

variable {P : Nat → Group → String → Prop} {c : Nat} {s t : String}

/-- A text without brackets. -/
theorem EachGroup.plain {ls : List Lexeme} (h : Reads s ls) (hls : ∀ l ∈ ls, l.turn = 0) :
    EachGroup P c s where
  balanced := ⟨ls, h, .of_turn_eq_zero hls⟩
  holds := by
    rintro o ts g pre text hts ⟨_, before, inner, after, opening, closing, _, rfl, _, _, hd⟩
    obtain ⟨us, hus, rfl⟩ := h o
    rw [← hts.unique hus] at hls
    have hzero := hls opening.lexeme (by simp)
    rw [hd.balanced.1] at hzero
    cases hzero

theorem EachGroup.append (hs : EachGroup P c s) (ht : EachGroup P (columnAfter c s) t)
    (ha : Apart s.toList t.toList) : EachGroup P c (s ++ t) := by
  obtain ⟨ls, hls, hbs⟩ := hs.balanced
  obtain ⟨ms, hms, hbt⟩ := ht.balanced
  refine ⟨⟨ls ++ ms, hls.append_apart hms ha, hbs.append hbt⟩, ?_⟩
  rintro o _ g pre text hts ⟨post, before, inner, after, opening, closing, htext, rfl, ho, hc, hd⟩
  obtain ⟨us, hus, rfl⟩ := hls o
  obtain ⟨vs, hvs, rfl⟩ := hms (o + bytes s.toList)
  have hsplit := (hus.append hvs ha).unique (by simpa using hts)
  obtain ⟨hopen, hinner, _⟩ := hd.balanced
  rcases hbs.split hinner hopen hsplit with ⟨tail, hleft, _⟩ | ⟨head, _, hright⟩
  · have hu : Spaced (o + "".utf8ByteSize) s.toList us := hus
    obtain ⟨mid, rfl, hg⟩ := GroupAt.of_middle (u := "") (v := t) hu hleft (by simpa using htext)
      ho hc hd
    simpa using hs.holds _ us g mid text hu hg
  · rw [bytes_toList] at hvs
    obtain ⟨mid, rfl, hg⟩ := GroupAt.of_middle (v := "") hvs hright (by simpa using htext) ho hc hd
    rw [columnAfter_append]
    exact ht.holds _ vs g mid text hvs hg

/-- Brackets around a text. If they make a group, `P` has to hold of it. -/
theorem EachGroup.enclose (opening closing : Symbol) (ht : EachGroup P (c + 1) t)
    (ho : opening.turn = 1) (hc : closing.turn = -1)
    (hg : ∀ g ls, Reads t ls → g.Derives (.symbol opening) ls (.symbol closing) →
      P c g (String.singleton opening.char ++ t ++ String.singleton closing.char)) :
    EachGroup P c (String.singleton opening.char ++ t ++ String.singleton closing.char) := by
  obtain ⟨ms, hms, hbt⟩ := ht.balanced
  have hreads := Reads.symbol_append opening (hms.push_symbol closing)
  rw [← String.append_assoc] at hreads
  refine ⟨⟨_, hreads, hbt.enclose ho hc⟩, ?_⟩
  rintro o _ g pre text hts ⟨post, before, inner, after, l, l', htext, rfl, hl, hl', hd⟩
  obtain ⟨us, hus, rfl⟩ := hms (o + 1)
  have hall := hus.enclose opening closing
  have hsplit := hall.unique (by simpa using hts)
  obtain ⟨hopen, hinner, hclose⟩ := hd.balanced
  rcases hbt.split_enclosed hinner hopen hclose hsplit with
    ⟨_, rfl, rfl, rfl, _⟩ | ⟨head, tail, _, hmiddle, _⟩
  · -- The brackets themselves: the group takes up all of the text.
    have hpre : pre = "" := String.utf8ByteSize_eq_zero_iff.mp (by dsimp only at hl; omega)
    subst hpre
    have hsize := congrArg String.utf8ByteSize htext
    simp only [String.utf8ByteSize_append, String.utf8ByteSize_singleton, Symbol.utf8Size_char,
      bytes_toList] at hsize hl'
    have hpost : post = "" := String.utf8ByteSize_eq_zero_iff.mp (by omega)
    subst hpost
    obtain rfl : _ = text := by simpa using htext
    exact hg g _ hms hd
  · have hu : Spaced (o + (String.singleton opening.char).utf8ByteSize) t.toList us := by
      simpa using hus
    obtain ⟨mid, rfl, hg'⟩ := GroupAt.of_middle hu hmiddle htext hl hl' hd
    rw [columnAfter_append, columnAfter_symbol]
    exact ht.holds _ us g mid text hu hg'

theorem Derives.args_unique {es es' : List Expr} {ls : List Lexeme} (h : Derives (.args es) ls)
    (h' : Derives (.args es') ls) : es = es' := by
  have hread := h.read "" [] (.ident "") []
  rw [h'.read "" [] (.ident "") []] at hread
  simpa using hread.symm

theorem Derives.entries_unique {es es' : List (String × Expr)} {ls : List Lexeme}
    (h : Derives (.entries es) ls) (h' : Derives (.entries es') ls) : es = es' := by
  have hread := h.read "" [] []
  rw [h'.read "" [] []] at hread
  simpa using hread.symm

/-- An argument list; only one that is not empty is a group. -/
theorem EachGroup.parens {es : List Expr} (hp : Prints (.args es) t)
    (ht : EachGroup P (c + 1) t)
    (hg : ∀ first rest, es = first :: rest → P c (.args first rest) ("(" ++ t ++ ")")) :
    EachGroup P c ("(" ++ t ++ ")") := by
  obtain ⟨ms, hms, hargs⟩ := hp
  refine EachGroup.enclose .openParen .closeParen ht rfl rfl ?_
  intro g ls hls hd
  cases hd with
  | args hd =>
    rw [hls.unique hms] at hd
    exact hg _ _ (hargs.args_unique hd)

/-- An object literal; only one that is not empty is a group. -/
theorem EachGroup.braces {es : List (String × Expr)} (hp : Prints (.entries es) t)
    (ht : EachGroup P (c + 1) t)
    (hg : ∀ first rest, es = first :: rest → P c (.entries first rest) ("\x7b" ++ t ++ "\x7d")) :
    EachGroup P c ("\x7b" ++ t ++ "\x7d") := by
  obtain ⟨ms, hms, hentries⟩ := hp
  refine EachGroup.enclose .openBrace .closeBrace ht rfl rfl ?_
  intro g ls hls hd
  cases hd with
  | entries hd =>
    rw [hls.unique hms] at hd
    exact hg _ _ (hentries.entries_unique hd)

end EachGroup

end MarkupChain.Script
