import MarkupChain.Proofs.Command.Choices

/-!
# Every spelling of a choice is read as the choice

A directive can be spelled in several ways: by a long or a short option, with the value attached or
as the next argument, and with short flags combined. Whatever the spellings and their order are, the
settings that were chosen are read. The scan checks a value only behind the argument that follows it,
so what it has read is said of the scan once the pending value is checked.
-/

namespace MarkupChain.Command

open Script

/-- The options that stand for a flag or a field. -/
def Item.options : Item → List String
  | .flag .noTrim => ["--no-trim"]
  | .flag .raw => ["--raw"]
  | .flag .verbose => ["--verbose", "-v"]
  | .flag .quiet => ["--quiet", "-q"]
  | .flag .help => ["--help", "-h"]
  | .flag .version => ["--version", "-V"]
  | .field .file => ["--file", "-f"]
  | .field .name => ["--component-name"]
  | .field .indentWidth => ["--indent-width"]
  | .field .printWidth => ["--print-width"]
  | .field .output => ["--output", "-o"]
  | .field .direct | .field .shell => []

/-- An argument that cannot be an option. -/
def IsPlain (arg : String) : Prop := arg = "-" ∨ arg.toList.head? ≠ some '-'

/-- The arguments give the directives one after another. -/
inductive Spells : List Directive → List String → Prop where
  | nil : Spells [] []
  | flag {flag : Flag} {option : String} {ds : List Directive} {args : List String} :
    option ∈ (Item.flag flag).options → Spells ds args →
    Spells (.raise flag :: ds) (option :: args)
  | attached {field : Field} {option : String} (text : String) {ds : List Directive}
    {args : List String} : option ∈ (Item.field field).options → Spells ds args →
    Spells (.assign field text :: ds) ((option ++ "=" ++ text) :: args)
  | separate {field : Field} {option text : String} {ds : List Directive} {args : List String} :
    option ∈ (Item.field field).options → IsPlain text → Spells ds args →
    Spells (.assign field text :: ds) (option :: text :: args)
  /-- The value directly behind the letter of its field. -/
  | joined {field : Field} {letter first : Char} {rest : List Char} {ds : List Directive}
    {args : List String} : String.ofList ['-', letter] ∈ (Item.field field).options →
    first ≠ '=' → Spells ds args →
    Spells (.assign field (String.ofList (first :: rest)) :: ds)
      (String.ofList ('-' :: letter :: first :: rest) :: args)
  /-- A flag's letter before those of the next argument. -/
  | combined {flag : Flag} {letter next : Char} {rest : List Char} {ds : List Directive}
    {args : List String} : String.ofList ['-', letter] ∈ (Item.flag flag).options →
    next ≠ '-' → Spells ds (String.ofList ('-' :: next :: rest) :: args) →
    Spells (.raise flag :: ds) (String.ofList ('-' :: letter :: next :: rest) :: args)
  | direct {text : String} {ds : List Directive} {args : List String} :
    IsPlain text → text ≠ "completion" → text ≠ "help" → Spells ds args →
    Spells (.assign .direct text :: ds) (text :: args)

/-! ### Single arguments -/

theorem Scan.step_long {s : Scan} {arg : String} {first : Char} {body : List Char}
    (hs : s.onlyInputs = false) (harg : arg.toList = '-' :: '-' :: first :: body) :
    s.step .main arg = s.long .main (first :: body) := by
  simp [step, hs, harg]

theorem Scan.step_short {s : Scan} {arg : String} {letter : Char} {rest : List Char}
    (hs : s.onlyInputs = false) (hletter : letter ≠ '-') (harg : arg.toList = '-' :: letter :: rest) :
    s.step .main arg = s.short .main (letter :: rest) := by
  simp [step, hs, harg, hletter]

theorem not_isPlain_of_toList {arg : String} {c : Char} {rest : List Char}
    (harg : arg.toList = '-' :: c :: rest) : ¬ IsPlain arg := by
  rintro (rfl | hhead)
  · simp at harg
  · simp [harg] at hhead

theorem Scan.step_plain {s : Scan} {arg : String} (hs : s.onlyInputs = false) (harg : IsPlain arg) :
    s.step .main arg = match s.pending with
      | some ⟨field, none⟩ => .ok { s with pending := some ⟨field, some arg⟩ }
      | _ => s.input .main arg := by
  rw [step, if_neg (by simp [hs])]
  split
  case h_4 => rfl
  all_goals
    rename_i htext
    exact absurd harg (not_isPlain_of_toList htext)

/-- An option is a long name or a letter, and it is known. -/
theorem Item.option_cases {item : Item} {option : String} (h : option ∈ item.options) :
    (∃ first name, option.toList = '-' :: '-' :: first :: name ∧ '=' ∉ first :: name ∧
      Scope.main.long? (String.ofList (first :: name)) = some item) ∨
    ∃ letter, option.toList = ['-', letter] ∧ letter ≠ '-' ∧
      Scope.main.short? letter = some item := by
  cases item with
  | flag flag =>
    cases flag with
    | noTrim | raw =>
      obtain rfl := List.mem_singleton.mp h
      exact .inl ⟨_, _, rfl, by decide, by decide⟩
    | verbose | quiet | help | version =>
      obtain rfl | rfl : _ ∨ _ := by simpa [options] using h
      · exact .inl ⟨_, _, rfl, by decide, by decide⟩
      · exact .inr ⟨_, rfl, by decide, by decide⟩
  | field field =>
    cases field with
    | name | indentWidth | printWidth =>
      obtain rfl := List.mem_singleton.mp h
      exact .inl ⟨_, _, rfl, by decide, by decide⟩
    | file | output =>
      obtain rfl | rfl : _ ∨ _ := by simpa [options] using h
      · exact .inl ⟨_, _, rfl, by decide, by decide⟩
      · exact .inr ⟨_, rfl, by decide, by decide⟩
    | direct | shell => cases h

theorem Item.letter_known {item : Item} {letter : Char}
    (h : String.ofList ['-', letter] ∈ item.options) :
    letter ≠ '-' ∧ Scope.main.short? letter = some item := by
  rcases Item.option_cases h with ⟨first, name, htext, -⟩ | ⟨other, htext, hknown⟩
  · simp at htext
  · obtain rfl : letter = other := by simpa using htext
    exact hknown

theorem ne_equals_of_not_mem {name : List Char} (h : '=' ∉ name) :
    ∀ c ∈ name, (c != '=') = true := by
  intro c hc
  simp only [bne_iff_ne]
  rintro rfl
  exact h hc

theorem dropWhile_name {name : List Char} (h : '=' ∉ name) : name.dropWhile (· != '=') = [] := by
  rw [← List.append_nil name, List.dropWhile_append_of_pos (ne_equals_of_not_mem h),
    List.dropWhile_nil]

theorem takeWhile_name {name : List Char} (h : '=' ∉ name) : name.takeWhile (· != '=') = name := by
  rw [← List.append_nil name, List.takeWhile_append_of_pos (ne_equals_of_not_mem h),
    List.takeWhile_nil]

theorem Scan.long_flag (s : Scan) {name : List Char} {flag : Flag} (hname : '=' ∉ name)
    (hflag : Scope.main.long? (String.ofList name) = some (.flag flag)) :
    s.long .main name = s.raise flag := by
  rw [long, dropWhile_name hname, takeWhile_name hname, hflag]
  rfl

theorem Scan.long_field (s : Scan) {name : List Char} {field : Field} (hname : '=' ∉ name)
    (hfield : Scope.main.long? (String.ofList name) = some (.field field)) :
    s.long .main name = s.assign field none := by
  rw [long, dropWhile_name hname, takeWhile_name hname, hfield]

theorem Scan.long_value (s : Scan) {name : List Char} {field : Field} (hname : '=' ∉ name)
    (hfield : Scope.main.long? (String.ofList name) = some (.field field)) (value : List Char) :
    s.long .main (name ++ '=' :: value) = s.assign field (some (String.ofList value)) := by
  have hpart := ne_equals_of_not_mem hname
  rw [long, List.dropWhile_append_of_pos hpart, List.takeWhile_append_of_pos hpart]
  simp [hfield]

theorem Scan.step_flag {s : Scan} {flag : Flag} {option : String} (hs : s.onlyInputs = false)
    (h : option ∈ (Item.flag flag).options) : s.step .main option = s.raise flag := by
  rcases Item.option_cases h with ⟨first, name, htext, hname, hknown⟩ |
    ⟨letter, htext, hletter, hknown⟩
  · rw [step_long hs htext, s.long_flag hname hknown]
  · rw [step_short hs hletter htext, short, hknown]
    exact bind_pure (s.raise flag)

theorem Scan.step_field {s : Scan} {field : Field} {option : String} (hs : s.onlyInputs = false)
    (h : option ∈ (Item.field field).options) : s.step .main option = s.assign field none := by
  rcases Item.option_cases h with ⟨first, name, htext, hname, hknown⟩ |
    ⟨letter, htext, hletter, hknown⟩
  · rw [step_long hs htext, s.long_field hname hknown]
  · rw [step_short hs hletter htext, short, hknown]

theorem Scan.step_attached {s : Scan} {field : Field} {option : String} (hs : s.onlyInputs = false)
    (h : option ∈ (Item.field field).options) (text : String) :
    s.step .main (option ++ "=" ++ text) = s.assign field (some text) := by
  rcases Item.option_cases h with ⟨first, name, htext, hname, hknown⟩ |
    ⟨letter, htext, hletter, hknown⟩
  · have harg : (option ++ "=" ++ text).toList =
        '-' :: '-' :: first :: (name ++ '=' :: text.toList) := by simp [htext]
    rw [step_long hs harg, ← List.cons_append, s.long_value hname hknown, String.ofList_toList]
  · have harg : (option ++ "=" ++ text).toList = '-' :: letter :: '=' :: text.toList := by
      simp [htext]
    rw [step_short hs hletter harg, short, hknown]
    simp

theorem Scan.step_joined {s : Scan} {field : Field} {letter first : Char}
    (hs : s.onlyInputs = false) (h : String.ofList ['-', letter] ∈ (Item.field field).options)
    (hfirst : first ≠ '=') (rest : List Char) :
    s.step .main (String.ofList ('-' :: letter :: first :: rest)) =
      s.assign field (some (String.ofList (first :: rest))) := by
  obtain ⟨hletter, hknown⟩ := Item.letter_known h
  rw [step_short hs hletter String.toList_ofList, short, hknown]
  simp [hfirst]

theorem Scan.step_combined {s : Scan} {flag : Flag} {letter next : Char}
    (hs : s.onlyInputs = false) (h : String.ofList ['-', letter] ∈ (Item.flag flag).options)
    (rest : List Char) :
    s.step .main (String.ofList ('-' :: letter :: next :: rest)) =
      s.raise flag >>= fun s => s.short .main (next :: rest) := by
  obtain ⟨hletter, hknown⟩ := Item.letter_known h
  rw [step_short hs hletter String.toList_ofList, short, hknown]

/-! ### The scan -/

/-- The scan that has read directives and checked them all. -/
def settled (ds : List Directive) : Scan where
  given := record ds
  hasInput := !(textsFor .direct ds).isEmpty

theorem settled_concat {d : Directive} (hd : d.textFor? .direct = none) (ds : List Directive) :
    { settled ds with given := record (ds ++ [d]) } = settled (ds ++ [d]) := by
  simp [settled, textsFor, hd]

/-- The scan has read the directives; the value of the last one may still be pending. -/
def Scan.Reached (s : Scan) (ds : List Directive) : Prop := s.flush = .ok (settled ds)

theorem reached_settled (ds : List Directive) : (settled ds).Reached ds := rfl

theorem Scan.flush_eq_ok {s t : Scan} (h : s.flush = .ok t) :
    s.awaits = false ∧ s.onlyInputs = t.onlyInputs ∧ s.hasInput = t.hasInput := by
  obtain ⟨given, pending, onlyInputs, hasInput⟩ := s
  match pending with
  | none =>
    cases h
    exact ⟨rfl, rfl, rfl⟩
  | some ⟨_, none⟩ => cases h
  | some ⟨field, some value⟩ =>
    obtain ⟨checked, -, hchecked⟩ := bind_eq_ok.mp h
    cases hchecked
    exact ⟨rfl, rfl, rfl⟩

section

variable {s : Scan} {ds es : List Directive}

theorem Scan.Reached.onlyInputs (hs : s.Reached ds) : s.onlyInputs = false :=
  (Scan.flush_eq_ok hs).2.1

theorem Scan.Reached.raise {flag : Flag} (hs : s.Reached ds)
    (h : Compatible (ds ++ .raise flag :: es)) :
    s.raise flag = .ok (settled (ds ++ [.raise flag])) := by
  have htake : (settled ds).given.raise flag = .ok (record (ds ++ [.raise flag])) := h.take_record
  rw [Scan.raise, hs, ok_bind, htake]
  exact congrArg Except.ok (settled_concat rfl ds)

theorem textFor?_of_mem_options {field : Field} {option : String}
    (h : option ∈ (Item.field field).options) (text : String) :
    (Directive.assign field text).textFor? .direct = none := by
  cases field with
  | direct => cases h
  | file | name | indentWidth | printWidth | output | shell => rfl

theorem Scan.Reached.assign {field : Field} {text : String} (hs : s.Reached ds)
    (hfield : (Directive.assign field text).textFor? .direct = none)
    (h : Compatible (ds ++ .assign field text :: es)) :
    s.assign field (some text) = .ok (settled (ds ++ [.assign field text])) := by
  have htake : (settled ds).given.assign field text = .ok (record (ds ++ [.assign field text])) :=
    h.take_record
  rw [Scan.assign, hs, ok_bind]
  simp only [htake, ok_bind]
  exact congrArg Except.ok (settled_concat hfield ds)

theorem Scan.Reached.await (hs : s.Reached ds) (field : Field) :
    s.assign field none = .ok { settled ds with pending := some ⟨field, none⟩ } := by
  rw [Scan.assign, hs]
  rfl

theorem reached_pending {field : Field} {text : String}
    (hfield : (Directive.assign field text).textFor? .direct = none)
    (h : Compatible (ds ++ .assign field text :: es)) :
    Scan.Reached { settled ds with pending := some ⟨field, some text⟩ }
      (ds ++ [.assign field text]) := by
  have htake : (record ds).assign field text = .ok (record (ds ++ [.assign field text])) :=
    h.take_record
  rw [Scan.Reached, Scan.flush]
  simp only [settled, htake, ok_bind]
  exact congrArg Except.ok (settled_concat hfield ds)

theorem Scan.Reached.input {text : String} (hs : s.Reached ds) (hplain : IsPlain text)
    (h : Compatible (ds ++ .assign .direct text :: es)) : s.step .main text =
      .ok { settled ds with pending := some ⟨.direct, some text⟩, hasInput := true } := by
  obtain ⟨hawaits, honly, hinput⟩ := Scan.flush_eq_ok hs
  have hnone : textsFor .direct ds = [] := h.fresh
  have hfirst : s.hasInput = false := by simp [hinput, settled, hnone]
  have hstep : s.step .main text = s.input .main text := by
    rw [Scan.step_plain honly hplain]
    split
    · rename_i hpending
      simp [Scan.awaits, hpending] at hawaits
    · rfl
  rw [hstep, Scan.input, if_pos (by simp [hfirst]), hs]
  rfl

theorem reached_direct {text : String} (h : Compatible (ds ++ .assign .direct text :: es)) :
    Scan.Reached { settled ds with pending := some ⟨.direct, some text⟩, hasInput := true }
      (ds ++ [.assign .direct text]) := by
  have htake : (record ds).assign .direct text = .ok (record (ds ++ [.assign .direct text])) :=
    h.take_record
  rw [Scan.Reached, Scan.flush]
  simp only [settled, htake, ok_bind]
  simp [pure, Except.pure, textsFor_assign]

theorem Scan.Reached.finish (hs : s.Reached ds) (h : Compatible ds) :
    s.finish = .ok (record ds) := by
  have hinput : ((record ds).file.isSome && (record ds).direct.isSome) = false := by
    rcases h.oneInput with hnone | hnone <;> simp [record, hnone]
  have hverbosity : ((record ds).verbose != 0 && (record ds).quiet != 0) = false := by
    rcases h.oneDirection with hnone | hnone <;> simp [record, hnone]
  have hgiven : (settled ds).given = record ds := rfl
  rw [Scan.finish, hs, ok_bind]
  simp [hgiven, hinput, hverbosity]

/-! ### Whole command lines -/

theorem readFrom_cons {arg : String} (h : s.awaits = true ∨ arg ≠ "completion" ∧ arg ≠ "help")
    (rest : List String) : readFrom s (arg :: rest) =
      s.step .main arg >>= fun s => readFrom s rest := by
  rcases h with h | ⟨hcompletion, hhelp⟩
  · simp [readFrom, h]
  · simp [readFrom, hcompletion, hhelp]

theorem readFrom_option {option : String} (h : option.toList.head? = some '-')
    (rest : List String) : readFrom s (option :: rest) =
      s.step .main option >>= fun s => readFrom s rest := by
  refine readFrom_cons (.inr ⟨?_, ?_⟩) rest <;> rintro rfl <;> simp at h

theorem Item.head?_option {item : Item} {option : String} (h : option ∈ item.options) :
    option.toList.head? = some '-' := by
  rcases Item.option_cases h with ⟨first, name, htext, -⟩ | ⟨letter, htext, -⟩ <;> simp [htext]

end

/-- Behind directives that were read before, spelled directives are read as well. -/
theorem Spells.readFrom {ds : List Directive} {args : List String} (hspells : Spells ds args)
    {s : Scan} {before : List Directive} (hs : s.Reached before)
    (h : Compatible (before ++ ds)) :
    readFrom s args = .ok (.convert (record (before ++ ds)).settings) := by
  -- The scan is kept abstract: behind a separate value and behind a direct input it has a value
  -- pending, behind every other spelling it is settled.
  induction hspells generalizing s before with
  | nil =>
    rw [List.append_nil] at h ⊢
    rw [Command.readFrom, hs.finish h]
    rfl
  | flag hoption _ ih =>
    have hraise := hs.raise h
    rw [List.append_cons] at h ⊢
    rw [readFrom_option (Item.head?_option hoption), Scan.step_flag hs.onlyInputs hoption, hraise]
    exact ih (reached_settled _) h
  | attached text hoption _ ih =>
    have hassign := hs.assign (textFor?_of_mem_options hoption text) h
    rw [List.append_cons] at h ⊢
    rw [readFrom_option (by simp [Item.head?_option hoption]),
      Scan.step_attached hs.onlyInputs hoption, hassign]
    exact ih (reached_settled _) h
  | @separate field option text _ _ hoption hplain _ ih =>
    have hpending := reached_pending (textFor?_of_mem_options hoption text) h
    rw [List.append_cons] at h ⊢
    rw [readFrom_option (Item.head?_option hoption), Scan.step_field hs.onlyInputs hoption,
      hs.await, ok_bind, readFrom_cons (.inl rfl), Scan.step_plain rfl hplain]
    exact ih hpending h
  | joined hoption hfirst _ ih =>
    have hassign := hs.assign (textFor?_of_mem_options hoption _) h
    rw [List.append_cons] at h ⊢
    rw [readFrom_option (by simp), Scan.step_joined hs.onlyInputs hoption hfirst, hassign]
    exact ih (reached_settled _) h
  | combined hoption hnext _ ih =>
    -- Behind its first letter the argument is read like one that starts with the next letter.
    have hraise := hs.raise h
    rw [List.append_cons] at h ⊢
    have hrest := ih (reached_settled _) h
    rw [readFrom_option (by simp), Scan.step_short rfl hnext String.toList_ofList] at hrest
    rw [readFrom_option (by simp), Scan.step_combined hs.onlyInputs hoption, hraise]
    exact hrest
  | direct hplain hcompletion hhelp _ ih =>
    have hinput := hs.input hplain h
    have hdirect := reached_direct h
    rw [List.append_cons] at h ⊢
    rw [readFrom_cons (.inr ⟨hcompletion, hhelp⟩), hinput]
    exact ih hdirect h

/-- Whatever can be chosen together may be given in any order and in any spelling: the arguments are
read as just the settings that were chosen. -/
theorem spelled_choice_is_read (c : Choice) {ds : List Directive} {args : List String}
    (horder : ds.Perm c.directives) (hspells : Spells ds args) :
    readArguments args = .ok (.convert c.settings) := by
  have hcompatible := c.compatible
  have hread := hspells.readFrom (reached_settled []) (hcompatible.perm horder)
  rw [List.nil_append, hcompatible.record_perm horder, c.settings_record] at hread
  exact hread

/-- A flag and an option share an argument, one value starts with a dash, another is the name of a
command, and the input file is a dash alone. -/
theorem spelled_choice_is_read_mixed :
    [.raise .verbose, .assign .output "-x=y", .assign .name "help", .raise .verbose,
        .assign .printWidth "0100", .assign .direct "-"].Perm
      (Choice.directives
        { name := some "help", printWidth := some ⟨100, by decide, 1⟩
          output := some ⟨"-x=y", by decide⟩, input := some (.direct ⟨"-", by decide⟩)
          verbosity := .more 2 }) ∧
    Spells [.raise .verbose, .assign .output "-x=y", .assign .name "help", .raise .verbose,
        .assign .printWidth "0100", .assign .direct "-"]
      ["-vo=-x=y", "--component-name", "help", "--verbose", "--print-width=0100", "-"] ∧
    readArguments
        ["-vo=-x=y", "--component-name", "help", "--verbose", "--print-width=0100", "-"] =
      .ok (.convert
        { input := some "-", options := { name := "help" }, widths := { print := 100 }
          output := some "-x=y", level := .info }) := by
  have horder : [.raise .verbose, .assign .output "-x=y", .assign .name "help", .raise .verbose,
        .assign .printWidth "0100", .assign .direct "-"].Perm
      (Choice.directives
        { name := some "help", printWidth := some ⟨100, by decide, 1⟩
          output := some ⟨"-x=y", by decide⟩, input := some (.direct ⟨"-", by decide⟩)
          verbosity := .more 2 }) := by
    decide
  have hinput := Spells.direct (show IsPlain "-" from .inl rfl) (by decide) (by decide) .nil
  have hwidth := Spells.attached "0100"
    (show "--print-width" ∈ (Item.field .printWidth).options by decide) hinput
  have hflag := Spells.flag (show "--verbose" ∈ (Item.flag .verbose).options by decide) hwidth
  have hname := Spells.separate
    (show "--component-name" ∈ (Item.field .name).options by decide)
    (show IsPlain "help" from .inr (by decide)) hflag
  have houtput := Spells.attached "-x=y"
    (show "-o" ∈ (Item.field .output).options by decide) hname
  have hspells : Spells _
      ["-vo=-x=y", "--component-name", "help", "--verbose", "--print-width=0100", "-"] :=
    .combined (show String.ofList ['-', 'v'] ∈ (Item.flag .verbose).options by decide)
      (by decide) houtput
  exact ⟨horder, hspells, spelled_choice_is_read _ horder hspells⟩

end MarkupChain.Command
