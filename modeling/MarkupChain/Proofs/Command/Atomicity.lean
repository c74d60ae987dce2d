import MarkupChain.Proofs.Command.Places
import MarkupChain.Proofs.Command.Worlds
import MarkupChain.Proofs.Script.Spacing

/-!
# A run does all or nothing

A run that fails leaves every file as it is and prints nothing; there are five reasons to fail, and
the last of them, an output file that cannot be created, is found only when the result is there. A
run that succeeds sets one file to the result of the conversion and changes nothing else, also if
that file is the input under another path. What is written depends on the text of the input, not on
where it comes from.
-/

namespace MarkupChain.Command

open Component Script

/-! ### What a command line asks for -/

/-- What was given by arguments none of which is a command. -/
def givenBy (args : List String) : Except Stop Given :=
  args.foldlM (Scan.step .main) {} >>= Scan.finish

/-- The bytes of the input: of the file that is named, directly or by an option, or the standard
input. -/
def Given.Content (g : Given) (t : FileTree) (stdin : Input) (content : ByteArray) : Prop :=
  match g.direct.or g.file with
  | some path => ∃ number, t.target path = .file number ∧ t.content number = content
  | none => stdin.content = content

/-- The conversion of a text under what was given. -/
def Given.conversion (g : Given) (text : String) : Except ConversionError String :=
  let options : Options := { name := g.name.getD "Component", trim := !g.noTrim }
  let widths : Widths := { indent := g.indentWidth.getD 2, print := g.printWidth.getD 80 }
  if g.raw then convertCompact options text else convert options widths text

/-- Why a file cannot be created where a path leads. -/
def FileTree.refusal? (t : FileTree) : Target → Option Failure
  | .file number => if t.readOnly.contains number then some .denied else none
  | .vacant place => if t.locked.contains place.dropLast then some .denied else none
  | .directory | .noDirectory => some .isDirectory
  | .noParent => some .noParent
  | .blocked => some .notDirectory
  | .tooLong => some .tooLong
  | .tooManyLinks => some .tooManyLinks
  | .notPath => some .notPath

/-- What keeps a run from its result, with the failure that reports it. -/
inductive Given.Obstacle (g : Given) (t : FileTree) (stdin : Input) : Failure → Prop where
  | missing {path : String} : g.direct.or g.file = some path → t.target path ≠ .directory →
    (∀ number, t.target path ≠ .file number) → Obstacle g t stdin (.notFound path)
  | directory {path : String} : g.direct.or g.file = some path → t.target path = .directory →
    Obstacle g t stdin .isDirectory
  | notText {content : ByteArray} : g.Content t stdin content →
    (∀ text : String, text.toUTF8 ≠ content) → Obstacle g t stdin .notText
  | conversion {text : String} {e : ConversionError} : g.Content t stdin text.toUTF8 →
    g.conversion text = .error e → Obstacle g t stdin (.conversion e)
  | output {text code path : String} {failure : Failure} : g.Content t stdin text.toUTF8 →
    g.conversion text = .ok code → g.output = some path →
    t.refusal? (t.target path) = some failure → Obstacle g t stdin failure

/-- The path leads to a file of that content, and nothing else has changed: either it led to the
file before, or to a vacant place where a file stands now that no entry led to. -/
def FileTree.Sets (before : FileTree) (path : String) (content : ByteArray) (after : FileTree) :
    Prop :=
  ∃ number, after.target path = .file number ∧
    (∀ other, after.content other = if other = number then content else before.content other) ∧
    { after with entries := before.entries, contents := before.contents } = before ∧
    ((before.target path = .file number ∧ ∀ place, after.get? place = before.get? place) ∨
      ∃ vacant, before.target path = .vacant vacant ∧
        (∀ place, before.get? place ≠ some (.file number)) ∧
        ∀ place, after.get? place =
          if place = vacant then some (.file number) else before.get? place)

/-- The result is all that a run has changed: it stands in the output file, or was printed if there
is none. -/
def Given.Delivers (g : Given) (t : FileTree) (result : String) (outcome : Outcome) : Prop :=
  outcome.failure = none ∧
    match g.output with
    | none => outcome.stdout = result ∧ outcome.tree = t
    | some path => outcome.stdout = "" ∧ t.Sets path result.toUTF8 outcome.tree

/-! ### The steps of a run -/

theorem decode_cases (content : ByteArray) :
    (∃ text : String, content = text.toUTF8 ∧ decode content = .ok text) ∨
      (∀ text : String, text.toUTF8 ≠ content) ∧ decode content = .error .notText := by
  unfold decode String.fromUTF8?
  by_cases hvalid : content.IsValidUTF8
  · refine .inl ⟨String.fromUTF8 content hvalid, rfl, ?_⟩
    rw [dif_pos hvalid]
  · refine .inr ⟨?_, ?_⟩
    · rintro text rfl
      exact hvalid text.isValidUTF8
    · rw [dif_neg hvalid]

theorem Given.Content.inputText_eq {g : Given} {t : FileTree} {stdin : Input} {content : ByteArray}
    (h : g.Content t stdin content) : inputText t stdin g.settings.input = decode content := by
  have hinput : g.settings.input = g.direct.or g.file := rfl
  unfold Given.Content at h
  rw [hinput]
  split at h
  · next path hpath =>
    obtain ⟨number, htarget, rfl⟩ := h
    rw [hpath, inputText, FileTree.read, htarget, ok_bind]
  · next hnone => rw [hnone, inputText, h]

/-- There is an input, or it is missed. -/
theorem Given.content_cases (g : Given) (t : FileTree) (stdin : Input) :
    (∃ content, g.Content t stdin content) ∨
      ∃ failure, g.Obstacle t stdin failure ∧
        inputText t stdin g.settings.input = .error failure := by
  have hinput : g.settings.input = g.direct.or g.file := rfl
  rw [hinput]
  unfold Given.Content
  cases hgiven : g.direct.or g.file with
  | none => exact .inl ⟨stdin.content, rfl⟩
  | some path =>
    rw [inputText, FileTree.read]
    cases htarget : t.target path with
    | file number => exact .inl ⟨t.content number, number, htarget, rfl⟩
    | directory => exact .inr ⟨.isDirectory, .directory hgiven htarget, rfl⟩
    | vacant _ | noDirectory | noParent | blocked | tooLong | tooManyLinks | notPath =>
      exact .inr ⟨.notFound path, .missing hgiven (by simp [htarget]) (by simp [htarget]), rfl⟩

/-- The text of the input is read, or an obstacle is met. -/
theorem Given.inputText_cases (g : Given) (t : FileTree) (stdin : Input) :
    (∃ text, g.Content t stdin text.toUTF8 ∧ inputText t stdin g.settings.input = .ok text) ∨
      ∃ failure, g.Obstacle t stdin failure ∧
        inputText t stdin g.settings.input = .error failure := by
  rcases g.content_cases t stdin with ⟨content, hcontent⟩ | hmissed
  · rw [hcontent.inputText_eq]
    rcases decode_cases content with ⟨text, rfl, htext⟩ | ⟨hnone, hnotText⟩
    · exact .inl ⟨text, hcontent, htext⟩
    · exact .inr ⟨.notText, .notText hcontent hnone, hnotText⟩
  · exact .inr hmissed

/-- What is written to a file that was just created is all that it holds. -/
theorem FileTree.append_fill_empty (t : FileTree) (number : Nat) (text : String) :
    (t.fill number .empty).append number text = t.fill number text.toUTF8 := by
  rw [append, content_fill, if_pos rfl, fill_fill, ByteArray.empty_append]

theorem FileTree.sets_fill {t : FileTree} {path : String} {number : Nat}
    (h : t.target path = .file number) (content : ByteArray) :
    t.Sets path content (t.fill number content) := by
  refine ⟨number, ?_, fun other => t.content_fill number other content, rfl, .inl ⟨h, ?_⟩⟩
  · rw [target_fill, h]
  · exact fun place => rfl

theorem FileTree.sets_add {t : FileTree} {path : String} {place : Path}
    (h : t.target path = .vacant place) (content : ByteArray) :
    t.Sets path content ((t.add place t.fresh).fill t.fresh content) := by
  obtain ⟨hvacant, htarget⟩ := target_add h t.fresh
  refine ⟨t.fresh, ?_, fun other => content_fill _ t.fresh other content, rfl,
    .inr ⟨place, h, t.get?_ne_fresh, ?_⟩⟩
  · rw [target_fill, htarget]
  · exact hvacant.get?_add t.fresh

/-- The output file is refused, or is created and then set. -/
theorem FileTree.create_cases (t : FileTree) (path : String) :
    (∃ failure, t.refusal? (t.target path) = some failure ∧ t.create path = .error failure) ∨
      ∃ number tree, t.create path = .ok (number, tree) ∧
        ∀ text : String, t.Sets path text.toUTF8 (tree.append number text) := by
  unfold create
  cases htarget : t.target path with
  | file number =>
    dsimp only [refusal?]
    split
    · exact .inl ⟨.denied, rfl, rfl⟩
    · refine .inr ⟨number, _, rfl, fun text => ?_⟩
      rw [append_fill_empty]
      exact sets_fill htarget text.toUTF8
  | vacant place =>
    dsimp only [refusal?]
    split
    · exact .inl ⟨.denied, rfl, rfl⟩
    · refine .inr ⟨t.fresh, _, rfl, fun text => ?_⟩
      rw [append_fill_empty]
      exact sets_add htarget text.toUTF8
  | directory | noDirectory | noParent | blocked | tooLong | tooManyLinks | notPath =>
    exact .inl ⟨_, rfl, rfl⟩

theorem endLine_eq (code : String) : endLine code =
    code ++ if code ≠ "" ∧ code.toList.getLast? ≠ some '\n' then "\n" else "" := by
  unfold endLine
  by_cases hempty : code = ""
  · simp [hempty]
  · by_cases hlast : code.toList.getLast? = some '\n'
    · simp [hlast]
    · simp [hempty, hlast]

theorem Given.respond_eq (g : Given) (text : String) : g.settings.respond text =
    match g.conversion text with
    | .ok code => .ok (endLine code)
    | .error e => .error (.conversion e) := rfl

/-- A run meets an obstacle and changes nothing, or delivers its result. -/
theorem Given.run_cases (g : Given) (t : FileTree) (stdin : Input) :
    (∃ failure, g.Obstacle t stdin failure ∧
        g.settings.run t stdin = { tree := t, stdout := "", failure := some failure }) ∨
      ∃ text code, g.Content t stdin text.toUTF8 ∧ g.conversion text = .ok code ∧
        g.Delivers t (endLine code) (g.settings.run t stdin) := by
  rw [Settings.run_eq_settle]
  rcases g.inputText_cases t stdin with ⟨text, hcontent, hread⟩ | ⟨failure, hobstacle, hread⟩
  · rw [hread, Settings.settle, ok_bind]
    cases hconversion : g.conversion text with
    | error e =>
      refine .inl ⟨.conversion e, .conversion hcontent hconversion, ?_⟩
      simp [g.respond_eq, hconversion]
    | ok code =>
      have hrespond : g.settings.respond text = .ok (endLine code) := by
        simp [g.respond_eq, hconversion]
      have hsame : g.settings.output = g.output := rfl
      simp only [hrespond, hsame]
      cases hout : g.output with
      | none => exact .inr ⟨text, code, hcontent, hconversion, rfl, by simp [hout]⟩
      | some path =>
        rcases t.create_cases path with ⟨failure, hrefusal, hcreate⟩ |
          ⟨number, tree, hcreate, hsets⟩
        · refine .inl ⟨failure, .output hcontent hconversion hout hrefusal, ?_⟩
          simp [hcreate]
        · refine .inr ⟨text, code, hcontent, hconversion, ?_⟩
          simpa [Given.Delivers, hout, hcreate] using hsets (endLine code)
  · rw [hread]
    exact .inl ⟨failure, hobstacle, rfl⟩

/-! ### Where the text comes from -/

/-- A file is read as the standard input would be, whichever way it is named. -/
theorem Given.run_named {g : Given} {t : FileTree} {direct file : Option String} {path : String}
    {number : Nat} (hnone : g.direct.or g.file = none) (hpath : direct.or file = some path)
    (h : t.target path = .file number) (stdin : Input) :
    { g with direct := direct, file := file }.settings.run t stdin =
      g.settings.run t (.stream (t.content number)) := by
  have hfile : { g with direct := direct, file := file }.Content t stdin (t.content number) := by
    rw [Given.Content, hpath]
    exact ⟨number, h, rfl⟩
  have hstream : g.Content t (.stream (t.content number)) (t.content number) := by
    rw [Given.Content, hnone]
    rfl
  -- Behind the reading both runs are the same, since nothing else of the settings differs.
  rw [Settings.run_eq_settle, Settings.run_eq_settle, hfile.inputText_eq, hstream.inputText_eq]
  rfl

theorem readCompletion_ne_convert (s : Scan) (args : List String) (settings : Settings) :
    readCompletion s args ≠ .ok (.convert settings) := by
  intro h
  obtain ⟨sub, -, h⟩ := bind_eq_ok.mp h
  obtain ⟨given, -, h⟩ := bind_eq_ok.mp h
  cases hshell : given.shell with
  | none => simp [hshell] at h
  | some shell =>
    simp only [hshell] at h
    obtain ⟨main, -, h⟩ := bind_eq_ok.mp h
    cases h

/-- A command line that asks for a conversion is settled by what was given. -/
theorem readFrom_convert {s : Scan} {args : List String} {settings : Settings}
    (h : readFrom s args = .ok (.convert settings)) :
    ∃ g, args.foldlM (Scan.step .main) s >>= Scan.finish = .ok g ∧ settings = g.settings := by
  induction args generalizing s with
  | nil =>
    obtain ⟨g, hfinish, hg⟩ := bind_eq_ok.mp h
    cases hg
    exact ⟨g, hfinish, rfl⟩
  | cons arg rest ih =>
    rw [readFrom] at h
    split at h
    · cases h
    split at h
    · exact absurd h (readCompletion_ne_convert s rest settings)
    · obtain ⟨next, hstep, hnext⟩ := bind_eq_ok.mp h
      rw [List.foldlM_cons, hstep, ok_bind]
      exact ih hnext

/-- Every command line without a command of its own is run by what its arguments give. The run fails
at an obstacle with nothing changed and nothing printed, or the result of the conversion, with a
line feed at its end unless it is empty, is all that changes. The result is the same for a file
named directly, a file named by an option and the standard input. -/
theorem run_fails_unchanged_or_delivers :
    (∀ args settings, readArguments args = .ok (.convert settings) →
      ∃ g, givenBy args = .ok g ∧ settings = g.settings) ∧
    (∀ (g : Given) (t : FileTree) (stdin : Input),
      (∃ failure, g.Obstacle t stdin failure ∧
        g.settings.run t stdin = { tree := t, stdout := "", failure := some failure }) ∨
      ∃ text code, g.Content t stdin text.toUTF8 ∧ g.conversion text = .ok code ∧
        g.Delivers t
          (code ++ if code ≠ "" ∧ code.toList.getLast? ≠ some '\n' then "\n" else "")
          (g.settings.run t stdin)) ∧
    ∀ (g : Given) (t : FileTree) (stdin : Input) (path : String) (number : Nat),
      g.direct = none → g.file = none → t.target path = .file number →
      { g with direct := some path }.settings.run t stdin =
        g.settings.run t (.stream (t.content number)) ∧
      { g with file := some path }.settings.run t stdin =
        g.settings.run t (.stream (t.content number)) := by
  refine ⟨fun args settings h => readFrom_convert h, fun g t stdin => ?_, ?_⟩
  · simpa only [endLine_eq] using g.run_cases t stdin
  · intro g t stdin path number hdirect hfile h
    have hnone : g.direct.or g.file = none := by rw [hdirect, hfile, Option.or_none]
    have hsecond : g.direct.or (some path) = some path := by rw [hdirect, Option.none_or]
    exact ⟨Given.run_named hnone rfl h stdin, Given.run_named hnone hsecond h stdin⟩

/-- A file with a link to it, and one in a directory that takes no new entries. -/
def linkedFiles : FileTree where
  entries := [(["home", "a.html"], .file 0), (["home", "link"], .link "/home/../home/a.html"),
    (["data", "b.txt"], .file 1)]
  contents := [(0, "<p>x</p>".toUTF8), (1, "kept".toUTF8)]
  here := ["home"]
  locked := [["data"]]

/-- The output is the input, by the link. -/
def inPlace : Given := { direct := some "a.html", raw := true, output := some "link" }

/-- A file is set to the result of what it held and the other one is kept; an output in the other
directory is refused. By its whole path, the link leads to the same text as the standard input. -/
theorem run_fails_unchanged_or_delivers_in_place :
    (readArguments ["--raw", "-o", "link", "a.html"] = .ok (.convert inPlace.settings) ∧
      ∃ g, givenBy ["--raw", "-o", "link", "a.html"] = .ok g ∧ inPlace.settings = g.settings) ∧
    ((∃ text code, inPlace.Content linkedFiles .terminal text.toUTF8 ∧
        inPlace.conversion text = .ok code ∧
        inPlace.Delivers linkedFiles
          (code ++ if code ≠ "" ∧ code.toList.getLast? ≠ some '\n' then "\n" else "")
          (inPlace.settings.run linkedFiles .terminal)) ∧
      (inPlace.settings.run linkedFiles .terminal).tree.contents =
        [(0, "function Component() \x7b return h.p().children(\"x\"); \x7d\n".toUTF8),
          (1, "kept".toUTF8)]) ∧
    (∃ failure,
      Given.Obstacle { inPlace with output := some "../data/c.js" } linkedFiles .terminal failure ∧
      (Given.settings { inPlace with output := some "../data/c.js" }).run linkedFiles .terminal =
        { tree := linkedFiles, stdout := "", failure := some failure }) ∧
    (linkedFiles.target "/home/link" = .file 0 ∧
      (Given.settings { direct := some "/home/link" }).run linkedFiles .terminal =
        (Given.settings {}).run linkedFiles (.stream (linkedFiles.content 0)) ∧
      (Given.settings { file := some "/home/link" }).run linkedFiles .terminal =
        (Given.settings {}).run linkedFiles (.stream (linkedFiles.content 0))) := by
  obtain ⟨hgiven, hrun, hroutes⟩ := run_fails_unchanged_or_delivers
  have hread : readArguments ["--raw", "-o", "link", "a.html"] = .ok (.convert inPlace.settings) :=
    rfl
  have htarget : linkedFiles.target "/home/link" = .file 0 := rfl
  refine ⟨⟨hread, hgiven _ _ hread⟩, ⟨(hrun _ _ _).resolve_left ?_, rfl⟩,
    (hrun _ _ _).resolve_right ?_, htarget,
    hroutes {} linkedFiles .terminal "/home/link" 0 rfl rfl htarget⟩
  · rintro ⟨failure, -, hfails⟩
    have hnone : none = some failure := congrArg Outcome.failure hfails
    cases hnone
  · rintro ⟨text, code, -, -, hdelivers, -⟩
    have hsome : some Failure.denied = none := hdelivers
    cases hsome

end MarkupChain.Command
