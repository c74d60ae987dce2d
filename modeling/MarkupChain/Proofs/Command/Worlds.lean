import MarkupChain.Command.Run

/-!
# Runs in a world

What each request of a run gives on a file tree, and what becomes of the world. A run first asks
for the input, and to create the output only when it has the result. So the text of the input
settles the outcome, and what was reported on the way has no part in it.
-/

namespace MarkupChain.Command

/-- What a program gives in a world, and the world behind it. -/
def World.after {α : Type} (w : World) (program : ExceptT Failure (StateM World) α) :
    Except Failure α × World :=
  program.run.run w

namespace World

/-! ### Requests -/

/-- What was done to the world before a failure stays done. -/
theorem after_bind {α β : Type} (w : World) (x : ExceptT Failure (StateM World) α)
    (f : α → ExceptT Failure (StateM World) β) :
    w.after (x >>= f) = match w.after x with
      | (.ok a, w) => w.after (f a)
      | (.error failure, w) => (.error failure, w) := by
  simp only [after, ExceptT.run_bind, StateT.run_bind]
  generalize x.run.run w = reached
  obtain ⟨result, w⟩ := reached
  cases result with
  | ok a => rfl
  | error failure => rfl

theorem after_ofExcept {α : Type} (w : World) (x : Except Failure α) :
    w.after (MonadExcept.ofExcept x) = (x, w) := by
  cases x with
  | ok a => rfl
  | error failure => rfl

variable (w : World) (stdin : Input)

theorem after_isThere (path : String) :
    w.after (liftM ((system stdin).isThere path)) = (.ok (w.tree.isThere path), w) := rfl

theorem after_readFile (path : String) :
    w.after ((system stdin).readFile path) = (w.tree.read path, w) :=
  w.after_ofExcept (w.tree.read path)

theorem after_createFile (path : String) :
    w.after ((system stdin).createFile path) = match w.tree.create path with
      | .ok (number, tree) => (.ok number, { w with tree := tree })
      | .error failure => (.error failure, w) := by
  have hget : w.after ((system stdin).createFile path) = w.after (do
      let created ← MonadExcept.ofExcept (w.tree.create path)
      modify ({ · with tree := created.2 })
      return created.1) := rfl
  rw [hget, after_bind, after_ofExcept]
  cases w.tree.create path with
  | ok created => rfl
  | error failure => rfl

theorem after_reportAll (events : List Event) :
    w.after (liftM ((system stdin).reportAll events)) =
      (.ok (), { w with reported := w.reported ++ events }) := by
  induction events generalizing w with
  | nil =>
    rw [List.append_nil]
    rfl
  | cons e events ih =>
    have hstep : w.after (liftM ((system stdin).reportAll (e :: events))) =
        after { w with reported := w.reported ++ [e] }
          (liftM ((system stdin).reportAll events)) := rfl
    rw [hstep, ih, List.append_assoc]
    rfl

end World

/-! ### The steps of a run -/

/-- The text of the file that is named, or of the standard input. -/
def inputText (t : FileTree) (stdin : Input) : Option String → Except Failure String
  | some path => t.read path >>= decode
  | none => decode stdin.content

theorem FileTree.read_of_not_isThere {t : FileTree} {path : String} (h : t.isThere path = false) :
    t.read path = .error (.notFound path) := by
  unfold isThere at h
  unfold read
  cases htarget : t.target path with
  | directory | file number => simp [htarget] at h
  | vacant _ | noDirectory | noParent | blocked | tooLong | tooManyLinks | notPath => rfl

theorem Settings.after_source (s : Settings) (stdin : Input) (w : World) :
    ∃ reported, w.after (s.source (World.system stdin)) =
      (inputText w.tree stdin s.input, { w with reported := reported }) := by
  unfold Settings.source
  cases s.input with
  | none =>
    refine ⟨w.reported, ?_⟩
    cases stdin with
    | terminal => rfl
    | stream content => exact w.after_ofExcept (decode content)
  | some path =>
    simp only [World.after_bind, World.after_isThere]
    cases hthere : w.tree.isThere path with
    | false =>
      refine ⟨w.reported, ?_⟩
      rw [inputText, FileTree.read_of_not_isThere hthere]
      rfl
    | true =>
      refine ⟨w.reported ++ s.level.filter [.reading path], ?_⟩
      simp only [if_true, World.after_bind, World.after_reportAll, World.after_readFile, inputText]
      cases w.tree.read path with
      | error failure => rfl
      | ok content => exact World.after_ofExcept _ (decode content)

theorem Settings.after_deliver (s : Settings) (stdin : Input) (w : World) (result : String) :
    w.after (s.deliver (World.system stdin) result) = match s.output with
      | none => (.ok (), { w with stdout := w.stdout ++ result })
      | some path =>
        match w.tree.create path with
        | .error failure => (.error failure, w)
        | .ok (number, tree) => (.ok (), { w with tree := tree.append number result }) := by
  unfold Settings.deliver
  cases s.output with
  | none => rfl
  | some path =>
    simp only [World.after_bind, World.after_createFile]
    cases w.tree.create path with
    | ok created => rfl
    | error failure => rfl

/-- The outcome of a run that has read a text, or has failed to. -/
def Settings.settle (s : Settings) (t : FileTree) (text : Except Failure String) : Outcome :=
  match text >>= s.respond with
  | .error failure => { tree := t, failure := some failure }
  | .ok result =>
    match s.output with
    | none => { tree := t, stdout := result }
    | some path =>
      match t.create path with
      | .error failure => { tree := t, failure := some failure }
      | .ok (number, tree) => { tree := tree.append number result }

/-- A run reads the input, and the text settles the rest. -/
theorem Settings.run_eq_settle (s : Settings) (t : FileTree) (stdin : Input) :
    s.run t stdin = s.settle t (inputText t stdin s.input) := by
  obtain ⟨reported, hsource⟩ := s.after_source stdin { tree := t }
  have hfinal : s.finalWorld t stdin = World.after { tree := t } (s.execute (World.system stdin)) :=
    rfl
  rw [Settings.run, hfinal, Settings.execute, World.after_bind, hsource]
  cases inputText t stdin s.input with
  | error failure => rfl
  | ok text =>
    simp only [World.after_bind, World.after_reportAll, World.after_ofExcept]
    have hrespond : (Except.ok text >>= s.respond) = s.respond text := rfl
    rw [settle, hrespond]
    cases s.respond text with
    | error failure => rfl
    | ok result =>
      simp only [Settings.after_deliver]
      cases s.output with
      | none => rfl
      | some path =>
        dsimp only
        cases t.create path with
        | error failure => rfl
        | ok created => rfl

end MarkupChain.Command
