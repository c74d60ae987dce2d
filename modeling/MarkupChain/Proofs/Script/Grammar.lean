import MarkupChain.Script.Definition

/-!
# The grammar of a definition

The grammar as a relation between what is written and the lexemes it is written with, apart from
any reader. A list of arguments or entries that is not empty may end in a comma. The reader takes
every derived list of lexemes to what it stands for, and whatever it accepts is derived.
-/

namespace MarkupChain.Script

/-- What a stretch of lexemes in a body may stand for. -/
inductive Part where
  | expr (e : Expr)
  | args (es : List Expr)
  | entries (es : List (String × Expr))

/-- A key is written as a word or as a literal. -/
def Lexeme.IsKey (key : String) (l : Lexeme) : Prop := l = .word key ∨ l = .quoted key

inductive Derives : Part → List Lexeme → Prop where
  | ident (name : String) : Derives (.expr (.ident name)) [.word name]
  | literal (text : String) : Derives (.expr (.literal text)) [.quoted text]
  | object {entries : List (String × Expr)} {ls : List Lexeme} : Derives (.entries entries) ls →
    Derives (.expr (.object entries)) (.symbol .openBrace :: (ls ++ [.symbol .closeBrace]))
  | member {target : Expr} {ls : List Lexeme} (name : String) : Derives (.expr target) ls →
    Derives (.expr (.member target name)) (ls ++ [.symbol .dot, .word name])
  | call {callee : Expr} {args : List Expr} {ls ms : List Lexeme} : Derives (.expr callee) ls →
    Derives (.args args) ms →
    Derives (.expr (.call callee args)) (ls ++ .symbol .openParen :: (ms ++ [.symbol .closeParen]))
  | noArgs : Derives (.args []) []
  | lastArg {e : Expr} {ls : List Lexeme} : Derives (.expr e) ls → Derives (.args [e]) ls
  /-- With a comma behind the argument, others may follow or none. -/
  | arg {e : Expr} {rest : List Expr} {ls ms : List Lexeme} : Derives (.expr e) ls →
    Derives (.args rest) ms → Derives (.args (e :: rest)) (ls ++ .symbol .comma :: ms)
  | noEntries : Derives (.entries []) []
  | lastEntry {key : String} {k : Lexeme} {e : Expr} {ls : List Lexeme} : k.IsKey key →
    Derives (.expr e) ls → Derives (.entries [(key, e)]) (k :: .symbol .colon :: ls)
  | entry {key : String} {k : Lexeme} {e : Expr} {rest : List (String × Expr)}
    {ls ms : List Lexeme} : k.IsKey key → Derives (.expr e) ls → Derives (.entries rest) ms →
    Derives (.entries ((key, e) :: rest)) (k :: .symbol .colon :: (ls ++ .symbol .comma :: ms))

/-- The lexemes before the body of a definition. -/
def header (name : String) : List Lexeme :=
  [.word "function", .word name, .symbol .openParen, .symbol .closeParen, .symbol .openBrace,
    .word "return"]

/-- A definition may have a semicolon behind its body. -/
inductive Definition.Derives (d : Definition) : List Lexeme → Prop where
  | plain {ls : List Lexeme} : Script.Derives (.expr d.body) ls →
    Derives d (header d.name ++ ls ++ [.symbol .closeBrace])
  | ended {ls : List Lexeme} : Script.Derives (.expr d.body) ls →
    Derives d (header d.name ++ ls ++ [.symbol .semicolon, .symbol .closeBrace])

/-! ## The reader over lexemes -/

/-- The reader without offsets, which matter only to its errors. -/
def Reading.take (r : Reading) (ls : List Lexeme) : Option Reading := ls.foldlM Reading.step r

@[simp] theorem Reading.take_nil (r : Reading) : r.take [] = some r := rfl

@[simp] theorem Reading.take_cons (r : Reading) (l : Lexeme) (ls : List Lexeme) :
    r.take (l :: ls) = (r.step l).bind fun q => q.take ls := by
  simp [take]

theorem Reading.take_append (r : Reading) (ls ms : List Lexeme) :
    r.take (ls ++ ms) = (r.take ls).bind fun q => q.take ms := by
  simp [take]

theorem Reading.run_eq_ok_iff (r q : Reading) (ts : List Token) :
    r.run ts = .ok q ↔ r.take (ts.map (·.lexeme)) = some q := by
  induction ts generalizing r with
  | nil => simp
  | cons t ts ih =>
    rw [run, List.map_cons, take_cons]
    cases r.step t.lexeme with
    | none => simp
    | some next => exact ih next

theorem Definition.ofTokens_eq_ok_iff (ts : List Token) (d : Definition) :
    Definition.ofTokens ts = .ok d ↔
      Reading.start.take (ts.map (·.lexeme)) = some (.complete d) := by
  rw [← Reading.run_eq_ok_iff, ofTokens]
  cases Reading.start.run ts with
  | error e => simp [bind, Except.bind]
  | ok r => cases r <;> simp [Reading.finish, bind, Except.bind]

/-! ## Derived lexemes are read -/

/-- An expression may start here; it will stand inside the given lists. -/
def Reading.Expects (r : Reading) (name : String) (frames : List Frame) : Prop :=
  ∀ l spot, Spot.ofFirst? l = some spot → r.step l = some (.body name frames spot)

theorem Reading.expects_operand (name : String) (frames : List Frame) :
    Reading.Expects (.body name frames .operand) name frames := by
  intro l spot h
  simp [step, stepBody, h]

theorem Reading.expects_argument (name : String) (frames : List Frame) (callee : Expr)
    (done : List Expr) :
    Reading.Expects (.body name frames (.argument callee done)) name
      (.arguments callee done :: frames) := by
  intro l spot h
  cases l with
  | word name => simp [step, stepBody, h]
  | quoted text => simp [step, stepBody, h]
  | symbol s => cases s <;> simp_all [step, stepBody, Spot.ofFirst?]

/-- What reading the lexemes of a part comes to. -/
def Part.Read : Part → List Lexeme → Prop
  | .expr e, ls => ∀ r name frames, Reading.Expects r name frames →
    r.take ls = some (.body name frames (.after e))
  | .args es, ls => ∀ name frames callee done,
    Reading.take (.body name frames (.argument callee done)) (ls ++ [.symbol .closeParen]) =
      some (.body name frames (.after (.call callee (done.reverse ++ es))))
  | .entries es, ls => ∀ name frames done,
    Reading.take (.body name frames (.key done)) (ls ++ [.symbol .closeBrace]) =
      some (.body name frames (.after (.object (done.reverse ++ es))))

theorem Reading.take_key {k : Lexeme} {key : String} (h : k.IsKey key) (name : String)
    (frames : List Frame) (done : List (String × Expr)) (ls : List Lexeme) :
    Reading.take (.body name frames (.key done)) (k :: .symbol .colon :: ls) =
      Reading.take (.body name (.entries done key :: frames) .operand) ls := by
  rcases h with rfl | rfl <;> rfl

theorem Derives.read {p : Part} {ls : List Lexeme} (h : Derives p ls) : p.Read ls := by
  induction h with
  | ident name =>
    intro r name' frames hr
    simp [hr (.word name) _ rfl]
  | literal text =>
    intro r name frames hr
    simp [hr (.quoted text) _ rfl]
  | object _ ih =>
    intro r name frames hr
    simpa [hr (.symbol .openBrace) _ rfl] using ih name frames []
  | member member _ ih =>
    intro r name frames hr
    rw [Reading.take_append, ih r name frames hr]
    rfl
  | call _ _ ihc iha =>
    intro r name frames hr
    rw [Reading.take_append, ihc r name frames hr]
    simpa [Reading.step, Reading.stepBody, Reading.stepAfter] using iha name frames _ []
  | noArgs =>
    intro name frames callee done
    simp [Reading.step, Reading.stepBody]
  | lastArg _ ih =>
    intro name frames callee done
    rw [Reading.take_append, ih _ name _ (Reading.expects_argument name frames callee done)]
    simp [Reading.step, Reading.stepBody, Reading.stepAfter]
  | @arg e rest ls ms _ _ ihe ihr =>
    intro name frames callee done
    rw [List.append_assoc, Reading.take_append,
      ihe _ name _ (Reading.expects_argument name frames callee done)]
    simpa [Reading.step, Reading.stepBody, Reading.stepAfter] using
      ihr name frames callee (e :: done)
  | noEntries =>
    intro name frames done
    simp [Reading.step, Reading.stepBody]
  | @lastEntry key k e ls hk _ ih =>
    intro name frames done
    have he := ih _ name _ (Reading.expects_operand name (.entries done key :: frames))
    rw [List.cons_append, List.cons_append, Reading.take_key hk, Reading.take_append, he]
    simp [Reading.step, Reading.stepBody, Reading.stepAfter]
  | @entry key k e rest ls ms hk _ _ ihe ihr =>
    intro name frames done
    have he := ihe _ name _ (Reading.expects_operand name (.entries done key :: frames))
    rw [List.cons_append, List.cons_append, List.append_assoc, Reading.take_key hk,
      Reading.take_append, he]
    simpa [Reading.step, Reading.stepBody, Reading.stepAfter] using
      ihr name frames ((key, e) :: done)

theorem Reading.take_header (name : String) (ls : List Lexeme) :
    Reading.start.take (header name ++ ls) = Reading.take (.body name [] .operand) ls := by
  simp [header, step]

theorem Definition.Derives.ofTokens {d : Definition} {ts : List Token}
    (h : d.Derives (ts.map (·.lexeme))) : Definition.ofTokens ts = .ok d := by
  rw [ofTokens_eq_ok_iff]
  generalize ts.map (·.lexeme) = ls at h
  cases h with
  | plain h =>
    rw [List.append_assoc, Reading.take_header, Reading.take_append,
      h.read _ d.name _ (Reading.expects_operand d.name [])]
    rfl
  | ended h =>
    rw [List.append_assoc, Reading.take_header, Reading.take_append,
      h.read _ d.name _ (Reading.expects_operand d.name [])]
    rfl

/-! ## What was read is derived -/

/-- Arguments with a comma behind each, the latest first; more may follow. -/
def OpenArgs (done : List Expr) (ls : List Lexeme) : Prop :=
  ∀ rest ms, Derives (.args rest) ms → Derives (.args (done.reverse ++ rest)) (ls ++ ms)

theorem OpenArgs.nil : OpenArgs [] [] := fun _ _ h => by simpa using h

theorem OpenArgs.cons {done : List Expr} {e : Expr} {ls ms : List Lexeme} (h : OpenArgs done ls)
    (he : Derives (.expr e) ms) : OpenArgs (e :: done) (ls ++ (ms ++ [.symbol .comma])) := by
  intro rest ns hrest
  simpa using h _ _ (.arg he hrest)

def OpenEntries (done : List (String × Expr)) (ls : List Lexeme) : Prop :=
  ∀ rest ms, Derives (.entries rest) ms → Derives (.entries (done.reverse ++ rest)) (ls ++ ms)

theorem OpenEntries.nil : OpenEntries [] [] := fun _ _ h => by simpa using h

theorem OpenEntries.cons {done : List (String × Expr)} {key : String} {k : Lexeme} {e : Expr}
    {ls ms : List Lexeme} (h : OpenEntries done ls) (hk : k.IsKey key)
    (he : Derives (.expr e) ms) :
    OpenEntries ((key, e) :: done) (ls ++ (k :: .symbol .colon :: (ms ++ [.symbol .comma]))) := by
  intro rest ns hrest
  simpa using h _ _ (.entry hk he hrest)

/-- The lexemes of the lists that are open, up to the item that is being read. -/
inductive Frame.Consumed : List Frame → List Lexeme → Prop where
  | nil : Consumed [] []
  | arguments {frames : List Frame} {callee : Expr} {done : List Expr} {ls ms ns : List Lexeme} :
    Consumed frames ls → Derives (.expr callee) ms → OpenArgs done ns →
    Consumed (.arguments callee done :: frames) (ls ++ (ms ++ .symbol .openParen :: ns))
  | entries {frames : List Frame} {done : List (String × Expr)} {key : String} {k : Lexeme}
    {ls ms : List Lexeme} : Consumed frames ls → OpenEntries done ms → k.IsKey key →
    Consumed (.entries done key :: frames)
      (ls ++ .symbol .openBrace :: (ms ++ [k, .symbol .colon]))

/-- The lexemes of the item that is being read. -/
inductive Spot.Consumed : Spot → List Lexeme → Prop where
  | operand : Consumed .operand []
  | argument {callee : Expr} {done : List Expr} {ms ns : List Lexeme} :
    Derives (.expr callee) ms → OpenArgs done ns →
    Consumed (.argument callee done) (ms ++ .symbol .openParen :: ns)
  | key {done : List (String × Expr)} {ms : List Lexeme} : OpenEntries done ms →
    Consumed (.key done) (.symbol .openBrace :: ms)
  | colon {done : List (String × Expr)} {key : String} {k : Lexeme} {ms : List Lexeme} :
    OpenEntries done ms → k.IsKey key →
    Consumed (.colon done key) (.symbol .openBrace :: (ms ++ [k]))
  | member {target : Expr} {ms : List Lexeme} : Derives (.expr target) ms →
    Consumed (.member target) (ms ++ [.symbol .dot])
  | after {e : Expr} {ms : List Lexeme} : Derives (.expr e) ms → Consumed (.after e) ms

/-- The lexemes that lead to a place. -/
inductive Reading.Consumed : Reading → List Lexeme → Prop where
  | start : Consumed .start []
  | keyword : Consumed .keyword [.word "function"]
  | named (name : String) : Consumed (.named name) ((header name).take 2)
  | params (name : String) : Consumed (.params name) ((header name).take 3)
  | signature (name : String) : Consumed (.signature name) ((header name).take 4)
  | opened (name : String) : Consumed (.opened name) ((header name).take 5)
  | body (name : String) {frames : List Frame} {spot : Spot} {ls ms : List Lexeme} :
    Frame.Consumed frames ls → spot.Consumed ms →
    Consumed (.body name frames spot) (header name ++ (ls ++ ms))
  | ended {d : Definition} {ls : List Lexeme} : Derives (.expr d.body) ls →
    Consumed (.ended d) (header d.name ++ (ls ++ [.symbol .semicolon]))
  | complete {d : Definition} {ls : List Lexeme} : d.Derives ls → Consumed (.complete d) ls

theorem Spot.consumed_ofFirst {l : Lexeme} {spot : Spot} (h : Spot.ofFirst? l = some spot) :
    spot.Consumed [l] := by
  cases l with
  | word name => cases h; exact .after (.ident name)
  | quoted text => cases h; exact .after (.literal text)
  | symbol s =>
    cases s with
    | openBrace => cases h; exact .key .nil
    | _ => cases h

/-- One symbol behind an expression. -/
theorem Reading.consumed_stepAfter {name : String} {e : Expr} {frames : List Frame} {s : Symbol}
    {r : Reading} {ls ms : List Lexeme} (h : Reading.stepAfter name e frames s = some r)
    (hf : Frame.Consumed frames ls) (he : Derives (.expr e) ms) :
    r.Consumed (header name ++ (ls ++ (ms ++ [.symbol s]))) := by
  unfold stepAfter at h
  -- A link of the chain, the end of the body, then a comma or the bracket in each kind of list.
  split at h <;> cases h
  · exact .body name hf (.member he)
  · exact .body name hf (.argument he .nil)
  · cases hf
    exact .ended (d := ⟨name, e⟩) he
  · cases hf
    have hd : Definition.Derives ⟨name, e⟩ (header name ++ ms ++ [.symbol .closeBrace]) := .plain he
    exact .complete (by simpa using hd)
  · cases hf with
    | arguments hf hc ho =>
      have hr := Consumed.body name hf (.argument hc (ho.cons he))
      simpa using hr
  · cases hf with
    | arguments hf hc ho =>
      have hr := Consumed.body name hf (.after (.call hc (ho _ _ (.lastArg he))))
      simpa using hr
  · cases hf with
    | entries hf ho hk =>
      have hr := Consumed.body name hf (.key (ho.cons hk he))
      simpa using hr
  · cases hf with
    | entries hf ho hk =>
      have hr := Consumed.body name hf (.after (.object (ho _ _ (.lastEntry hk he))))
      simpa using hr

/-- One lexeme inside the body. -/
theorem Reading.consumed_stepBody {name : String} {frames : List Frame} {spot : Spot} {l : Lexeme}
    {r : Reading} {ls ms : List Lexeme} (h : Reading.stepBody name frames spot l = some r)
    (hf : Frame.Consumed frames ls) (hs : spot.Consumed ms) :
    r.Consumed (header name ++ (ls ++ (ms ++ [l]))) := by
  unfold stepBody at h
  split at h
  · cases hs
    obtain ⟨spot, hspot, rfl⟩ := Option.map_eq_some_iff.mp h
    exact .body name hf (Spot.consumed_ofFirst hspot)
  · cases h
    cases hs with
    | argument hc ho =>
      have he := Derives.call hc (ho [] [] .noArgs)
      have hr := Consumed.body name hf (.after he)
      simpa using hr
  · cases hs with
    | argument hc ho =>
      obtain ⟨spot, hspot, rfl⟩ := Option.map_eq_some_iff.mp h
      have hr := Consumed.body name (.arguments hf hc ho) (Spot.consumed_ofFirst hspot)
      simpa using hr
  · cases h
    cases hs with
    | key ho =>
      have he := Derives.object (ho [] [] .noEntries)
      have hr := Consumed.body name hf (.after he)
      simpa using hr
  · cases h
    cases hs with
    | key ho => exact .body name hf (.colon ho (.inl rfl))
  · cases h
    cases hs with
    | key ho => exact .body name hf (.colon ho (.inr rfl))
  · cases h
    cases hs with
    | colon ho hk =>
      have hr := Consumed.body name (.entries hf ho hk) .operand
      simpa using hr
  · next target member =>
    cases h
    cases hs with
    | member ht =>
      have hr := Consumed.body name hf (.after (.member member ht))
      simpa using hr
  · cases hs with
    | after he => exact consumed_stepAfter h hf he
  · cases h

/-- Each lexeme is accounted for when it is taken. -/
theorem Reading.consumed_step {r q : Reading} {l : Lexeme} {ls : List Lexeme}
    (h : r.step l = some q) (hr : r.Consumed ls) : q.Consumed (ls ++ [l]) := by
  unfold step at h
  split at h
  -- All but the body is taken lexeme by lexeme from the header and the end.
  case h_7 name frames spot =>
    cases hr with
    | body _ hf hs => simpa using consumed_stepBody h hf hs
  all_goals cases h
  all_goals cases hr
  · exact .keyword
  · exact .named _
  · exact .params _
  · exact .signature _
  · exact .opened _
  · exact .body _ .nil .operand
  · next d ls he =>
    have hd : d.Derives (header d.name ++ ls ++ [.symbol .semicolon, .symbol .closeBrace]) :=
      .ended he
    exact .complete (by simpa using hd)

theorem Reading.consumed_take {r q : Reading} {ls ms : List Lexeme}
    (h : r.take ms = some q) (hr : r.Consumed ls) : q.Consumed (ls ++ ms) := by
  induction ms generalizing r ls with
  | nil => cases h; simpa using hr
  | cons l ms ih =>
    rw [take_cons] at h
    obtain ⟨s, hs, htake⟩ := Option.bind_eq_some_iff.mp h
    simpa using ih htake (consumed_step hs hr)

theorem Definition.derives_of_ofTokens {d : Definition} {ts : List Token}
    (h : Definition.ofTokens ts = .ok d) : d.Derives (ts.map (·.lexeme)) := by
  rw [ofTokens_eq_ok_iff] at h
  cases Reading.consumed_take h .start with
  | complete hd => exact hd

end MarkupChain.Script
