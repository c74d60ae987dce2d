import MarkupChain.Command.Run

/-!
# Places of files

A path leads to a file, or to a vacant place in a directory that exists, or to neither. Filling a
file changes what it holds, and every path leads where it did. A file that is added at a vacant
place stands there and nothing else changes; a path that led to the place, over links or not, leads
to the file.
-/

namespace MarkupChain.Command

/-! ### What files hold -/

theorem lookup_filter_of_ne {β : Type} {number other : Nat} (h : other ≠ number)
    (entries : List (Nat × β)) :
    (entries.filter (·.1 != number)).lookup other = entries.lookup other := by
  induction entries with
  | nil => rfl
  | cons e entries ih =>
    obtain ⟨key, value⟩ := e
    by_cases hkey : key = number
    · subst hkey
      rw [List.filter_cons_of_neg (by simp), ih, List.lookup_cons, beq_false_of_ne h]
    · rw [List.filter_cons_of_pos (by simpa using hkey), List.lookup_cons, List.lookup_cons, ih]

namespace FileTree

variable {t : FileTree}

theorem content_fill (t : FileTree) (number other : Nat) (content : ByteArray) :
    (t.fill number content).content other =
      if other = number then content else t.content other := by
  by_cases hother : other = number
  · subst hother
    simp [FileTree.content, fill]
  · rw [if_neg hother, FileTree.content, FileTree.content, fill, List.lookup_cons,
      beq_false_of_ne hother]
    dsimp only
    rw [lookup_filter_of_ne hother]

/-- What is written over does not matter. -/
theorem fill_fill (t : FileTree) (number : Nat) (old new : ByteArray) :
    (t.fill number old).fill number new = t.fill number new := by
  simp [fill]

theorem bound_le_fresh {e : Path × Entry} (h : e ∈ t.entries) : e.2.bound ≤ t.fresh := by
  unfold fresh
  generalize t.entries = entries at h ⊢
  induction entries with
  | nil => cases h
  | cons first entries ih =>
    rw [List.foldr_cons]
    rcases List.mem_cons.mp h with rfl | h
    · exact Nat.le_max_left ..
    · exact Nat.le_trans (ih h) (Nat.le_max_right ..)

/-- No file is found under the number that a new one gets. -/
theorem get?_ne_fresh (t : FileTree) (path : Path) : t.get? path ≠ some (.file t.fresh) := by
  intro h
  have hlookup : t.entries.lookup path = some (.file t.fresh) := by
    unfold get? at h
    split at h
    · cases h
    split at h
    · next entry hentry => rw [hentry, h]
    · split at h
      · cases h
      · cases h
  obtain ⟨before, after, hentries, -⟩ := List.lookup_eq_some_iff.mp hlookup
  have hbound := bound_le_fresh (t := t) (e := (path, .file t.fresh)) (by simp [hentries])
  exact absurd hbound (Nat.not_succ_le_self _)

/-! ### Directories that exist -/

/-- The directory and those it lies in exist. -/
def Exists (t : FileTree) (dir : Path) : Prop :=
  ∀ above, above <+: dir → t.get? above = some .directory

theorem exists_here (t : FileTree) : t.Exists t.here := by
  intro above h
  rw [get?, if_pos (List.isPrefixOf_iff_prefix.mpr h)]

theorem exists_root (t : FileTree) : t.Exists [] :=
  fun above h => t.exists_here above (h.trans List.nil_prefix)

theorem Exists.dropLast {dir : Path} (h : t.Exists dir) : t.Exists dir.dropLast :=
  fun above habove => h above (habove.trans (List.dropLast_prefix dir))

theorem Exists.enter {dir : Path} {name : String} (h : t.Exists dir)
    (hname : t.get? (dir ++ [name]) = some .directory) : t.Exists (dir ++ [name]) := by
  intro above habove
  rcases List.prefix_concat_iff.mp habove with rfl | habove
  · exact hname
  · exact h above habove

theorem Exists.origin {dir : Path} (h : t.Exists dir) (path : String) :
    t.Exists (origin dir path) := by
  unfold Command.origin
  split
  · exact t.exists_root
  · exact h

/-! ### Vacant places -/

/-- Nothing stands at the place, but the directory is there. -/
structure Vacant (t : FileTree) (place : Path) : Prop where
  nothing : t.get? place = none
  inside : t.Exists place.dropLast

namespace Vacant

variable {place : Path} (h : t.Vacant place)
include h

theorem not_prefix_here : place.isPrefixOf t.here = false := by
  have hnothing := h.nothing
  unfold get? at hnothing
  split at hnothing
  · cases hnothing
  · next hhere => exact Bool.eq_false_iff.mpr hhere

/-- A directory on the way to the place was one before, and no other is made. -/
theorem any_add {path : Path} (hpath : path ≠ place) (hhere : path.isPrefixOf t.here = false)
    (hlookup : t.entries.lookup path = none) (number : Nat) :
    ((t.add place number).entries.any fun e => path.isPrefixOf e.1) =
      t.entries.any fun e => path.isPrefixOf e.1 := by
  rw [add, List.any_cons]
  cases hplace : path.isPrefixOf place with
  | false => rfl
  | true =>
    have hdir : path <+: place.dropLast := by
      have hne : place ≠ [] := by
        rintro rfl
        exact hpath (List.prefix_nil.mp (List.isPrefixOf_iff_prefix.mp hplace))
      have hconcat := List.dropLast_concat_getLast hne
      rw [← hconcat, List.isPrefixOf_iff_prefix, List.prefix_concat_iff] at hplace
      exact hplace.resolve_left (by rwa [hconcat])
    have hthere := h.inside path hdir
    rw [get?, hhere, hlookup] at hthere
    have hany : (t.entries.any fun e => path.isPrefixOf e.1) = true := by simpa using hthere
    rw [hany]
    rfl

/-- What is added stands at the place and changes nothing else. -/
theorem get?_add (number : Nat) (path : Path) :
    (t.add place number).get? path =
      if path = place then some (.file number) else t.get? path := by
  have hsame : (t.add place number).here = t.here := rfl
  by_cases hpath : path = place
  · subst hpath
    rw [get?, hsame, h.not_prefix_here]
    simp [add]
  · have hlookup : (t.add place number).entries.lookup path = t.entries.lookup path := by
      rw [add, List.lookup_cons, beq_false_of_ne hpath]
    rw [if_neg hpath, get?, get?, hsame, hlookup]
    cases hhere : path.isPrefixOf t.here with
    | true => rfl
    | false =>
      cases hentry : t.entries.lookup path with
      | some entry => rfl
      | none => rw [h.any_add hpath hhere hentry]

theorem get?_add_of_some {path : Path} {entry : Entry} (hget : t.get? path = some entry)
    (number : Nat) : (t.add place number).get? path = some entry := by
  have hpath : path ≠ place := by
    rintro rfl
    rw [h.nothing] at hget
    cases hget
  rw [h.get?_add, if_neg hpath, hget]

end Vacant

end FileTree

/-! ### Following a path -/

/-- A name that stands for an entry of a directory. -/
structure Named (name : String) : Prop where
  notHere : ¬(name = "" ∨ name = ".")
  notUp : name ≠ ".."

theorem Target.asDirectory_ne_vacant (target : Target) (place : Path) :
    target.asDirectory ≠ .vacant place := by
  cases target <;> simp [asDirectory]

namespace FileTree

variable {t : FileTree} {jump : Path → String → List String → Target} {dir place : Path}
  {name path : String} {rest : List String}

theorem walk_here (h : name = "" ∨ name = ".") :
    t.walk jump dir (name :: rest) = t.walk jump dir rest := by
  rw [walk, if_pos h]

theorem walk_up : t.walk jump dir (".." :: rest) = t.walk jump dir.dropLast rest := by
  rw [walk, if_neg (by decide), if_pos rfl]

theorem walk_enter (hname : Named name) (hget : t.get? (dir ++ [name]) = some .directory) :
    t.walk jump dir (name :: rest) = t.walk jump (dir ++ [name]) rest := by
  rw [walk, if_neg hname.notHere, if_neg hname.notUp, hget]

theorem walk_link (hname : Named name) (hget : t.get? (dir ++ [name]) = some (.link path))
    (hrest : onlySlashes rest = false) :
    t.walk jump dir (name :: rest) = jump dir path rest := by
  rw [walk, if_neg hname.notHere, if_neg hname.notUp, hget]
  dsimp only
  rw [hrest, if_neg Bool.false_ne_true]

theorem walk_file {number : Nat} (hname : Named name)
    (hget : t.get? (dir ++ [name]) = some (.file number)) :
    t.walk jump dir [name] = .file number := by
  rw [walk, if_neg hname.notHere, if_neg hname.notUp, hget]
  rfl

/-- The steps of a path that leads to a vacant place: it stays, goes up, enters a directory, goes on
along a link, or names the place and ends. -/
theorem walk_cases (h : t.walk jump dir (name :: rest) = .vacant place) :
    ((name = "" ∨ name = ".") ∧ t.walk jump dir rest = .vacant place) ∨
    (name = ".." ∧ t.walk jump dir.dropLast rest = .vacant place) ∨
    (Named name ∧ t.get? (dir ++ [name]) = some .directory ∧
      t.walk jump (dir ++ [name]) rest = .vacant place) ∨
    (Named name ∧ ∃ path, t.get? (dir ++ [name]) = some (.link path) ∧
      onlySlashes rest = false ∧ jump dir path rest = .vacant place) ∨
    (Named name ∧ t.get? (dir ++ [name]) = none ∧ rest = [] ∧ dir ++ [name] = place) := by
  rw [walk] at h
  split at h
  · next hhere => exact .inl ⟨hhere, h⟩
  next hhere =>
  split at h
  · next hup => exact .inr (.inl ⟨hup, h⟩)
  next hup =>
  have hname : Named name := ⟨hhere, hup⟩
  split at h
  · next hget => exact .inr (.inr (.inl ⟨hname, hget, h⟩))
  · next path hget =>
    split at h
    · exact absurd h (Target.asDirectory_ne_vacant _ place)
    · next hrest =>
      exact .inr (.inr (.inr (.inl ⟨hname, path, hget, Bool.eq_false_iff.mpr hrest, h⟩)))
  · split at h
    · cases h
    split at h
    · cases h
    · cases h
  · next hget =>
    split at h
    · cases h
    split at h
    · cases h
    split at h
    · next hrest =>
      exact .inr (.inr (.inr (.inr ⟨hname, hget, hrest, Target.vacant.inj h⟩)))
    · cases h

/-- Names that lead to a vacant place lead to the file that is added there, if links do. -/
theorem Exists.walk_add {newJump : Path → String → List String → Target} {number : Nat}
    (hjump : ∀ dir path rest, t.Exists dir → jump dir path rest = .vacant place →
      t.Vacant place ∧ newJump dir path rest = .file number)
    {names : List String} (hdir : t.Exists dir) (h : t.walk jump dir names = .vacant place) :
    t.Vacant place ∧ (t.add place number).walk newJump dir names = .file number := by
  induction names generalizing dir with
  | nil => cases h
  | cons name rest ih =>
    rcases walk_cases h with ⟨hhere, hrest⟩ | ⟨rfl, hrest⟩ | ⟨hname, hget, hrest⟩ |
      ⟨hname, path, hget, hslashes, hrest⟩ | ⟨hname, hget, rfl, rfl⟩
    · rw [walk_here hhere]
      exact ih hdir hrest
    · rw [walk_up]
      exact ih hdir.dropLast hrest
    · obtain ⟨hvacant, hwalk⟩ := ih (hdir.enter hget) hrest
      rw [walk_enter hname (hvacant.get?_add_of_some hget number)]
      exact ⟨hvacant, hwalk⟩
    · obtain ⟨hvacant, hlink⟩ := hjump dir path rest hdir hrest
      rw [walk_link hname (hvacant.get?_add_of_some hget number) hslashes]
      exact ⟨hvacant, hlink⟩
    · have hvacant : t.Vacant (dir ++ [name]) := ⟨hget, by rwa [List.dropLast_concat]⟩
      refine ⟨hvacant, walk_file hname ?_⟩
      rw [hvacant.get?_add, if_pos rfl]

theorem Exists.follow_add {limit number : Nat} (hdir : t.Exists dir)
    (h : t.follow limit dir path rest = .vacant place) :
    t.Vacant place ∧ (t.add place number).follow limit dir path rest = .file number := by
  induction limit generalizing dir path rest with
  | zero => cases h
  | succ limit ih =>
    rw [follow] at h ⊢
    split at h
    · cases h
    next hpath =>
    rw [if_neg hpath]
    exact (hdir.origin path).walk_add (fun dir path rest hdir hjump => ih hdir hjump) h

theorem target_add (h : t.target path = .vacant place) (number : Nat) :
    t.Vacant place ∧ (t.add place number).target path = .file number := by
  unfold target at h ⊢
  split at h
  · cases h
  next hnul =>
  rw [if_neg hnul]
  split at h
  · cases h
  next hlong =>
  rw [if_neg hlong]
  exact t.exists_here.follow_add h

/-! ### Filling a file -/

theorem walk_fill (t : FileTree) (jump : Path → String → List String → Target) (dir : Path)
    (names : List String) (number : Nat) (content : ByteArray) :
    (t.fill number content).walk jump dir names = t.walk jump dir names := by
  have hget : (t.fill number content).get? = t.get? := rfl
  induction names generalizing dir with
  | nil => rfl
  | cons name rest ih => simp only [walk, hget, ih]

theorem follow_fill (t : FileTree) (limit number : Nat) (content : ByteArray) :
    (t.fill number content).follow limit = t.follow limit := by
  induction limit with
  | zero => rfl
  | succ limit ih =>
    funext dir path rest
    rw [follow, follow, ih, walk_fill]

/-- No path leads elsewhere when a file is filled. -/
theorem target_fill (t : FileTree) (path : String) (number : Nat) (content : ByteArray) :
    (t.fill number content).target path = t.target path := by
  rw [target, target, follow_fill]
  rfl

end FileTree

end MarkupChain.Command
