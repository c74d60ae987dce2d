/-!
# File trees

The directories, files and links of a machine by the names that lead to them from the root. A path
given on a command line is followed name by name, from the root if it starts with a slash and from
the working directory if not. A link leads on to the path that it holds. A slash at the end of a
path asks for a directory. Names and paths have a greatest length, no path holds a NUL, and only so
many links are followed.

Entries with the same number are one file. All that is there can be read, but some files cannot be
written and some directories take no new entries. Devices, pipes and the like are left out.
-/

namespace MarkupChain.Command

inductive Entry where
  /-- What the file holds is kept under its number. -/
  | file (number : Nat)
  | directory
  | link (path : String)
  deriving DecidableEq, Repr, Inhabited

/-- The names from the root down. -/
abbrev Path := List String

structure FileTree where
  entries : List (Path × Entry) := []
  contents : List (Nat × ByteArray) := []
  /-- The working directory. -/
  here : Path := []
  /-- The files that cannot be written. -/
  readOnly : List Nat := []
  /-- The directories in which nothing can be created. -/
  locked : List Path := []
  deriving Inhabited

/-- What stands at a path. The working directory is always there, and the directories on the way to
it or to an entry need no entry of their own. -/
def FileTree.get? (t : FileTree) (path : Path) : Option Entry :=
  if path.isPrefixOf t.here then some .directory
  else match t.entries.lookup path with
    | some entry => some entry
    | none => if t.entries.any fun e => path.isPrefixOf e.1 then some .directory else none

def FileTree.content (t : FileTree) (number : Nat) : ByteArray :=
  (t.contents.lookup number).getD .empty

/-- Replaces what a file holds. -/
def FileTree.fill (t : FileTree) (number : Nat) (content : ByteArray) : FileTree :=
  { t with contents := (number, content) :: t.contents.filter (·.1 != number) }

def FileTree.add (t : FileTree) (place : Path) (number : Nat) : FileTree :=
  { t with entries := (place, .file number) :: t.entries }

/-- Above the number of the file, if it is one. -/
def Entry.bound : Entry → Nat
  | .file number => number + 1
  | .directory | .link _ => 0

/-- A number that no entry has. -/
def FileTree.fresh (t : FileTree) : Nat := t.entries.foldr (fun e n => max e.2.bound n) 0

/-- Where a path leads. -/
inductive Target where
  | directory
  | file (number : Nat)
  /-- Nothing is there, in a directory that exists. -/
  | vacant (place : Path)
  /-- The path asks for a directory where there is none. -/
  | noDirectory
  /-- A directory on the way is missing. -/
  | noParent
  /-- A file stands on the way. -/
  | blocked
  /-- The path or a name on the way is longer than any can be. -/
  | tooLong
  | tooManyLinks
  /-- The path holds a NUL. -/
  | notPath
  deriving DecidableEq, Repr, Inhabited

/-- The greatest length of a name in bytes. -/
def nameLimit : Nat := 255

/-- The greatest length of a path in bytes. -/
def pathLimit : Nat := 4095

/-- How many links are followed on one way. -/
def linkLimit : Nat := 40

/-- The names between the slashes. -/
def pathNames (path : String) : List String := (path.toList.splitOn '/').map String.ofList

/-- The directory from which a path is followed that is given in the directory `dir`. -/
def origin (dir : Path) (path : String) : Path :=
  if path.toList.head? = some '/' then [] else dir

/-- A path ends here with a slash. -/
def onlySlashes (names : List String) : Bool := !names.isEmpty && names.all (· = "")

def Target.asDirectory : Target → Target
  | .directory => .directory
  | _ => .noDirectory

/-- Follows names from the directory `dir`. A link is handed to `jump` with the directory that it
stands in and the names behind it. -/
def FileTree.walk (t : FileTree) (jump : Path → String → List String → Target) (dir : Path) :
    List String → Target
  | [] => .directory
  | name :: rest =>
    if name = "" ∨ name = "." then t.walk jump dir rest
    -- The root is the directory above itself.
    else if name = ".." then t.walk jump dir.dropLast rest
    else match t.get? (dir ++ [name]) with
      | some .directory => t.walk jump (dir ++ [name]) rest
      | some (.link path) =>
        if onlySlashes rest then (jump dir path rest).asDirectory else jump dir path rest
      | some (.file number) =>
        if onlySlashes rest then .noDirectory
        else if rest = [] then .file number
        else .blocked
      | none =>
        if onlySlashes rest then .noDirectory
        else if nameLimit < name.utf8ByteSize then .tooLong
        else if rest = [] then .vacant (dir ++ [name])
        else .noParent

/-- Follows a path from the directory `dir`, then the names behind it. No more than `limit` paths
are followed, this one included. -/
def FileTree.follow (t : FileTree) : Nat → Path → String → List String → Target
  | 0, _, _, _ => .tooManyLinks
  | limit + 1, dir, path, rest =>
    if path.isEmpty then .noParent
    else t.walk (t.follow limit) (origin dir path) (pathNames path ++ rest)

def FileTree.target (t : FileTree) (path : String) : Target :=
  if path.toList.contains '\x00' then .notPath
  else if pathLimit < path.utf8ByteSize then .tooLong
  else t.follow (linkLimit + 1) t.here path []

end MarkupChain.Command
