/-
This file holds paths as they are written and the places they lead to. A path
is a byte string; nothing about it is normalised when two are joined. Following
a path is a list of steps, one for each piece between slashes. The place a path
leads to is a list of names from the root, and a name can be neither empty nor
`.` nor `..` and holds no slash, so a place has exactly one spelling.
-/

import CommandShell.Bytes

namespace CommandShell

/-- The byte that separates the pieces of a path. -/
def slash : UInt8 := 47

/-- The byte of which the two relative names are made. -/
def dot : UInt8 := 46

/-- What may stand as a name in a directory. -/
def IsName (bytes : Bytes) : Prop :=
  bytes ≠ [] ∧ slash ∉ bytes ∧ bytes ≠ [dot] ∧ bytes ≠ [dot, dot]

instance (bytes : Bytes) : Decidable (IsName bytes) :=
  inferInstanceAs (Decidable (_ ∧ _ ∧ _ ∧ _))

/-- The name of an entry of a directory. -/
structure Name where
  bytes : Bytes
  isName : IsName bytes
  deriving DecidableEq

/-- A place in the tree of files: the names on the way from the root. -/
abbrev Location := List Name

/-- A path as it is written. -/
abbrev Path := Bytes

/-- One step on the way along a path. -/
inductive Step
  /-- Remain in the directory. -/
  | stay
  /-- Go to the directory above. -/
  | up
  /-- Go to the entry of this name. -/
  | down (name : Name)
  /-- The path ends in a slash, so a directory has to be reached here. -/
  | close
  deriving DecidableEq

/-- The step that a piece between slashes stands for. An empty piece stands for none. -/
def Step.ofPiece? (piece : Bytes) : Option Step :=
  if isName : IsName piece then some (.down ⟨piece, isName⟩)
  else if piece = [dot] then some .stay
  else if piece = [dot, dot] then some .up
  else none

namespace Path

/-- Whether the path starts at the root. -/
def isAbsolute (path : Path) : Bool :=
  path.head? == some slash

/-- Whether the path ends in a slash. -/
def endsInSlash (path : Path) : Bool :=
  path.getLast? == some slash

/-- The path that `path` stands for when it is read in the directory `base`. -/
def join (base path : Path) : Path :=
  if isAbsolute path then path
  else if base = [] ∨ endsInSlash base then base ++ path
  else base ++ slash :: path

/-- The steps along a path. -/
def steps (path : Path) : List Step :=
  (path.splitOn slash).filterMap Step.ofPiece? ++ if endsInSlash path then [.close] else []

theorem join_absolute {path : Path} (absolute : isAbsolute path = true) (base : Path) :
    join base path = path := by
  simp [join, absolute]

end Path

/-- The one spelling of a place. -/
def Location.path : Location → Path
  | [] => [slash]
  | names => names.flatMap fun name => slash :: name.bytes

theorem Location.path_isAbsolute (location : Location) :
    Path.isAbsolute location.path = true := by
  cases location <;> rfl

/-- How a typed command name is to be looked for. -/
inductive CommandName
  /-- There is nothing to look for. -/
  | nothing
  /-- A single name, to be looked for in the search list. -/
  | plain (name : Name)
  /-- A path of its own. -/
  | path

/-- The form of a command name. Slashes at the end and pieces `.` other than a leading one do not
count, so `tool`, `tool/` and `tool/.` are all the plain name `tool`. -/
def CommandName.ofPath (path : Path) : CommandName :=
  if path = [] then .nothing
  else if Path.isAbsolute path ∨ (path.splitOn slash).head? = some [dot] then .path
  else
    match path.steps.filter fun step => step ≠ .stay ∧ step ≠ .close with
    | [.down name] => .plain name
    | _ => .path

end CommandShell
