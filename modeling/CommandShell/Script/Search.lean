/-
This file holds the search for programs. A name without a slash is looked for in
the directories of a list, one after the other, and the place in the list where it
was found is kept in mind. It counts until the list changes. When the shell goes
to another directory, only the places that depend on that are looked at again.
-/

import CommandShell.Script.Condition

namespace CommandShell

namespace Script

/-- The list of directories in which programs are looked for if there is none. -/
def usualList : Text :=
  "/usr/local/sbin:/usr/local/bin:/usr/sbin:/usr/bin:/sbin:/bin".toList

/-- The directories in which the programs of the system are. -/
def systemList : List Text :=
  ["/usr/sbin".toList, "/usr/bin".toList, "/sbin".toList, "/bin".toList]

/-- The path of a name in a directory of a list. The empty directory is that of the shell. -/
def pathBelow (name entry : Text) : Text :=
  if entry = [] then name else entry ++ '/' :: name

/-- Whether a fault means that there is nothing at a path. -/
def meansMissing (fault : Fault) : Bool :=
  fault = .noEntry || fault = .notDirectory

/-- The reason why a file could not be opened. -/
def openReason (fault : Fault) (missing : String) : Text :=
  if meansMissing fault then missing.toList else fault.reason.toList

/-- The first place from `place` on in a list of directories where a program of this name is, or why
there is none. If it was found at a place before, then it still is in a directory that does not
depend on where the shell is, and not in those before that one. -/
def searchPlace (shell : Shell) (name : Text) (before : Option Nat) (missing : Fault)
    (place : Nat) : List Text → Except Fault Nat
  | [] => .error missing
  | entry :: rest =>
    let path := pathBelow name entry
    if path.head? = some '/' && before.any (place < ·) then
      searchPlace shell name before missing (place + 1) rest
    else if path.head? = some '/' && before = some place then .ok place
    else
      match shell.world.tree.inspect shell.world.cwd (bytesOf path) with
      | .ok (_, .file mode _) =>
        if grants mode .start then .ok place
        else searchPlace shell name before .accessDenied (place + 1) rest
      | .ok _ => searchPlace shell name before .accessDenied (place + 1) rest
      | .error fault =>
        searchPlace shell name before (if meansMissing fault then missing else fault)
          (place + 1) rest

namespace Shell

/-- The directories in which programs are looked for. -/
def searchList (shell : Shell) : List Text :=
  ((shell.value? "PATH".toList).getD []).splitOn ':'

/-- The path of a name at a place in the list of directories. -/
def pathAt (shell : Shell) (name : Text) (place : Nat) : Text :=
  pathBelow name ((shell.searchList[place]?).getD [])

/-- The program of this name, if it was found before. -/
def tracked? (shell : Shell) (name : Text) : Option Tracked :=
  shell.tracked.find? fun entry => entry.name = name

/-- Keep in mind where a program is. One that was found before keeps its age. -/
def track (shell : Shell) (entry : Tracked) : Shell :=
  { shell with
    tracked :=
      if (shell.tracked? entry.name).isSome then
        shell.tracked.map fun other => if other.name = entry.name then entry else other
      else shell.tracked ++ [entry] }

/-- Forget where a program is. -/
def untrack (shell : Shell) (name : Text) : Shell :=
  { shell with tracked := shell.tracked.filter fun entry => entry.name ≠ name }

end Shell

/-- The place in the list of directories where a program is, or why there is none. -/
def locate (name : Text) : Run (Except Fault Nat) := do
  let shell ← get
  let known := shell.tracked? name
  match known with
  | some ⟨_, place, false⟩ => return .ok place
  | _ =>
    let found := searchPlace shell name (known.map (·.place)) .noEntry 0 shell.searchList
    match found with
    | .ok place => set (shell.track ⟨name, place, false⟩)
    | .error _ => set (shell.untrack name)
    return found

/-- The script that is to be run in this shell. A name without a slash is looked for in the list of
directories. -/
def findSourced (shell : Shell) (name : Text) : Option Text :=
  if name.contains '/' then some name
  else
    (shell.searchList.map (pathBelow name)).find? fun path =>
      (nodeAt shell path) matches some (.file ..)

end Script

end CommandShell
