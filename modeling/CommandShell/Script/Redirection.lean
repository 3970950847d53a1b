/-
This file holds redirections: what a descriptor is made to lead to. They are made
one after the other, and the first one that cannot be made is an error. If they are
for a while only, a descriptor is put away before it is made to lead elsewhere, and
is given back afterwards. Files are opened at the lowest free number first, and go
to their descriptor from there.
-/

import CommandShell.Script.Expansion
import CommandShell.Script.Search

namespace CommandShell

namespace Script

/-- A redirection that can be made. -/
structure Target where
  descriptor : Nat
  direction : Direction
  /-- How to get the value of the word. -/
  text : Run Text

/-- Report a file that could not be made. -/
def refuseCreation {α : Type} (path : Text) (fault : Fault) : Run α :=
  fail ("cannot create ".toList ++ path ++ ": ".toList ++
    openReason fault "Directory nonexistent")

/-- The mode of a file that the shell makes. -/
def Shell.newMode (shell : Shell) : Nat :=
  0o666 &&& (0o777 - shell.mask)

/-- Open a file to write to it, or make one. -/
def Shell.create (shell : Shell) (mode : WriteMode) (path : Path) :
    Except Fault (Handle × Shell) :=
  (shell.world.openFor mode path).map fun (handle, world) =>
    let tree := match shell.world.tree.get? handle.location, world.tree.get? handle.location with
      | none, some (.file _ content) =>
        world.tree.set handle.location (.file shell.newMode content)
      | _, _ => world.tree
    (handle, { shell with world := { world with tree := tree } })

/-- Whether a descriptor was put away since then. -/
def Shell.isAway (shell : Shell) (frame : Frame) (descriptor : Nat) : Bool :=
  (shell.away.take (shell.away.length - frame.away)).any (·.descriptor == descriptor)

/-- Put a descriptor away, if that is not done yet. It is closed even if it cannot be kept. -/
def putAway (frame : Frame) (descriptor : Nat) : Run Unit := do
  let shell ← get
  if !shell.isAway frame descriptor then
    match shell.channelOf? descriptor with
    | none => set { shell with away := ⟨descriptor, none⟩ :: shell.away }
    | some channel =>
      let closed := shell.connect descriptor none
      match shell.keptNumber with
      | .ok number =>
        set { closed with away := ⟨descriptor, some (number, channel)⟩ :: shell.away }
      | .error problem =>
        set closed
        fail (labelled (toString descriptor).toList problem)

/-- Give back what was put away since then. -/
def Shell.giveBackTo (shell : Shell) (frame : Frame) : Shell :=
  let count := shell.away.length - frame.away
  ((shell.away.take count).foldl
    (fun (shell : Shell) entry => shell.connect entry.descriptor (entry.kept.map (·.2)))
    { shell with away := shell.away.drop count }).release frame.channels

/-- Keep what descriptors have become since then. -/
def Shell.keepFrom (shell : Shell) (frame : Frame) : Shell :=
  { shell with away := shell.away.drop (shell.away.length - frame.away) }

/-- Let a descriptor lead to what is open at another number, and close that. A descriptor that cannot
be open stays closed. -/
def moveTo (frame : Option Frame) (number descriptor : Nat) : Run Unit := do
  if number = descriptor then
    modify fun shell =>
      match frame with
      | none => shell
      | some frame =>
        if shell.isAway frame descriptor then shell
        else { shell with away := ⟨descriptor, none⟩ :: shell.away }
  else
    frame.forM fun frame => putAway frame descriptor
    modify fun shell =>
      let moved := if descriptor < shell.openLimit then
        shell.connect descriptor (shell.channelOf? number) else shell
      moved.connect number none

/-- The lowest free number, at which a file can be opened. -/
def numberFor (start path : Text) : Run Nat := do
  let shell ← get
  let number := shell.freeNumber 0
  if shell.openLimit ≤ number then
    fail (start ++ path ++ ": ".toList ++ Fault.tooManyOpen.reason.toList)
  return number

/-- The start of a message about a file that could not be opened. -/
def openProblem : Text := "cannot open ".toList

/-- The start of a message about a file that could not be made. -/
def createProblem : Text := "cannot create ".toList

/-- Open the file that a redirection asks for, and give the number at which it is open. -/
def openTarget (direction : Direction) (text : Text) : Run Nat := do
  let path := bytesOf text
  match direction with
  | .text =>
    let number ← pipeNumber false
    modify fun shell => shell.attach number (.source path)
    return number
  | .read =>
    let number ← numberFor openProblem text
    let shell ← get
    match shell.world.tree.inspect shell.world.cwd path with
    | .error fault =>
      fail (openProblem ++ text ++ ": ".toList ++ openReason fault "No such file")
    | .ok (place, _) =>
      if !shell.world.mayRead place.location then
        fail (openProblem ++ text ++ ": ".toList ++ Fault.accessDenied.reason.toList)
      set ({ shell with world := shell.world.join place.location }.attach number
        (.file ⟨place.location, false, 0⟩ false))
      return number
  | direction =>
    let shell ← get
    if direction = .write && shell.has "noclobber" &&
        ((nodeAt shell text) matches some (.file ..)) then
      fail (createProblem ++ text ++ ": File exists".toList)
    let number ← numberFor createProblem text
    match shell.create (if direction = .write || direction = .overwrite then .truncate else .append)
        path with
    | .error fault => refuseCreation text fault
    | .ok (handle, shell) =>
      set (shell.attach number (if direction = .readWrite then
        .file { handle with appending := false } true else .sink (.file handle)))
      return number

/-- Let a descriptor lead to where a redirection says. If it is to be given back it is put away
first. -/
def redirect (frame : Option Frame) (target : Target) : Run Unit := do
  let text ← target.text
  match target.direction with
  | .copy =>
    if text = ['-'] then
      frame.forM fun frame => putAway frame target.descriptor
      modify fun shell => shell.connect target.descriptor none
    else if numberOf text ≠ target.descriptor then
      frame.forM fun frame => putAway frame target.descriptor
      let shell ← get
      match shell.channelOf? (numberOf text) with
      | some channel =>
        if target.descriptor < shell.openLimit then
          set (shell.connect target.descriptor (some channel))
        else fail (labelled text "Bad file descriptor")
      | none => fail (labelled text "Bad file descriptor")
  | direction => moveTo frame (← openTarget direction text) target.descriptor

/-- Let the descriptors lead to where the redirections say, or say that this does not work. They are
put away first if `givenBack` is set. -/
def redirectAll (givenBack : Bool) (targets : List Target) : Run Bool := do
  let frame := (← get).frame
  match ← attempt (targets.forM (redirect (if givenBack then some frame else none))) with
  | .ok _ => return true
  | .error .error => return false
  | .error jump => throw jump

/-- Run something under redirections, which are taken back afterwards, or something else if they
cannot be made. -/
def redirected (targets : List Target) (action otherwise : Run Nat) : Run Nat := do
  let frame := (← get).frame
  let result ← if ← redirectAll true targets then attempt action else attempt otherwise
  modify fun shell => shell.giveBackTo frame
  match result with
  | .ok status => return status
  | .error jump => throw jump

end Script

end CommandShell
