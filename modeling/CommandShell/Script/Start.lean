/-
This file says how a shell starts, and what is at the path of a command. A file in
no known format that looks like a text is a script.
-/

import CommandShell.Program.Launch
import CommandShell.Script.Builtin.Variable
import CommandShell.Script.Search

namespace CommandShell

namespace Script

/-! ### Shells -/

/-- What a shell gets from the process that starts it. -/
structure Setting where
  world : World
  channels : List Channel
  files : List (Nat × Nat)
  mask : Nat
  limits : Limits
  deaf : List Nat

/-- What a shell hands on to another one. -/
def Shell.setting (shell : Shell) : Setting :=
  ⟨shell.world, shell.channels, shell.files, shell.mask, shell.limits, shell.ignored⟩

/-- The shell at the start of a script. -/
def Shell.start (setting : Setting) (path : Text) (args : List Text) (entries : List Bytes) :
    Shell :=
  let world := setting.world
  let given := entries.filterMap fun entry =>
    let (name, value) := divideArgument (textOf entry)
    if isVariableName name then value.map fun value => (name, Variable.mk (some value) true false)
    else none
  let fixed : List (Text × Variable) :=
    [("IFS".toList, ⟨some [' ', '\t', '\n'], false, false⟩),
      ("OPTIND".toList, ⟨some ['1'], false, false⟩)]
  let usual : List (Text × Variable) :=
    [("PATH".toList, ⟨some usualList, false, false⟩),
      ("PS1".toList, ⟨some ['#', ' '], false, false⟩),
      ("PS2".toList, ⟨some ['>', ' '], false, false⟩),
      ("PS4".toList, ⟨some ['+', ' '], false, false⟩)]
  let parent : Text × Variable := ("PPID".toList,
    ⟨some (toString Shell.parentNumber).toList, (given.lookup "PPID".toList).isSome, false⟩)
  let all := (parent :: fixed ++ given.reverse ++ usual).foldl (fun vars entry =>
    if (vars.lookup entry.1).isSome then vars else vars ++ [entry]) []
  let here := world.cwd.path?.map textOf
  let spelled := (all.lookup "PWD".toList).bind (·.value) |>.filter fun path =>
    path.head? = some '/' && match world.tree.inspect world.cwd (bytesOf path) with
      | .ok (place, .directory) => place = world.cwd
      | _ => false
  let directory := (spelled.orElse fun _ => here).getD []
  { world := world, channels := setting.channels, files := setting.files, away := []
    reading := []
    directory := directory, name := path, parameters := args
    vars := ("PWD".toList, ⟨some directory, true, false⟩) ::
      all.filter fun entry => entry.1 ≠ "PWD".toList
    functions := [], aliases := [], tracked := [], options := [], mask := setting.mask
    limits := setting.limits, optionPlace := .start, traps := [], deaf := setting.deaf
    status := 0, interrupted := none, jobs := [], started := 0, prompting := false
    wholeTraps := none, outputStatus := 0, line := 0, reached := 0, title := none, loops := 0, load := 0
    pending := [], sent := [], locals := [] }

/-! ### Files -/

/-- The number of bytes by which a script is told from a compiled program. -/
def scriptHeadSize : Nat := 128

/-- Whether a byte does not stand in texts. -/
def isUnprintable (byte : UInt8) : Bool :=
  byte < 9 || (16 ≤ byte && byte < 32 && byte ≠ 27) || byte = 127

/-- Whether the first line of a file is no text. -/
def looksCompiled (text : Bytes) : Bool :=
  ((text.take scriptHeadSize).takeWhile (· != 10)).any isUnprintable

/-- What was loaded, unless it is a script that does not look like a text. -/
def refuseCompiled (loaded : Loaded) : Except Fault Loaded :=
  match loaded.code with
  | .script text _ => if looksCompiled text then .error .badFormat else .ok loaded
  | .program _ => .ok loaded

/-- The program or the script at a path. -/
def loadCode (shell : Shell) (path name : Text) (args : List Text) : Except Fault Loaded :=
  let world := shell.world
  let args := args.map bytesOf
  match world.load shell.busy world.cwd shell.entries (bytesOf path) (bytesOf name) args with
  | .error .badFormat =>
    (world.loadScript shell.busy world.cwd (bytesOf path) args).bind refuseCompiled
  | result => result

/-- The status of a command that could not be started. -/
def startFailureStatus (fault : Fault) : Nat :=
  if fault ∈ [.noEntry, .notDirectory, .tooManyLinks, .nameTooLong] then 127 else 126

end Script

end CommandShell
