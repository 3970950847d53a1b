/-
This file runs the lines of a script one after the other. A line is read only when
the ones before it have run, so that an alias counts from the line after it on, and
so that a script can add lines to its own file. What runs a statement is given to
the definitions here, because statements hold texts that are scripts themselves.
-/

import CommandShell.Script.Shell
import CommandShell.Script.Grammar

namespace CommandShell

namespace Script

/-- Where a statement stands. -/
structure Position where
  /-- Whether its status is looked at, so that a failure does not end the script. -/
  tested : Bool
  /-- Whether its process has nothing else to do. -/
  last : Bool

namespace Position

/-- The position of a statement that decides whether others run. -/
def deciding : Position := ⟨true, false⟩

/-- The position of all that a process does. -/
def whole : Position := ⟨false, true⟩

/-- The same position, but with something to do afterwards. -/
def early (position : Position) : Position := { position with last := false }

end Position

/-- What runs the statements inside a statement. -/
abbrev Again := Position → Statement → Run Nat

/-! ### Lines -/

/-- The place in a text up to which it was fetched if so much of it is left. Lines are fetched
whole. -/
def fetchedUpTo (text : Text) (left : Nat) : Nat :=
  let read := text.length - left
  if (text.take read).getLast?.all (· == '\n') then read
  else read + ((text.drop read).takeWhile (· != '\n')).length + 1

/-- Where the lines of a script come from. -/
inductive Origin
  /-- They were made by the shell. -/
  | made
  /-- They are lines of an open file, of which this much was read. -/
  | file (text : Bytes) (handle : Handle)

/-- The characters of a script. Zeros do not count. -/
def scriptText (text : Bytes) : Text :=
  (textOf text).filter (·.toNat != 0)

/-- A file from which a script was read. -/
def Origin.ofFile (text : Bytes) (place : Location) : Origin :=
  .file text ⟨place, false, text.length⟩

/-- The lines that are fetched between two places of a script, of which it is told how much is left
there. -/
def Origin.lines (origin : Origin) (before after : Nat) : Text :=
  match origin with
  | .made => []
  | .file text _ =>
    let letters := scriptText text
    (letters.take (fetchedUpTo letters after)).drop (fetchedUpTo letters before)

/-- A line that was read. -/
structure Fetched where
  result : Except Malformed (Option Statement × Source)
  origin : Origin
  /-- The script as it was before the line. -/
  before : Source

/-- Read a line. Where a file comes to its end, what it has got since it was read is read too. -/
def Origin.fetch (origin : Origin) (source : Source) (world : World) : Fetched :=
  let result := readLine source
  let finished := match result with
    | .error malformed => malformed.left == 0
    | .ok (_, next) => next.isFinished
  match origin with
  | .made => ⟨result, origin, source⟩
  | .file text handle =>
    let more := if finished then Shell.fileRest world handle else []
    if more = [] then ⟨result, origin, source⟩
    else
      let source := source.extended (scriptText more)
      ⟨readLine source,
        .file (text ++ more) { handle with offset := handle.offset + more.length }, source⟩

/-! ### Prompts -/

/-- How to get the prompt for a line, which is the `first` one of a statement or goes on with it. -/
abbrev Prompt := (first : Bool) → Run Text

/-- No prompt. -/
def noPrompt : Prompt := fun _ => return []

/-- The lines of a text with their ends. -/
def linesOf (text : Text) : List Text :=
  text.foldr (fun character lines =>
    match lines with
    | [] => [[character]]
    | line :: rest =>
      if character = '\n' then [character] :: line :: rest else (character :: line) :: rest) []

/-- Ask for lines, and show what was read. -/
def showEachLine (prompt : Prompt) : (first : Bool) → List Text → Run Unit
  | _, [] => return
  | first, line :: rest => do
    if (← get).has "interactive" then put 2 (← prompt first)
    if (← get).has "verbose" then put 2 line
    showEachLine prompt false rest

/-- Ask for the lines between two places of a script, and show them. If the script `ended` there it
was asked for one more, unless the last one has no end. -/
def showLines (prompt : Prompt) (origin : Origin) (before after : Nat) (ended : Bool) :
    Run Unit := do
  let shell ← get
  if shell.has "verbose" || shell.has "interactive" then
    let text := origin.lines before after
    let more := if ended && text.getLast?.all (· == '\n') then [[]] else []
    showEachLine prompt true (linesOf text ++ more)

/-- What is said at the end of an input that is not taken for the end of the shell. -/
def endReminder : Text := "\nUse \"exit\" to leave shell.\n".toList

/-- How often the end of the input may not be taken for the end of the shell. -/
def reminderLimit : Nat := 50

/-- Say something at the end of the input so often, and go on. -/
def remind (prompt : Prompt) : (times : Nat) → Run Unit
  | 0 => return
  | times + 1 => do
    put 2 endReminder
    if (← get).has "interactive" then put 2 (← prompt true)
    remind prompt times

/-- Come to the end of the input. -/
def endInput (prompt : Prompt) : Run Unit := do
  let shell ← get
  if shell.has "ignoreeof" then remind prompt reminderLimit
  else if shell.has "interactive" then put 2 ['\n']

/-! ### Scripts -/

/-- Run the lines of a script. What the script itself adds to its file is run too. -/
def runLines (again : Again) (prompt : Prompt) (tested : Bool) :
    (steps : Nat) → Origin → (status : Nat) → Source → Run Nat
  | 0, _, _, _ => throw .stuck
  | steps + 1, origin, status, source => do
    let shell ← get
    let ⟨result, origin, before⟩ :=
      origin.fetch { source with aliases := shell.aliases } shell.world
    match result with
    | .error malformed => do
      showLines prompt origin before.left malformed.left (malformed.left == 0)
      modify fun shell => { shell with line := malformed.line }
      fail ("Syntax error: " ++ malformed.problem.message).toList
    | .ok (statement, next) => do
      showLines prompt origin before.left next.left statement.isNone
      match statement with
      | none => return status
      | some (.sequence []) => runLines again prompt tested steps origin status next
      | some statement => do
        modify fun shell => { shell with reached := next.line }
        runLines again prompt tested steps origin (← again ⟨tested, false⟩ statement) next

/-- The number of lines that aliases and the script itself may add to a script. -/
def addedLimit : Nat := 1000000

/-- The number of bytes that a process may need for scripts inside each other. -/
def loadLimit : Nat := 0x800000

/-- The number of bytes that a process needs for a text that a command runs. -/
def textLoad : Nat := 1050

/-- The number of bytes that a process needs for a script in a file. -/
def fileLoad : Nat := 1485

/-- The number of bytes that a process needs for what is done on a signal. -/
def answerLoad : Nat := 516

/-- Run a text as a script, for which the process needs so many bytes. -/
def runText (again : Again) (prompt : Prompt) (tested : Bool) (load : Nat) (origin : Origin)
    (text : Text) : Run Nat := do
  let before ← get
  if loadLimit < before.load + load then overflow
  set { before with load := before.load + load }
  let result ← attempt
    (runLines again prompt tested (text.length + addedLimit) origin 0 (Source.start text 1))
  modify fun shell => { shell with load := before.load }
  match result with
  | .ok status =>
    modify fun shell => { shell with reached := before.reached }
    return status
  | .error jump => throw jump

/-- Run the script in a file. -/
def runFile (again : Again) (prompt : Prompt) (text : Bytes) (place : Location) : Run Nat :=
  runText again prompt false fileLoad (.ofFile text place) (scriptText text)

end Script

end CommandShell
