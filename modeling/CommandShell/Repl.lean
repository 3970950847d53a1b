/-
This file runs the lines of an input one after the other, until a line ended the
session or the input is at its end. A failing line does not end anything. A line
that is not text does, and so does one in which a backspace would cut a character
in two: the shell stops there with an error. It does not even come to the first line
if a variable of its process is not text.

The input is not a keyboard, so there is no prompt. Only on a terminal of which it
is known that lines cannot be edited there does the shell print one before it
reads a line, or finds that there is none.

What the log says has the time in it, and what is said about a panic has the number
of a thread. These texts are not made here. They are given to the shell as functions
of the state in which they are printed.
-/

import CommandShell.Course
import CommandShell.Line

namespace CommandShell

/-! ### The prompt -/

/-- The terminals on which lines cannot be edited. -/
def plainTerminals : List String := ["dumb", "cons25", "emacs"]

/-- Whether the process is on a terminal on which lines cannot be edited. The names of terminals
are compared without regard to the case of their letters. -/
def onPlainTerminal (world : World) : Bool :=
  match world.var? "TERM" with
  | none => false
  | some name => plainTerminals.contains (String.ofList (name.toList.map Char.toLower))

/-- What is printed before a line is read. -/
def promptOn (world : World) : Bytes :=
  if onPlainTerminal world then utf8 "$ " else []

/-! ### Notices -/

/-- The texts on the terminal's standard error that the shell does not make itself. -/
structure Notices where
  /-- What is logged about a fault of the shell, which is nothing if the log is silent. -/
  logged : World → Fault → Bytes
  /-- What is said when the shell gives up. -/
  panicked : World → Bytes

/-- No notices at all. -/
def Notices.silent : Notices := ⟨fun _ _ => [], fun _ => []⟩

/-- What is said about an input line that is not text. -/
def notTextMessage : String :=
  "Error: stream did not contain valid UTF-8\n\nCaused by:\n" ++
    "    stream did not contain valid UTF-8\n"

/-- The status of a shell that met a line that is not text. -/
def statusNotText : Nat := 1

/-- The status of a shell that gave up. -/
def statusBroken : Nat := 101

/-! ### Running lines -/

/-- The status of the shell and the world it left behind. -/
structure ReplResult where
  status : Nat
  world : World

variable (notices : Notices)

/-- The shell gives up. -/
def giveUp (world : World) : ReplResult :=
  ⟨statusBroken, world.print .stderr (notices.panicked world)⟩

/-- Run one line, and let the programs go on that it left behind. A fault of the shell itself is
logged and complained about. -/
def runLine (session : Session) (line : String) (world : World) : Session × World :=
  let outcome := executeLine session line world
  let world := outcome.world.settle
  match outcome.result with
  | .ok _ => (outcome.session, world)
  | .error fault =>
    (outcome.session, complain (world.print .stderr (notices.logged world fault)) fault.message)

/-- Run lines until the session is to end. -/
def runLines (prompt : Bytes) (session : Session) : List Bytes → World → ReplResult
  | [], world =>
    if session.exiting then ⟨0, world⟩
    else ⟨0, world.print .stdout prompt⟩
  | line :: rest, world =>
    if session.exiting then ⟨0, world⟩
    else
      let world := world.print .stdout prompt
      match readLine line with
      | .notText => ⟨statusNotText, world.print .stderr (utf8 notTextMessage)⟩
      | .cut => giveUp notices world
      | .text text =>
        let (session, world) := runLine notices session text world
        runLines prompt session rest world

/-- The session that a shell starts with, if the variables of its process are text. -/
def firstSession? (world : World) : Option Session :=
  (Vars.ofEntries? world.entries).map fun vars => .start vars (world.cwd.path?.getD [dot])

/-- A shell over the variables and the directory of the process that reads this input to its
end. -/
def repl (input : Bytes) (world : World) : ReplResult :=
  match firstSession? world with
  | none => giveUp notices world
  | some session =>
    runLines notices (promptOn world) session (inputLines input) { world with unread := [] }

end CommandShell
