/-
This file runs statements in parts of their own, which cannot change the shell
around them. They still act on the tree, on open files and on the terminal, and
they can send signals to the shell. A part ends like the last program in it, by a
signal if need be, when nothing is left to do after that program: the process
becomes the program then.
-/

import CommandShell.Script.Builtin.Job
import CommandShell.Script.Expansion
import CommandShell.Script.Line

namespace CommandShell

namespace Script

/-- The shell as it was before, with what cannot be taken back. -/
def Shell.resumed (before after : Shell) : Shell :=
  let shell := { before with
    world := { after.world with cwd := before.world.cwd }
    channels := after.channels.take before.channels.length }
  if before.wholeTraps.isSome then { shell with sent := after.sent ++ before.sent }
  else { shell with pending := after.sent ++ before.pending }

/-- Do what is to be done on a signal. -/
def runAnswer (again : Again) (text : Text) : Run Unit := do
  let before := (← get).interrupted
  modify fun shell => { shell with interrupted := some (before.getD shell.status) }
  let result ← attempt (runText again noPrompt false answerLoad .made text)
  modify fun shell => { shell with interrupted := before }
  match result with
  | .ok _ => return
  | .error jump => throw jump

/-- Run something to its end, and then what is to be done at the end. Only a signal is not an
end. -/
def runToEnd (again : Again) (action : Run Nat) : Run Status := do
  let finish (status : Nat) : Run Status := do
    modify fun shell => { shell with status := status }
    match (← get).traps.lookup 0 with
    | none => return .exited (status % 256)
    | some text =>
      modify fun shell =>
        { shell with
          interrupted := none, traps := shell.traps.filter fun entry => entry.1 ≠ 0 }
      match ← attempt (runAnswer again text) with
      | .error (.killed signal) => throw (.killed signal)
      | .error (.replaced status) => return status
      | .ok _ | .error .back => return .exited (status % 256)
      | .error _ => return .exited ((← get).status % 256)
  match ← attempt action with
  | .ok status => finish status
  | .error (.replaced status) => return status
  | .error (.killed signal) => throw (.killed signal)
  | .error .stuck => throw .stuck
  | .error _ => finish (← get).status

/-- Run something in a part of its own. What is done at the end of the shell is not done at the end
of the part, and the part has no jobs of the shell. -/
def isolated (again : Again) (action : Run Nat) : Run Status := do
  let before ← get
  set { before with
    traps := before.traps.filter (fun entry => entry.2 = []), reading := [], jobs := []
    pending := []
    sent := [], wholeTraps := some (before.wholeTraps.getD before.traps) }
  let result ← attempt (runToEnd again action)
  modify before.resumed
  match result with
  | .ok status => return status
  | .error jump => throw jump

/-- The signals that parts sent to the shell can be the end of it. The first of them counts. -/
def obeySignals : Run Unit := do
  let shell ← get
  match shell.pending.reverse.find? fun signal => shell.effect signal matches .finish with
  | some signal => throw (.killed signal)
  | none => return

/-- Wait for processes that have ended. -/
def settle (statuses : List Status) : Run Nat := do
  obeySignals
  statuses.forM reportSignal
  modify (·.waited)
  return (statuses.getLast?.map Status.code).getD 0

/-- The output of statements. -/
def outputOf (again : Again) : OutputOf := fun body => do
  let before ← get
  let _ ← pipeNumber false
  let channel := before.channels.length
  set (before.attach 1 (.sink .newPipe))
  let ended ← isolated again (again .whole body)
  modify fun shell => { shell with files := before.files }
  let status ← settle [ended]
  modify fun shell => { shell with outputStatus := status }
  let output := (← get).heldBy channel
  modify fun shell => shell.release channel
  return outputText output

/-- The value of a variable that holds a prompt. If it cannot be expanded it stands for itself. -/
def promptText (again : Again) (name : String) : Run Text := do
  let shell ← get
  let text := (shell.value? name.toList).getD []
  let result ← attempt (match readQuoted shell.aliases text with
    | .error malformed => do
      modify fun shell => { shell with line := malformed.line }
      fail ("Syntax error: " ++ malformed.problem.message).toList
    | .ok parts => expandText (outputOf again) (text.length + 1) parts)
  match result with
  | .ok expanded => return expanded
  | .error .error => return text
  | .error jump => throw jump

end Script

end CommandShell
