/-
This file holds the commands that send signals and say what is done about them, and
those that leave what is running.
-/

import CommandShell.Script.Builtin.Arguments

namespace CommandShell

namespace Script

/-! ### Leaving -/

/-- Leave with a status that is given, or else with another one. -/
def leaveWith (jump : Jump) (otherwise : Nat) (args : List Text) : Run Nat := do
  let status ← match args.head? with
    | some argument => count argument
    | none => pure otherwise
  modify fun shell => { shell with status := status }
  throw jump

/-- End the script. While something is done on a signal, the status before that counts. -/
def exitCommand (args : List Text) : Run Nat := do
  let shell ← get
  leaveWith .exit (shell.interrupted.getD shell.status) args

/-- End the function. -/
def returnCommand (args : List Text) : Run Nat := do
  leaveWith .back (← get).status args

/-- End loops, or go on with the next turn of one. -/
def loopCommand (jump : Nat → Jump) (args : List Text) : Run Nat := do
  let number ← match args.head? with
    | some argument => do
      let number ← count argument
      if number = 0 then fail ("Illegal number: ".toList ++ argument)
      pure number
    | none => pure 1
  let loops := (← get).loops
  if loops = 0 then return 0
  modify fun shell => { shell with status := 0 }
  throw (jump (min number loops))

/-! ### Signals -/

/-- Send a signal to the shell itself. In a part of its own, the shell around it gets the signal
when the part has ended. -/
def sendSelf (signal : Nat) : Run Unit := do
  let shell ← get
  match shell.effect signal, shell.wholeTraps with
  | .nothing, _ => return
  | _, some _ => set { shell with sent := signal :: shell.sent }
  | .answer, none => set { shell with pending := signal :: shell.pending }
  | .finish, none => throw (.killed signal)

/-- How signals are sent. -/
def killUsage : Text :=
  ("Usage: kill [-s sigspec | -signum | -sigspec] [pid | job]... or\n" ++
    "kill -l [exitstatus]").toList

/-- Send a signal to a process. A process in the background is there until its end was noticed. -/
def sendTo (signal process : Nat) : Run Nat := do
  let shell ← get
  if process = Shell.processNumber then
    sendSelf signal
    return 0
  if signal = 0 && [0, 1, Shell.parentNumber].contains process then return 0
  if shell.jobs.any fun job => job.process = process && !job.noticed then return 0
  warn "No such process\n".toList
  return 1

/-- Send a signal to processes and jobs. -/
def sendAll (signal : Nat) : List Text → Run Nat
  | [] => return 0
  | target :: rest => do
    let status ← match target with
      | '%' :: _ =>
        match (← get).jobs.find target with
        | .error problem => fail problem
        | .ok _ => sendTo signal 0
      | '-' :: group => do
        let _ ← count group
        sendTo signal 0
      | process => do sendTo signal (← count process)
    return max status (← sendAll signal rest)

/-- The names of all signals. -/
def signalList : Text :=
  "0\n".toList ++ ((List.range signalCount).drop 1).flatMap fun signal =>
    (signalName signal).toList ++ ['\n']

/-- Print the name of the signal that a number or a status means. -/
def nameSignal (argument : Text) : Run Nat := do
  let number ← count argument
  let number := if 128 < number then number - 128 else number
  if number = 0 ∨ signalCount ≤ number then
    fail ("invalid signal number or exit status: ".toList ++ argument)
  print "kill".toList ((signalName number).toList ++ ['\n'])

/-- What the options ask for: the list of signals, or a signal to be sent. -/
def signalOptions (options : List (Char × Text)) : Run (Bool × Option Nat) :=
  options.foldlM (fun (list, signal) (letter, argument) => do
    if letter = 'l' then return (true, signal)
    match signal? 1 argument with
    | some signal => return (list, some signal)
    | none => fail ("invalid signal number or name: ".toList ++ argument)) (false, none)

/-- Send signals. -/
def killCommand (args : List Text) : Run Nat := do
  if args = [] then fail killUsage
  let named := match args with
    | ('-' :: name) :: rest => (signal? 1 name).map fun signal => (signal, rest)
    | _ => none
  let ((list, signal), targets) ← match named with
    | some (signal, rest) => pure ((false, some signal), rest)
    | none => do
      let (options, targets) ← takeBundles [('l', false), ('s', true)] args.length args
      pure (← signalOptions options, targets)
  let signal := if list then signal else signal.orElse fun _ => some usualSignal
  if (signal.isNone || targets.isEmpty) != list then fail killUsage
  match list, targets with
  | true, [] => print "kill".toList signalList
  | true, argument :: _ => nameSignal argument
  | false, targets => sendAll (signal.getD usualSignal) targets

/-- Set what is done on signals. -/
def setTraps (action : Option Text) : List Text → Run Nat
  | [] => return 0
  | name :: rest => do
    match signal? 0 name with
    | none =>
      put 2 ("trap: ".toList ++ name ++ ": bad trap\n".toList)
      return 1
    | some signal =>
      modify fun shell =>
        { shell with
          traps := (action.toList.map fun action => (signal, action)) ++
            shell.traps.filter fun entry => entry.1 ≠ signal }
      setTraps action rest

/-- Set what is done on signals, or list it. -/
def trapCommand (args : List Text) : Run Nat := do
  let (_, args) ← takeOptions [] args
  match args with
  | [] =>
    let shell ← get
    print "trap".toList ((List.range signalCount).flatMap fun signal =>
      match shell.traps.lookup signal with
      | some action =>
        "trap -- ".toList ++ quotedText action ++ ' ' :: (signalName signal).toList ++ ['\n']
      | none => [])
  | [name] => setTraps none [name]
  | action :: names =>
    if action = ['-'] ∨ (action.all Char.isDigit ∧ action ≠ [] ∧ (signal? 0 action).isSome) then
      setTraps none (if action = ['-'] then names else args)
    else setTraps (some action) names

end Script

end CommandShell
