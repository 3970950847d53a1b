/-
This file runs scripts. Every kind of statement has its own definition, which is
given what runs the statements inside it; tying that to itself is a recursion on
how deep they may be nested. Stages of a pipeline run from left to right,
each on what the one before it wrote.
-/

import CommandShell.Script.Command

namespace CommandShell

namespace Script

/-! ### Statements -/

/-- Look for the program of a stage before the stage runs, if its name is written plainly. -/
def locateStage : Statement → Run Unit
  | .simple _ _ (word :: _) _ => do
    match plainText? word with
    | some name =>
      if isVariableName name && !(← get).knows name then
        let _ ← locate name
    | none => return
  | _ => return

/-- Run the stages of a pipeline, each in a part of its own. -/
def runStages (again : Again) (tested : Bool) : (first : Bool) → List Statement → Run (List Status)
  | _, [] => return []
  | _, [last] => do
    locateStage last
    return [← isolated again (again ⟨tested, true⟩ last)]
  | first, stage :: rest => do
    locateStage stage
    let _ ← pipeNumber (!first)
    let before ← get
    let channel := before.channels.length
    let run (limit : Option Nat) : Run (List Status) := do
      set (before.attach 1 (.sink (Sink.newPipe.limited limit)))
      let status ← isolated again (again ⟨tested, true⟩ stage)
      modify fun shell =>
        { shell with files := before.files }.attach 0 (.source (shell.heldBy channel))
      let others ← runStages again tested false rest
      return status :: others
    let (result, shell) := overPipe (fun limit => (run limit).run.run before)
      fun limit ended =>
        ended.2.writtenTo channel == limit && (ended.2.leftIn (channel + 1)).isEmpty
    set ({ shell with files := before.files }.release channel)
    match result with
    | .ok statuses => return statuses
    | .error jump => throw jump

/-- Run a statement in a part of its own, under redirections. If nothing is left to do afterwards,
this is the same process. -/
def runApart (again : Again) (position : Position) (targets : List Target) (body : Statement) :
    Run Nat := do
  let becomes := position.last && !(← get).hasTraps
  let status ← isolated again do
    if ← redirectAll false targets then again { position with last := true } body
    else return errorStatus
  if becomes then throw (.replaced status) else settle [status]

/-- Run a statement in the background. -/
def runBehind (again : Again) (targets : List Target) (body : Statement) : Run Nat := do
  let before ← get
  set (before.attach 0 (.source []))
  let statuses ← match body with
    | .pipeline _ stages => runStages again false true stages
    | body => do
      let status ← isolated again do
        if ← redirectAll false targets then again .whole body else return errorStatus
      pure [status]
  modify fun shell =>
    { shell with
      files := before.files
      channels := shell.channels.take before.channels.length
      started := shell.started + 1
      jobs := shell.jobs.start (Shell.processNumber + shell.started + 1) statuses.dropLast
        (statuses.getLast?.getD (.exited 0)) }
  obeySignals
  return 0

/-- How a loop goes on after a turn. -/
inductive Turn
  /-- With the next turn. -/
  | next (status : Nat)
  /-- Not at all, with a status if the turn gave it one. -/
  | done (status : Option Nat)

/-- Take a turn of a loop. It has no status if the loop is over. Jumps that mean this loop end
here. -/
def takeLoopTurn (action : Run (Option Nat)) : Run Turn := do
  modify fun shell => { shell with loops := shell.loops + 1 }
  let result ← attempt action
  modify fun shell => { shell with loops := shell.loops - 1 }
  match result with
  | .ok (some status) => return .next status
  | .ok none => return .done none
  | .error (.leave 1) => return .done (some 0)
  | .error (.resume 1) => return .next 0
  | .error (.leave loops) => throw (.leave (loops - 1))
  | .error (.resume loops) => throw (.resume (loops - 1))
  | .error jump => throw jump

/-- The number of turns that a loop may take in a process that may take so much time only. -/
def timedLoopLimit : Nat := 50000

/-- Go on no longer. If the time of the process is limited that is the end of it. -/
def outOfTurns {α : Type} : Run α := do
  match (← get).limits.get? 't' with
  | some limit =>
    if limit.soft = Limit.unlimited then throw .stuck
    throw (.replaced (.signalled (if limit.soft = limit.hard then killSignal else timeSignal)))
  | none => throw .stuck

/-- Run a loop with a condition. -/
def runLoop (again : Again) (tested untilTrue : Bool) (test body : Statement) :
    (steps : Nat) → (status : Nat) → Run Nat
  | 0, _ => outOfTurns
  | steps + 1, status => do
    let turn ← takeLoopTurn do
      let truth ← again .deciding test
      if (truth == 0) == untilTrue then return none
      return some (← again ⟨tested, false⟩ body)
    match turn with
    | .next status => runLoop again tested untilTrue test body steps status
    | .done given => return given.getD status

/-- Run a loop over values. -/
def runEach (again : Again) (tested : Bool) (name : Text) (body : Statement) :
    (status : Nat) → List Text → Run Nat
  | status, [] => return status
  | _, value :: rest => do
    setVariable name value false
    match ← takeLoopTurn (do return some (← again ⟨tested, false⟩ body)) with
    | .next status => runEach again tested name body status rest
    | .done given => return given.getD 0

/-- Run the first branch with a pattern that matches. -/
def runCases (again : Again) (depth : Nat) (position : Position) (text : Text) :
    List (List (List Part) × Statement) → Run Nat
  | [] => return 0
  | (patterns, body) :: rest => do
    let rec firstMatch : List (List Part) → Run Bool
      | [] => return false
      | pattern :: others => do
        if matchesText (← expandPattern (outputOf again) depth pattern) text then return true
        firstMatch others
    if ← firstMatch patterns then again position body
    else runCases again depth position text rest

/-- Run statements one after the other. -/
def runSequence (again : Again) (position : Position) : (status : Nat) → List Statement → Run Nat
  | status, [] => return status
  | _, [statement] => again position statement
  | _, statement :: rest => do
    runSequence again position (← again position.early statement) rest

/-- Go to a line. -/
def atLine (line : Nat) : Run Unit :=
  modify fun shell => { shell with line := line }

/-- End the script if it ends by the failure of a statement in this position. -/
def endBy (position : Position) (status : Nat) : Run Nat := do
  if !position.tested && status ≠ 0 && (← get).has "errexit" then
    modify fun shell => { shell with status := status }
    throw .exit
  return status

/-- Run a statement. -/
def step (again : Again) (depth : Nat) (position : Position) : Statement → Run Nat
  | .simple line assignments words redirections => do
    atLine line
    runSimple again depth position assignments words redirections
  | .pipeline _ stages => do settle (← runStages again position.tested true stages)
  | .negation body => do
    let status ← again .deciding body
    return if status = 0 then 1 else 0
  | .both first second => do
    let status ← again .deciding first
    if status = 0 then again position second else return status
  | .either first second => do
    let status ← again .deciding first
    if status = 0 then return status else again position second
  | .sequence statements => runSequence again position 0 statements
  | .background (.redirected line body redirections) => do
    atLine line
    runBehind again (← expandTargets again depth redirections) body
  | .background body => runBehind again [] body
  | .apart line body => do
    atLine line
    runApart again position [] body
  | .redirected line (.apart _ body) redirections => do
    atLine line
    runApart again position (← expandTargets again depth redirections) body
  | .redirected line body redirections => do
    atLine line
    let targets ← expandTargets again depth redirections
    redirected targets (again position.early body) (endBy position errorStatus)
  | .choice test body otherwise => do
    let status ← again .deciding test
    if status = 0 then again position body else again position otherwise
  | .loop untilTrue test body => do
    let shell ← get
    let timed := (shell.limits.soft? 't').any (· ≠ Limit.unlimited)
    let turns := if timed then timedLoopLimit else shell.world.patience
    runLoop again position.tested untilTrue test body turns 0
  | .each line name words body => do
    atLine line
    let values ← match words with
      | none => do pure (← get).parameters
      | some words => expandWords (outputOf again) depth words
    runEach again position.tested name body 0 values
  | .cases line word branches => do
    atLine line
    let text ← expandText (outputOf again) depth word
    runCases again depth position text branches
  | .function name body => do
    modify fun shell =>
      { shell.untrack name with
        functions := (name, body) :: shell.functions.filter fun entry => entry.1 ≠ name }
    return 0

/-- Whether the failure of a statement can end the script. -/
def canEnd : Statement → Bool
  | .simple .. | .pipeline .. | .apart .. | .redirected _ (.apart ..) _ => true
  | _ => false

/-- Answer the signals that came, each of them once and in order. -/
def answerSignals (again : Again) : Run Unit := do
  let shell ← get
  if shell.pending ≠ [] then
    set { shell with pending := [] }
    for signal in (List.range signalCount).filter shell.pending.contains do
      match shell.traps.lookup signal with
      | some text => runAnswer again text
      | none => pure ()
    modify fun after => { after with status := shell.status }

/-- Run a statement in which others are nested this deep at most. Deeper than that is the end of the
process. -/
def runStatement : (depth : Nat) → Again
  | 0, _, _ => overflow
  | depth + 1, position, statement => do
    if (← get).has "noexec" then return 0
    match ← attempt (step (runStatement depth) depth position statement) with
    | .ok status =>
      modify fun shell => { shell with status := status }
      answerSignals (runStatement depth)
      if canEnd statement then endBy position status else return status
    | .error .back =>
      if canEnd statement then
        let _ ← endBy position (← get).status
      throw .back
    | .error jump => throw jump

/-- How deep statements may be nested in each other while they run. -/
def depthLimit : Nat := 100000

/-! ### Scripts -/

/-- What a script left behind. -/
structure Finished where
  /-- The number of bytes it took from its standard input. -/
  taken : Nat
  /-- What went into its standard output if that is a pipe. -/
  held : Bytes
  world : World
  status : Status
  /-- Whether it came to an end in the turns that its loops may take. -/
  ended : Bool

/-- The permissions that files do not get at first. -/
def usualMask : Nat := 0o022

/-- The shell that runs a script. Its descriptors lead to the three streams. -/
def opening (base : Base) (input : Bytes) (output errors : Sink) (world : World) : Shell :=
  Shell.start
    { world := { world with cwd := base }, channels := [.source input, .sink output, .sink errors]
      files := [(0, 0), (1, 1), (2, 2)], mask := usualMask, limits := Limits.usual, deaf := [] }
    [] [] []

/-- Run a script on its streams. -/
def run (call : Invocation) (base : Base) (text : Bytes) (place : Location) (input : Bytes)
    (output errors : Sink) (world : World) : Finished :=
  let ending : Except Jump Status × Shell :=
    (runScript (runStatement depthLimit) call text place).run.run
      (opening base input output errors world)
  let status := ending.1.toOption.getD (.exited errorStatus)
  let ended := match ending.1 with
    | .error .stuck => false
    | _ => true
  ⟨input.length - (ending.2.leftIn 0).length, ending.2.heldBy 1, ending.2.world, status, ended⟩

end Script

end CommandShell
