/-
This file holds the commands for jobs. What is started in the background has always
ended when a script asks for it; there is no job control, so a job can be shown and
waited for, but not be moved.
-/

import CommandShell.Script.Builtin.Arguments

namespace CommandShell

namespace Script

/-- Some ends of jobs may not have been noticed before. The shell is told of them. -/
def Shell.toldOf (shell : Shell) (jobs : Jobs) : Shell :=
  if jobs.any fun job => !job.noticed then shell.toldOfEnd else shell

/-- Show the jobs that are named. -/
def showNamed (processes : Bool) : List Text → Run Text
  | [] => return []
  | name :: rest => do
    let shell ← get
    match shell.jobs.find name with
    | .error problem => fail problem
    | .ok job =>
      let (text, jobs) := shell.jobs.showEach processes [job]
      set { shell with jobs := jobs }
      return text ++ (← showNamed processes rest)

/-- Show jobs. -/
def jobsCommand (args : List Text) : Run Nat := do
  let (options, names) ← takeOptions ['l', 'p'] args
  let shell ← get
  if options.getLast? = some 'p' then
    return ← print "jobs".toList (shell.jobs.flatMap fun job =>
      (toString job.process).toList ++ ['\n'])
  let processes := options.getLast? = some 'l'
  if names = [] then
    let (text, jobs) := shell.jobs.notice.showEach processes shell.jobs
    set { shell.toldOf shell.jobs with jobs := jobs }
    print "jobs".toList text
  else print "jobs".toList (← showNamed processes names)

/-- Say that a signal ended a process. -/
def reportSignal (status : Status) : Run Unit :=
  match status with
  | .exited _ => return
  | .signalled signal => if isQuiet signal then return else put 2 (signalText signal ++ "\n").toList

/-- The status of a question for what is not known. -/
def unknownStatus : Nat := 127

/-- Wait for a job. If signals ended its processes that is said, unless the shell knew it before. -/
def waitFor (job : Job) : Run Nat := do
  modify fun shell => { shell.toldOf [job] with jobs := shell.jobs.await job.number }
  if !job.noticed then (job.earlier ++ [job.status]).forM reportSignal
  return job.status.code

/-- Wait for jobs and processes. Those that are not known count for nothing. -/
def waitForAll : List Text → (status : Nat) → Run Nat
  | [], status => return status
  | name :: rest, status => do
    let shell ← get
    let job ← match name with
      | '%' :: _ =>
        match shell.jobs.find name with
        | .error problem => fail problem
        | .ok job => pure (some job)
      | name => do
        let process ← count name
        pure (shell.jobs.find? fun job => job.process = process)
    match job with
    | some job => waitForAll rest (← waitFor job)
    | none => waitForAll rest status

/-- Wait. -/
def waitCommand (args : List Text) : Run Nat := do
  let (_, names) ← takeOptions [] args
  if names = [] then
    modify fun shell => { shell.toldOf shell.jobs with jobs := shell.jobs.awaitAll }
    return 0
  waitForAll names unknownStatus

/-- Move a job, which is not possible. -/
def moveCommand (args : List Text) : Run Nat := do
  let (_, names) ← takeOptions [] args
  match (← get).jobs.find names.head? with
  | .error problem => fail problem
  | .ok _ =>
    fail ("job ".toList ++ names.head?.getD "(null)".toList ++
      " not created under job control".toList)

end Script

end CommandShell
