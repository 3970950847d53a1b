/-
This file holds the jobs of a shell: what was started in the background, by its
number. A job stays in the table until somebody asked for its status and its
number is needed for another process, or until it was shown.
-/

import CommandShell.Program
import CommandShell.Script.Signal

namespace CommandShell

namespace Script

/-- The lowest number from `least` on that is not taken. -/
def lowestFree (least : Nat) (taken : List Nat) : Nat :=
  let taken := taken.filter (least ≤ ·)
  let next := least + taken.length
  if taken.all (· < next) then next
  else
    let numbers := (List.range taken.length).map (least + ·)
    (numbers.find? fun number => !taken.contains number).getD next

/-- Something that was started in the background. -/
structure Job where
  /-- The number by which scripts name it. -/
  number : Nat
  /-- The number of its last process. -/
  process : Nat
  /-- The statuses of its other processes. -/
  earlier : List Status
  status : Status
  /-- Whether the shell knows that it has ended. -/
  noticed : Bool
  /-- Whether its status was asked for. -/
  waited : Bool
  deriving DecidableEq, Repr

/-- The jobs of a shell, the current one first. -/
abbrev Jobs := List Job

namespace Jobs

/-- The job with this number. -/
def get? (jobs : Jobs) (number : Nat) : Option Job :=
  jobs.find? fun job => job.number = number

/-- The jobs without the one with this number. -/
def erase (jobs : Jobs) (number : Nat) : Jobs :=
  jobs.filter fun job => job.number ≠ number

/-- The number that the next process gets: the first one that is free, or whose job is over and
done with. -/
def nextNumber (jobs : Jobs) : Nat :=
  lowestFree 1 ((jobs.filter (!·.waited)).map (·.number))

/-- The jobs after a process took the next number and gave it back. -/
def spare (jobs : Jobs) : Jobs :=
  jobs.erase jobs.nextNumber

/-- Put a new job in front of the others. -/
def start (jobs : Jobs) (process : Nat) (earlier : List Status) (status : Status) : Jobs :=
  ⟨jobs.nextNumber, process, earlier, status, false, false⟩ :: jobs.spare

/-- The shell notices every end. -/
def notice (jobs : Jobs) : Jobs :=
  jobs.map fun job => { job with noticed := true }

/-- The jobs after the status of one of them was asked for. -/
def await (jobs : Jobs) (number : Nat) : Jobs :=
  jobs.map fun job =>
    if job.number = number then { job with noticed := true, waited := true } else job

/-- The jobs after the status of each of them was asked for. -/
def awaitAll (jobs : Jobs) : Jobs :=
  jobs.map fun job => { job with noticed := true, waited := true }

/-- The job that a text means, or what is wrong with the text. -/
def find (jobs : Jobs) (name : Option Text) : Except Text Job :=
  let fault (text : String) : Except Text Job := .error text.toList
  let current : Except Text Job := match jobs with
    | job :: _ => .ok job
    | [] => fault "No current job"
  match name with
  | none => current
  | some name =>
    let unknown : Except Text Job := .error ("No such job: ".toList ++ name)
    match name with
    | ['%'] | ['%', '%'] | ['%', '+'] => current
    | ['%', '-'] =>
      match jobs with
      | _ :: job :: _ => .ok job
      | _ => fault "No previous job"
    | ['%', '?'] =>
      match jobs with
      | [] => unknown
      | [job] => .ok job
      | _ => .error (name ++ ": ambiguous".toList)
    | '%' :: digits =>
      if digits.all Char.isDigit then
        match jobs.get? (takeDigits 10 0 digits).1 with
        | some job => .ok job
        | none => unknown
      else unknown
    | _ => unknown

/-- The width of what is said about a job. -/
def shownWidth : Nat := 33

/-- What is said about the status of a job. -/
def statusText : Status → String
  | .exited 0 => "Done"
  | .exited code => "Done(" ++ toString code ++ ")"
  | .signalled signal => signalText signal

/-- What is said about a job. -/
def shown (jobs : Jobs) (processes : Bool) (job : Job) : Text :=
  let mark :=
    if (jobs.head?.map (·.number)) = some job.number then "+"
    else if ((jobs.drop 1).head?.map (·.number)) = some job.number then "-"
    else " "
  let start := "[" ++ toString job.number ++ "] " ++ mark ++ " "
  let process := if processes then toString job.process ++ " " else ""
  let text := start ++ process ++ statusText job.status
  let gap := List.replicate (max 1 (shownWidth - text.length)) ' '
  let more := job.earlier.map fun _ => " | ".toList
  text.toList ++ gap ++ more.flatten ++ ['\n']

/-- Show jobs one after the other. A job that was shown is forgotten. -/
def showEach (jobs : Jobs) (processes : Bool) : List Job → Text × Jobs
  | [] => ([], jobs)
  | job :: rest =>
    let text := jobs.shown processes job
    let (others, jobs) := showEach (jobs.erase job.number) processes rest
    (text ++ others, jobs)

end Jobs

end Script

end CommandShell
