/-
This file says how a session goes on from line to line while programs of earlier
lines may still be there. A line that ends with an error of the shell itself leaves
its programs behind. Nobody waits for them, so when they come to read and write is
not up to the shell: it can be before the next line, or many lines later. A program
that is killed because a later one of its line could not be started may have read
before that, too, and nobody knows how much.

A course is therefore a relation. It has a step for each line and a step for each
run of what was left behind. Such a run is taken to happen in one go, and between
lines: that a left-over program does one part of its work before a line and another
behind it, or something in the middle of it, has no place in a course.
-/

import CommandShell.Run

namespace CommandShell

/-! ### Left-over programs -/

namespace World

/-- What comes of it if the programs of the left-over pipeline of this number run now, with so many
turns for their loops. -/
def resume? (world : World) (patience index : Nat) : Option RunResult :=
  world.left[index]?.map fun stages =>
    let run := runPrograms false 0 none 0 stages
      { world with patience := patience, left := world.left.eraseIdx index }
    { run with world := { run.world with patience := world.patience } }

/-- How many turns a loop of a left-over script may take before it counts as waiting. -/
def settlePatience : Nat := 20000

/-- Let the left-over pipelines from this number on run, as many as are counted. One whose programs
wait for something stays behind. -/
def settleFrom (index : Nat) : (count : Nat) → World → World
  | 0, world => world
  | count + 1, world =>
    match world.resume? settlePatience index with
    | none => world
    | some run =>
      if run.ended then settleFrom index count run.world else settleFrom (index + 1) count world

/-- Let all left-over programs run that can come to an end. -/
def settle (world : World) : World := world.settleFrom 0 world.left.length

/-- The world when so many bytes were read from the standard input. -/
def lose (world : World) (count : Nat) : World :=
  { world with unread := world.unread.drop count }

end World

/-! ### Courses -/

/-- What can happen in a session. -/
inductive Event
  | line (text : String)
  /-- Left-over programs run to their end. -/
  | leftOver
  deriving DecidableEq, Repr

/-- The line is given up when its first stage is already running as this process on these sinks,
and in this world the shell could tell why. -/
inductive GivesUp (session : Session) (line : String) (world : World) :
    Process → (output errors : Sink) → World → Prop
  | intro {pipeline : Pipeline} {files : List Files} {opened started told : World}
      {prepared : List Prepared} {failure : StartFailure} {process : Process}
      {output errors next : Sink} {others : List Ready}
      (parsed : Pipeline.ofWords (splitWords line) = .ok pipeline)
      (filesOpened : openAll session pipeline world = (.ok files, opened))
      (isPrepared : prepareAll session opened (pipeline.zip files) = .ok prepared)
      (notStarted : startAll session 0 [] prepared opened = (.error failure, started))
      (front : failure.earlier = .running process output errors :: others)
      (written : failure.diagnostics.write (utf8 (failure.message ++ "\n")) started =
        .ok (next, told)) :
      GivesUp session line world process output errors started

/-- What happened took the session and the world to what they are after it. -/
inductive EventStep (session : Session) (world : World) : Event → Session → World → Prop
  /-- A line was run. -/
  | line (text : String) :
      EventStep session world (.line text) (executeLine session text world).session
        (executeLine session text world).world
  /-- A line was given up, and its first program had read some of what it would have read. -/
  | killed {text : String} {process : Process} {output errors : Sink} {started : World}
      (givesUp : GivesUp session text world process output errors started) {count : Nat}
      (within : count ≤ (process.run started.unread output errors started).taken) :
      EventStep session world (.line text) (executeLine session text world).session
        ((executeLine session text world).world.lose count)
  /-- Left-over programs ran to their end. -/
  | leftOver {patience index : Nat} {run : RunResult}
      (ran : world.resume? patience index = some run) (ended : run.ended = true) :
      EventStep session world .leftOver session run.world

/-- Events took a session and a world to what they are after them. -/
inductive Course : Session → World → List Event → Session → World → Prop
  | nil {session : Session} {world : World} : Course session world [] session world
  | cons {session next now : Session} {world after around : World} {event : Event}
      {rest : List Event} (first : EventStep session world event next after)
      (later : Course next after rest now around) :
      Course session world (event :: rest) now around

namespace Course

variable {session middle now : Session} {world between around : World}

theorem append {early late : List Event} (ahead : Course session world early middle between)
    (behind : Course middle between late now around) :
    Course session world (early ++ late) now around := by
  induction ahead with
  | nil => exact behind
  | cons first later inductionHypothesis => exact .cons first (inductionHypothesis behind)

theorem one {event : Event} (step : EventStep session world event now around) :
    Course session world [event] now around :=
  .cons step .nil

end Course

/-- Letting the left-over programs run is a course in which nothing else happens. -/
theorem World.settleFrom_course (session : Session) (index count : Nat) (world : World) :
    ∃ events, (∀ event ∈ events, event = .leftOver) ∧
      Course session world events session (world.settleFrom index count) := by
  induction count generalizing index world with
  | zero => exact ⟨[], List.forall_mem_nil _, .nil⟩
  | succ count inductionHypothesis =>
    unfold settleFrom
    split
    · exact ⟨[], List.forall_mem_nil _, .nil⟩
    · next run ran =>
      split
      · next ended =>
        obtain ⟨events, onlyLeft, course⟩ := inductionHypothesis index run.world
        exact ⟨.leftOver :: events, List.forall_mem_cons.mpr ⟨rfl, onlyLeft⟩,
          .cons (.leftOver ran ended) course⟩
      · exact inductionHypothesis (index + 1) world

end CommandShell
