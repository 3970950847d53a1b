/-
This file proves which of the programs that a pipeline starts are waited for. The
journal tells: each program that was started stands in it, and so does each one
that was waited for. Starting comes first and is done when anything else happens,
and what is done to the programs that were started is one of three things. They run
and are waited for, from left to right. They are killed and waited for, because one
of them could not be started. Or they are left to themselves, because the shell could
not write a message.

So all of them are waited for just if the pipeline has a status. Nothing that writes
touches the journal, so only the order of the phases matters here.
-/

import CommandShell.Proofs.Abandoning
import CommandShell.Proofs.Frame
import CommandShell.Scratch

namespace CommandShell

/-! ### The journal -/

/-- The stage that was waited for. -/
def ProcessEvent.waited? : ProcessEvent → Option Nat
  | .waited stage => some stage
  | _ => none

/-- The stages that the journal says were waited for. -/
def waitedStages (events : List ProcessEvent) : List Nat := events.filterMap ProcessEvent.waited?

/-- What the journal says when each of these stages was waited for. -/
def waitedEvents (stages : List Nat) : List ProcessEvent := stages.map .waited

theorem waitedStages_waitedEvents (stages : List Nat) :
    waitedStages (waitedEvents stages) = stages := by
  rw [waitedStages, waitedEvents, List.filterMap_map]
  exact List.filterMap_some

theorem waitedStages_killedEvents (stages : List Nat) :
    waitedStages (killedEvents stages) = stages := by
  unfold waitedStages killedEvents
  rw [List.filterMap_flatMap]
  show stages.flatMap (fun stage => [stage]) = stages
  exact List.flatMap_singleton' stages

/-- What happens to programs that were started, according to how their pipeline ends. -/
inductive Reaps (stages : List Nat) : Except Fault Nat → List ProcessEvent → Prop
  | waited (status : Nat) : Reaps stages (.ok status) (waitedEvents stages)
  | killed (status : Nat) : Reaps stages (.ok status) (killedEvents stages)
  | left (fault : Fault) : Reaps stages (.error fault) []

/-- A pipeline ends so if these stages were started when the world was `before`: the journal goes on
with what became of them, and with nothing else. -/
def Settles (before : World) (stages : List Nat) (outcome : Outcome) : Prop :=
  ∃ events, Reaps stages outcome.result events ∧
    outcome.world.journal = before.journal ++ events

/-! ### What leaves the journal alone -/

theorem Sink.write_journal {sink next : Sink} {bytes : Bytes} {before after : World}
    (written : sink.write bytes before = .ok (next, after)) : after.journal = before.journal := by
  rw [(Wrote.of_write written).frame]
  rfl

theorem World.print_journal (world : World) (stream : Stream) (bytes : Bytes) :
    (world.print stream bytes).journal = world.journal := by
  cases stream <;> rfl

theorem World.leave_journal (world : World) (stages : List Turned) :
    (world.leave stages).journal = world.journal := by
  unfold leave
  split <;> rfl

theorem openAll_journal (session : Session) (pipeline : Pipeline) (world : World) :
    (openAll session pipeline world).2.journal = world.journal := by
  rcases opened_or_failsAt session pipeline world with
    ⟨files, opened, all⟩ | ⟨failure, stopped, fails⟩
  · rw [openAll_eq_ok_iff.mpr all, all.2.frame]
  · obtain ⟨_, _, _, _, -, ahead, -⟩ := failsAt_iff.mp fails
    rw [openAll_eq_error_iff.mpr fails, ahead.frame]

theorem Process.run_journal (process : Process) (input : Bytes) (output errors : Sink)
    (world : World) : (process.run input output errors world).world.journal = world.journal := by
  rw [process.run_frame input output errors world rfl]
  rfl

theorem consume_journal (given : Option Bytes) (taken : Nat) (world : World) :
    (consume given taken world).journal = world.journal := by
  cases given <;> rfl

theorem reportError_journal (diagnostics : Sink) (error : BuiltinError) (session : Session)
    (world : World) :
    (reportError diagnostics error session world).world.journal = world.journal := by
  unfold reportError
  split
  · rfl
  · next told => exact Sink.write_journal told

theorem takeTurn_journal (builtin : Builtin) (args : List String) (output diagnostics : Sink)
    (session : Session) (world : World) :
    (takeTurn builtin args output diagnostics session world).world.journal = world.journal := by
  have command : (builtin.run args session world).world.journal = world.journal := by
    obtain ⟨cwd, moved⟩ := run_frame builtin args session world
    rw [moved]
  unfold takeTurn
  dsimp only
  split
  · rw [reportError_journal, command]
  · split
    · rw [reportError_journal, command]
    · next told => rw [Sink.write_journal told, command]

/-! ### Turns and runs -/

theorem isRunning_skip (ready : Ready) : ready.skip.isRunning = ready.isProgram := by
  cases ready <;> rfl

/-- The turns of the shell's own commands start no program and wait for none. -/
theorem takeTurns_programs (alone : Bool) (session : Session) (ready : List Ready) (world : World) :
    (takeTurns alone session ready world).stages.map Turned.isRunning = ready.map Ready.isProgram ∧
      (takeTurns alone session ready world).world.journal = world.journal := by
  induction ready generalizing session world with
  | nil => exact ⟨rfl, rfl⟩
  | cons first rest inductionHypothesis =>
    cases first with
    | running process output errors =>
      obtain ⟨alike, journal⟩ := inductionHypothesis session world
      exact ⟨congrArg (true :: ·) alike, journal⟩
    | waiting builtin args output diagnostics =>
      have turn := takeTurn_journal builtin args output diagnostics
        (if alone then session else session.detach) world
      simp only [takeTurns]
      split
      · obtain ⟨alike, journal⟩ := inductionHypothesis _ _
        exact ⟨congrArg (false :: ·) alike, journal.trans turn⟩
      · refine ⟨congrArg (false :: ·) ?_, turn⟩
        rw [List.map_map]
        exact List.map_congr_left fun each _ => isRunning_skip each

/-- The programs are waited for from left to right, if they are waited for at all. -/
theorem runPrograms_journal (waiting : Bool) (index : Nat) (given : Option Bytes) (status : Nat)
    (stages : List Turned) (world : World) :
    (runPrograms waiting index given status stages world).world.journal =
      world.journal ++
        if waiting then waitedEvents (stages.findIdxs Turned.isRunning index) else [] := by
  induction stages generalizing index given status world with
  | nil => cases waiting <;> simp [runPrograms, waitedEvents]
  | cons first rest inductionHypothesis =>
    cases first with
    | finished held status =>
      rw [List.findIdxs_cons]
      exact inductionHypothesis (index + 1) (some held) status world
    | running process output errors =>
      obtain ⟨limit, -, step⟩ :=
        runPrograms_running waiting process output errors index given status rest world
      obtain ⟨result, ran⟩ : ∃ result, result =
          process.run (inputFor given world) (output.limited limit) errors world := ⟨_, rfl⟩
      have kept : (consume given result.taken result.world).journal = world.journal := by
        rw [consume_journal, ran, process.run_journal]
      rw [(step result ran _ rfl _ rfl).2]
      dsimp only
      rw [inductionHypothesis, List.findIdxs_cons]
      cases waiting with
      | false => simpa using kept
      | true => simp [World.record, kept, waitedEvents, Turned.isRunning]

/-! ### One pipeline -/

/-- The stages that are ready, whether or not the others can be started. -/
def readyStages : Except StartFailure (List Ready) → List Ready
  | .ok ready => ready
  | .error failure => failure.earlier

theorem startAll_journal (session : Session) (index : Nat) (held : List Location)
    (prepared : List Prepared) (world : World) :
    (startAll session index held prepared world).2.journal =
      world.journal ++ startedEvents
        ((readyStages (startAll session index held prepared world).1).findIdxs
          Ready.isProgram index) := by
  have added (first : Ready) (later : Except StartFailure (List Ready) × World) :
      readyStages (addReady first later).1 = first :: readyStages later.1 := by
    obtain ⟨_ | _, world⟩ := later <;> rfl
  induction prepared generalizing index held world with
  | nil => simp [startAll, readyStages, startedEvents]
  | cons first rest inductionHypothesis =>
    unfold startAll
    dsimp only
    split
    · rw [addReady_world, added, List.findIdxs_cons, inductionHypothesis]
      rfl
    · split
      · simp [readyStages, startedEvents]
      · rw [addReady_world, added, List.findIdxs_cons, inductionHypothesis]
        simp [World.record, startedEvents, Ready.isProgram]

theorem finish_settles (session : Session) (ready : List Ready) (world : World) :
    Settles world (ready.findIdxs Ready.isProgram) (finish session ready world) := by
  obtain ⟨alike, journal⟩ := takeTurns_programs (ready.length ≤ 1) session ready world
  obtain ⟨turns, isTurns⟩ : ∃ turns, turns = takeTurns (ready.length ≤ 1) session ready world :=
    ⟨_, rfl⟩
  rw [← isTurns] at alike journal
  unfold finish
  rw [← isTurns]
  dsimp only [TurnsResult.conclude]
  cases lost : turns.fault with
  | none =>
    refine ⟨_, .waited _, ?_⟩
    dsimp only
    rw [runPrograms_journal, journal, findIdxs_eq_of_map_eq alike]
    rfl
  | some fault =>
    refine ⟨_, .left fault, ?_⟩
    dsimp only
    rw [World.leave_journal, journal, List.append_nil]

theorem abandon_settles (session : Session) (failure : StartFailure) (world : World) :
    Settles world (failure.earlier.findIdxs Ready.isProgram) (abandon session failure world) := by
  unfold abandon
  split
  · next told =>
    refine ⟨_, .killed statusNotStarted, ?_⟩
    rw [killAll_eq, Sink.write_journal told]
  · next fault refused =>
    refine ⟨_, .left fault, ?_⟩
    rw [World.leave_journal, List.append_nil]

theorem reportUnresolved_settles (session : Session) (unresolved : Unresolved) (world : World) :
    Settles world [] (reportUnresolved session unresolved world) := by
  unfold reportUnresolved
  split
  · next told =>
    refine ⟨_, .waited statusNotFound, ?_⟩
    rw [Sink.write_journal told]
    exact (List.append_nil _).symm
  · next fault refused => exact ⟨_, .left fault, (List.append_nil _).symm⟩

/-- A pipeline starts some stages, and then they become what its end makes of them. -/
theorem exists_execute_settles (session : Session) (pipeline : Pipeline) (world : World) :
    ∃ stages started, stages.Pairwise (· < ·) ∧
      started.journal = world.journal ++ startedEvents stages ∧
      Settles started stages (execute session pipeline world) := by
  have opening := openAll_journal session pipeline world
  have noneStarted (opened : World) (same : opened.journal = world.journal) :
      opened.journal = world.journal ++ startedEvents [] := by
    rw [same]
    exact (List.append_nil _).symm
  unfold execute
  split
  · next failure opened notOpened =>
    rw [notOpened] at opening
    refine ⟨[], opened, .nil, noneStarted opened opening, _, .waited statusNotOpened, ?_⟩
    rw [complain, World.print_journal]
    exact (List.append_nil _).symm
  · next files opened filesOpened =>
    rw [filesOpened] at opening
    split
    · next unresolved _ =>
      exact ⟨[], opened, .nil, noneStarted opened opening,
        reportUnresolved_settles session unresolved opened⟩
    · next prepared _ =>
      have starting := startAll_journal session 0 [] prepared opened
      split
      · next failure started notStarted =>
        rw [notStarted, opening] at starting
        exact ⟨_, started, List.pairwise_findIdxs, starting, abandon_settles session failure started⟩
      · next ready started allStarted =>
        rw [allStarted, opening] at starting
        exact ⟨_, started, List.pairwise_findIdxs, starting, finish_settles session ready started⟩

/-- A pipeline starts programs from left to right, and when something else happens to them no other
one is started any more. If the pipeline has a status, then each of them was waited for, in the same
order. If it has none, because the shell could not write a message, none of them was. -/
theorem execute_reaped (session : Session) (pipeline : Pipeline) (world : World) :
    ∃ stages events, stages.Pairwise (· < ·) ∧
      (execute session pipeline world).world.journal =
        world.journal ++ startedEvents stages ++ events ∧
      (∀ stage, .started stage ∉ events) ∧
      (∀ status, (execute session pipeline world).result = .ok status →
        waitedStages events = stages) ∧
      ∀ fault, (execute session pipeline world).result = .error fault → events = [] := by
  obtain ⟨stages, started, ordered, isStarted, events, reaps, journal⟩ :=
    exists_execute_settles session pipeline world
  rw [isStarted] at journal
  refine ⟨stages, events, ordered, journal, ?_⟩
  obtain ⟨result, isResult⟩ : ∃ result, result = (execute session pipeline world).result := ⟨_, rfl⟩
  rw [← isResult] at reaps ⊢
  cases reaps with
  | waited status =>
    refine ⟨by simp [waitedEvents], fun _ _ => waitedStages_waitedEvents stages, ?_⟩
    rintro fault ⟨⟩
  | killed status =>
    refine ⟨by simp [killedEvents], fun _ _ => waitedStages_killedEvents stages, ?_⟩
    rintro fault ⟨⟩
  | left fault =>
    refine ⟨fun _ => List.not_mem_nil, ?_, fun _ _ => rfl⟩
    rintro status ⟨⟩

/-- The tool was started, and nobody waits for it when `cd` cannot tell that it failed. -/
theorem execute_reaped_not_written :
    let session := Session.start [] (utf8 "/r")
    let tree := (scratchTree (utf8 "/r")).including [] (utf8 "/r/tool") (toolNode toolMode)
    let world := { scratchWorld (utf8 "/r") [] [] false with tree := tree }
    let pipeline : Pipeline :=
      [⟨"./tool", ["cat"], none, none⟩,
        ⟨"cd", ["nope"], none, some ⟨.truncate, "/dev/full"⟩⟩]
    (execute session pipeline world).result = .error .noSpace ∧
      (execute session pipeline world).world.journal = [.started 0] := by
  intro session tree world pipeline
  refine ⟨by decide +kernel, by decide +kernel⟩

end CommandShell
