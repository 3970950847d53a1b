/-
This file proves who draws from the standard input. It is handed to the first stage
of a pipeline, and if that is a command of the shell nobody reads it. So a line takes
what its first program takes, and that is a segment of the input which starts where
the one before it stopped.

A program that was started need not get to run to its end. If a later one of its line
cannot be started it is killed, and then it has read some of what it would have read.
If the shell cannot even tell about an error, the program is left behind, and it takes
its segment later than the line that started it, between other lines or behind them
all. All that happens before and after the first program leaves the input alone.
-/

import CommandShell.Proofs.Abandoning
import CommandShell.Proofs.Directory

namespace CommandShell

variable {session : Session} {line : String} {world opened : World}

/-! ### What leaves a part of the world alone -/

/-- A part of the world that is no matter of files, of the terminal, of the journal or of the place
of the process. -/
structure Untouched {α : Type} (part : World → α) : Prop where
  adopt (world other : World) : part (world.adopt other) = part world
  record (world : World) (event : ProcessEvent) : part (world.record event) = part world
  moved (world : World) (cwd : Base) : part { world with cwd := cwd } = part world

namespace Untouched

variable {α : Type} {part : World → α} (untouched : Untouched part)

/-- No write changes such a part, whatever it goes to. -/
def law : Preserved where
  Keeps before after := part after = part before
  Allows _ := True
  refl _ := rfl
  trans early late := late.trans early
  record := untouched.record
  terminal _ := trivial
  pipe _ _ := trivial
  write _ written := ⟨trivial, by rw [(Wrote.of_write written).frame, untouched.adopt]⟩

theorem unconditional : untouched.law.Unconditional where
  allows _ := trivial
  keptBy process input output errors before _ _ := by
    show part (process.run input output errors before).world = part before
    rw [process.run_frame input output errors before rfl, untouched.adopt]

theorem keptByCommands : untouched.law.KeptByCommands := by
  intro builtin args session world
  obtain ⟨cwd, same⟩ := run_frame builtin args session world
  show part (builtin.run args session world).world = part world
  rw [same, untouched.moved]

include untouched

/-- To open files is no matter of it either. -/
theorem openedAll {redirects : List Redirect} {handles : List Handle}
    (all : OpenedAll session redirects world handles opened) : part opened = part world := by
  have adopted : opened = world.adopt opened := by
    rw [all.frame]
    rfl
  rw [adopted, untouched.adopt]

theorem startAll (prepared : List Prepared) {result : Except StartFailure (List Ready)}
    {started : World} (allStarted : startAll session 0 [] prepared opened = (result, started)) :
    part started = part opened := by
  have keeps := untouched.law.keeps_startAll session 0 [] prepared opened
  rwa [allStarted] at keeps

theorem takeTurns (alone : Bool) (session : Session) (stages : List Ready) (world : World) :
    part (takeTurns alone session stages world).world = part world :=
  (untouched.law.keeps_takeTurns untouched.keptByCommands alone session
    (fun each _ => untouched.unconditional.allowsReady each) world).1

/-- Programs that do not read the standard input leave it alone. -/
theorem runPrograms (waiting : Bool) (index : Nat) (given : Option Bytes) (status : Nat)
    (stages : List Turned)
    (reading : ∀ taken world, part (consume given taken world) = part world) (world : World) :
    part (runPrograms waiting index given status stages world).world = part world :=
  untouched.law.keeps_runPrograms waiting index given status
    (fun each _ => untouched.unconditional.allowsTurned each) reading world

theorem killAll (index : Nat) (stages : List Ready) (world : World) :
    part (killAll index stages world) = part world :=
  untouched.law.keeps_killAll index stages world

theorem write {sink next : Sink} {bytes : Bytes} {before after : World}
    (written : sink.write bytes before = .ok (next, after)) : part after = part before :=
  (untouched.law.write trivial written).2

end Untouched

theorem untouched_unread : Untouched (·.unread) :=
  ⟨fun _ _ => rfl, fun _ _ => rfl, fun _ _ => rfl⟩

theorem untouched_left : Untouched (·.left) :=
  ⟨fun _ _ => rfl, fun _ _ => rfl, fun _ _ => rfl⟩

@[simp]
theorem World.unread_leave (world : World) (stages : List Turned) :
    (world.leave stages).unread = world.unread := by
  unfold leave
  split <;> rfl

theorem World.left_leave_running (world : World) (process : Process) (output errors : Sink)
    (later : List Turned) :
    (world.leave (.running process output errors :: later)).left =
      world.left ++ [.running process output errors :: later] :=
  rfl

/-! ### The first program -/

/-- A program at the front ran on the standard input, and the stages behind it go on from there:
they read what it wrote, in the world without what it took. -/
inductive FrontRuns (waiting : Bool) (process : Process) (output errors : Sink)
    (later : List Turned) (around : World) : Nat → World → Prop
  | intro {limit : Option Nat} {result : ProcessResult} {after : World} {others : RunResult}
      (unlimited : ∀ program, process.code = .program program → limit = none)
      (ran : result = process.run around.unread (output.limited limit) errors around)
      (consumed : after = consume none result.taken result.world)
      (behind : others = runPrograms waiting 1 (some result.held) result.status.code later
        (if waiting then after.record (.waited 0) else after))
      (enough : Suffices limit result.held others.taken) :
      FrontRuns waiting process output errors later around result.taken others.world

theorem exists_frontRuns (waiting : Bool) (status : Nat) (process : Process)
    (output errors : Sink) (later : List Turned) (around : World) :
    ∃ taken, FrontRuns waiting process output errors later around taken
      (runPrograms waiting 0 none status (.running process output errors :: later)
        around).world := by
  obtain ⟨limit, unlimited, step⟩ :=
    runPrograms_running waiting process output errors 0 none status later around
  obtain ⟨enough, same⟩ := step _ rfl _ rfl _ rfl
  have runs := FrontRuns.intro unlimited rfl rfl rfl enough
  rw [same]
  exact ⟨_, runs⟩

/-- The program at the front takes what it read, and the stages behind it take nothing. -/
theorem FrontRuns.unread_eq {waiting : Bool} {process : Process} {output errors : Sink}
    {later : List Turned} {around last : World} {taken : Nat}
    (runs : FrontRuns waiting process output errors later around taken last) :
    last.unread = around.unread.drop taken := by
  obtain ⟨-, ran, consumed, behind, -⟩ := runs
  next limit result after others =>
  have kept : result.world.unread = around.unread := by
    rw [ran]
    exact untouched_unread.unconditional.keptBy process around.unread (output.limited limit) errors
      around trivial trivial
  have sameBehind := untouched_unread.runPrograms waiting 1 (some result.held) result.status.code
    later (fun _ _ => rfl) (if waiting then after.record (.waited 0) else after)
  rw [behind, sameBehind, ← kept, consumed]
  split <;> rfl

/-- Without a program at the front nothing is taken. -/
theorem unread_runPrograms (waiting : Bool) (status : Nat) {turned : List Turned}
    (notFirst : ∀ process output errors later, turned ≠ .running process output errors :: later)
    (around : World) :
    (runPrograms waiting 0 none status turned around).world.unread = around.unread := by
  cases turned with
  | nil => rfl
  | cons first later =>
    cases first with
    | running process output errors => exact absurd rfl (notFirst process output errors later)
    | finished held status =>
      exact untouched_unread.runPrograms waiting 1 (some held) status later (fun _ _ => rfl) around

/-! ### Starting the programs of a line -/

/-- The programs of the line were started up to here: its files are open and its names have a
meaning. -/
inductive Launches (session : Session) (line : String) (world : World) :
    Except StartFailure (List Ready) → World → Prop
  | intro {pipeline : Pipeline} {files : List Files} {opened started : World}
      {prepared : List Prepared} {result : Except StartFailure (List Ready)}
      (parsed : Pipeline.ofWords (splitWords line) = .ok pipeline)
      (filesOpened : openAll session pipeline world = (.ok files, opened))
      (isPrepared : prepareAll session opened (pipeline.zip files) = .ok prepared)
      (allStarted : startAll session 0 [] prepared opened = (result, started)) :
      Launches session line world result started

/-- The first stage of the line's pipeline is a program outside of the shell, and it was started as
this process on these sinks. -/
inductive StartsFirst (session : Session) (line : String) (world : World) :
    Process → (output errors : Sink) → Prop
  | intro {pipeline : Pipeline} {files : List Files} {opened : World} {first : Prepared}
      {rest : List Prepared} {path : Path} {process : Process}
      (parsed : Pipeline.ofWords (splitWords line) = .ok pipeline)
      (filesOpened : openAll session pipeline world = (.ok files, opened))
      (isPrepared : prepareAll session opened (pipeline.zip files) = .ok (first :: rest))
      (command : first.command = .external path)
      (spawned : session.spawn opened [] first rest path = .ok process) :
      StartsFirst session line world process (first.files.outputAt rest.isEmpty)
        first.files.errors

/-- The stages that were started, whether or not they are all. -/
def startedStages : Except StartFailure (List Ready) → List Ready
  | .ok stages => stages
  | .error failure => failure.earlier

theorem startedStages_addReady (ready : Ready)
    (later : Except StartFailure (List Ready) × World) :
    startedStages (addReady ready later).1 = ready :: startedStages later.1 := by
  obtain ⟨_ | _, world⟩ := later <;> rfl

namespace Launches

variable {result : Except StartFailure (List Ready)} {started : World} {process : Process}
  {output errors : Sink}

theorem part_eq {α : Type} {part : World → α} (untouched : Untouched part)
    (launches : Launches session line world result started) : part started = part world := by
  obtain ⟨-, filesOpened, -, allStarted⟩ := launches
  exact (untouched.startAll _ allStarted).trans
    (untouched.openedAll (openAll_eq_ok_iff.mp filesOpened).2)

theorem executeLine_finish {stages : List Ready}
    (launches : Launches session line world (.ok stages) started) :
    executeLine session line world = finish session stages started := by
  obtain ⟨parsed, filesOpened, isPrepared, allStarted⟩ := launches
  rw [executeLine_eq_execute parsed]
  simp only [execute, filesOpened, isPrepared, allStarted]

theorem executeLine_abandon {failure : StartFailure}
    (launches : Launches session line world (.error failure) started) :
    executeLine session line world = abandon session failure started := by
  obtain ⟨parsed, filesOpened, isPrepared, allStarted⟩ := launches
  rw [executeLine_eq_execute parsed]
  simp only [execute, filesOpened, isPrepared, allStarted]

/-- The first stage is a program that was started just if it is the first of those that were. -/
theorem startsFirst_iff (launches : Launches session line world result started) :
    StartsFirst session line world process output errors ↔
      ∃ others, startedStages result = .running process output errors :: others := by
  obtain ⟨parsed, filesOpened, isPrepared, allStarted⟩ := launches
  next pipeline files opened prepared =>
  have isResult : result = (CommandShell.startAll session 0 [] prepared opened).1 := by
    rw [allStarted]
  constructor
  · rintro ⟨parsedToo, openedToo, preparedToo, command, spawned⟩
    obtain rfl := Except.ok.inj (parsedToo.symm.trans parsed)
    obtain ⟨isFiles, rfl⟩ := Prod.mk.inj (openedToo.symm.trans filesOpened)
    obtain rfl := Except.ok.inj isFiles
    obtain rfl := Except.ok.inj (preparedToo.symm.trans isPrepared)
    unfold Session.spawn at spawned
    rw [isResult, CommandShell.startAll]
    dsimp only
    rw [command]
    dsimp only
    rw [show keptPlaces [] = [] from rfl] at spawned
    rw [spawned, startedStages_addReady]
    exact ⟨_, rfl⟩
  · rintro ⟨others, front⟩
    rw [isResult] at front
    cases prepared with
    | nil => cases front
    | cons first rest =>
      unfold CommandShell.startAll at front
      dsimp only at front
      cases command : first.command with
      | builtin builtin =>
        rw [command] at front
        dsimp only at front
        rw [startedStages_addReady] at front
        cases front
      | external path =>
        rw [command] at front
        dsimp only at front
        split at front
        · cases front
        · next spawned =>
          rw [startedStages_addReady] at front
          cases front
          exact .intro parsed filesOpened isPrepared command spawned

end Launches

/-- A line that does not come to start its programs leaves such a part alone. -/
theorem Untouched.executeLine {α : Type} {part : World → α} (untouched : Untouched part)
    (refused : ∀ result started, ¬ Launches session line world result started) :
    part (executeLine session line world).world = part world := by
  unfold CommandShell.executeLine
  dsimp only
  split
  · rfl
  · split
    · exact untouched.law.print world .stderr _
    · next pipeline parsed =>
      rcases opened_or_failsAt session pipeline world with
        ⟨files, opened, all⟩ | ⟨failure, stopped, fails⟩
      · have filesOpened := openAll_eq_ok_iff.mpr all
        cases isPrepared : prepareAll session opened (pipeline.zip files) with
        | ok prepared => exact absurd (.intro parsed filesOpened isPrepared rfl) (refused _ _)
        | error unresolved =>
          simp only [execute, filesOpened, isPrepared]
          exact (untouched.law.keeps_reportUnresolved session (fun _ _ => trivial) opened).trans
            (untouched.openedAll all.2)
      · obtain ⟨early, redirect, later, handles, -, ahead, -⟩ := failsAt_iff.mp fails
        simp only [execute, openAll_eq_error_iff.mpr fails]
        exact (untouched.law.print stopped .stderr _).trans (untouched.openedAll ahead)

/-! ### What the shell leaves behind -/

/-- The turns of the commands of the shell do not change which program is at the front. -/
theorem takeTurns_front (alone : Bool) (process : Process) (output errors : Sink)
    (others : List Ready) (started : World) :
    ∃ later, (takeTurns alone session (.running process output errors :: others) started).stages =
      .running process output errors :: later := ⟨_, rfl⟩

theorem exists_of_takeTurns {alone : Bool} {process : Process} {output errors : Sink}
    {stages : List Ready} {later : List Turned}
    (front : (takeTurns alone session stages world).stages =
      .running process output errors :: later) :
    ∃ others, stages = .running process output errors :: others := by
  cases stages with
  | nil => cases front
  | cons first others =>
    cases first with
    | waiting =>
      simp only [takeTurns] at front
      split at front <;> cases front
    | running =>
      cases front
      exact ⟨others, rfl⟩

/-- A line that ends with a status leaves no program behind. -/
theorem executeLine_left {status : Nat}
    (answered : (executeLine session line world).result = .ok status) :
    (executeLine session line world).world.left = world.left := by
  by_cases launched : ∃ result started, Launches session line world result started
  · obtain ⟨result, started, launches⟩ := launched
    have sameLeft : started.left = world.left := launches.part_eq untouched_left
    rw [← sameLeft]
    cases result with
    | ok stages =>
      rw [launches.executeLine_finish] at answered ⊢
      unfold finish at answered ⊢
      dsimp only at answered ⊢
      split at answered
      · next noFault =>
        have turns := untouched_left.takeTurns (stages.length ≤ 1) session stages started
        dsimp only
        rw [TurnsResult.conclude, noFault]
        exact (untouched_left.runPrograms true 0 none 0 _ (fun _ _ => rfl) _).trans turns
      · cases answered
    | error failure =>
      rw [launches.executeLine_abandon] at answered ⊢
      unfold abandon at answered ⊢
      split at answered
      · next written =>
        exact (untouched_left.killAll 0 failure.earlier _).trans (untouched_left.write written)
      · cases answered
  · exact untouched_left.executeLine fun result started launches =>
      launched ⟨result, started, launches⟩

/-! ### One event -/

/-- What was read from the standard input when something happened. -/
inductive Draws (session : Session) (world : World) : Event → World → Bytes → Prop
  /-- No program was started for the first stage of the line. -/
  | nothing {line : String}
      (noProgram : ∀ process output errors,
        ¬ StartsFirst session line world process output errors) :
      Draws session world (.line line) (executeLine session line world).world []
  /-- The first program of the line was let run, on all of the input, and this is what it read. -/
  | read {line : String} {process : Process} {output errors : Sink} {later : List Turned}
      {around : World} {taken : Nat}
      (starts : StartsFirst session line world process output errors)
      (wholeInput : around.unread = world.unread)
      (runs : FrontRuns true process output errors later around taken
        (executeLine session line world).world) :
      Draws session world (.line line) (executeLine session line world).world
        (world.unread.take taken)
  /-- The line was given up, and this is what its first program had read before it was killed. -/
  | killed {line : String} {process : Process} {output errors : Sink} {started : World}
      {count : Nat} (starts : StartsFirst session line world process output errors)
      (givesUp : GivesUp session line world process output errors started)
      (within : count ≤ (process.run world.unread output errors started).taken) :
      Draws session world (.line line) ((executeLine session line world).world.lose count)
        (world.unread.take count)
  /-- The line ended with an error of the shell, and its first program was left behind. -/
  | leftBehind {line : String} {process : Process} {output errors : Sink} {later : List Turned}
      {fault : Fault} (starts : StartsFirst session line world process output errors)
      (fails : (executeLine session line world).result = .error fault)
      (goesOn : (executeLine session line world).world.left =
        world.left ++ [.running process output errors :: later]) :
      Draws session world (.line line) (executeLine session line world).world []
  /-- A program ran that was the first of its line and was left behind, and this is what it read. -/
  | late {process : Process} {output errors : Sink} {later : List Turned} {patience index : Nat}
      {settled : World} {taken : Nat}
      (isLeft : world.left[index]? = some (.running process output errors :: later))
      (runs : FrontRuns false process output errors later
        { world with patience := patience, left := world.left.eraseIdx index } taken settled) :
      Draws session world .leftOver { settled with patience := world.patience }
        (world.unread.take taken)
  /-- Programs ran that were left behind, none of which was the first of its line. -/
  | lateNothing {stages : List Turned} {index : Nat} {after : World}
      (isLeft : world.left[index]? = some stages)
      (notFirst : ∀ process output errors later,
        stages ≠ .running process output errors :: later) :
      Draws session world .leftOver after []

namespace Launches

variable {started : World} {process : Process} {output errors : Sink}

/-- When all programs were started, the turns of the commands of the shell come next, and with what
they leave the line comes to its end. -/
theorem exists_turns {stages : List Ready}
    (launches : Launches session line world (.ok stages) started) :
    ∃ turns, turns = takeTurns (stages.length ≤ 1) session stages started ∧
      turns.world.unread = world.unread ∧ turns.world.left = world.left ∧
      (executeLine session line world).world = turns.conclude.world := by
  refine ⟨_, rfl, ?_, ?_, ?_⟩
  · exact (untouched_unread.takeTurns _ session stages started).trans
      (launches.part_eq untouched_unread)
  · exact (untouched_left.takeTurns _ session stages started).trans
      (launches.part_eq untouched_left)
  · rw [launches.executeLine_finish, finish]
    split <;> rfl

/-- What a line takes when its first stage is a program and all programs were started. -/
theorem exists_draws_running {others : List Ready}
    (launches : Launches session line world (.ok (.running process output errors :: others))
      started) :
    ∃ segment, Draws session world (.line line) (executeLine session line world).world segment ∧
      world.unread = segment ++ (executeLine session line world).world.unread := by
  have starts : StartsFirst session line world process output errors :=
    launches.startsFirst_iff.mpr ⟨others, rfl⟩
  obtain ⟨turns, taken, sameInput, sameLeft, isLast⟩ := launches.exists_turns
  obtain ⟨later, front⟩ : ∃ later, turns.stages = .running process output errors :: later :=
    taken ▸ takeTurns_front _ process output errors others started
  cases fault : turns.fault with
  | none =>
    obtain ⟨count, runs⟩ := exists_frontRuns true 0 process output errors later turns.world
    have same : (executeLine session line world).world =
        (runPrograms true 0 none 0 (.running process output errors :: later)
          turns.world).world := by
      rw [isLast, TurnsResult.conclude, fault, ← front]
    rw [← same] at runs
    refine ⟨_, .read starts sameInput runs, ?_⟩
    rw [runs.unread_eq, sameInput, List.take_append_drop]
  | some cause =>
    have fails : (executeLine session line world).result = .error cause := by
      simp only [launches.executeLine_finish, finish, ← taken, fault]
    have same : (executeLine session line world).world =
        turns.world.leave (.running process output errors :: later) := by
      rw [isLast, TurnsResult.conclude, fault, ← front]
    have goesOn : (executeLine session line world).world.left =
        world.left ++ [.running process output errors :: later] := by
      rw [same, World.left_leave_running, sameLeft]
    refine ⟨[], .leftBehind starts fails goesOn, ?_⟩
    rw [same, World.unread_leave, sameInput, List.nil_append]

/-- A line whose first stage is a command of the shell takes nothing. -/
theorem unread_finish {stages : List Ready}
    (launches : Launches session line world (.ok stages) started)
    (notFirst : ∀ process output errors others,
      stages ≠ .running process output errors :: others) :
    (executeLine session line world).world.unread = world.unread := by
  obtain ⟨turns, taken, sameInput, -, isLast⟩ := launches.exists_turns
  rw [isLast, ← sameInput, TurnsResult.conclude]
  split
  · refine unread_runPrograms true 0 ?_ turns.world
    intro process output errors later front
    obtain ⟨others, isFirst⟩ := exists_of_takeTurns (taken ▸ front)
    exact notFirst process output errors others isFirst
  · exact turns.world.unread_leave turns.stages

/-- What a line takes when all its programs were started. -/
theorem exists_draws_finish {stages : List Ready}
    (launches : Launches session line world (.ok stages) started) :
    ∃ segment, Draws session world (.line line) (executeLine session line world).world segment ∧
      world.unread = segment ++ (executeLine session line world).world.unread := by
  by_cases first : ∃ process output errors others,
      stages = .running process output errors :: others
  · obtain ⟨process, output, errors, others, rfl⟩ := first
    exact launches.exists_draws_running
  · have notFirst : ∀ process output errors others,
        stages ≠ .running process output errors :: others :=
      fun process output errors others front => first ⟨process, output, errors, others, front⟩
    refine ⟨[], .nothing fun process output errors starts => ?_, ?_⟩
    · obtain ⟨others, front⟩ := launches.startsFirst_iff.mp starts
      exact notFirst process output errors others front
    · rw [launches.unread_finish notFirst, List.nil_append]

/-- A line one of whose programs could not be started reads nothing itself. -/
theorem unread_abandon {failure : StartFailure}
    (launches : Launches session line world (.error failure) started) :
    (executeLine session line world).world.unread = world.unread := by
  have sameInput : started.unread = world.unread := launches.part_eq untouched_unread
  rw [launches.executeLine_abandon, abandon]
  split
  · next written =>
    exact ((untouched_unread.killAll 0 failure.earlier _).trans
      (untouched_unread.write written)).trans sameInput
  · exact (started.unread_leave _).trans sameInput

/-- What a line takes when one of its programs could not be started. -/
theorem exists_draws_abandon {failure : StartFailure}
    (launches : Launches session line world (.error failure) started) :
    ∃ segment, Draws session world (.line line) (executeLine session line world).world segment ∧
      world.unread = segment ++ (executeLine session line world).world.unread := by
  have sameLeft : started.left = world.left := launches.part_eq untouched_left
  have isAbandoned := launches.executeLine_abandon
  refine ⟨[], ?_, by rw [launches.unread_abandon, List.nil_append]⟩
  by_cases first : ∃ process output errors others,
      failure.earlier = .running process output errors :: others
  · obtain ⟨process, output, errors, others, front⟩ := first
    have starts : StartsFirst session line world process output errors :=
      launches.startsFirst_iff.mpr ⟨others, front⟩
    cases written : failure.diagnostics.write (utf8 (failure.message ++ "\n")) started with
    | ok told =>
      obtain ⟨parsed, filesOpened, isPrepared, allStarted⟩ := launches
      have givesUp : GivesUp session line world process output errors started :=
        .intro parsed filesOpened isPrepared allStarted front written
      exact .killed starts givesUp (Nat.zero_le _)
    | error fault =>
      have goesOn : (executeLine session line world).world.left =
          world.left ++ [.running process output errors :: others.map Ready.skip] := by
        rw [isAbandoned, abandon, written, front, ← sameLeft]
        rfl
      have fails : (executeLine session line world).result = .error fault := by
        rw [isAbandoned, abandon, written]
      exact .leftBehind starts fails goesOn
  · refine .nothing fun process output errors starts => ?_
    obtain ⟨others, front⟩ := launches.startsFirst_iff.mp starts
    exact first ⟨process, output, errors, others, front⟩

end Launches

/-- The input is what a line takes and then what it leaves. -/
theorem exists_draws_line (session : Session) (line : String) (world : World) :
    ∃ segment, Draws session world (.line line) (executeLine session line world).world segment ∧
      world.unread = segment ++ (executeLine session line world).world.unread := by
  by_cases launched : ∃ result started, Launches session line world result started
  · obtain ⟨_ | _, started, launches⟩ := launched
    · exact launches.exists_draws_abandon
    · exact launches.exists_draws_finish
  · have refused : ∀ result started, ¬ Launches session line world result started :=
      fun result started launches => launched ⟨result, started, launches⟩
    refine ⟨[], .nothing ?_, (untouched_unread.executeLine refused).symm⟩
    rintro process output errors ⟨parsed, filesOpened, isPrepared, -, -⟩
    exact refused _ _ (.intro parsed filesOpened isPrepared rfl)

/-- When a line is given up, its programs were started up to here. -/
theorem GivesUp.exists_launches {process : Process} {output errors : Sink} {started : World}
    (givesUp : GivesUp session line world process output errors started) :
    ∃ failure others status, Launches session line world (.error failure) started ∧
      failure.earlier = .running process output errors :: others ∧
      (executeLine session line world).result = .ok status := by
  obtain ⟨parsed, filesOpened, isPrepared, notStarted, front, written⟩ := givesUp
  have launches : Launches session line world _ started :=
    .intro parsed filesOpened isPrepared notStarted
  refine ⟨_, _, statusNotStarted, launches, front, ?_⟩
  rw [launches.executeLine_abandon, abandon, written]

namespace EventStep

variable {event : Event} {next : Session} {after : World}

/-- The input is what was taken by what happened, and then what was left of it. -/
theorem exists_draws (step : EventStep session world event next after) :
    ∃ segment, Draws session world event after segment ∧
      world.unread = segment ++ after.unread := by
  cases step with
  | line text => exact exists_draws_line session text world
  | @killed text process output errors started givesUp count within =>
    obtain ⟨failure, others, status, launches, front, answered⟩ := givesUp.exists_launches
    have starts : StartsFirst session text world process output errors :=
      launches.startsFirst_iff.mpr ⟨others, front⟩
    rw [show started.unread = world.unread from launches.part_eq untouched_unread] at within
    refine ⟨_, .killed starts givesUp within, ?_⟩
    rw [World.lose, launches.unread_abandon, List.take_append_drop]
  | leftOver ran ended =>
    unfold World.resume? at ran
    obtain ⟨stages, isLeft, rfl⟩ := Option.map_eq_some_iff.mp ran
    next patience index =>
    by_cases first : ∃ process output errors later,
        stages = .running process output errors :: later
    · obtain ⟨process, output, errors, later, rfl⟩ := first
      obtain ⟨taken, runs⟩ := exists_frontRuns false 0 process output errors later
        { world with patience := patience, left := world.left.eraseIdx index }
      refine ⟨_, .late isLeft runs, ?_⟩
      dsimp only
      rw [runs.unread_eq, List.take_append_drop]
    · have notFirst : ∀ process output errors later,
          stages ≠ .running process output errors :: later :=
        fun process output errors later front => first ⟨process, output, errors, later, front⟩
      refine ⟨[], .lateNothing isLeft notFirst, ?_⟩
      exact (unread_runPrograms false 0 notFirst
        { world with patience := patience, left := world.left.eraseIdx index }).symm

/-- What happens leaves no programs behind unless it is a line that ends with an error. -/
theorem left_subset (step : EventStep session world event next after) :
    after.left ⊆ world.left ∨ ∃ line fault, event = .line line ∧
      (executeLine session line world).result = .error fault := by
  have ofLine {line : String} {status : Nat}
      (answered : (executeLine session line world).result = .ok status) :
      (executeLine session line world).world.left ⊆ world.left :=
    fun _ member => executeLine_left answered ▸ member
  cases step with
  | line text =>
    cases ended : (executeLine session text world).result with
    | ok status => exact Or.inl (ofLine ended)
    | error fault => exact Or.inr ⟨text, fault, rfl, ended⟩
  | killed givesUp =>
    obtain ⟨failure, others, status, -, -, answered⟩ := givesUp.exists_launches
    exact Or.inl (ofLine answered)
  | @leftOver patience index run ran ended =>
    obtain ⟨settled, same, isAfter⟩ := untouched_left.law.keeps_resume (fun _ _ => rfl)
      (fun _ _ each _ => untouched_left.unconditional.allowsTurned each) ran
    have sameLeft : run.world.left = world.left.eraseIdx index := isAfter ▸ same
    exact Or.inl fun stages member => List.mem_of_mem_eraseIdx (sameLeft ▸ member)

end EventStep

/-! ### Courses -/

/-- What was read from the standard input in a course, event by event. -/
inductive DrawnBy : Session → World → List Event → Session → World → List Bytes → Prop
  | nil {session : Session} {world : World} : DrawnBy session world [] session world []
  | cons {session next now : Session} {world after around : World} {event : Event}
      {rest : List Event} {segment : Bytes} {segments : List Bytes}
      (step : EventStep session world event next after)
      (draws : Draws session world event after segment)
      (later : DrawnBy next after rest now around segments) :
      DrawnBy session world (event :: rest) now around (segment :: segments)

namespace Course

variable {middle now : Session} {between around : World} {events early late : List Event}

/-- A course can be divided wherever its events can. -/
theorem of_append (course : Course session world (early ++ late) now around) :
    ∃ middle between, Course session world early middle between ∧
      Course middle between late now around := by
  induction early generalizing session world with
  | nil => exact ⟨session, world, .nil, course⟩
  | cons event rest inductionHypothesis =>
    cases course with
    | cons first later =>
      obtain ⟨middle, between, ahead, behind⟩ := inductionHypothesis later
      exact ⟨middle, between, .cons first ahead, behind⟩

/-- If no programs were left over at first, only a line that ended with an error leaves some. -/
theorem exists_error (course : Course session world events now around)
    (noneLeft : world.left = []) (someLeft : around.left ≠ []) :
    ∃ early line late middle between fault, events = early ++ .line line :: late ∧
      Course session world early middle between ∧
      (executeLine middle line between).result = .error fault := by
  induction course with
  | nil => exact absurd noneLeft someLeft
  | @cons session next now world after around event rest first later inductionHypothesis =>
    rcases first.left_subset with within | ⟨line, fault, rfl, fails⟩
    · rw [noneLeft, List.subset_nil] at within
      obtain ⟨early, line, late, middle, between, fault, rfl, ahead, fails⟩ :=
        inductionHypothesis within someLeft
      exact ⟨event :: early, line, late, middle, between, fault, rfl, .cons first ahead, fails⟩
    · exact ⟨[], line, rest, session, world, fault, rfl, .nil, fails⟩

theorem exists_drawnBy (course : Course session world events now around) :
    ∃ segments, DrawnBy session world events now around segments ∧
      world.unread = segments.flatten ++ around.unread := by
  induction course with
  | nil => exact ⟨[], .nil, rfl⟩
  | cons first later inductionHypothesis =>
    obtain ⟨segment, draws, split⟩ := first.exists_draws
    obtain ⟨segments, others, left⟩ := inductionHypothesis
    refine ⟨segment :: segments, .cons first draws others, ?_⟩
    rw [split, left, List.flatten_cons, List.append_assoc]

end Course

/-- The standard input is segments that were read in the order of the events, and then what is left
of it: nothing is read twice, and nothing is passed over. The segment of a line is what the program
read that was started for the first stage of its pipeline, if it was let run. If it was killed, the
segment is a start of that. Without such a program it is empty, and also if the program was left
behind. What it reads then is a segment of its own, and there are such segments only behind a line
that ended with an error. -/
theorem course_unread {events : List Event} {now : Session} {around : World}
    (course : Course session world events now around) :
    (∃ segments, DrawnBy session world events now around segments ∧
      world.unread = segments.flatten ++ around.unread) ∧
    ∀ front back, events = front ++ .leftOver :: back → world.left = [] →
      ∃ early line late middle between fault, front = early ++ .line line :: late ∧
        Course session world early middle between ∧
        (executeLine middle line between).result = .error fault := by
  refine ⟨course.exists_drawnBy, ?_⟩
  rintro front back rfl noneLeft
  obtain ⟨middle, between, ahead, behind⟩ := course.of_append
  refine ahead.exists_error noneLeft fun noMore => ?_
  cases behind with
  | cons first later =>
    obtain @⟨_, _⟩ | _ | ⟨ran, -⟩ := first
    simp [World.resume?, noMore] at ran

/-- A tool that is left behind reads when the lines are over, and there is no other such segment. -/
theorem course_unread_head :
    let session := Session.start [] (utf8 "/r")
    let tree := (scratchTree (utf8 "/r")).including [] (utf8 "/r/tool") (toolNode toolMode)
    let world := { scratchWorld (utf8 "/r") [] (utf8 "abcdef") false with tree := tree }
    let lines := ["./tool head 2", "pwd | ./tool cat", "./tool head 1 | cd nope 2> /dev/full",
      "./tool cat > /", "./tool head 1 | nosuch", "./tool head 1"]
    ∃ now around segments,
      Course session world (lines.map .line ++ [.leftOver]) now around ∧
      DrawnBy session world (lines.map .line ++ [.leftOver]) now around segments ∧
      utf8 "abcdef" = segments.flatten ++ utf8 "ef" ∧
      ∃ early line late middle between fault, lines.map .line = early ++ .line line :: late ∧
        Course session world early middle between ∧
        (executeLine middle line between).result = .error fault := by
  intro session tree world lines
  obtain ⟨after, isAfter⟩ : ∃ after, after = afterLines session world lines := ⟨_, rfl⟩
  have ahead : Course session world (lines.map .line) after.1 after.2 :=
    isAfter ▸ afterLines_course session world lines
  have someLeft : (after.2.resume? 0 0).any
      (fun run => run.ended && decide (run.world.unread = utf8 "ef")) = true := by
    rw [isAfter]
    decide +kernel
  obtain ⟨run, ran, settled⟩ := (Option.any_eq_true _ _).mp someLeft
  obtain ⟨ended, unread⟩ := Bool.and_eq_true_iff.mp settled
  have course := ahead.append (.one (.leftOver ran ended))
  obtain ⟨⟨segments, drawn, split⟩, onlyThen⟩ := course_unread course
  rw [of_decide_eq_true unread] at split
  exact ⟨after.1, run.world, segments, course, drawn, split, onlyThen _ [] rfl rfl⟩

/-- So the segments of lines are not all that is read. The program of the first line was started,
and it reads what is left when that of the second line has read. -/
theorem course_unread_late :
    let session := Session.start [] (utf8 "/r")
    let tree := (scratchTree (utf8 "/r")).including [] (utf8 "/r/tool") (toolNode toolMode)
    let world := { scratchWorld (utf8 "/r") [] (utf8 "ab") false with tree := tree }
    let first := "./tool head 1 | cd nope 2> /dev/full"
    let one := afterLines session world [first]
    let both := afterLines session world [first, "./tool head 1"]
    (executeLine session first world).result = .error .noSpace ∧
      one.2.journal = [.started 0] ∧ one.2.unread = utf8 "ab" ∧ both.2.unread = utf8 "b" ∧
      ∃ around, Course both.1 both.2 [.leftOver] both.1 around ∧ around.unread = [] := by
  intro session tree world first one both
  refine ⟨by decide +kernel, by decide +kernel, by decide +kernel, by decide +kernel, ?_⟩
  have someLeft : (both.2.resume? 0 0).any
      (fun run => run.ended && decide (run.world.unread = [])) = true := by decide +kernel
  obtain ⟨run, ran, settled⟩ := (Option.any_eq_true _ _).mp someLeft
  obtain ⟨ended, unread⟩ := Bool.and_eq_true_iff.mp settled
  exact ⟨run.world, .one (.leftOver ran ended), of_decide_eq_true unread⟩

end CommandShell
