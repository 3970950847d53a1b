/-
This file proves once what the phases of a pipeline keep. When the files are open,
all that a pipeline does to the world it does by writing to sinks, by running
processes and commands of the shell, and by going on with the journal. So what
every write keeps is kept by every phase, however the pipeline ends, and a property
of whole lines is left with its own matter: what one write does.

A write may have to go to a sink of a certain kind, and what a sink becomes by a
write has to be of that kind again. What is kept is a relation between two worlds,
so that it can speak of what was there before.

A pipeline can leave programs behind. That comes last, and what becomes of them is
not the matter of the pipeline any more, so here it is only said that their sinks
are of the kind that is allowed.
-/

import CommandShell.Proofs.Opening
import CommandShell.Proofs.Stage
import CommandShell.Course

namespace CommandShell

/-- Something that every write keeps which goes to a sink of an allowed kind. The terminal and all
pipes are allowed, so the kind is a matter of open files. -/
structure Preserved where
  Keeps : World → World → Prop
  Allows : Sink → Prop
  refl (world : World) : Keeps world world
  trans {first second third : World} (early : Keeps first second) (late : Keeps second third) :
    Keeps first third
  record (world : World) (event : ProcessEvent) : Keeps world (world.record event)
  terminal (stream : Stream) : Allows (.terminal stream)
  pipe (held : Output) (limit : Option Nat) : Allows (.pipe held limit)
  write {sink next : Sink} {bytes : Bytes} {before after : World} (allowed : Allows sink)
    (written : sink.write bytes before = .ok (next, after)) : Allows next ∧ Keeps before after

@[simp]
theorem World.tree_leave (world : World) (stages : List Turned) :
    (world.leave stages).tree = world.tree := by
  unfold leave
  split <;> rfl

namespace Preserved

variable (law : Preserved)

/-! ### Streams -/

/-- The two sinks of a program are allowed. -/
structure AllowsStreams (streams : Streams) : Prop where
  output : law.Allows streams.output
  errors : law.Allows streams.errors

variable {law} in
theorem keeps_write {streams : Streams} (allowed : law.AllowsStreams streams)
    (write : Stream × Bytes) :
    law.AllowsStreams (streams.write write) ∧
      law.Keeps streams.world (streams.write write).world := by
  obtain ⟨stream, bytes⟩ := write
  cases stream with
  | stdout =>
    simp only [Streams.write]
    split
    · next written =>
      obtain ⟨next, keeps⟩ := law.write allowed.output written
      exact ⟨⟨next, allowed.errors⟩, keeps⟩
    · exact ⟨allowed, law.refl _⟩
  | stderr =>
    simp only [Streams.write]
    split
    · next written =>
      obtain ⟨next, keeps⟩ := law.write allowed.errors written
      exact ⟨⟨allowed.output, next⟩, keeps⟩
    · exact ⟨allowed, law.refl _⟩

variable {law} in
theorem keeps_foldl (writes : List (Stream × Bytes)) {streams : Streams}
    (allowed : law.AllowsStreams streams) :
    law.Keeps streams.world (writes.foldl Streams.write streams).world := by
  induction writes generalizing streams with
  | nil => exact law.refl _
  | cons write rest inductionHypothesis =>
    obtain ⟨next, keeps⟩ := keeps_write allowed write
    exact law.trans keeps (inductionHypothesis next)

/-! ### Stages -/

theorem limited {sink : Sink} (allowed : law.Allows sink) (limit : Option Nat) :
    law.Allows (sink.limited limit) := by
  cases sink with
  | terminal stream => exact allowed
  | file handle => exact allowed
  | pipe held => exact law.pipe held limit

theorem print (world : World) (stream : Stream) (bytes : Bytes) :
    law.Keeps world (world.print stream bytes) :=
  (law.write (law.terminal stream) rfl).2

/-- The process keeps it if its two sinks are allowed. -/
def KeptBy (process : Process) : Prop :=
  ∀ input output errors before, law.Allows output → law.Allows errors →
    law.Keeps before (process.run input output errors before).world

/-- The open files of a stage are allowed. -/
def AllowsFiles (files : Files) : Prop :=
  ∀ handle ∈ files.handles, law.Allows (.file handle)

/-- The sinks of a stage are allowed, and it is kept by the process if the stage is a program. -/
def AllowsReady : Ready → Prop
  | .waiting _ _ output diagnostics => law.Allows output ∧ law.Allows diagnostics
  | .running process output errors =>
    law.KeptBy process ∧ law.Allows output ∧ law.Allows errors

/-- The same of a stage when the commands of the shell had their turn. -/
def AllowsTurned : Turned → Prop
  | .finished _ _ => True
  | .running process output errors =>
    law.KeptBy process ∧ law.Allows output ∧ law.Allows errors

/-- The same of all stages that were started, and of what is told about one that was not. -/
def AllowsStarted : Except StartFailure (List Ready) → Prop
  | .ok ready => ∀ each ∈ ready, law.AllowsReady each
  | .error failure =>
    (∀ each ∈ failure.earlier, law.AllowsReady each) ∧ law.Allows failure.diagnostics

variable {law}

theorem allows_of_handle (handle : Option Handle) (stream : Stream) :
    (∀ own ∈ handle.toList, law.Allows (.file own)) →
      law.Allows (match handle with
        | some own => .file own
        | none => .terminal stream) := by
  intro allowed
  cases handle with
  | none => exact law.terminal stream
  | some own => exact allowed own (by simp)

namespace AllowsFiles

variable {files : Files} (allowed : law.AllowsFiles files)

include allowed

theorem errors : law.Allows files.errors :=
  allows_of_handle files.stderr .stderr fun own member =>
    allowed own (List.mem_append_right _ member)

theorem diagnostics : law.Allows files.diagnostics :=
  allows_of_handle files.stderr .stdout fun own member =>
    allowed own (List.mem_append_right _ member)

theorem outputAt (last : Bool) : law.Allows (files.outputAt last) := by
  cases last with
  | true =>
    exact allows_of_handle files.stdout .stdout fun own member =>
      allowed own (List.mem_append_left _ member)
  | false => exact law.pipe _ _

end AllowsFiles

variable (law) in
/-- Every sink is allowed, and every process keeps it. -/
structure Unconditional : Prop where
  allows (sink : Sink) : law.Allows sink
  keptBy (process : Process) : law.KeptBy process

theorem Unconditional.allowsReady (always : law.Unconditional) (ready : Ready) :
    law.AllowsReady ready := by
  cases ready with
  | waiting => exact ⟨always.allows _, always.allows _⟩
  | running process => exact ⟨always.keptBy process, always.allows _, always.allows _⟩

theorem Unconditional.allowsTurned (always : law.Unconditional) (turned : Turned) :
    law.AllowsTurned turned := by
  cases turned with
  | finished => exact trivial
  | running process => exact ⟨always.keptBy process, always.allows _, always.allows _⟩

theorem allowsTurned_skip {stages : List Ready} (allowed : ∀ each ∈ stages, law.AllowsReady each) :
    ∀ each ∈ stages.map Ready.skip, law.AllowsTurned each := by
  intro each member
  obtain ⟨stage, inStages, rfl⟩ := List.mem_map.mp member
  have own := allowed stage inStages
  cases stage with
  | waiting => exact trivial
  | running => exact own

theorem AllowsStarted.addReady {ready : Ready} {later : Except StartFailure (List Ready) × World}
    (first : law.AllowsReady ready) (others : law.AllowsStarted later.1) :
    law.AllowsStarted (addReady ready later).1 := by
  obtain ⟨_ | _, world⟩ := later
  · exact ⟨List.forall_mem_cons.mpr ⟨first, others.1⟩, others.2⟩
  · exact List.forall_mem_cons.mpr ⟨first, others⟩

/-! ### Starting the programs -/

theorem keeps_startAll (session : Session) (index : Nat) (held : List Location)
    (prepared : List Prepared) (world : World) :
    law.Keeps world (startAll session index held prepared world).2 := by
  induction prepared generalizing index held world with
  | nil => exact law.refl world
  | cons first rest inductionHypothesis =>
    unfold startAll
    dsimp only
    split
    · rw [addReady_world]
      exact inductionHypothesis _ _ _
    · split
      · exact law.refl world
      · rw [addReady_world]
        exact law.trans (law.record world _) (inductionHypothesis _ _ _)

theorem allowsStarted_startAll {session : Session} {opened : World} {prepared : List Prepared}
    (index : Nat) (held : List Location) {world : World}
    (journalOnly : world = { opened with journal := world.journal })
    (allowed : ∀ each ∈ prepared, law.AllowsFiles each.files)
    (kept : ∀ each ∈ prepared, ∀ path process, each.command = .external path →
      Launched session opened each path process → law.KeptBy process) :
    law.AllowsStarted (startAll session index held prepared world).1 := by
  induction prepared generalizing index held world with
  | nil => exact List.forall_mem_nil _
  | cons first rest inductionHypothesis =>
    obtain ⟨own, behind⟩ := List.forall_mem_cons.mp allowed
    obtain ⟨keptByOwn, keptBehind⟩ := List.forall_mem_cons.mp kept
    unfold startAll
    dsimp only
    cases command : first.command with
    | builtin builtin =>
      exact .addReady ⟨own.outputAt rest.isEmpty, own.diagnostics⟩
        (inductionHypothesis (index + 1) _ journalOnly behind keptBehind)
    | external path =>
      dsimp only
      split
      · exact ⟨List.forall_mem_nil _, own.diagnostics⟩
      · next process launch =>
        have recorded : world.record (.started index) =
            { opened with journal := (world.record (.started index)).journal } := by
          rw [World.record, journalOnly]
        rw [journalOnly] at launch
        exact .addReady
          ⟨keptByOwn path process command ⟨_, _, launch⟩, own.outputAt rest.isEmpty, own.errors⟩
          (inductionHypothesis (index + 1) _ recorded behind keptBehind)

theorem keeps_killAll (index : Nat) (ready : List Ready) (world : World) :
    law.Keeps world (killAll index ready world) := by
  induction ready generalizing index world with
  | nil => exact law.refl world
  | cons first rest inductionHypothesis =>
    cases first with
    | waiting => exact inductionHypothesis _ world
    | running =>
      have recorded := law.trans (law.record world (.killed index))
        (law.record (world.record (.killed index)) (.waited index))
      exact law.trans recorded (inductionHypothesis _ _)

/-! ### The shell's own commands -/

theorem keeps_reportError {diagnostics : Sink} (allowed : law.Allows diagnostics)
    (error : BuiltinError) (session : Session) (world : World) :
    law.Keeps world (reportError diagnostics error session world).world := by
  unfold reportError
  split
  · exact law.refl world
  · next told => exact (law.write allowed told).2

/-- The command itself may do more, so this starts from the world as it left it. -/
theorem keeps_takeTurn {output diagnostics : Sink} (toOutput : law.Allows output)
    (toDiagnostics : law.Allows diagnostics) (builtin : Builtin) (args : List String)
    (session : Session) (world : World) :
    law.Keeps (builtin.run args session world).world
      (takeTurn builtin args output diagnostics session world).world := by
  unfold takeTurn
  dsimp only
  split
  · exact keeps_reportError toDiagnostics _ _ _
  · split
    · exact keeps_reportError toDiagnostics _ _ _
    · next told => exact (law.write toOutput told).2

variable (law) in
/-- The commands of the shell keep it themselves. -/
def KeptByCommands : Prop :=
  ∀ (builtin : Builtin) args session world, law.Keeps world (builtin.run args session world).world

theorem keeps_takeTurns (commands : law.KeptByCommands) (alone : Bool) (session : Session)
    {ready : List Ready} (allowed : ∀ each ∈ ready, law.AllowsReady each) (world : World) :
    law.Keeps world (takeTurns alone session ready world).world ∧
      ∀ each ∈ (takeTurns alone session ready world).stages, law.AllowsTurned each := by
  induction ready generalizing session world with
  | nil => exact ⟨law.refl world, List.forall_mem_nil _⟩
  | cons first rest inductionHypothesis =>
    obtain ⟨own, behind⟩ := List.forall_mem_cons.mp allowed
    cases first with
    | running process output errors =>
      obtain ⟨keeps, others⟩ := inductionHypothesis session behind world
      exact ⟨keeps, List.forall_mem_cons.mpr ⟨own, others⟩⟩
    | waiting builtin args output diagnostics =>
      have command := commands builtin args (if alone then session else session.detach) world
      have turn := law.trans command (keeps_takeTurn own.1 own.2 builtin args _ world)
      simp only [takeTurns]
      split
      · obtain ⟨keeps, others⟩ := inductionHypothesis _ behind _
        exact ⟨law.trans turn keeps, List.forall_mem_cons.mpr ⟨trivial, others⟩⟩
      · exact ⟨turn, List.forall_mem_cons.mpr ⟨trivial, allowsTurned_skip behind⟩⟩

/-! ### Programs -/

theorem keeps_runPrograms (waiting : Bool) (index : Nat) (given : Option Bytes) (status : Nat)
    {stages : List Turned} (allowed : ∀ each ∈ stages, law.AllowsTurned each)
    (reading : ∀ taken world, law.Keeps world (consume given taken world)) (world : World) :
    law.Keeps world (runPrograms waiting index given status stages world).world := by
  -- Behind the first stage every program is given something, and then nothing is consumed.
  induction stages generalizing index given status world with
  | nil => exact law.refl world
  | cons first rest inductionHypothesis =>
    obtain ⟨own, behind⟩ := List.forall_mem_cons.mp allowed
    cases first with
    | finished held status =>
      exact inductionHypothesis _ (some held) _ behind (fun _ => law.refl) world
    | running process output errors =>
      obtain ⟨kept, toOutput, toErrors⟩ := own
      obtain ⟨limit, -, step⟩ :=
        runPrograms_running waiting process output errors index given status rest world
      obtain ⟨result, ran⟩ : ∃ result, result =
          process.run (inputFor given world) (output.limited limit) errors world := ⟨_, rfl⟩
      have running : law.Keeps world result.world :=
        ran ▸ kept _ _ errors world (law.limited toOutput limit) toErrors
      have recording (after : World) :
          law.Keeps after (if waiting then after.record (.waited index) else after) := by
        split
        · exact law.record _ _
        · exact law.refl _
      have later := inductionHypothesis (index + 1) (some result.held) result.status.code behind
        (fun _ => law.refl)
      rw [(step result ran _ rfl _ rfl).2]
      exact law.trans running (law.trans (reading _ _) (law.trans (recording _) (later _)))

variable (law) in
/-- Reading the standard input keeps it. -/
def KeptByReading : Prop :=
  ∀ taken world, law.Keeps world (consume none taken world)

/-! ### The rest of a pipeline -/

variable (law) in
/-- It is kept to the end, where allowed stages can be left behind. -/
def Ends (before after : World) : Prop :=
  ∃ middle stages, law.Keeps before middle ∧ (∀ each ∈ stages, law.AllowsTurned each) ∧
    after = middle.leave stages

theorem Ends.of_keeps {before after : World} (keeps : law.Keeps before after) :
    law.Ends before after :=
  ⟨after, [], keeps, List.forall_mem_nil _, rfl⟩

theorem Ends.behind {first second third : World} (early : law.Keeps first second)
    (late : law.Ends second third) : law.Ends first third := by
  obtain ⟨middle, stages, keeps, allowed, rfl⟩ := late
  exact ⟨middle, stages, law.trans early keeps, allowed, rfl⟩

/-- What does not care about programs that are left behind is kept altogether. -/
theorem Ends.keeps (leaving : ∀ world stages, law.Keeps world (world.leave stages))
    {before after : World} (ends : law.Ends before after) : law.Keeps before after := by
  obtain ⟨middle, stages, keeps, -, rfl⟩ := ends
  exact law.trans keeps (leaving middle stages)

theorem ends_conclude (reading : law.KeptByReading) (turns : TurnsResult)
    (allowed : ∀ each ∈ turns.stages, law.AllowsTurned each) :
    law.Ends turns.world turns.conclude.world := by
  unfold TurnsResult.conclude
  split
  · exact .of_keeps (keeps_runPrograms true 0 none 0 allowed reading turns.world)
  · exact ⟨turns.world, turns.stages, law.refl _, allowed, rfl⟩

theorem ends_finish (commands : law.KeptByCommands) (reading : law.KeptByReading)
    (session : Session) {stages : List Ready} (allowed : ∀ each ∈ stages, law.AllowsReady each)
    (world : World) : law.Ends world (finish session stages world).world := by
  obtain ⟨keeps, others⟩ := keeps_takeTurns commands (stages.length ≤ 1) session allowed world
  have ends := Ends.behind keeps (ends_conclude reading _ others)
  unfold finish
  dsimp only
  split <;> exact ends

theorem ends_abandon (session : Session) {failure : StartFailure}
    (earlier : ∀ each ∈ failure.earlier, law.AllowsReady each)
    (diagnostics : law.Allows failure.diagnostics) (world : World) :
    law.Ends world (abandon session failure world).world := by
  unfold abandon
  split
  · next told =>
    exact .of_keeps (law.trans (law.write diagnostics told).2 (keeps_killAll _ _ _))
  · exact ⟨world, _, law.refl world, allowsTurned_skip earlier, rfl⟩

theorem keeps_reportUnresolved (session : Session) {unresolved : Unresolved}
    (allowed : law.AllowsFiles unresolved.files) (world : World) :
    law.Keeps world (reportUnresolved session unresolved world).world := by
  unfold reportUnresolved
  split
  · next told => exact (law.write allowed.diagnostics told).2
  · exact law.refl world

/-- From where the files of a pipeline are open it is kept to the end, however the pipeline ends. -/
theorem ends_execute_of_opened (commands : law.KeptByCommands) (reading : law.KeptByReading)
    {session : Session} {pipeline : Pipeline} {world opened : World} {files : List Files}
    (filesOpened : openAll session pipeline world = (.ok files, opened))
    (allowed : ∀ own ∈ files, law.AllowsFiles own)
    (kept : ∀ prepared, prepareAll session opened (pipeline.zip files) = .ok prepared →
      ∀ each ∈ prepared, ∀ path process, each.command = .external path →
        Launched session opened each path process → law.KeptBy process) :
    law.Ends opened (execute session pipeline world).world := by
  unfold execute
  rw [filesOpened]
  dsimp only
  split
  · next unresolved notPrepared =>
    obtain ⟨earlier, stage, own, later, split, -, -, rfl⟩ :=
      prepareAll_eq_error_iff.mp notPrepared
    have member : (stage, own) ∈ pipeline.zip files := by simp [split]
    exact .of_keeps
      (keeps_reportUnresolved session (allowed own (List.of_mem_zip member).2) opened)
  · next prepared isPrepared =>
    have preparedFiles : ∀ each ∈ prepared, law.AllowsFiles each.files := by
      intro each member
      have zipped := List.mem_map_of_mem (f := fun each => (each.stage, each.files)) member
      rw [(prepareAll_eq_ok_iff.mp isPrepared).1] at zipped
      exact allowed each.files (List.of_mem_zip zipped).2
    have starting := law.keeps_startAll session 0 [] prepared opened
    have started : law.AllowsStarted (startAll session 0 [] prepared opened).1 :=
      allowsStarted_startAll 0 [] rfl preparedFiles (kept prepared isPrepared)
    split
    · next notStarted =>
      rw [notStarted] at starting started
      exact .behind starting (ends_abandon session started.1 started.2 _)
    · next allStarted =>
      rw [allStarted] at starting started
      exact .behind starting (ends_finish commands reading session started _)

/-- It is kept by a whole pipeline if the openings keep it too, those of all redirections and, when
one of them fails, those ahead of it. -/
theorem ends_execute (commands : law.KeptByCommands) (reading : law.KeptByReading)
    {session : Session} {pipeline : Pipeline} {world : World}
    (opening : ∀ early later handles opened, pipeline.redirects = early ++ later →
      OpenedAll session early world handles opened →
      law.Keeps world opened ∧ ∀ handle ∈ handles, law.Allows (.file handle))
    (kept : ∀ files opened prepared, openAll session pipeline world = (.ok files, opened) →
      prepareAll session opened (pipeline.zip files) = .ok prepared →
      ∀ each ∈ prepared, ∀ path process, each.command = .external path →
        Launched session opened each path process → law.KeptBy process) :
    law.Ends world (execute session pipeline world).world := by
  rcases opened_or_failsAt session pipeline world with
    ⟨files, opened, all⟩ | ⟨failure, stopped, fails⟩
  · have filesOpened := openAll_eq_ok_iff.mpr all
    obtain ⟨openings, allowed⟩ :=
      opening pipeline.redirects [] _ opened (List.append_nil _).symm all.2
    have own : ∀ own ∈ files, law.AllowsFiles own :=
      fun own member handle inside => allowed handle (List.mem_flatMap.mpr ⟨own, member, inside⟩)
    exact .behind openings
      (ends_execute_of_opened commands reading filesOpened own (kept files opened · filesOpened))
  · obtain ⟨early, redirect, later, handles, split, ahead, -⟩ := failsAt_iff.mp fails
    simp only [execute, openAll_eq_error_iff.mpr fails]
    exact .of_keeps
      (law.trans (opening early _ handles stopped split ahead).1 (law.print stopped .stderr _))

theorem ends_executeLine {session : Session} {line : String} {world : World}
    (pipelines : ∀ pipeline, Pipeline.ofWords (splitWords line) = .ok pipeline →
      law.Ends world (execute session pipeline world).world) :
    law.Ends world (executeLine session line world).world := by
  unfold executeLine
  dsimp only
  split
  · exact .of_keeps (law.refl world)
  · split
    · exact .of_keeps (law.print world .stderr _)
    · next pipeline parsed => exact pipelines pipeline parsed

/-- Left-over programs keep it when they run, if their sinks are allowed. How long they may take is
no matter, and they are not left over any more then. -/
theorem keeps_resume (reading : law.KeptByReading) {world : World}
    (allowed : ∀ stages ∈ world.left, ∀ each ∈ stages, law.AllowsTurned each)
    {patience index : Nat} {run : RunResult} (ran : world.resume? patience index = some run) :
    ∃ after, law.Keeps
        { world with patience := patience, left := world.left.eraseIdx index } after ∧
      run.world = { after with patience := world.patience } := by
  unfold World.resume? at ran
  obtain ⟨stages, isLeft, rfl⟩ := Option.map_eq_some_iff.mp ran
  exact ⟨_, keeps_runPrograms false 0 none 0 (allowed stages (List.mem_of_getElem? isLeft))
    reading _, rfl⟩

end Preserved

end CommandShell
