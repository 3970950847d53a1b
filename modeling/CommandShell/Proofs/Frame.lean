/-
This file proves what a pipeline leaves alone: the directory of the process and
its variables. Files are opened, programs run and messages are printed without
touching either. Since no write does, no phase does, and what is left to each phase
here is to say so.

There is one exception. `cd` moves the process, if it works on the session itself
and its target leads to a directory. What `cd` does is therefore described
exactly, and everything else by what it does not do.
-/

import CommandShell.Proofs.Preservation

namespace CommandShell

/-! ### The directory and the variables of the process -/

/-- The process works where it did and has the variables that it had. -/
structure SameProcess (before after : World) : Prop where
  cwd : after.cwd = before.cwd
  entries : after.entries = before.entries

namespace SameProcess

theorem refl (world : World) : SameProcess world world := ⟨rfl, rfl⟩

theorem trans {first second third : World} (early : SameProcess first second)
    (late : SameProcess second third) : SameProcess first third :=
  ⟨late.cwd.trans early.cwd, late.entries.trans early.entries⟩

theorem print (world : World) (stream : Stream) (bytes : Bytes) :
    SameProcess world (world.print stream bytes) := by
  cases stream <;> exact ⟨rfl, rfl⟩

/-! ### Files -/

theorem openedAll {session : Session} {redirects : List Redirect} {world opened : World}
    {handles : List Handle} (all : OpenedAll session redirects world handles opened) :
    SameProcess world opened := by
  rw [all.frame]
  exact ⟨rfl, rfl⟩

theorem failsAt {session : Session} {redirects : List Redirect} {world stopped : World}
    {failure : OpenFailure} (fails : FailsAt session redirects world failure stopped) :
    SameProcess world stopped := by
  obtain ⟨earlier, redirect, later, handles, -, ahead, -⟩ := failsAt_iff.mp fails
  exact openedAll ahead

theorem written {sink next : Sink} {bytes : Bytes} {before after : World}
    (written : sink.write bytes before = .ok (next, after)) : SameProcess before after := by
  rw [(Wrote.of_write written).frame]
  exact ⟨rfl, rfl⟩

/-- Every write leaves the process where it is, whatever it goes to. -/
def law : Preserved where
  Keeps := SameProcess
  Allows _ := True
  refl := refl
  trans := trans
  record _ _ := ⟨rfl, rfl⟩
  terminal _ := trivial
  pipe _ _ := trivial
  write _ written := ⟨trivial, SameProcess.written written⟩

/-! ### Programs -/

/-- When all stages of a pipeline are ready, the process is where it was. -/
theorem ready {session : Session} {pipeline : Pipeline} {files : List Files}
    {prepared : List Prepared} {world opened started : World}
    {result : Except StartFailure (List Ready)}
    (filesOpened : openAll session pipeline world = (.ok files, opened))
    (allStarted : startAll session 0 [] prepared opened = (result, started)) :
    SameProcess world started := by
  have starting : SameProcess opened (startAll session 0 [] prepared opened).2 :=
    law.keeps_startAll session 0 [] prepared opened
  rw [allStarted] at starting
  exact (openedAll (openAll_eq_ok_iff.mp filesOpened).2).trans starting

theorem ran (process : Process) (input : Bytes) (output errors : Sink) (world : World) :
    SameProcess world (process.run input output errors world).world := by
  rw [process.run_frame input output errors world rfl]
  exact ⟨rfl, rfl⟩

theorem consumed (given : Option Bytes) (taken : Nat) (world : World) :
    SameProcess world (consume given taken world) := by
  cases given <;> exact ⟨rfl, rfl⟩

theorem unconditional : law.Unconditional where
  allows _ := trivial
  keptBy process input output errors world _ _ := ran process input output errors world

/-! ### Messages -/

theorem unresolved (session : Session) (name : Unresolved) (world : World) :
    SameProcess world (reportUnresolved session name world).world :=
  law.keeps_reportUnresolved session (fun _ _ => trivial) world

theorem left (world : World) (stages : List Turned) : SameProcess world (world.leave stages) := by
  unfold World.leave
  split <;> exact ⟨rfl, rfl⟩

theorem abandoned (session : Session) (failure : StartFailure) (world : World) :
    SameProcess world (abandon session failure world).world :=
  (law.ends_abandon session (fun each _ => unconditional.allowsReady each) trivial world).keeps left

/-- After a command of the shell ran, its turn leaves the process where the command left it. -/
theorem turn (builtin : Builtin) (args : List String) (output diagnostics : Sink)
    (session : Session) (world : World) :
    SameProcess (builtin.run args session world).world
      (takeTurn builtin args output diagnostics session world).world :=
  law.keeps_takeTurn trivial trivial builtin args session world

/-- After the turns of the shell's own commands, the programs leave the process where it is. -/
theorem finished (session : Session) (stages : List Ready) (world : World) :
    SameProcess (takeTurns (stages.length ≤ 1) session stages world).world
      (finish session stages world).world := by
  have ends (turns : TurnsResult) : SameProcess turns.world turns.conclude.world :=
    (law.ends_conclude (consumed none) turns fun each _ => unconditional.allowsTurned each).keeps
      left
  unfold finish
  dsimp only
  split <;> exact ends _

theorem resumed {world : World} {patience index : Nat} {run : RunResult}
    (ran : world.resume? patience index = some run) : SameProcess world run.world := by
  obtain ⟨after, same, settled⟩ :=
    law.keeps_resume (consumed none) (fun _ _ each _ => unconditional.allowsTurned each) ran
  rw [settled]
  exact ⟨same.cwd, same.entries⟩

end SameProcess

/-! ### Sessions -/

theorem finish_session (session : Session) (stages : List Ready) (world : World) :
    (finish session stages world).session =
      (takeTurns (stages.length ≤ 1) session stages world).session := by
  unfold finish
  dsimp only
  split <;> rfl

/-- A pipeline that does not come to its stages leaves the session alone, and the process where it
is. -/
theorem execute_refused_or_ready (session : Session) (pipeline : Pipeline) (world : World) :
    ((execute session pipeline world).session = session ∧
        SameProcess world (execute session pipeline world).world) ∨
      ∃ files opened prepared ready started,
        openAll session pipeline world = (.ok files, opened) ∧
        prepareAll session opened (pipeline.zip files) = .ok prepared ∧
        startAll session 0 [] prepared opened = (.ok ready, started) ∧
        execute session pipeline world = finish session ready started := by
  unfold execute
  split
  · next failure stopped filesOpened =>
    have stopping := SameProcess.failsAt (openAll_eq_error_iff.mp filesOpened)
    exact Or.inl ⟨rfl, stopping.trans (SameProcess.print stopped .stderr _)⟩
  · next files opened filesOpened =>
    have opening := SameProcess.openedAll (openAll_eq_ok_iff.mp filesOpened).2
    split
    · next unresolved _ =>
      refine Or.inl ⟨?_, opening.trans (.unresolved _ _ _)⟩
      unfold reportUnresolved
      split <;> rfl
    · next prepared isPrepared =>
      split
      · next failure started notStarted =>
        refine Or.inl ⟨?_, (SameProcess.ready filesOpened notStarted).trans (.abandoned _ _ _)⟩
        unfold abandon
        split <;> rfl
      · next ready started allStarted =>
        exact Or.inr ⟨files, opened, prepared, ready, started, filesOpened, isPrepared, allStarted,
          rfl⟩

/-! ### Changing the directory -/

/-- The path, read in the directory of the session, leads to the directory at this place, and
nothing bars the process from it if it is to go there. -/
structure Session.Reaches (session : Session) (world : World) (path : Path) (location : Location) :
    Prop where
  leads : world.tree.canonical world.cwd (Path.join session.directory path) = .ok location
  stands : world.tree.get? location = some .directory
  free : session.detached = false → world.barred location = none

/-- The world when the process has followed its session to a place. -/
def Session.followed (session : Session) (world : World) (location : Location) : World :=
  if session.detached then world else { world with cwd := .standing location }

theorem Session.bringProcess_eq_ok_iff {session : Session} {world after : World}
    {location : Location} :
    session.bringProcess world location = .ok after ↔
      (session.detached = false → world.barred location = none) ∧
        after = session.followed world location := by
  unfold bringProcess followed World.enter
  cases session.detached with
  | true => simp [eq_comm]
  | false => cases world.barred location <;> simp [eq_comm]

/-- A change of directory takes the session to the place that its path reaches, and the process too
unless the session is detached. -/
theorem Session.Reaches.changeDirectory_eq {session : Session} {world : World} {path : Path}
    {location : Location} (reaches : session.Reaches world path location) :
    session.changeDirectory world path =
      ⟨.ok (), { session with directory := location.path }, session.followed world location⟩ := by
  simp only [changeDirectory, reaches.leads, if_pos reaches.stands,
    bringProcess_eq_ok_iff.mpr ⟨reaches.free, rfl⟩]

/-- A change of directory that reaches nothing is refused and leaves both where they are. -/
theorem Session.changeDirectory_eq_error (session : Session) (world : World) (path : Path)
    (nowhere : ∀ location, ¬ session.Reaches world path location) :
    ∃ error, session.changeDirectory world path = ⟨.error error, session, world⟩ := by
  unfold changeDirectory
  split
  · exact ⟨_, rfl⟩
  · next location leads =>
    split
    · next stands =>
      split
      · exact ⟨_, rfl⟩
      · next moved entered =>
        have free := (bringProcess_eq_ok_iff.mp entered).1
        exact absurd ⟨leads, stands, free⟩ (nowhere location)
    · exact ⟨_, rfl⟩

/-- The command is `cd`, its operand stands for this target, and the target reaches this place. -/
structure Moves (builtin : Builtin) (args : List String) (session : Session) (world : World)
    (target : Path) (location : Location) : Prop where
  isCd : builtin = .cd
  expanded : ∃ operands, Builtin.cd.request args = .ok (.run operands) ∧
    cdTarget? session world operands.head? = some target
  reaches : session.Reaches world target location

variable {builtin : Builtin} {args : List String} {session : Session} {world : World}

/-- The session goes to the place, and the process follows unless the session is detached. -/
theorem Moves.run_eq {target : Path} {location : Location}
    (moves : Moves builtin args session world target location) :
    builtin.run args session world =
      .print { session with directory := location.path } (session.followed world location)
        [] 0 := by
  obtain ⟨isCd, ⟨operands, request, expanded⟩, reaches⟩ := moves
  subst isCd
  simp only [Builtin.run, request, Builtin.perform, runCd, expanded, reaches.changeDirectory_eq]

/-- A command that does not move can do no more to the session than end it. -/
theorem run_of_not_moves
    (stays : ∀ target location, ¬ Moves builtin args session world target location) :
    (builtin.run args session world).world = world ∧
      ∃ exiting, (builtin.run args session world).session =
        { session with exiting := exiting } := by
  unfold Builtin.run
  split
  · exact ⟨rfl, session.exiting, rfl⟩
  · exact ⟨rfl, session.exiting, rfl⟩
  · next operands request =>
    cases builtin with
    | echo => exact ⟨rfl, session.exiting, rfl⟩
    | exit => exact ⟨rfl, true, rfl⟩
    | type => exact ⟨rfl, session.exiting, rfl⟩
    | pwd => exact ⟨rfl, session.exiting, rfl⟩
    | cd =>
      show (runCd session world operands.head?).world = world ∧ _
      unfold Builtin.perform runCd
      dsimp only
      split
      · exact ⟨rfl, session.exiting, rfl⟩
      · next target expanded =>
        obtain ⟨error, refused⟩ := session.changeDirectory_eq_error world target
          fun location reaches =>
            stays target location ⟨rfl, ⟨operands, request, expanded⟩, reaches⟩
        rw [refused]
        exact ⟨rfl, session.exiting, rfl⟩

/-- A command changes nothing of the world but where the process works. -/
theorem run_frame (builtin : Builtin) (args : List String) (session : Session) (world : World) :
    ∃ cwd, (builtin.run args session world).world = { world with cwd := cwd } := by
  by_cases moves : ∃ target location, Moves builtin args session world target location
  · obtain ⟨target, location, moves⟩ := moves
    rw [moves.run_eq]
    dsimp only [BuiltinResult.print, Session.followed]
    split
    · exact ⟨world.cwd, rfl⟩
    · exact ⟨.standing location, rfl⟩
  · rw [(run_of_not_moves fun target location there => moves ⟨target, location, there⟩).1]
    exact ⟨world.cwd, rfl⟩

/-- A command that works on a detached session leaves the whole world as it is. -/
theorem run_detached (detached : session.detached = true) :
    (builtin.run args session world).world = world := by
  by_cases moves : ∃ target location, Moves builtin args session world target location
  · obtain ⟨target, location, moves⟩ := moves
    rw [moves.run_eq]
    exact if_pos detached
  · exact (run_of_not_moves fun target location there => moves ⟨target, location, there⟩).1

end CommandShell
