/-
This file proves that a pipeline of several stages is isolated from its session.
However it ends, the session and the process are afterwards what they were, and no
stage sees what a `cd` or an `exit` in another stage did.

The second part cannot be read off the end of a run. The turns of the shell's own
commands are therefore listed with the worlds in which they start, one after the
other. That each of them is given a copy of the session shows in the list at once,
but that the process did not move between them needs the frame of every turn. The
programs are older than all turns: they were started when only the files were open.
-/

import CommandShell.Proofs.Frame
import CommandShell.Proofs.Composition

namespace CommandShell

/-! ### Turns on a detached session -/

/-- The shell's own commands in a longer pipeline took their turns, starting in these worlds. Each
worked on a detached copy of one and the same session, and the first that could not tell about its
error was the last. -/
inductive TurnsTaken (session : Session) : List Ready → World → List World → TurnsResult → Prop
  | nil {world : World} : TurnsTaken session [] world [] ⟨[], none, session, world⟩
  | running {process : Process} {output errors : Sink} {rest : List Ready} {world : World}
      {starts : List World} {turns : TurnsResult}
      (later : TurnsTaken session rest world starts turns) :
      TurnsTaken session (.running process output errors :: rest) world starts
        (turns.add (.running process output errors))
  | told {builtin : Builtin} {args : List String} {output diagnostics : Sink} {rest : List Ready}
      {world : World} {turn : TurnResult} {held : Bytes} {status : Nat} {starts : List World}
      {turns : TurnsResult}
      (taken : turn = takeTurn builtin args output diagnostics session.detach world)
      (result : turn.result = .ok (held, status))
      (later : TurnsTaken session rest turn.world starts turns) :
      TurnsTaken session (.waiting builtin args output diagnostics :: rest) world
        (world :: starts) (turns.add (.finished held status))
  | untold {builtin : Builtin} {args : List String} {output diagnostics : Sink}
      {rest : List Ready} {world : World} {turn : TurnResult} {fault : Fault}
      (taken : turn = takeTurn builtin args output diagnostics session.detach world)
      (result : turn.result = .error fault) :
      TurnsTaken session (.waiting builtin args output diagnostics :: rest) world [world]
        ⟨.finished [] 0 :: rest.map Ready.skip, some fault, session, turn.world⟩

theorem exists_turnsTaken (session : Session) (ready : List Ready) (world : World) :
    ∃ starts, TurnsTaken session ready world starts (takeTurns false session ready world) := by
  induction ready generalizing world with
  | nil => exact ⟨[], .nil⟩
  | cons first rest inductionHypothesis =>
    cases first with
    | running process output errors =>
      obtain ⟨starts, later⟩ := inductionHypothesis world
      exact ⟨starts, .running later⟩
    | waiting builtin args output diagnostics =>
      obtain ⟨turn, taken⟩ :
          ∃ turn, turn = takeTurn builtin args output diagnostics session.detach world := ⟨_, rfl⟩
      simp only [takeTurns, Bool.false_eq_true, if_false, ← taken]
      cases result : turn.result with
      | error fault => exact ⟨[world], .untold taken result⟩
      | ok outcome =>
        obtain ⟨starts, later⟩ := inductionHypothesis turn.world
        exact ⟨world :: starts, .told taken result later⟩

/-- A turn on a detached session leaves the process where it is. -/
theorem SameProcess.detachedTurn {builtin : Builtin} {args : List String}
    {output diagnostics : Sink} {session : Session} {world : World} {turn : TurnResult}
    (taken : turn = takeTurn builtin args output diagnostics session.detach world) :
    SameProcess world turn.world := by
  have same := SameProcess.turn builtin args output diagnostics session.detach world
  rw [run_detached rfl] at same
  rw [taken]
  exact same

/-- No turn moves the process, so every turn finds it where it was before the first one. -/
theorem TurnsTaken.sameProcess {session : Session} {ready : List Ready} {world : World}
    {starts : List World} {turns : TurnsResult}
    (taken : TurnsTaken session ready world starts turns) :
    (∀ start ∈ starts, SameProcess world start) ∧ SameProcess world turns.world := by
  induction taken with
  | nil => exact ⟨by simp, .refl _⟩
  | running later inductionHypothesis => exact inductionHypothesis
  | told taken result later inductionHypothesis =>
    obtain ⟨behind, last⟩ := inductionHypothesis
    have same := SameProcess.detachedTurn taken
    refine ⟨?_, same.trans last⟩
    intro start member
    rcases List.mem_cons.mp member with rfl | member
    · exact .refl _
    · exact same.trans (behind start member)
  | untold taken result =>
    refine ⟨?_, .detachedTurn taken⟩
    intro start member
    rw [List.mem_singleton.mp member]
    exact .refl _

/-! ### The whole pipeline -/

theorem ready_length {session : Session} {pipeline : Pipeline} {files : List Files}
    {prepared : List Prepared} {ready : List Ready} {world opened started : World}
    (filesOpened : openAll session pipeline world = (.ok files, opened))
    (isPrepared : prepareAll session opened (pipeline.zip files) = .ok prepared)
    (allStarted : startAll session 0 [] prepared opened = (.ok ready, started)) :
    ready.length = pipeline.length := by
  have fit := (openAll_eq_ok_iff.mp filesOpened).1.length_eq
  have zipped := congrArg List.length (prepareAll_eq_ok_iff.mp isPrepared).1
  rw [List.length_map, List.length_zip, ← fit, Nat.min_self] at zipped
  rw [(startAll_allReady rfl allStarted).1.length_eq, zipped]

/-- When several stages are ready, all of them run on detached copies. -/
theorem finish_several {session : Session} {ready : List Ready} (several : 2 ≤ ready.length)
    (world : World) :
    (finish session ready world).session = session ∧
      SameProcess world (finish session ready world).world := by
  have notAlone : decide (ready.length ≤ 1) = false := by
    rw [decide_eq_false_iff_not]
    omega
  obtain ⟨starts, taken⟩ := exists_turnsTaken session ready world
  have programs := SameProcess.finished session ready world
  rw [finish_session, notAlone]
  rw [notAlone] at programs
  exact ⟨takeTurns_detached session ready world, taken.sameProcess.2.trans programs⟩

theorem execute_several (session : Session) {pipeline : Pipeline}
    (several : 2 ≤ pipeline.length) (world : World) :
    (execute session pipeline world).session = session ∧
      SameProcess world (execute session pipeline world).world := by
  rcases execute_refused_or_ready session pipeline world with
    refused | ⟨files, opened, prepared, ready, started, filesOpened, isPrepared, allStarted, same⟩
  · exact refused
  · have long := ready_length filesOpened isPrepared allStarted
    have starting := SameProcess.ready filesOpened allStarted
    obtain ⟨left, stays⟩ := @finish_several session ready (long ▸ several) started
    rw [same]
    exact ⟨left, starting.trans stays⟩

/-- A pipeline of several stages leaves the session and the process as they were, however it ends.
If it comes to its stages, each program was started from the session before any command of the
shell had its turn, and each of these works on a detached copy of that session and finds the
process where it was before the line. -/
theorem execute_isolated (session : Session) {pipeline : Pipeline}
    (several : 2 ≤ pipeline.length) (world : World) :
    (execute session pipeline world).session = session ∧
      SameProcess world (execute session pipeline world).world ∧
      ∀ files opened prepared ready started,
        openAll session pipeline world = (.ok files, opened) →
        prepareAll session opened (pipeline.zip files) = .ok prepared →
        startAll session 0 [] prepared opened = (.ok ready, started) →
        SameProcess world opened ∧ AllReady session opened prepared ready ∧
          ∃ starts turns, TurnsTaken session ready started starts turns ∧
            (∀ start ∈ starts, SameProcess world start) ∧ SameProcess world turns.world ∧
            (execute session pipeline world).world = turns.conclude.world := by
  obtain ⟨left, stays⟩ := execute_several session several world
  refine ⟨left, stays, ?_⟩
  intro files opened prepared ready started filesOpened isPrepared allStarted
  have opening := SameProcess.openedAll (openAll_eq_ok_iff.mp filesOpened).2
  have starting := SameProcess.ready filesOpened allStarted
  obtain ⟨starts, taken⟩ := exists_turnsTaken session ready started
  obtain ⟨startsSame, lastSame⟩ := taken.sameProcess
  refine ⟨opening, (startAll_allReady rfl allStarted).1, starts, _, taken, ?_,
    starting.trans lastSame, ?_⟩
  · exact fun start member => starting.trans (startsSame start member)
  · have notAlone : decide (ready.length ≤ 1) = false := by
      rw [decide_eq_false_iff_not, ready_length filesOpened isPrepared allStarted]
      omega
    simp only [execute, filesOpened, isPrepared, allStarted, finish, notAlone]
    split <;> rfl

/-- A `cd` and an `exit` ahead of `pwd` change nothing about what it prints. -/
theorem execute_isolated_pwd :
    let session := Session.start [] (utf8 "/r")
    let tree := (scratchTree (utf8 "/r")).including [] (utf8 "/r/sub") .directory
    let world := { scratchWorld (utf8 "/r") [] [] false with tree := tree }
    let pipeline : Pipeline :=
      [⟨"cd", ["sub"], none, none⟩, ⟨"exit", [], none, none⟩, ⟨"pwd", [], none, none⟩]
    2 ≤ pipeline.length ∧ (execute session pipeline world).session = session ∧
      SameProcess world (execute session pipeline world).world ∧
      (execute session pipeline world).world.out.bytes = utf8 "/r\n" ∧
      ∃ ready starts turns, ready.length = 3 ∧ TurnsTaken session ready world starts turns ∧
        ∀ start ∈ starts, SameProcess world start := by
  intro session tree world pipeline
  let files : List Files := List.replicate 3 ⟨none, none⟩
  let prepared : List Prepared :=
    ((pipeline.zip files).zip [.cd, .exit, .pwd]).map fun ((stage, own), builtin) =>
      ⟨stage, own, .builtin builtin⟩
  let ready : List Ready :=
    [.waiting .cd ["sub"] .newPipe (.terminal .stdout),
      .waiting .exit [] .newPipe (.terminal .stdout),
      .waiting .pwd [] (.terminal .stdout) (.terminal .stdout)]
  have isPrepared : prepareAll session world (pipeline.zip files) = .ok prepared :=
    prepareAll_eq_ok_iff.mpr ⟨rfl, by decide +kernel⟩
  have printed : (execute session pipeline world).world.out.bytes = utf8 "/r\n" := by
    decide +kernel
  obtain ⟨left, stays, stages⟩ := @execute_isolated session pipeline (by decide) world
  obtain ⟨-, -, starts, turns, taken, same, -, -⟩ :=
    stages files world prepared ready world rfl isPrepared rfl
  exact ⟨by decide, left, stays, printed, ready, starts, turns, rfl, taken, same⟩

end CommandShell
