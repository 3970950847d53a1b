/-
This file proves that a pipeline whose stages can all start is the composition of
its stages. The shell's own commands have their turns before any program runs, so
the stages do not run in the order in which they stand, but the bytes between
them do not know that: each stage is given what the stage before it wrote. The
two orders are kept apart. One relation goes through the stages as they stand and
hands the bytes on, and one list of worlds goes through them as they run.

A command of the shell whose error cannot be told ends the pipeline. With a terminal
that takes what it is given, that is the one way in which a pipeline that has started
is not the composition.
-/

import CommandShell.Proofs.Opening
import CommandShell.Proofs.Stage
import CommandShell.Run
import CommandShell.Scratch

namespace CommandShell

/-! ### The turns of the shell's own commands -/

/-- The session on which a command of the shell works. -/
def Session.forStage (session : Session) (alone : Bool) : Session :=
  if alone then session else session.detach

/-- The shell's own commands had their turns, one world after the other. The programs wait. -/
inductive TookTurns (session : Session) (opened : World) (alone : Bool) :
    List Prepared → World → List Turned → World → Prop
  | nil {world : World} : TookTurns session opened alone [] world [] world
  | builtin {prepared : Prepared} {rest : List Prepared} {builtin : Builtin} {written : Bytes}
      {status : Nat} {before middle after : World} {stages : List Turned}
      (command : prepared.command = .builtin builtin)
      (ran : BuiltinRan builtin prepared.stage.args prepared.files rest.isEmpty
        (session.forStage alone) before written status middle)
      (later : TookTurns session opened alone rest middle stages after) :
      TookTurns session opened alone (prepared :: rest) before
        (.finished written status :: stages) after
  | program {prepared : Prepared} {rest : List Prepared} {path : Path} {process : Process}
      {before after : World} {stages : List Turned} (command : prepared.command = .external path)
      (launched : Launched session opened prepared path process)
      (later : TookTurns session opened alone rest before stages after) :
      TookTurns session opened alone (prepared :: rest) before
        (.running process (prepared.files.outputAt rest.isEmpty) prepared.files.errors :: stages)
        after

/-- The shell's own commands had their turns until one could not tell about its error. -/
inductive StuckAt (session : Session) (alone : Bool) : List Prepared → World → Prop
  | here {prepared : Prepared} {rest : List Prepared} {builtin : Builtin} {before : World}
      (command : prepared.command = .builtin builtin)
      (stuck : BuiltinStuck builtin prepared.stage.args prepared.files rest.isEmpty
        (session.forStage alone) before) :
      StuckAt session alone (prepared :: rest) before
  | builtin {prepared : Prepared} {rest : List Prepared} {builtin : Builtin} {written : Bytes}
      {status : Nat} {before middle : World} (command : prepared.command = .builtin builtin)
      (ran : BuiltinRan builtin prepared.stage.args prepared.files rest.isEmpty
        (session.forStage alone) before written status middle)
      (later : StuckAt session alone rest middle) :
      StuckAt session alone (prepared :: rest) before
  | program {prepared : Prepared} {rest : List Prepared} {path : Path} {before : World}
      (command : prepared.command = .external path) (later : StuckAt session alone rest before) :
      StuckAt session alone (prepared :: rest) before

/-- The turns of a pipeline that is ready. Only a pipeline of one stage works on the session itself,
and then no later stage can see what became of it. -/
theorem takeTurns_spec {session : Session} {opened : World} {alone : Bool}
    {prepared : List Prepared} {ready : List Ready}
    (all : AllReady session opened prepared ready) (short : alone = true → prepared.length ≤ 1)
    (before : World) {turns : TurnsResult}
    (isTurns : turns = takeTurns alone session ready before) :
    (turns.fault = none ∧
        TookTurns session opened alone prepared before turns.stages turns.world) ∨
      (turns.fault = some .noSpace ∧ StuckAt session alone prepared before) := by
  induction all generalizing before turns with
  | nil =>
    subst isTurns
    exact Or.inl ⟨rfl, .nil⟩
  | @waiting prepared rest others builtin command later inductionHypothesis =>
    unfold takeTurns at isTurns
    dsimp only at isTurns
    obtain ⟨-, ran | stuck⟩ := takeTurn_spec builtin prepared.stage.args prepared.files
      rest.isEmpty (session.forStage alone) before rfl
    · obtain ⟨written, status, result, ran⟩ := ran
      unfold Session.forStage at result
      rw [result] at isTurns
      dsimp only at isTurns
      cases alone with
      | false =>
        rcases inductionHypothesis (fun impossible => nomatch impossible) _ rfl with
          ⟨noFault, took⟩ | ⟨fault, stuck⟩
        · subst isTurns
          exact Or.inl ⟨noFault, .builtin command ran took⟩
        · subst isTurns
          exact Or.inr ⟨fault, .builtin command ran stuck⟩
      | true =>
        -- The changed session would be handed on, but there is no later stage to get it.
        have none : rest = [] := by simpa using short rfl
        subst none
        cases later
        subst isTurns
        exact Or.inl ⟨rfl, .builtin command ran .nil⟩
    · obtain ⟨result, stuck⟩ := stuck
      unfold Session.forStage at result
      rw [result] at isTurns
      subst isTurns
      exact Or.inr ⟨rfl, .here command stuck⟩
  | @running prepared rest others path process command launched later inductionHypothesis =>
    have shorter : alone = true → rest.length ≤ 1 := fun isAlone =>
      Nat.le_of_succ_le (short isAlone)
    subst isTurns
    rcases inductionHypothesis shorter before rfl with ⟨noFault, took⟩ | ⟨fault, stuck⟩
    · exact Or.inl ⟨noFault, .program command launched took⟩
    · exact Or.inr ⟨fault, .program command stuck⟩

/-! ### The stages one after the other -/

/-- One stage of a pipeline as it ran. -/
structure StageRun where
  isBuiltin : Bool
  /-- The number of bytes it read. -/
  taken : Nat
  status : Nat
  before : World
  after : World

/-- The number of bytes that the first stage read, if there is one. -/
def readFirst (runs : List StageRun) : Nat :=
  (runs.head?.map (·.taken)).getD 0

/-- Every stage of a pipeline ran on what the stage before it wrote. The first was given nothing of
that kind, so it reads the standard input. -/
inductive Composed (session : Session) (opened : World) (alone : Bool) :
    Nat → Option Bytes → List Prepared → List StageRun → Prop
  | nil {index : Nat} {given : Option Bytes} : Composed session opened alone index given [] []
  | builtin {index : Nat} {given : Option Bytes} {prepared : Prepared} {rest : List Prepared}
      {builtin : Builtin} {written : Bytes} {status : Nat} {before after : World}
      {runs : List StageRun} (command : prepared.command = .builtin builtin)
      (ran : BuiltinRan builtin prepared.stage.args prepared.files rest.isEmpty
        (session.forStage alone) before written status after)
      (later : Composed session opened alone (index + 1) (some written) rest runs) :
      Composed session opened alone index given (prepared :: rest)
        (⟨true, 0, status, before, after⟩ :: runs)
  | program {index : Nat} {given : Option Bytes} {prepared : Prepared} {rest : List Prepared}
      {path : Path} {process : Process} {taken : Nat} {written : Bytes} {status : Nat}
      {before after : World} {runs : List StageRun} (command : prepared.command = .external path)
      (launched : Launched session opened prepared path process)
      (ran : ProgramRan process prepared.files rest.isEmpty index given before (readFirst runs)
        taken written status after)
      (later : Composed session opened alone (index + 1) (some written) rest runs) :
      Composed session opened alone index given (prepared :: rest)
        (⟨false, taken, status, before, after⟩ :: runs)

/-- Each stage ran in the world that the one before it left behind. -/
inductive Chained : World → List StageRun → World → Prop
  | nil {world : World} : Chained world [] world
  | cons {run : StageRun} {rest : List StageRun} {last : World}
      (later : Chained run.after rest last) : Chained run.before (run :: rest) last

theorem Chained.append {first middle last : World} {early late : List StageRun}
    (ahead : Chained first early middle) (behind : Chained middle late last) :
    Chained first (early ++ late) last := by
  induction ahead with
  | nil => exact behind
  | cons later inductionHypothesis => exact .cons (inductionHypothesis behind)

/-- A started program runs as a stage, and the stages behind it run on what it wrote. -/
theorem exists_programRan (process : Process) (files : Files) (last : Bool) (index : Nat)
    (given : Option Bytes) (status : Nat) (rest : List Turned) (before : World) :
    ∃ taken written code after others,
      others = runPrograms true (index + 1) (some written) code rest after ∧
      ProgramRan process files last index given before others.taken taken written code after ∧
      ∃ ended, runPrograms true index given status
          (.running process (files.outputAt last) files.errors :: rest) before =
        { others with taken := taken, ended := ended } := by
  obtain ⟨limit, unlimited, same⟩ :=
    runPrograms_running true process (files.outputAt last) files.errors index given status rest
      before
  obtain ⟨enough, step⟩ := same _ rfl _ rfl _ rfl
  exact ⟨_, _, _, _, _, rfl, process.programRan unlimited rfl enough, _, step⟩

/-- The status of the last stage, or another if there is none. -/
def lastStatus (status : Nat) (runs : List StageRun) : Nat :=
  (runs.getLast?.map (·.status)).getD status

theorem lastStatus_cons (status : Nat) (run : StageRun) (rest : List StageRun) :
    lastStatus status (run :: rest) = lastStatus run.status rest := by
  unfold lastStatus
  cases rest with
  | nil => rfl
  | cons next rest =>
    rw [List.getLast?_cons_cons]
    simp [List.getLast?_cons]

/-- When the shell's own commands had their turns, the programs complete the composition. -/
theorem runPrograms_composed {session : Session} {opened : World} {alone : Bool}
    {prepared : List Prepared} {first middle : World} {stages : List Turned}
    (took : TookTurns session opened alone prepared first stages middle) (index : Nat)
    (given : Option Bytes) (status : Nat) (start : World) {run : RunResult}
    (isRun : run = runPrograms true index given status stages start) :
    ∃ runs, Composed session opened alone index given prepared runs ∧
      Chained first (runs.filter (·.isBuiltin)) middle ∧
      Chained start (runs.filter (!·.isBuiltin)) run.world ∧
      run.status = lastStatus status runs ∧ run.taken = readFirst runs := by
  -- A command of the shell extends the first chain and a program the second, so the start of the
  -- second one has to stay arbitrary.
  induction took generalizing index given status start run with
  | nil =>
    subst isRun
    exact ⟨[], .nil, .nil, .nil, rfl, rfl⟩
  | @builtin prepared rest builtin written code before middle after stages command ran later
      inductionHypothesis =>
    obtain ⟨runs, composed, builtins, programs, same, -⟩ :=
      inductionHypothesis (index + 1) (some written) code start rfl
    subst isRun
    refine ⟨⟨true, 0, code, before, middle⟩ :: runs, .builtin command ran composed, ?_, programs,
      ?_, rfl⟩
    · exact @Chained.cons ⟨true, 0, code, before, middle⟩ _ _ builtins
    · rw [lastStatus_cons]
      exact same
  | @program prepared rest path process before after stages command launched later
      inductionHypothesis =>
    obtain ⟨taken, written, code, next, others, isOthers, ran, ended, step⟩ :=
      exists_programRan process prepared.files rest.isEmpty index given status stages start
    obtain ⟨runs, composed, builtins, programs, same, read⟩ :=
      inductionHypothesis (index + 1) (some written) code next isOthers
    rw [read] at ran
    rw [isRun, step]
    refine ⟨⟨false, taken, code, start, next⟩ :: runs, .program command launched ran composed,
      builtins, ?_, ?_, rfl⟩
    · exact @Chained.cons ⟨false, taken, code, start, next⟩ _ _ programs
    · rw [lastStatus_cons]
      exact same

/-! ### The whole pipeline -/

/-- The session after a pipeline. Only a command of the shell that stands alone changes it. -/
def sessionAfter (session : Session) (started : World) : List Prepared → Session
  | [⟨stage, _, .builtin builtin⟩] => (builtin.run stage.args session started).session
  | _ => session

theorem takeTurns_detached (session : Session) (ready : List Ready) (world : World) :
    (takeTurns false session ready world).session = session := by
  induction ready generalizing world with
  | nil => rfl
  | cons first rest inductionHypothesis =>
    cases first with
    | running process output errors => exact inductionHypothesis world
    | waiting builtin args output diagnostics =>
      simp only [takeTurns]
      split
      · exact inductionHypothesis _
      · rfl

theorem takeTurns_session {session : Session} {opened : World} {prepared : List Prepared}
    {ready : List Ready} (all : AllReady session opened prepared ready) (world : World) :
    (takeTurns (prepared.length ≤ 1) session ready world).session =
      sessionAfter session world prepared := by
  cases all with
  | nil => rfl
  | @waiting prepared rest others builtin command later =>
    obtain ⟨stage, files, _⟩ := prepared
    cases command
    cases later with
    | nil =>
      obtain ⟨left, -⟩ := takeTurn_spec builtin stage.args files true session world rfl
      show (takeTurns true session _ world).session =
        (builtin.run stage.args session world).session
      rw [← left]
      simp only [takeTurns, if_true]
      split <;> rfl
    | waiting => exact takeTurns_detached session _ world
    | running => exact takeTurns_detached session _ world
  | @running prepared rest others path process command launched later =>
    obtain ⟨stage, files, _⟩ := prepared
    cases command
    cases later with
    | nil => rfl
    | waiting => exact takeTurns_detached session _ world
    | running => exact takeTurns_detached session _ world

theorem Composed.exists_last {session : Session} {opened : World} {alone : Bool} {index : Nat}
    {given : Option Bytes} {prepared : List Prepared} {runs : List StageRun}
    (composed : Composed session opened alone index given prepared runs)
    (nonempty : prepared ≠ []) (status : Nat) :
    ∃ last, runs.getLast? = some last ∧ lastStatus status runs = last.status := by
  have someRun : runs ≠ [] := by
    rintro rfl
    cases composed
    exact nonempty rfl
  refine ⟨runs.getLast someRun, List.getLast?_eq_getLast_of_ne_nil someRun, ?_⟩
  unfold lastStatus
  rw [List.getLast?_eq_getLast_of_ne_nil someRun]
  rfl

/-- A pipeline whose files were opened, whose names have a meaning and whose programs were started
is the composition of its stages. Each stage is given what the stage before it wrote to its
output, the first one reads the standard input, the last one writes to its own file or to the
terminal, and the status is that of the last one. The shell's own commands run before the programs,
each in the world that the one before it left behind. As the terminal takes what it is given, the
only way out is that a command of the shell cannot tell about its error, because the device that
takes no byte is in the place for its messages. -/
theorem execute_composed {session : Session} {pipeline : Pipeline} {world opened started : World}
    {files : List Files} {prepared : List Prepared} {ready : List Ready} (nonempty : pipeline ≠ [])
    (allOpened : Opened session pipeline world files opened)
    (stages : (prepared.map fun each => (each.stage, each.files)) = pipeline.zip files)
    (resolved : ∀ each ∈ prepared, session.resolve opened each.stage.program = some each.command)
    (spawned : startAll session 0 [] prepared opened = (.ok ready, started)) :
    started = { opened with journal := started.journal } ∧
      ((∃ runs last,
          Composed session opened (prepared.length ≤ 1) 0 none prepared runs ∧
          Chained started (runs.filter (·.isBuiltin) ++ runs.filter (!·.isBuiltin))
            (execute session pipeline world).world ∧
          runs.getLast? = some last ∧
          (execute session pipeline world).result = .ok last.status ∧
          (execute session pipeline world).session = sessionAfter session started prepared) ∨
        ((execute session pipeline world).result = .error .noSpace ∧
          StuckAt session (prepared.length ≤ 1) prepared started)) := by
  have runs : execute session pipeline world = finish session ready started := by
    simp only [execute, openAll_eq_ok_iff.mpr allOpened,
      prepareAll_eq_ok_iff.mpr ⟨stages, resolved⟩, spawned]
  obtain ⟨all, journalOnly⟩ := startAll_allReady rfl spawned
  refine ⟨journalOnly, ?_⟩
  rw [runs, finish, all.length_eq]
  obtain ⟨turns, isTurns⟩ :
      ∃ turns, turns = takeTurns (prepared.length ≤ 1) session ready started := ⟨_, rfl⟩
  rw [← isTurns]
  have someStage : prepared ≠ [] := by
    rintro rfl
    have long := congrArg List.length stages
    rw [List.length_zip, ← allOpened.1.length_eq, Nat.min_self] at long
    exact nonempty (List.length_eq_zero_iff.mp long.symm)
  rcases takeTurns_spec all of_decide_eq_true started isTurns with ⟨noFault, took⟩ | ⟨fault, stuck⟩
  · left
    obtain ⟨runs, composed, builtins, programs, status, -⟩ :=
      runPrograms_composed took 0 none 0 turns.world rfl
    obtain ⟨last, isLast, lastEq⟩ := composed.exists_last someStage 0
    have left : turns.session = sessionAfter session started prepared := by
      rw [isTurns]
      exact takeTurns_session all started
    simp only [noFault, TurnsResult.conclude]
    refine ⟨runs, last, composed, builtins.append programs, isLast, ?_, left⟩
    rw [status, lastEq]
  · right
    simp only [fault]
    exact ⟨trivial, stuck⟩

/-- Two programs: what the first one writes to its output is the input of the second. -/
theorem execute_composed_tools :
    let session := Session.start [] (utf8 "/r")
    let tree := (scratchTree (utf8 "/r")).including [] (utf8 "/r/tool") (toolNode toolMode)
    let world := { scratchWorld (utf8 "/r") [] (utf8 "in") false with tree := tree }
    let pipeline : Pipeline :=
      [⟨"./tool", ["cat", "err", "x"], none, none⟩,
        ⟨"./tool", ["upper"], some ⟨.truncate, "f"⟩, none⟩]
    ∃ opened prepared runs last, Composed session opened false 0 none prepared runs ∧
      runs.getLast? = some last ∧ (execute session pipeline world).result = .ok last.status := by
  intro session tree world pipeline
  let place : Location := scratchRoot (utf8 "/r") ++ [⟨utf8 "f", by decide⟩]
  let files : List Files := [⟨none, none⟩, ⟨some ⟨place, false, 0⟩, none⟩]
  let prepared : List Prepared :=
    (pipeline.zip files).map fun (stage, own) => ⟨stage, own, .external (utf8 "/r/./tool")⟩
  let opened := (openAll session pipeline world).2
  have filesOpened : (openAll session pipeline world).1 = .ok files := by decide +kernel
  have allOpened : Opened session pipeline world files opened :=
    openAll_eq_ok_iff.mp (Prod.ext filesOpened rfl)
  have resolved : ∀ each ∈ prepared,
      session.resolve opened each.stage.program = some each.command := by decide +kernel
  have starts : (startAll session 0 [] prepared opened).1.isOk = true := by decide +kernel
  rcases spawned : startAll session 0 [] prepared opened with ⟨_ | ready, started⟩
  · rw [spawned] at starts
    cases starts
  · obtain ⟨-, composed | ⟨refused, -⟩⟩ :=
      execute_composed (by decide) allOpened rfl resolved spawned
    · obtain ⟨runs, last, composed, -, isLast, result, -⟩ := composed
      exact ⟨opened, prepared, runs, last, composed, isLast, result⟩
    · have succeeds : (execute session pipeline world).result = .ok 0 := by decide +kernel
      rw [succeeds] at refused
      cases refused

/-- A command of the shell that cannot tell about its error ends the pipeline without a status, and
a stage that writes into a pipe can fill its own output file through its errors. -/
theorem execute_untold_or_shared :
    let session := Session.start [] (utf8 "/r")
    let world := scratchWorld (utf8 "/r") [] [] false
    let untold : Pipeline := [⟨"cd", ["nope"], none, some ⟨.truncate, "/dev/full"⟩⟩]
    let shared : Pipeline :=
      [⟨"cd", ["nope"], some ⟨.truncate, "f"⟩, some ⟨.truncate, "f"⟩⟩, ⟨"pwd", [], none, none⟩]
    ((openAll session untold world).1.isOk = true ∧
      (execute session untold world).result = .error .noSpace) ∧
    ((execute session shared world).result = .ok 0 ∧
      (execute session shared world).world.tree.get?
          (scratchRoot (utf8 "/r") ++ [⟨utf8 "f", by decide⟩]) =
        some (.file freshMode
          ⟨none, (Output.ofBytes []).add (utf8 "cd: no such file or directory: nope\n")⟩)) := by
  decide +kernel

end CommandShell
