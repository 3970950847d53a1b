/-
This file proves what becomes of a pipeline when a program cannot be started. The
programs ahead of it were started and have to go; the commands of the shell, ahead
or behind, have not had their turn and get none. So all that is left of the
pipeline is one message and the journal of its processes.

Whether a program can be started depends on the files that are open for writing at
that moment, and these are not the same for every stage: a stage that was started
has given its output away and kept only the file of its errors. It does not depend
on what was started before, so the failing stage is found by looking at each stage
for itself.
-/

import CommandShell.Proofs.Refusal

namespace CommandShell

/-! ### Starting one program -/

/-- The files that stages keep open for writing once they were started. -/
def keptPlaces (started : List Prepared) : List Location :=
  started.flatMap fun each => each.files.stderr.toList.map (·.location)

theorem keptPlaces_concat (started : List Prepared) (last : Prepared) :
    keptPlaces (started ++ [last]) =
      keptPlaces started ++ last.files.stderr.toList.map (·.location) := by
  simp [keptPlaces]

/-- What comes of starting the program at a path for a stage, behind these stages and ahead of
those, when all files are open. -/
def Session.spawn (session : Session) (opened : World) (earlier : List Prepared)
    (stage : Prepared) (later : List Prepared) (path : Path) : Except Fault Process :=
  session.launch opened (keptPlaces earlier ++ (stage :: later).flatMap (·.files.locations)) path
    stage.stage.program stage.stage.args

section Journal

variable (world : World) (journal : List ProcessEvent) (busy : List Location)

theorem World.interpret_journal (directory : Base) (files : Nat) (content : Content)
    (path name : Bytes) (args : List Bytes) :
    World.interpret { world with journal := journal } busy directory files content path name args =
      world.interpret busy directory files content path name args := by
  induction files generalizing content path name args with
  | zero => rfl
  | succ files inductionHypothesis =>
    unfold World.interpret
    simp only [inductionHypothesis]
    rfl

theorem World.load_journal (directory : Base) (entries : List Bytes) (path name : Bytes)
    (args : List Bytes) :
    World.load { world with journal := journal } busy directory entries path name args =
      world.load busy directory entries path name args := by
  unfold World.load
  simp only [interpret_journal]
  rfl

theorem World.loadFirst_journal (directory : Base) (entries : List Bytes) (scripts : Bool)
    (file name : Bytes) (args : List Bytes) (denied : Bool) (last : Fault) (tried : List Path) :
    World.loadFirst { world with journal := journal } busy directory entries scripts file name args
        denied last tried =
      world.loadFirst busy directory entries scripts file name args denied last tried := by
  induction tried generalizing denied last with
  | nil => rfl
  | cons entry rest inductionHypothesis =>
    unfold World.loadFirst
    simp only [load_journal, inductionHypothesis]
    rfl

/-- What was started before has no part in how a program is started. -/
theorem Session.launch_journal (session : Session) (path : Path) (name : String)
    (args : List String) :
    session.launch { world with journal := journal } busy path name args =
      session.launch world busy path name args := by
  unfold Session.launch
  simp only [World.load_journal, World.loadFirst_journal]
  rfl

end Journal

/-! ### Starting until a program cannot be started -/

/-- Whether a stage is a program and not a command of the shell. -/
def Prepared.isProgram (prepared : Prepared) : Bool :=
  match prepared.command with
  | .external _ => true
  | .builtin _ => false

/-- Whether a stage that is ready is a program that was started. -/
def Ready.isProgram : Ready → Bool
  | .running .. => true
  | .waiting .. => false

/-- The program of every stage ahead can be started, and then this one's cannot. -/
structure FailsFirst (session : Session) (opened : World) (earlier : List Prepared)
    (failing : Prepared) (later : List Prepared) (fault : Fault) : Prop where
  startable : ∀ ahead each between path, earlier = ahead ++ each :: between →
    each.command = .external path →
    ∃ process, session.spawn opened ahead each (between ++ failing :: later) path = .ok process
  fails : ∃ path, failing.command = .external path ∧
    session.spawn opened earlier failing later path = .error fault

/-- Starting stops at the first program that cannot be started. Up to there the stages are ready,
and nothing was changed but the journal. -/
theorem startAll_of_failsFirst {session : Session} {opened : World} {failing : Prepared}
    {later : List Prepared} {fault : Fault} (ahead earlier : List Prepared)
    (first : FailsFirst session opened (ahead ++ earlier) failing later fault) (index : Nat)
    (journal : List ProcessEvent) :
    ∃ ready, ready.map Ready.isProgram = earlier.map Prepared.isProgram ∧
      startAll session index (keptPlaces ahead) (earlier ++ failing :: later)
          { opened with journal := journal } =
        (.error ⟨ready, failing.stage.program, failing.files.diagnostics, fault⟩,
          { opened with
            journal := journal ++ (earlier.findIdxs Prepared.isProgram index).map .started }) := by
  induction earlier generalizing ahead index journal with
  | nil =>
    obtain ⟨path, command, refused⟩ := first.fails
    rw [List.append_nil, Session.spawn, ← Session.launch_journal opened journal] at refused
    refine ⟨[], rfl, ?_⟩
    simp only [List.nil_append, startAll, command, refused]
    simp
  | cons each rest inductionHypothesis =>
    have behind : FailsFirst session opened ((ahead ++ [each]) ++ rest) failing later fault := by
      rwa [List.append_assoc, List.singleton_append]
    rw [List.cons_append, startAll, ← keptPlaces_concat]
    dsimp only
    cases command : each.command with
    | builtin builtin =>
      obtain ⟨ready, alike, stops⟩ := inductionHypothesis _ behind (index + 1) journal
      have waits : each.isProgram = false := by simp [Prepared.isProgram, command]
      dsimp only
      rw [stops, List.findIdxs_cons, waits]
      exact ⟨_ :: ready, by simp [waits, alike, Ready.isProgram], rfl⟩
    | external path =>
      obtain ⟨process, started⟩ := first.startable ahead each rest path rfl command
      rw [Session.spawn, ← Session.launch_journal opened journal] at started
      obtain ⟨ready, alike, stops⟩ :=
        inductionHypothesis _ behind (index + 1) (journal ++ [.started index])
      have runs : each.isProgram = true := by simp [Prepared.isProgram, command]
      dsimp only
      rw [started]
      dsimp only [World.record]
      rw [stops, List.findIdxs_cons, runs]
      let output := if (rest ++ failing :: later).isEmpty then each.files.output else Sink.newPipe
      refine ⟨.running process output each.files.errors :: ready, ?_, ?_⟩
      · rw [List.map_cons, List.map_cons, alike, runs, Ready.isProgram]
      · simp [addReady, output]

/-! ### Giving up -/

/-- What the journal says when these stages were started. -/
def startedEvents (stages : List Nat) : List ProcessEvent := stages.map .started

/-- What it says when each of these stages was killed and waited for. -/
def killedEvents (stages : List Nat) : List ProcessEvent :=
  stages.flatMap fun stage => [.killed stage, .waited stage]

theorem killAll_eq (index : Nat) (ready : List Ready) (world : World) :
    killAll index ready world =
      { world with
        journal := world.journal ++ killedEvents (ready.findIdxs Ready.isProgram index) } := by
  induction ready generalizing index world with
  | nil => simp [killAll, killedEvents]
  | cons first rest inductionHypothesis =>
    cases first with
    | waiting =>
      rw [killAll, inductionHypothesis, List.findIdxs_cons]
      rfl
    | running =>
      rw [killAll, inductionHypothesis, List.findIdxs_cons]
      simp [World.record, killedEvents, Ready.isProgram]

theorem findIdxs_eq_of_map_eq {α β : Type} {first : List α} {second : List β} {p : α → Bool}
    {q : β → Bool} (alike : first.map p = second.map q) (index : Nat) :
    first.findIdxs p index = second.findIdxs q index := by
  have read := congrArg (List.findIdxs id · index) alike
  simpa only [List.findIdxs_map, Function.id_comp] using read

/-- What was started before has no part in a report. -/
theorem Reports.of_journal {bytes : Bytes} {world : World} {journal : List ProcessEvent}
    {sink : Sink} {after : World}
    (reports : Reports bytes { world with journal := journal } sink after) :
    ∃ next, Reports bytes world sink next ∧ after = { next with journal := journal } := by
  cases reports with
  | @terminal stream =>
    refine ⟨_, .terminal, ?_⟩
    cases stream <;> rfl
  | file stands image added => exact ⟨_, .file stands image added, rfl⟩
  | @led handle stream leads =>
    refine ⟨_, .led leads, ?_⟩
    unfold World.writeThrough
    dsimp only
    split <;> cases stream <;> rfl
  | lost noFile notFull notLed => exact ⟨_, .lost noFile notFull notLed, rfl⟩

/-- A pipeline whose files were opened and whose names have a meaning is given up at the first
program that cannot be started. All that the shell does about it is one message in the place for
messages about this stage, if it can be written there, and the journal: the programs ahead were
started, and then each of them was killed and waited for. No command of the shell has its turn, so
the session and everything else is as it was when the files were open, but for what those programs
did before they were killed, which is not said here. -/
theorem execute_abandoned {session : Session} {pipeline : Pipeline} {world opened : World}
    {files : List Files} {prepared earlier later : List Prepared} {failing : Prepared}
    {fault : Fault} (allOpened : Opened session pipeline world files opened)
    (stages : (prepared.map fun each => (each.stage, each.files)) = pipeline.zip files)
    (resolved : ∀ each ∈ prepared, session.resolve opened each.stage.program = some each.command)
    (split : prepared = earlier ++ failing :: later)
    (first : FailsFirst session opened earlier failing later fault)
    (writable : ∀ handle, failing.files.stderr = some handle →
      opened.tree.get? handle.location ≠ some (.device .full)) :
    ∃ told,
      Reports (utf8 (failing.stage.program ++ ": " ++ fault.message ++ "\n")) opened
        failing.files.diagnostics told ∧
      execute session pipeline world =
        ⟨.ok 126, session,
          { told with
            journal := opened.journal ++ startedEvents (earlier.findIdxs Prepared.isProgram) ++
              killedEvents (earlier.findIdxs Prepared.isProgram) }⟩ := by
  obtain ⟨ready, alike, stops⟩ := startAll_of_failsFirst [] earlier first 0 opened.journal
  have member : failing.files ∈ files := by
    have inside : (failing.stage, failing.files) ∈ pipeline.zip files := by simp [← stages, split]
    exact (List.of_mem_zip inside).2
  have something := utf8_line_ne_nil (failing.stage.program ++ ": " ++ fault.message)
  let started : World := { opened with
    journal := opened.journal ++ startedEvents (earlier.findIdxs Prepared.isProgram) }
  have gaveUp : execute session pipeline world =
      abandon session ⟨ready, failing.stage.program, failing.files.diagnostics, fault⟩ started := by
    have start : startAll session 0 [] (earlier ++ failing :: later) opened =
        (.error ⟨ready, failing.stage.program, failing.files.diagnostics, fault⟩, started) := stops
    simp only [execute, openAll_eq_ok_iff.mpr allOpened,
      prepareAll_eq_ok_iff.mpr ⟨stages, resolved⟩, split, start]
  have sameTree : started.tree = opened.tree := rfl
  rw [gaveUp, abandon]
  rcases allOpened.write_diagnostics member something sameTree with
    ⟨sink, after, written, reports⟩ | ⟨handle, isError, full, -⟩
  · obtain ⟨told, reported, rfl⟩ := reports.of_journal
    refine ⟨told, reported, ?_⟩
    dsimp only [StartFailure.message]
    rw [written]
    dsimp only
    rw [killAll_eq, findIdxs_eq_of_map_eq alike]
    rfl
  · exact absurd full (writable handle isError)

/-- The first program is killed, `pwd` says nothing, and nothing comes of the program behind the
file that is no program. -/
theorem execute_abandoned_unknown_format :
    let session := Session.start [] (utf8 "/r")
    let tree := ((scratchTree (utf8 "/r")).including [] (utf8 "/r/tool")
      (toolNode toolMode)).including [] (utf8 "/r/text") (.file toolMode (.ofBytes (utf8 "text")))
    let world := { scratchWorld (utf8 "/r") [] (utf8 "in") false with tree := tree }
    let pipeline : Pipeline :=
      [⟨"./tool", ["cat"], none, none⟩, ⟨"pwd", [], none, none⟩,
        ⟨"./text", [], none, some ⟨.truncate, "e"⟩⟩, ⟨"./tool", ["upper"], none, none⟩]
    let opened := (openAll session pipeline world).2
    ∃ handle told,
      Reports (utf8 "./text: Exec format error (os error 8)\n") opened (.file handle) told ∧
      execute session pipeline world =
        ⟨.ok 126, session, { told with journal := [.started 0, .killed 0, .waited 0] }⟩ := by
  intro session tree world pipeline opened
  let place : Location := scratchRoot (utf8 "/r") ++ [⟨utf8 "e", by decide⟩]
  let own : Files := ⟨none, some ⟨place, false, 0⟩⟩
  let tool (args : List String) : Prepared :=
    ⟨⟨"./tool", args, none, none⟩, ⟨none, none⟩, .external (utf8 "/r/./tool")⟩
  let pwd : Prepared := ⟨⟨"pwd", [], none, none⟩, ⟨none, none⟩, .builtin .pwd⟩
  let failing : Prepared :=
    ⟨⟨"./text", [], none, some ⟨.truncate, "e"⟩⟩, own, .external (utf8 "/r/./text")⟩
  have filesOpened : (openAll session pipeline world).1 =
      .ok [⟨none, none⟩, ⟨none, none⟩, own, ⟨none, none⟩] := by decide +kernel
  have allOpened : Opened session pipeline world _ opened :=
    openAll_eq_ok_iff.mp (Prod.ext filesOpened rfl)
  have resolved : ∀ each ∈ [tool ["cat"], pwd, failing, tool ["upper"]],
      session.resolve opened each.stage.program = some each.command := by decide +kernel
  have startable : (session.spawn opened [] (tool ["cat"]) [pwd, failing, tool ["upper"]]
      (utf8 "/r/./tool")).isOk = true := by decide +kernel
  have refused : (session.spawn opened [tool ["cat"], pwd] failing [tool ["upper"]]
      (utf8 "/r/./text")).map (fun _ => ()) = .error .badFormat := by decide +kernel
  have first : FailsFirst session opened [tool ["cat"], pwd] failing [tool ["upper"]]
      .badFormat := by
    constructor
    · intro ahead each between path split external
      rcases ahead with _ | ⟨_, _ | ⟨_, ahead⟩⟩
      · cases split
        cases external
        cases spawned : session.spawn opened [] (tool ["cat"]) [pwd, failing, tool ["upper"]]
            (utf8 "/r/./tool") with
        | ok process => exact ⟨process, spawned⟩
        | error fault =>
          rw [spawned] at startable
          cases startable
      · cases split
        cases external
      · simp at split
    · refine ⟨_, rfl, ?_⟩
      cases spawned : session.spawn opened [tool ["cat"], pwd] failing [tool ["upper"]]
          (utf8 "/r/./text") with
      | ok process =>
        rw [spawned] at refused
        cases refused
      | error fault =>
        rw [spawned] at refused
        cases refused
        rfl
  have writable : ∀ handle, failing.files.stderr = some handle →
      opened.tree.get? handle.location ≠ some (.device .full) := by
    rintro handle ⟨⟩
    decide +kernel
  have noJournal : opened.journal = [] := by decide +kernel
  obtain ⟨told, reports, abandoned⟩ := execute_abandoned allOpened rfl resolved rfl first writable
  rw [noJournal] at abandoned
  exact ⟨_, told, reports, abandoned⟩

end CommandShell
