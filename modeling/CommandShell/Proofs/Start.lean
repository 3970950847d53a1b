/-
This file proves what it takes for the stages of a pipeline to be ready. Every name
has to have a meaning, and the first one that has none is the reason if not. Then
the programs are started, and by that nothing changes but the journal: a stage that
is ready is known from the world in which all files were open.
-/

import CommandShell.Run.Start

namespace CommandShell

/-! ### Names -/

/-- The stages get their meaning just if each of them has one. -/
theorem prepareAll_eq_ok_iff {session : Session} {world : World} {stages : List (Stage × Files)}
    {prepared : List Prepared} :
    prepareAll session world stages = .ok prepared ↔
      (prepared.map fun each => (each.stage, each.files)) = stages ∧
        ∀ each ∈ prepared, session.resolve world each.stage.program = some each.command := by
  induction stages generalizing prepared with
  | nil =>
    constructor
    · intro found
      cases found
      simp
    · rintro ⟨none, -⟩
      rw [List.map_eq_nil_iff.mp none]
      rfl
  | cons first rest inductionHypothesis =>
    obtain ⟨stage, files⟩ := first
    unfold prepareAll
    constructor
    · intro found
      split at found
      · cases found
      · next command meaning =>
        cases others : prepareAll session world rest with
        | error unresolved =>
          rw [others] at found
          cases found
        | ok later =>
          rw [others] at found
          cases found
          obtain ⟨same, resolved⟩ := inductionHypothesis.mp others
          refine ⟨by rw [List.map_cons, same], ?_⟩
          intro each member
          rcases List.mem_cons.mp member with rfl | member
          · exact meaning
          · exact resolved each member
    · rintro ⟨same, resolved⟩
      cases prepared with
      | nil => cases same
      | cons first later =>
        cases same
        have others := inductionHypothesis.mpr
          ⟨rfl, fun each member => resolved each (List.mem_cons_of_mem _ member)⟩
        rw [resolved first List.mem_cons_self]
        dsimp only
        rw [others]
        rfl

/-- The stages are refused just for the first name that means nothing. -/
theorem prepareAll_eq_error_iff {session : Session} {world : World}
    {stages : List (Stage × Files)} {unresolved : Unresolved} :
    prepareAll session world stages = .error unresolved ↔
      ∃ earlier stage own later, stages = earlier ++ (stage, own) :: later ∧
        (∀ ahead ∈ earlier, session.resolve world ahead.1.program ≠ none) ∧
        session.resolve world stage.program = none ∧ unresolved = ⟨stage.program, own⟩ := by
  induction stages with
  | nil => simp [prepareAll]
  | cons first rest inductionHypothesis =>
    obtain ⟨stage, own⟩ := first
    unfold prepareAll
    cases meaning : session.resolve world stage.program with
    | none =>
      constructor
      · intro refused
        cases refused
        exact ⟨[], stage, own, rest, rfl, by simp, meaning, rfl⟩
      · rintro ⟨earlier, other, others, later, split, resolved, means, rfl⟩
        cases earlier with
        | nil =>
          cases split
          rfl
        | cons ahead earlier =>
          cases split
          exact absurd meaning (resolved _ List.mem_cons_self)
    | some command =>
      constructor
      · intro refused
        cases others : prepareAll session world rest with
        | ok prepared =>
          rw [others] at refused
          cases refused
        | error failure =>
          rw [others] at refused
          cases refused
          obtain ⟨earlier, other, files, later, rfl, resolved, means, rfl⟩ :=
            inductionHypothesis.mp others
          refine ⟨(stage, own) :: earlier, other, files, later, rfl, ?_, means, rfl⟩
          intro ahead member
          rcases List.mem_cons.mp member with rfl | member
          · rw [meaning]
            exact Option.some_ne_none command
          · exact resolved ahead member
      · rintro ⟨earlier, other, files, later, split, resolved, means, rfl⟩
        cases earlier with
        | nil =>
          cases split
          rw [meaning] at means
          cases means
        | cons ahead earlier =>
          cases split
          have refused := inductionHypothesis.mpr ⟨earlier, other, files, later, rfl,
            fun ahead member => resolved ahead (List.mem_cons_of_mem _ member), means, rfl⟩
          rw [refused]
          rfl

/-! ### Stages that are ready -/

/-- Where a stage writes its output: into a pipe, unless it is the last. -/
def Files.outputAt (files : Files) (last : Bool) : Sink :=
  if last then files.output else .newPipe

/-- A process was started for a stage when all files were open. Nothing but the journal can have
changed since then. -/
def Launched (session : Session) (opened : World) (prepared : Prepared) (path : Path)
    (process : Process) : Prop :=
  ∃ journal busy, session.launch { opened with journal := journal } busy path
    prepared.stage.program prepared.stage.args = .ok process

/-- Every stage is ready: a command of the shell waits, and a program was started. -/
inductive AllReady (session : Session) (opened : World) : List Prepared → List Ready → Prop
  | nil : AllReady session opened [] []
  | waiting {prepared : Prepared} {rest : List Prepared} {others : List Ready} {builtin : Builtin}
      (command : prepared.command = .builtin builtin)
      (later : AllReady session opened rest others) :
      AllReady session opened (prepared :: rest)
        (.waiting builtin prepared.stage.args (prepared.files.outputAt rest.isEmpty)
          prepared.files.diagnostics :: others)
  | running {prepared : Prepared} {rest : List Prepared} {others : List Ready} {path : Path}
      {process : Process} (command : prepared.command = .external path)
      (launched : Launched session opened prepared path process)
      (later : AllReady session opened rest others) :
      AllReady session opened (prepared :: rest)
        (.running process (prepared.files.outputAt rest.isEmpty) prepared.files.errors :: others)

theorem addReady_eq_ok {first : Ready} {ready : List Ready} {world : World}
    {later : Except StartFailure (List Ready) × World}
    (added : addReady first later = (.ok ready, world)) :
    ∃ others, ready = first :: others ∧ later = (.ok others, world) := by
  obtain ⟨result, after⟩ := later
  cases result with
  | ok others =>
    cases added
    exact ⟨others, rfl, rfl⟩
  | error failure => cases added

theorem addReady_world (ready : Ready) (later : Except StartFailure (List Ready) × World) :
    (addReady ready later).2 = later.2 := by
  obtain ⟨_ | _, world⟩ := later <;> rfl

/-- Starting the programs makes every stage ready and changes nothing but the journal. -/
theorem startAll_allReady {session : Session} {opened : World} {prepared : List Prepared}
    {index : Nat} {held : List Location} {ready : List Ready} {world started : World}
    (journalOnly : world = { opened with journal := world.journal })
    (all : startAll session index held prepared world = (.ok ready, started)) :
    AllReady session opened prepared ready ∧
      started = { opened with journal := started.journal } := by
  induction prepared generalizing index held ready world with
  | nil =>
    cases all
    exact ⟨.nil, journalOnly⟩
  | cons first rest inductionHypothesis =>
    unfold startAll at all
    dsimp only at all
    cases command : first.command with
    | builtin builtin =>
      rw [command] at all
      obtain ⟨others, rfl, later⟩ := addReady_eq_ok all
      obtain ⟨laterReady, same⟩ := inductionHypothesis journalOnly later
      exact ⟨.waiting command laterReady, same⟩
    | external path =>
      rw [command] at all
      dsimp only at all
      split at all
      · cases all
      · next process launch =>
        obtain ⟨others, rfl, later⟩ := addReady_eq_ok all
        have recorded : world.record (.started index) =
            { opened with journal := (world.record (.started index)).journal } := by
          rw [World.record, journalOnly]
        obtain ⟨laterReady, same⟩ := inductionHypothesis recorded later
        rw [journalOnly] at launch
        exact ⟨.running command ⟨_, _, launch⟩ laterReady, same⟩

theorem AllReady.length_eq {session : Session} {opened : World} {prepared : List Prepared}
    {ready : List Ready} (all : AllReady session opened prepared ready) :
    ready.length = prepared.length := by
  induction all with
  | nil => rfl
  | waiting command later inductionHypothesis => exact congrArg Nat.succ inductionHypothesis
  | running command launched later inductionHypothesis =>
    exact congrArg Nat.succ inductionHypothesis

end CommandShell
