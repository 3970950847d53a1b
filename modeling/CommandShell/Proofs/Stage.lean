/-
This file proves what one stage of a pipeline does once it is ready. A command of
the shell succeeds, or fails and tells so, or cannot even tell so. A program gets
its input and two sinks. Either way the bytes that the next stage reads are the
bytes that this stage wrote to its standard output, and they are all there.

The world is not compared with the one before the pipeline here, but only with the
one in which the stage starts, so that stages can be put one after the other.
-/

import CommandShell.Proofs.Delivery
import CommandShell.Proofs.Start

namespace CommandShell

/-! ### Pipes -/

theorem Files.held_output (files : Files) : files.output.held = [] := by
  unfold Files.output
  cases files.stdout <;> rfl

theorem Files.isPipe_output (files : Files) : files.output.isPipe = false := by
  unfold Files.output
  cases files.stdout <;> rfl

/-- What the pipe of a stage holds after bytes were written to its output. -/
theorem held_outputAt (files : Files) (last : Bool) (bytes : Bytes) :
    ((files.outputAt last).held ++ if (files.outputAt last).isPipe then bytes else []) =
      if last then [] else bytes := by
  cases last with
  | true =>
    show (files.output.held ++ if files.output.isPipe then bytes else []) = []
    rw [files.held_output, files.isPipe_output]
    rfl
  | false => rfl

theorem limited_outputAt (files : Files) (last : Bool) :
    (files.outputAt last).limited none = files.outputAt last := by
  cases last with
  | true =>
    show files.output.limited none = files.output
    unfold Files.output
    cases files.stdout <;> rfl
  | false => rfl

/-- Raising the limit of a pipe ends without one, or with one to which the reader did not come. -/
theorem exists_raiseLimit {α : Type} (run : Option Nat → α) (ranOut : Nat → α → Bool)
    (rounds limit : Nat) :
    ∃ final, raiseLimit run ranOut rounds limit = run final ∧
      ∀ most, final = some most → limit ≤ most ∧ ranOut most (run final) = false := by
  induction rounds generalizing limit with
  | zero => exact ⟨none, rfl, by simp⟩
  | succ rounds inductionHypothesis =>
    unfold raiseLimit
    dsimp only
    split
    · obtain ⟨final, same, enough⟩ := inductionHypothesis (2 * limit)
      refine ⟨final, same, fun most isMost => ?_⟩
      obtain ⟨twice, notOut⟩ := enough most isMost
      exact ⟨by omega, notOut⟩
    · next notOut =>
      refine ⟨some limit, rfl, ?_⟩
      rintro most ⟨⟩
      exact ⟨Nat.le_refl limit, by simpa using notOut⟩

/-- A pipe with this limit is as good as one without: what went into it stayed below the limit, or
the reader did not read so far. -/
def Suffices (limit : Option Nat) (held : Bytes) (read : Nat) : Prop :=
  ∀ most, limit = some most → pipeSize ≤ most ∧ (held.length = most → read < most)

/-! ### The shell's own commands -/

/-- A command of the shell fails as a stage: by itself, or because its output is refused. -/
inductive BuiltinFails (builtin : Builtin) (args : List String) (files : Files) (last : Bool)
    (session : Session) (before : World) : BuiltinError → Prop
  | own {error : BuiltinError} (failed : (builtin.run args session before).status = .error error) :
      BuiltinFails builtin args files last session before error
  | refused {status : Nat} {handle : Handle}
      (done : (builtin.run args session before).status = .ok status)
      (isFile : files.outputAt last = .file handle)
      (something : (builtin.run args session before).output ≠ [])
      (full : (builtin.run args session before).world.tree.get? handle.location =
        some (.device .full)) :
      BuiltinFails builtin args files last session before (.fault .noSpace)

/-- A command of the shell ran as a stage. It left behind what went into its pipe, its status and
the world after it. -/
inductive BuiltinRan (builtin : Builtin) (args : List String) (files : Files) (last : Bool)
    (session : Session) (before : World) : Bytes → Nat → World → Prop
  /-- It wrote its output and nothing else. -/
  | done {status : Nat} {after : World}
      (done : (builtin.run args session before).status = .ok status)
      (taken : ∀ handle, files.outputAt last = .file handle →
        (builtin.run args session before).output ≠ [] →
        (builtin.run args session before).world.tree.get? handle.location ≠ some (.device .full))
      (routed : Routed (files.outputAt last) files.diagnostics
        [(.stdout, (builtin.run args session before).output)]
        (builtin.run args session before).world after) :
      BuiltinRan builtin args files last session before
        (if last then [] else (builtin.run args session before).output) status after
  /-- It wrote its error message and nothing else. -/
  | failed {error : BuiltinError} {after : World}
      (fails : BuiltinFails builtin args files last session before error)
      (routed : Routed (files.outputAt last) files.diagnostics
        [(.stderr, utf8 (error.message ++ "\n"))]
        (builtin.run args session before).world after) :
      BuiltinRan builtin args files last session before [] 1 after

/-- A command of the shell could not tell the user about its error. -/
def BuiltinStuck (builtin : Builtin) (args : List String) (files : Files) (last : Bool)
    (session : Session) (before : World) : Prop :=
  (∃ error, BuiltinFails builtin args files last session before error) ∧
    ∃ handle, files.stderr = some handle ∧
      (builtin.run args session before).world.tree.get? handle.location = some (.device .full)

/-- A file that refuses a write is the device that takes no byte, and there was something to
write. -/
theorem refused_of_write {sink : Sink} {bytes : Bytes} {world : World} {fault : Fault}
    (refused : sink.write bytes world = .error fault) :
    fault = .noSpace ∧ bytes ≠ [] ∧ ∃ handle, sink = .file handle ∧
      world.tree.get? handle.location = some (.device .full) := by
  obtain ⟨cause, handle, isFile, full⟩ := Wrote.of_refused refused
  refine ⟨cause, ?_, handle, isFile, full⟩
  rintro rfl
  rw [isFile] at refused
  cases refused

theorem reportError_spec {builtin : Builtin} {args : List String} {files : Files} {last : Bool}
    {session : Session} {before : World} {error : BuiltinError}
    (fails : BuiltinFails builtin args files last session before error) {turn : TurnResult}
    (isTurn : turn = reportError files.diagnostics error (builtin.run args session before).session
      (builtin.run args session before).world) :
    turn.session = (builtin.run args session before).session ∧
      ((turn.result = .ok ([], 1) ∧
          BuiltinRan builtin args files last session before [] 1 turn.world) ∨
        (turn.result = .error .noSpace ∧
          BuiltinStuck builtin args files last session before)) := by
  subst isTurn
  unfold reportError
  split
  · next fault refused =>
    obtain ⟨rfl, -, handle, isFile, full⟩ := refused_of_write refused
    refine ⟨rfl, Or.inr ⟨rfl, ⟨error, fails⟩, handle, ?_, full⟩⟩
    unfold Files.diagnostics at isFile
    split at isFile
    · next isError =>
      cases isFile
      exact isError
    · cases isFile
  · next next after written =>
    have routed := Routed.stderr (Wrote.of_write written)
      (Routed.nil (files.outputAt last) next after)
    exact ⟨rfl, Or.inl ⟨rfl, .failed fails routed⟩⟩

/-- A turn of a command of the shell: it runs as a stage, or it cannot tell about its error. -/
theorem takeTurn_spec (builtin : Builtin) (args : List String) (files : Files) (last : Bool)
    (session : Session) (before : World) {turn : TurnResult}
    (isTurn : turn = takeTurn builtin args (files.outputAt last) files.diagnostics session before) :
    turn.session = (builtin.run args session before).session ∧
      ((∃ written status, turn.result = .ok (written, status) ∧
          BuiltinRan builtin args files last session before written status turn.world) ∨
        (turn.result = .error .noSpace ∧
          BuiltinStuck builtin args files last session before)) := by
  unfold takeTurn at isTurn
  dsimp only at isTurn
  split at isTurn
  · next error failed =>
    have fails : BuiltinFails builtin args files last session before error := .own failed
    obtain ⟨left, told | stuck⟩ := reportError_spec fails isTurn
    · exact ⟨left, Or.inl ⟨[], 1, told⟩⟩
    · exact ⟨left, Or.inr stuck⟩
  · next status done =>
    split at isTurn
    · next fault refused =>
      obtain ⟨rfl, something, handle, isFile, full⟩ := refused_of_write refused
      obtain ⟨left, told | stuck⟩ :=
        reportError_spec (.refused done isFile something full) isTurn
      · exact ⟨left, Or.inl ⟨[], 1, told⟩⟩
      · exact ⟨left, Or.inr stuck⟩
    · next sink after written =>
      subst isTurn
      have wrote := Wrote.of_write written
      have taken : ∀ handle, files.outputAt last = .file handle →
          (builtin.run args session before).output ≠ [] →
          (builtin.run args session before).world.tree.get? handle.location ≠
            some (.device .full) := by
        intro handle isFile something full
        rw [isFile] at written
        simp [Sink.write, World.writeTo, something, full] at written
      have held : sink.held =
          if last then [] else (builtin.run args session before).output := by
        rw [wrote.held, held_outputAt]
      refine ⟨rfl, Or.inl ⟨sink.held, status, rfl, ?_⟩⟩
      rw [held]
      exact .done done taken (Routed.stdout wrote (Routed.nil sink files.diagnostics after))

/-! ### Programs -/

namespace Script

/-- The descriptors of a shell lead to an input and two sinks, and there are no others. -/
structure Wired (shell : Shell) (input : Bytes) (output errors : Sink) : Prop where
  input : shell.channel? 0 = some (.source input)
  output : shell.channel? 1 = some (.sink output)
  errors : shell.channel? 2 = some (.sink errors)
  only : ∀ descriptor, 2 < descriptor → shell.channel? descriptor = none

theorem wired_opening (base : Base) (input : Bytes) (output errors : Sink) (world : World) :
    Wired (opening base input output errors world) input output errors where
  input := rfl
  output := rfl
  errors := rfl
  only descriptor high := by
    have noFile : (opening base input output errors world).channelOf? descriptor = none := by
      show List.lookup descriptor [(0, 0), (1, 1), (2, 2)] = none
      have notIn : descriptor ≠ 0 ∧ descriptor ≠ 1 ∧ descriptor ≠ 2 := by omega
      rw [List.lookup_eq_none_iff]
      simp [notIn]
    rw [Shell.channel?, noFile]
    rfl

end Script

/-- A program ran as a stage, on what the stage before it wrote or else on the standard input, and
the stage behind it read so many bytes. It left behind how much it read, what went into its pipe,
its status and the world after it. -/
inductive ProgramRan (process : Process) (files : Files) (last : Bool) (index : Nat)
    (given : Option Bytes) (before : World) (read : Nat) : Nat → Bytes → Nat → World → Prop
  /-- A compiled program acted through its two sinks. -/
  | compiled {program : Program} {transcript : Transcript} {after : World}
      (code : process.code = .program program)
      (answered : transcript = program process.call (inputFor given before))
      (routed : Routed (files.outputAt last) files.errors transcript.writes before after) :
      ProgramRan process files last index given before read transcript.taken
        (if last then [] else transcript.output .stdout) transcript.status.code
        ((consume given transcript.taken after).record (.waited index))
  /-- The system's shell ran a script, which can open other files besides. Its descriptors led to
  its input and its two sinks at first, and it ran until `shell` had become `ended`. -/
  | script {text : Bytes} {place : Location} {limit : Option Nat} {shell ended : Script.Shell}
      {ending : Except Script.Jump Status} (code : process.code = .script text place)
      (around : shell.world = { before with cwd := process.base })
      (wired : Script.Wired shell (inputFor given before) ((files.outputAt last).limited limit)
        files.errors)
      (ran : (Script.runScript (Script.runStatement Script.depthLimit) process.call text
        place).run.run shell = (ending, ended))
      (enough : Suffices limit (ended.heldBy 1) read) :
      ProgramRan process files last index given before read
        ((inputFor given before).length - (ended.leftIn 0).length) (ended.heldBy 1)
        (ending.toOption.getD (.exited Script.errorStatus)).code
        ((consume given ((inputFor given before).length - (ended.leftIn 0).length)
          (before.adopt ended.world)).record (.waited index))

/-- A program reads its input, and its writes go to its two sinks. A compiled one has no limit on
its pipe, and that of a script is one that suffices. -/
theorem Process.programRan (process : Process) {files : Files} {last : Bool} {index : Nat}
    {given : Option Bytes} {before : World} {limit : Option Nat} {read : Nat}
    {result : ProcessResult}
    (unlimited : ∀ program, process.code = .program program → limit = none)
    (ran : result = process.run (inputFor given before) ((files.outputAt last).limited limit)
      files.errors before)
    (enough : Suffices limit result.held read) :
    ProgramRan process files last index given before read result.taken result.held
      result.status.code ((consume given result.taken result.world).record (.waited index)) := by
  unfold run at ran
  split at ran
  · next program code =>
    obtain ⟨routed, held⟩ := routed_foldl (program process.call (inputFor given before)).writes
      ⟨files.outputAt last, files.errors, before⟩
    rw [held_outputAt] at held
    subst ran
    rw [unlimited program code, limited_outputAt]
    dsimp only
    rw [held]
    exact .compiled code rfl routed
  · next text place code =>
    subst ran
    exact .script code rfl (Script.wired_opening _ _ _ _ _) rfl enough

/-- A process changes nothing but the tree and what the terminal was given. -/
theorem Process.run_frame (process : Process) (input : Bytes) (output errors : Sink)
    (before : World) {after : World}
    (ran : after = (process.run input output errors before).world) :
    after = before.adopt after := by
  subst ran
  unfold Process.run
  split
  · next program _ =>
    exact (routed_foldl (program process.call input).writes ⟨output, errors, before⟩).1.frame
  · rfl

/-- A started program runs with one of the limits on its pipe, one that suffices, and the later
stages run on what it wrote. A compiled program runs without a limit. -/
theorem runPrograms_running (waiting : Bool) (process : Process) (output errors : Sink)
    (index : Nat) (given : Option Bytes) (status : Nat) (rest : List Turned) (before : World) :
    ∃ limit, (∀ program, process.code = .program program → limit = none) ∧
      ∀ result, result = process.run (inputFor given before) (output.limited limit) errors before →
        ∀ after, after = consume given result.taken result.world →
          ∀ others, others = runPrograms waiting (index + 1) (some result.held) result.status.code
              rest (if waiting then after.record (.waited index) else after) →
            Suffices limit result.held others.taken ∧
              runPrograms waiting index given status (.running process output errors :: rest)
                  before =
                { others with taken := result.taken, ended := result.ended && others.ended } := by
  cases code : process.code with
  | program program =>
    refine ⟨none, fun _ _ => rfl, ?_⟩
    rintro result rfl after rfl others rfl
    refine ⟨by rintro _ ⟨⟩, ?_⟩
    simp only [runPrograms, code]
  | script text place =>
    simp only [runPrograms, code, overPipe]
    obtain ⟨limit, same, enough⟩ := exists_raiseLimit
      (fun limit : Option Nat =>
        let result := process.run (inputFor given before) (output.limited limit) errors before
        let after := consume given result.taken result.world
        (result, runPrograms waiting (index + 1) (some result.held) result.status.code rest
          (if waiting then after.record (.waited index) else after)))
      (fun limit result => result.1.held.length == limit && limit ≤ result.2.taken)
      pipeRounds pipeSize
    refine ⟨limit, fun _ impossible => (nomatch impossible), ?_⟩
    rintro result rfl after rfl others rfl
    refine ⟨fun most isMost => ?_, ?_⟩
    · obtain ⟨large, notOut⟩ := enough most isMost
      refine ⟨large, fun full => ?_⟩
      simpa [full] using notOut
    · exact congrArg (fun pair : ProcessResult × RunResult =>
        { pair.2 with taken := pair.1.taken, ended := pair.1.ended && pair.2.ended }) same

end CommandShell
