/-
This file proves when a session ends. Nothing ends it but a lone `exit` that comes to
run: its files are opened, and its arguments do not keep it from running, as a
request for help or an unknown option would. An `exit` in a longer pipeline ends
only a copy of the session, and a line that fails ends nothing.

The loop over the lines of an input asks the session before each line. So what it
runs is settled by the lines alone: all lines up to the first such `exit`, unless the
input is at its end before, or has a line that is not text or breaks the reader. What
stands behind that `exit` has no part in anything.
-/

import CommandShell.Proofs.Directory
import CommandShell.Repl
import CommandShell.Scratch

namespace CommandShell

/-! ### The arguments of `exit` -/

/-- No option is looked for behind this argument: it is `--` or an operand. -/
def endsOptions (argument : String) : Bool :=
  argument == "--" || !(asksForHelp argument || isOption argument)

/-- No argument before the end of the options asks for help or is an option. -/
def Operative (args : List String) : Prop :=
  ∀ argument ∈ args.takeWhile fun argument => !endsOptions argument,
    ¬ (asksForHelp argument = true ∨ isOption argument = true)

theorem readArguments_ended (taken : Nat) (args : List String) :
    readArguments none ⟨false, true, taken⟩ args = .ok (.run args) := by
  induction args generalizing taken with
  | nil => rfl
  | cons first rest inductionHypothesis =>
    simp [readArguments, inductionHypothesis, Except.map, Request.addOperand]

theorem readArguments_help (ended : Bool) (taken : Nat) (args operands : List String) :
    readArguments none ⟨true, ended, taken⟩ args ≠ .ok (.run operands) := by
  induction args generalizing ended taken operands with
  | nil => simp [readArguments]
  | cons first rest inductionHypothesis =>
    unfold readArguments
    split
    · exact inductionHypothesis _ _ _
    · split
      · split
        · exact inductionHypothesis _ _ _
        · simp
      · dsimp only
        cases read : readArguments none ⟨true, true, taken + 1⟩ rest with
        | error error => simp [Except.map]
        | ok request =>
          cases request with
          | help => simp [Except.map, Request.addOperand]
          | run others => exact absurd read (inductionHypothesis _ _ _)

/-- The arguments ask `exit` to run just if none before the end of the options keeps it from it. -/
theorem exit_request_iff {args : List String} :
    (∃ operands, Builtin.exit.request args = .ok (.run operands)) ↔ Operative args := by
  show (∃ operands, readArguments none ⟨false, false, 0⟩ args = .ok (.run operands)) ↔ _
  cases args with
  | nil => exact iff_of_true ⟨[], rfl⟩ (by simp [Operative])
  | cons first rest =>
    by_cases ends : endsOptions first = true
    · have operative : Operative (first :: rest) := by simp [Operative, ends]
      refine iff_of_true ?_ operative
      unfold readArguments
      by_cases dashes : first = "--"
      · subst dashes
        exact ⟨rest, readArguments_ended 0 rest⟩
      · have plain : asksForHelp first = false ∧ isOption first = false := by
          simpa [endsOptions, dashes] using ends
        refine ⟨first :: rest, ?_⟩
        simp [plain.1, plain.2, readArguments_ended, Except.map, Request.addOperand]
    · have keeps : asksForHelp first = true ∨ isOption first = true := by
        simp only [endsOptions, Bool.or_eq_true, not_or, Bool.not_eq_true',
          Bool.not_eq_false] at ends
        exact ends.2
      have notOperative : ¬ Operative (first :: rest) := fun operative =>
        operative first (by simp [ends]) keeps
      refine iff_of_false ?_ notOperative
      rintro ⟨operands, read⟩
      unfold readArguments at read
      by_cases help : asksForHelp first = true
      · rw [if_pos (by simp [help])] at read
        exact readArguments_help _ _ _ _ read
      · have different : first ≠ "--" := by
          rintro rfl
          exact ends rfl
        simp [help, keeps.resolve_left help, different] at read

/-! ### One command -/

variable {session : Session} {world : World} {line : String}

theorem runCd_exiting (session : Session) (world : World) (target : Option String) :
    (runCd session world target).session.exiting = session.exiting := by
  unfold runCd
  split
  · rfl
  · next path _ =>
    by_cases somewhere : ∃ location, session.Reaches world path location
    · obtain ⟨location, reaches⟩ := somewhere
      rw [reaches.changeDirectory_eq]
      rfl
    · obtain ⟨error, refused⟩ := session.changeDirectory_eq_error world path
        fun location reaches => somewhere ⟨location, reaches⟩
      rw [refused]
      rfl

theorem Builtin.run_exiting {builtin : Builtin} {args : List String} :
    (builtin.run args session world).session.exiting = true ↔
      session.exiting = true ∨ builtin = .exit ∧ Operative args := by
  by_cases leaves : builtin = .exit ∧ Operative args
  · obtain ⟨rfl, operative⟩ := leaves
    obtain ⟨operands, request⟩ := exit_request_iff.mpr operative
    refine iff_of_true ?_ (Or.inr ⟨rfl, operative⟩)
    simp [Builtin.run, request, Builtin.perform, BuiltinResult.print]
  · have same : (builtin.run args session world).session.exiting = session.exiting := by
      unfold Builtin.run
      split
      · rfl
      · rfl
      · next operands request =>
        cases builtin with
        | exit => exact absurd ⟨rfl, exit_request_iff.mp ⟨operands, request⟩⟩ leaves
        | cd => exact runCd_exiting session world operands.head?
        | echo => rfl
        | type => rfl
        | pwd => rfl
    rw [same, or_iff_left leaves]

/-! ### One line -/

/-- The line ends the session: it is a lone `exit`, its files are opened, and its arguments do not
keep it from running. -/
inductive LeavesOn (session : Session) (line : String) (world : World) : Prop
  | intro {stage : Stage} {files : List Files} {opened : World}
      (parsed : Pipeline.ofWords (splitWords line) = .ok [stage])
      (program : stage.program = Builtin.exit.name)
      (filesOpened : openAll session [stage] world = (.ok files, opened))
      (operative : Operative stage.args)

/-- An effective `exit` succeeds. -/
theorem LeavesOn.executeLine (leaves : LeavesOn session line world) :
    (executeLine session line world).result = .ok 0 ∧
      (executeLine session line world).session = { session with exiting := true } := by
  obtain @⟨stage, files, opened, parsed, program, filesOpened, operative⟩ := leaves
  obtain ⟨own, -, runs⟩ := execute_builtin filesOpened program
  obtain ⟨operands, request⟩ := exit_request_iff.mpr operative
  obtain ⟨next, after, written, -⟩ := own.output.write_nil opened
  have turn : takeTurn .exit stage.args own.output own.diagnostics session opened =
      ⟨.ok (next.held, 0), { session with exiting := true }, after⟩ := by
    simp [takeTurn, Builtin.run, request, Builtin.perform, BuiltinResult.print, written]
  rw [executeLine_eq_execute parsed, runs _ turn.symm]
  exact ⟨rfl, rfl⟩

/-- A pipeline that is ready ends the session only by a lone `exit`. -/
theorem sessionAfter_exiting {started : World} {prepared : List Prepared} :
    (sessionAfter session started prepared).exiting = true ↔ session.exiting = true ∨
      ∃ each, prepared = [each] ∧ each.command = .builtin .exit ∧ Operative each.stage.args := by
  unfold sessionAfter
  split
  · next stage files builtin =>
    rw [Builtin.run_exiting]
    simp
  · next other =>
    refine (or_iff_left ?_).symm
    rintro ⟨⟨stage, files, command⟩, rfl, command, -⟩
    subst command
    exact other stage files .exit rfl

/-- After a line the session is to end just if it was before, or if the line is an effective
`exit`. -/
theorem executeLine_exiting (session : Session) (line : String) (world : World) :
    (executeLine session line world).session.exiting = true ↔
      session.exiting = true ∨ LeavesOn session line world := by
  by_cases leaves : LeavesOn session line world
  · rw [leaves.executeLine.2]
    exact iff_of_true rfl (Or.inr leaves)
  · rw [or_iff_left leaves]
    unfold executeLine
    dsimp only
    split
    · exact Iff.rfl
    · split
      · exact Iff.rfl
      · next pipeline parsed =>
        rcases execute_refused_or_ready session pipeline world with
          ⟨left, -⟩ |
            ⟨files, opened, prepared, ready, started, filesOpened, isPrepared, allStarted, runs⟩
        · rw [left]
        · obtain ⟨all, -⟩ := startAll_allReady rfl allStarted
          have left := takeTurns_session all started
          rw [← all.length_eq] at left
          rw [runs, finish_session, left, sessionAfter_exiting]
          refine or_iff_left ?_
          rintro ⟨each, rfl, command, operative⟩
          obtain ⟨rfl, meaning⟩ := eq_singleton_of_prepared filesOpened isPrepared
          rw [command] at meaning
          exact leaves (.intro parsed (Session.builtin_of_resolve meaning) filesOpened operative)

/-! ### Courses -/

/-- After an event the session is to end just if it was before, or if the event is a line that is an
effective `exit`. -/
theorem EventStep.exiting_iff {event : Event} {next : Session} {after : World}
    (step : EventStep session world event next after) :
    next.exiting = true ↔
      session.exiting = true ∨ ∃ text, event = .line text ∧ LeavesOn session text world := by
  cases step with
  | line text => simpa using executeLine_exiting session text world
  | killed => simpa using executeLine_exiting session _ world
  | leftOver => simp

/-- A line of a course was an effective `exit` when it was run. -/
inductive LeftIn : Session → World → List Event → Session → World → Prop
  | intro {session next later now : Session} {world between after around : World} {text : String}
      {early late : List Event} (ahead : Course session world early next between)
      (leaves : LeavesOn next text between)
      (step : EventStep next between (.line text) later after)
      (behind : Course later after late now around) :
      LeftIn session world (early ++ .line text :: late) now around

theorem Course.keeps_exiting {events : List Event} {now : Session} {around : World}
    (course : Course session world events now around) (exiting : session.exiting = true) :
    now.exiting = true := by
  induction course with
  | nil => exact exiting
  | cons first later inductionHypothesis =>
    exact inductionHypothesis (first.exiting_iff.mpr (Or.inl exiting))

theorem LeftIn.exiting {events : List Event} {now : Session} {around : World}
    (left : LeftIn session world events now around) : now.exiting = true := by
  obtain ⟨-, leaves, step, behind⟩ := left
  exact behind.keeps_exiting (step.exiting_iff.mpr (Or.inr ⟨_, rfl, leaves⟩))

/-- In the course of events the session is to end just if it was before, or if one of the lines was
an effective `exit` when it was run. -/
theorem Course.exiting_iff {events : List Event} {now : Session} {around : World}
    (course : Course session world events now around) :
    now.exiting = true ↔
      session.exiting = true ∨ LeftIn session world events now around := by
  refine ⟨fun exiting => ?_, ?_⟩
  · induction course with
    | nil => exact Or.inl exiting
    | cons first later inductionHypothesis =>
      rcases inductionHypothesis exiting with next | ⟨ahead, leaves, step, behind⟩
      · rcases first.exiting_iff.mp next with before | ⟨text, rfl, leaves⟩
        · exact Or.inl before
        · exact Or.inr (@LeftIn.intro _ _ _ _ _ _ _ _ _ [] _ .nil leaves first later)
      · exact Or.inr (.intro (.cons first ahead) leaves step behind)
  · rintro (exiting | left)
    · exact course.keeps_exiting exiting
    · exact left.exiting

/-! ### The loop over the lines of an input -/

variable {notices : Notices}

theorem exiting_of_runLine {next : Session} {after : World}
    (ran : runLine notices session line world = (next, after)) :
    next.exiting = true ↔ session.exiting = true ∨ LeavesOn session line world := by
  have left : (runLine notices session line world).1 =
      (executeLine session line world).session := by
    unfold runLine
    dsimp only
    split <;> rfl
  rw [ran] at left
  rw [show next = _ from left]
  exact executeLine_exiting session line world

/-- The lines are read and run one after the other, each behind the prompt, and none of them is an
effective `exit`. -/
inductive Passes (notices : Notices) (prompt : Bytes) :
    Session → World → List Bytes → Session → World → Prop
  | nil {session : Session} {world : World} : Passes notices prompt session world [] session world
  | cons {session next now : Session} {world after around : World} {line : Bytes}
      {rest : List Bytes} {text : String} (read : readLine line = .text text)
      (stays : ¬ LeavesOn session text (world.print .stdout prompt))
      (ran : runLine notices session text (world.print .stdout prompt) = (next, after))
      (later : Passes notices prompt next after rest now around) :
      Passes notices prompt session world (line :: rest) now around

/-- How a shell comes to its end over the lines that are left: it runs an effective `exit`, there is
no line any more, the next one is not text, or a backspace in it would cut a character in two. -/
inductive Ends (notices : Notices) (prompt : Bytes) (session : Session) (world : World) :
    List Bytes → ReplResult → Prop
  | exit {line : Bytes} {rest : List Bytes} {text : String} {last : Session} {after : World}
      (read : readLine line = .text text)
      (leaves : LeavesOn session text (world.print .stdout prompt))
      (ran : runLine notices session text (world.print .stdout prompt) = (last, after)) :
      Ends notices prompt session world (line :: rest) ⟨0, after⟩
  | atEnd : Ends notices prompt session world [] ⟨0, world.print .stdout prompt⟩
  | notText {line : Bytes} {rest : List Bytes} (refused : decode? line = none) :
      Ends notices prompt session world (line :: rest)
        ⟨statusNotText, (world.print .stdout prompt).print .stderr (utf8 notTextMessage)⟩
  | cut {line : Bytes} {rest : List Bytes} (refused : readLine line = .cut) :
      Ends notices prompt session world (line :: rest)
        (giveUp notices (world.print .stdout prompt))

theorem readLine_eq_notText_iff {line : Bytes} :
    readLine line = .notText ↔ decode? line = none := by
  unfold readLine
  split
  · next refused => exact iff_of_true rfl refused
  · next text decoded =>
    rw [decoded]
    split <;> simp

theorem runLines_of_exiting (prompt : Bytes) (exiting : session.exiting = true)
    (lines : List Bytes) (world : World) :
    runLines notices prompt session lines world = ⟨0, world⟩ := by
  cases lines <;> exact if_pos exiting

theorem runLines_cons (prompt : Bytes) (on : session.exiting = false) {line : Bytes}
    (rest : List Bytes) {world : World} {text : String} {next : Session} {after : World}
    (read : readLine line = .text text)
    (ran : runLine notices session text (world.print .stdout prompt) = (next, after)) :
    runLines notices prompt session (line :: rest) world =
      runLines notices prompt next rest after := by
  rw [runLines, if_neg (by simp [on])]
  simp only [read, ran]

/-- The loop gets to the line behind those that pass, and the session is not to end there. -/
theorem Passes.runLines {prompt : Bytes} {now : Session} {around : World} {early : List Bytes}
    (passes : Passes notices prompt session world early now around) (on : session.exiting = false)
    (late : List Bytes) :
    now.exiting = false ∧
      runLines notices prompt session (early ++ late) world =
        runLines notices prompt now late around := by
  induction passes with
  | nil => exact ⟨on, rfl⟩
  | @cons session next now world after around line rest text read stays ran later
      inductionHypothesis =>
    have stillOn : next.exiting = false := by
      rw [← Bool.not_eq_true, exiting_of_runLine ran]
      simp [on, stays]
    rw [List.cons_append, runLines_cons prompt on _ read ran]
    exact inductionHypothesis stillOn

theorem Ends.runLines {prompt : Bytes} {lines : List Bytes} {result : ReplResult}
    (ends : Ends notices prompt session world lines result) (on : session.exiting = false) :
    runLines notices prompt session lines world = result := by
  cases ends with
  | @exit line rest text last after read leaves ran =>
    have exiting := (exiting_of_runLine ran).mpr (Or.inr leaves)
    rw [runLines_cons prompt on _ read ran, runLines_of_exiting prompt exiting]
  | atEnd => exact if_neg (by simp [on])
  | notText refused =>
    rw [CommandShell.runLines, if_neg (by simp [on])]
    simp only [readLine_eq_notText_iff.mpr refused]
  | cut refused =>
    rw [CommandShell.runLines, if_neg (by simp [on])]
    simp only [refused]

theorem exists_passes (prompt : Bytes) (session : Session) (world : World) (lines : List Bytes) :
    ∃ early late now around result, lines = early ++ late ∧
      Passes notices prompt session world early now around ∧
      Ends notices prompt now around late result := by
  induction lines generalizing session world with
  | nil => exact ⟨[], [], session, world, _, rfl, .nil, .atEnd⟩
  | cons line rest inductionHypothesis =>
    cases read : readLine line with
    | notText =>
      exact ⟨[], line :: rest, session, world, _, rfl, .nil,
        .notText (readLine_eq_notText_iff.mp read)⟩
    | cut => exact ⟨[], line :: rest, session, world, _, rfl, .nil, .cut read⟩
    | text text =>
      obtain ⟨next, after, ran⟩ :
          ∃ next after, runLine notices session text (world.print .stdout prompt) = (next, after) :=
        ⟨_, _, rfl⟩
      by_cases leaves : LeavesOn session text (world.print .stdout prompt)
      · exact ⟨[], line :: rest, session, world, _, rfl, .nil, .exit read leaves ran⟩
      · obtain ⟨early, late, now, around, result, rfl, passes, ends⟩ :=
          inductionHypothesis next after
        exact ⟨line :: early, late, now, around, result, rfl, .cons read leaves ran passes, ends⟩

/-- The loop runs the lines that pass and then comes to its end. -/
theorem runLines_eq_iff {prompt : Bytes} (on : session.exiting = false) {lines : List Bytes}
    {result : ReplResult} :
    runLines notices prompt session lines world = result ↔
      ∃ early late now around, lines = early ++ late ∧
        Passes notices prompt session world early now around ∧
      Ends notices prompt now around late result := by
  have reaches : ∀ {early late now around result}, lines = early ++ late →
      Passes notices prompt session world early now around →
      Ends notices prompt now around late result →
      runLines notices prompt session lines world = result := by
    intro early late now around result split passes ends
    obtain ⟨stillOn, same⟩ := passes.runLines on late
    rw [split, same]
    exact ends.runLines stillOn
  constructor
  · rintro rfl
    obtain ⟨early, late, now, around, result, split, passes, ends⟩ :=
      exists_passes prompt session world lines
    rw [reaches split passes ends]
    exact ⟨early, late, now, around, split, passes, ends⟩
  · rintro ⟨early, late, now, around, split, passes, ends⟩
    exact reaches split passes ends

/-! ### The line `exit` -/

/-- The input made of these lines, each with its end. -/
def completed (lines : List Bytes) : Bytes :=
  lines.flatMap (· ++ [lineEnd])

theorem inputLines_append (front rest : Bytes) :
    inputLines (front ++ lineEnd :: rest) =
      (front.splitOn lineEnd).map dropReturn ++ inputLines rest := by
  have some := List.splitOn_ne_nil lineEnd rest
  unfold inputLines
  dsimp only
  rw [List.splitOn_append_cons_self, List.dropLast_append_of_ne_nil some, List.map_append,
    List.getLast?_append_of_ne_nil _ some, List.append_assoc]

/-- Input that ends where a line ends has its lines, whatever follows it. -/
theorem inputLines_completed (lines : List Bytes) (rest : Bytes) :
    inputLines (completed lines ++ rest) = inputLines (completed lines) ++ inputLines rest := by
  induction lines with
  | nil => rfl
  | cons line others inductionHypothesis =>
    have split : ∀ rest, completed (line :: others) ++ rest =
        line ++ lineEnd :: (completed others ++ rest) := by
      intro rest
      simp [completed]
    have whole := split []
    rw [List.append_nil, List.append_nil] at whole
    rw [split, inputLines_append, inductionHypothesis, whole, inputLines_append,
      List.append_assoc]

theorem inputLines_exit (rest : Bytes) :
    inputLines (utf8 "exit\n" ++ rest) = utf8 "exit" :: inputLines rest := by
  have line : utf8 "exit\n" ++ rest = utf8 "exit" ++ lineEnd :: rest := rfl
  have pieces : ((utf8 "exit").splitOn lineEnd).map dropReturn = [utf8 "exit"] := by decide
  rw [line, inputLines_append, pieces, List.singleton_append]

theorem readLine_exit : readLine (utf8 "exit") = .text "exit" :=
  readLine_utf8 (by decide)

theorem leavesOn_exit (session : Session) (world : World) : LeavesOn session "exit" world :=
  .intro (show Pipeline.ofWords (splitWords "exit") = .ok [⟨"exit", [], none, none⟩] by decide)
    rfl rfl (by simp [Operative])

/-- Two rows of lines that begin with the same line are run alike if the lines behind it are, in
the state after it. -/
theorem runLines_cons_congr {prompt : Bytes} {line : Bytes} {rest other : List Bytes}
    (alike : ∀ text next after, readLine line = .text text →
      runLine notices session text (world.print .stdout prompt) = (next, after) →
      runLines notices prompt next rest after = runLines notices prompt next other after) :
    runLines notices prompt session (line :: rest) world =
      runLines notices prompt session (line :: other) world := by
  by_cases exiting : session.exiting = true
  · rw [runLines_of_exiting prompt exiting, runLines_of_exiting prompt exiting]
  · rw [runLines, runLines, if_neg exiting, if_neg exiting]
    dsimp only
    cases read : readLine line with
    | notText => rfl
    | cut => rfl
    | text text => exact alike text _ _ read rfl

/-- Behind the line `exit` nothing is read. -/
theorem runLines_exit (prompt : Bytes) (session : Session) (lines rest : List Bytes)
    (world : World) :
    runLines notices prompt session (lines ++ utf8 "exit" :: rest) world =
      runLines notices prompt session (lines ++ [utf8 "exit"]) world := by
  induction lines generalizing session world with
  | nil =>
    refine runLines_cons_congr fun text next after read ran => ?_
    rw [readLine_exit] at read
    cases read
    have exiting := (exiting_of_runLine ran).mpr (Or.inr (leavesOn_exit _ _))
    rw [runLines_of_exiting prompt exiting, runLines_of_exiting prompt exiting]
  | cons line others inductionHypothesis =>
    exact runLines_cons_congr fun _ next after _ _ => inductionHypothesis next after

/-- Lines with the line `exit` behind them have another status than zero just if one of them cannot
be read and the loop gets there. -/
theorem status_runLines_exit {prompt : Bytes} (on : session.exiting = false)
    {lines : List Bytes} :
    (runLines notices prompt session (lines ++ [utf8 "exit"]) world).status ≠ 0 ↔
      ∃ early line late now around, lines = early ++ line :: late ∧
        Passes notices prompt session world early now around ∧
        (decode? line = none ∨ readLine line = .cut) := by
  have within : ∀ {early line rest}, lines ++ [utf8 "exit"] = early ++ line :: rest →
      readLine line ≠ readLine (utf8 "exit") → ∃ late, lines = early ++ line :: late := by
    intro early line rest split other
    rcases List.eq_nil_or_concat rest with rfl | ⟨late, last, rfl⟩
    · obtain ⟨-, same⟩ := List.append_inj' split rfl
      exact absurd (congrArg readLine (List.singleton_inj.mp same).symm) other
    · rw [List.concat_eq_append, ← List.cons_append, ← List.append_assoc] at split
      exact ⟨late, (List.append_inj' split rfl).1⟩
  constructor
  · intro failed
    obtain ⟨early, late, now, around, split, passes, ends⟩ := (runLines_eq_iff on).mp
      (show runLines notices prompt session (lines ++ [utf8 "exit"]) world = _ from rfl)
    generalize runLines notices prompt session (lines ++ [utf8 "exit"]) world = result
      at failed ends
    cases ends with
    | exit => exact absurd rfl failed
    | atEnd => exact absurd rfl failed
    | @notText line rest refused =>
      obtain ⟨late, before⟩ := within split (by
        rw [readLine_eq_notText_iff.mpr refused, readLine_exit]
        simp)
      exact ⟨early, line, late, now, around, before, passes, Or.inl refused⟩
    | @cut line rest refused =>
      obtain ⟨late, before⟩ := within split (by
        rw [refused, readLine_exit]
        simp)
      exact ⟨early, line, late, now, around, before, passes, Or.inr refused⟩
  · rintro ⟨early, line, late, now, around, rfl, passes, refused⟩
    have reached : ∀ result,
        Ends notices prompt now around (line :: (late ++ [utf8 "exit"])) result →
        runLines notices prompt session (early ++ line :: late ++ [utf8 "exit"]) world =
          result := by
      intro result ends
      refine (runLines_eq_iff on).mpr ⟨early, _, now, around, ?_, passes, ends⟩
      rw [List.append_assoc, List.cons_append]
    rcases refused with refused | refused
    · rw [reached _ (.notText refused)]
      simp [statusNotText]
    · rw [reached _ (.cut refused)]
      simp [giveUp, statusBroken]

/-! ### The whole shell -/

/-- A variable of the process is not text. -/
def NotText (entries : List Bytes) : Prop :=
  ∃ entry ∈ entries, ∃ key value, splitEntry? entry = some (key, value) ∧
    (decode? key = none ∨ decode? value = none)

theorem Vars.setEntry?_eq_none_iff {vars : Vars} {entry : Bytes} :
    vars.setEntry? entry = none ↔ NotText [entry] := by
  unfold setEntry? NotText
  cases split : splitEntry? entry with
  | none => simp [split]
  | some parts =>
    obtain ⟨key, value⟩ := parts
    cases isKey : decode? key <;> cases isValue : decode? value <;> simp [split, isKey, isValue]

/-- A shell has a session to start with unless a variable of its process is not text. -/
theorem firstSession?_eq_none_iff {world : World} :
    firstSession? world = none ↔ NotText world.entries := by
  have table : ∀ (entries : List Bytes) (vars : Vars),
      entries.foldlM Vars.setEntry? vars = none ↔ NotText entries := by
    intro entries
    induction entries with
    | nil => simp [NotText]
    | cons entry rest inductionHypothesis =>
      intro vars
      have first : NotText (entry :: rest) ↔ NotText [entry] ∨ NotText rest := by
        simp [NotText]
      rw [List.foldlM_cons, first, ← @Vars.setEntry?_eq_none_iff vars]
      cases set : vars.setEntry? entry with
      | none => simp
      | some next => simpa using inductionHypothesis next
  rw [firstSession?, Option.map_eq_none_iff]
  exact table world.entries []

/-- How a shell gets from the variables and the directory of its process to the end of an input. -/
inductive ReplEnds (notices : Notices) (input : Bytes) (world : World) : ReplResult → Prop
  /-- It does not come to the first line. -/
  | notText (noSession : NotText world.entries) :
      ReplEnds notices input world (giveUp notices world)
  | lines {first now : Session} {around : World} {early late : List Bytes} {result : ReplResult}
      (starts : firstSession? world = some first) (split : inputLines input = early ++ late)
      (passes : Passes notices (promptOn world) first { world with unread := [] } early now around)
      (ends : Ends notices (promptOn world) now around late result) :
      ReplEnds notices input world result

/-- A session ends by an effective `exit` and by nothing else, and no later line takes that back. A
line that fails is none. The shell runs the lines of its input up to the first effective `exit`, so
behind a line `exit` its input can be anything. Its status is then zero, but for three ways to end
before the first effective `exit`: a variable of its process is not text, a line is not text, or a
line breaks the reader, which cuts a character in two at a backspace. -/
theorem repl_exit (notices : Notices) (world : World) (earlier : List Bytes) :
    (∀ session world events now around, Course session world events now around →
      (now.exiting = true ↔ session.exiting = true ∨ LeftIn session world events now around)) ∧
    (∀ session line world, (executeLine session line world).result ≠ .ok 0 →
      (executeLine session line world).session.exiting = session.exiting) ∧
    (∀ input, ReplEnds notices input world (repl notices input world)) ∧
    (∀ rest, repl notices (completed earlier ++ utf8 "exit\n" ++ rest) world =
      repl notices (completed earlier ++ utf8 "exit\n") world) ∧
    ((repl notices (completed earlier ++ utf8 "exit\n") world).status ≠ 0 ↔
      NotText world.entries ∨
        ∃ first early line late now around, firstSession? world = some first ∧
          inputLines (completed earlier) = early ++ line :: late ∧
          Passes notices (promptOn world) first { world with unread := [] } early now around ∧
          (decode? line = none ∨ readLine line = .cut)) := by
  have on : ∀ first, firstSession? world = some first → first.exiting = false := by
    intro first starts
    obtain ⟨vars, -, rfl⟩ := Option.map_eq_some_iff.mp starts
    rfl
  have linesBehind : ∀ rest, inputLines (completed earlier ++ utf8 "exit\n" ++ rest) =
      inputLines (completed earlier) ++ utf8 "exit" :: inputLines rest := by
    intro rest
    rw [List.append_assoc, inputLines_completed, inputLines_exit]
  have lines := linesBehind []
  rw [List.append_nil, show inputLines [] = [] from rfl] at lines
  refine ⟨fun _ _ _ _ _ course => course.exiting_iff, ?_, ?_, ?_, ?_⟩
  · intro session line world failed
    have stays : ¬ LeavesOn session line world := fun leaves => failed leaves.executeLine.1
    rw [Bool.eq_iff_iff, executeLine_exiting, or_iff_left stays]
  · intro input
    cases starts : firstSession? world with
    | none =>
      have gaveUp : repl notices input world = giveUp notices world := by rw [repl, starts]
      rw [gaveUp]
      exact .notText (firstSession?_eq_none_iff.mp starts)
    | some first =>
      obtain ⟨early, late, now, around, split, passes, ends⟩ :=
        (runLines_eq_iff (on first starts)).mp rfl
      have ran : repl notices input world = runLines notices (promptOn world) first
          (inputLines input) { world with unread := [] } := by rw [repl, starts]
      rw [ran]
      exact .lines starts split passes ends
  · intro rest
    unfold repl
    split
    · rfl
    · rw [linesBehind, lines]
      exact runLines_exit _ _ _ _ _
  · rw [← firstSession?_eq_none_iff]
    unfold repl
    cases starts : firstSession? world with
    | none => simp [giveUp, statusBroken]
    | some first =>
      dsimp only
      rw [lines, status_runLines_exit (on first starts)]
      simp

/-- A letter stands under so many accents that the number of their bytes is kept wrong. The
backspace behind it breaks the reader, although the line is text, and the `exit` behind that is not
read. -/
theorem repl_accents :
    let text := String.ofList ('e' :: List.replicate 200 (Char.ofNat 0x301) ++ [backspace])
    decode? (utf8 text) = some text ∧
      (repl .silent (completed [utf8 text] ++ utf8 "exit\n")
        (scratchWorld (utf8 "/r") [] [] false)).status = 101 := by
  intro text
  refine ⟨decode?_utf8 text, ?_⟩
  have broken : applyBackspaces text.toList = none := by
    rw [String.toList_ofList]
    decide +kernel
  have lines : inputLines (completed [utf8 text] ++ utf8 "exit\n") = [utf8 text, utf8 "exit"] := by
    decide +kernel
  have starts : firstSession? (scratchWorld (utf8 "/r") [] [] false) =
      some (.start [] (utf8 "/r")) := by decide +kernel
  rw [repl, starts, lines]
  exact congrArg ReplResult.status (Ends.runLines (.cut (readLine_cut broken)) rfl)

end CommandShell
