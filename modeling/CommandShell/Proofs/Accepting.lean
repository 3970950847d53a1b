/-
This file follows a completion that is accepted. A lone candidate is put into the line
as it is, with a space behind it, while the reading of the line gives a meaning to
quotes, backslashes and blanks and to the words that are operators. So the line says the
candidate just if none of these is in it, and the file says exactly which names are
left.

For such a name the rest is a matter of two lists that agree. What is offered has a
meaning, in the same world. So the line comes to one of three ends: a command of the
shell ran, a program ran and was waited for, or the program that was found could not be
started. The end that it never comes to is the one of a name without a meaning.
-/

import CommandShell.Completion
import CommandShell.Proofs.Candidates
import CommandShell.Proofs.Composition
import CommandShell.Proofs.Reaping
import CommandShell.Proofs.Rejoining
import CommandShell.Proofs.Resolution

namespace CommandShell

/-! ### Names that stand for themselves -/

/-- The name can be written on a line as it is, to name a program. -/
def StandsForItself (name : String) : Prop :=
  (∀ character ∈ name.toList, character ∉ [' ', '\t', '\'', '"', '\\']) ∧
    name ≠ separator ∧ name ∉ operatorTable.map (·.1)

/-- A space behind a name ends it. -/
theorem splitWords_append_space {name : String} (given : name ≠ "")
    (plain : ∀ character ∈ name.toList, character ∉ [' ', '\t', '\'', '"', '\\']) :
    splitWords (name ++ " ") = [name] := by
  have space : " ".toList = [' '] := rfl
  have some : name.toList ≠ [] := mt String.toList_eq_nil_iff.mp given
  rw [splitWords, String.toList_append, space, scan_bare_word plain, scan_bare_blank (by decide),
    words_prepend_close some]
  exact congrArg (fun word => [word]) String.ofList_toList

theorem ofWords_singleton {name : String} (notSeparator : name ≠ separator)
    (noOperator : name ∉ operatorTable.map (·.1)) :
    Pipeline.ofWords [name] = .ok [⟨name, [], none, none⟩] := by
  have reads : Reads [name] ⟨name, [], none, none⟩ :=
    ⟨[.plain name], ⟨rfl, by simpa [Item.WellFormed] using noOperator⟩, rfl, rfl, rfl⟩
  have single : [name].splitOn separator = [[name]] :=
    List.splitOn_eq_singleton (by simpa using notSeparator.symm)
  rw [ofWords_eq_ofSegments (List.cons_ne_nil _ _), single, ofSegments_eq_ok_iff]
  exact .cons reads .nil

/-- The words of a stage without redirections are its program and its arguments. -/
theorem Reads.segment_eq {segment : List String} {program : String} {args : List String}
    (reads : Reads segment ⟨program, args, none, none⟩) : segment = program :: args := by
  obtain ⟨items, ⟨rfl, -⟩, words, stdout, stderr⟩ := reads
  rw [List.getLast?_eq_none_iff, List.filterMap_eq_nil_iff] at stdout stderr
  rw [← show _ = program :: args from words, List.filterMap_eq_flatMap_toList]
  refine List.flatMap_congr fun item member => ?_
  cases item with
  | plain word => rfl
  | redirect operator stream mode target =>
    cases stream with
    | stdout => cases stdout _ member
    | stderr => cases stderr _ member

/-- A line of a name and a space says this program and nothing else just if the name stands for
itself. -/
theorem ofWords_append_space_iff {name : String} (given : name ≠ "") :
    Pipeline.ofWords (splitWords (name ++ " ")) = .ok [⟨name, [], none, none⟩] ↔
      StandsForItself name := by
  constructor
  · intro parsed
    obtain ⟨segment, others, reads, later, pieces⟩ :=
      List.forall₂_cons_right_iff.mp (reads_of_ofWords_eq_ok parsed)
    obtain rfl := List.forall₂_nil_right_iff.mp later
    obtain rfl := reads.segment_eq
    -- The one word that was read has all the marks of the line, so nothing was quoted.
    have words : splitWords (name ++ " ") = [name] := by
      calc splitWords (name ++ " ")
          = [separator].intercalate ((splitWords (name ++ " ")).splitOn separator) :=
            (List.intercalate_splitOn separator).symm
        _ = [name] := by rw [pieces, List.intercalate_singleton]
    have kept : markCount (name ++ " ").toList ≤
        markCount ((splitWords (name ++ " ")).flatMap String.toList) := by
      have space : isMark ' ' = false := by decide
      simp [words, space]
    have ordinary : ∀ word ∈ [name], word ≠ "" ∧ word ≠ separator := by
      intro word member
      have within := mem_of_mem_piece (splitWords (name ++ " ")) [name]
        (by rw [pieces]; exact List.mem_singleton_self _) word member
      exact ⟨List.mem_singleton.mp member ▸ given, within.2⟩
    obtain ⟨-, notSeparator, noOperator⟩ :=
      (reads.expressible ordinary).words name List.mem_cons_self
    refine ⟨plain_of_marks_kept kept name ?_, notSeparator, noOperator⟩
    rw [words]
    exact List.mem_singleton_self name
  · rintro ⟨plain, notSeparator, noOperator⟩
    rw [splitWords_append_space given plain]
    exact ofWords_singleton notSeparator noOperator

/-! ### What is offered has a meaning -/

theorem World.exists_builtin_of_mem_candidates {world : World} {text name : String}
    (offered : name ∈ world.candidates text none) : ∃ builtin : Builtin, builtin.name = name := by
  simp only [World.candidates, List.append_nil, List.mem_filterMap, List.mem_filter,
    mem_sortedSet, List.mem_map] at offered
  obtain ⟨_, ⟨⟨builtin, -, rfl⟩, -⟩, decoded⟩ := offered
  exact ⟨builtin, utf8_injective (utf8_of_decode? decoded).symm⟩

/-- What is offered from the search list of a session has a meaning there. -/
theorem Session.resolve_isSome_of_offered {session : Session} {world : World} {text name : String}
    (offered : name ∈ world.candidates text (session.searchList? world)) :
    (session.resolve world name).isSome = true := by
  by_cases own : ∃ builtin : Builtin, builtin.name = name
  · obtain ⟨builtin, isName⟩ := own
    rw [resolve_eq_builtin_iff.mpr isName]
    rfl
  · cases isList : session.searchList? world with
    | none =>
      rw [isList] at offered
      exact absurd (World.exists_builtin_of_mem_candidates offered) own
    | some searchList =>
      rw [isList] at offered
      obtain ⟨-, isOwn | ⟨directory, member, ⟨entry, -, bytes⟩, executable⟩⟩ :=
        World.mem_candidates.mp offered
      · exact absurd isOwn own
      · have just : Path.IsJust (utf8 name) entry :=
          ⟨[], by rw [← bytes, List.splitOn_eq_singleton entry.isName.2.1], by simp⟩
        rw [session.resolve_of_foreign world fun builtin isName => own ⟨builtin, isName⟩, isList,
          Option.isSome_map, World.findCommand_of_isJust just, World.findInList_isSome_iff]
        exact ⟨directory, member, bytes ▸ executable⟩

/-! ### One name on a line -/

/-- The streams of a stage without redirections. -/
def Files.standard : Files := ⟨none, none⟩

/-- How a line ends that says one name and nothing else, if the name has a meaning. -/
inductive RunsAlone (session : Session) (world : World) (name : String) : Outcome → Prop
  /-- A command of the shell ran. -/
  | builtin {builtin : Builtin} {status : Nat} {after : World} (isName : builtin.name = name)
      (ran : BuiltinRan builtin [] .standard true session world [] status after) :
      RunsAlone session world name
        ⟨.ok status, (builtin.run [] session world).session, after⟩
  /-- The program that was found was started, ran, and was waited for. -/
  | program {path : Path} {process : Process} {taken : Nat} {written : Bytes} {status : Nat}
      {after : World} (found : session.resolve world name = some (.external path))
      (launched : session.launch world [] path name [] = .ok process)
      (ran : ProgramRan process .standard true 0 none (world.record (.started 0)) 0 taken written
        status after) :
      RunsAlone session world name ⟨.ok status, session, after⟩
  /-- The program that was found could not be started, which the shell said. -/
  | notStarted {path : Path} {fault : Fault}
      (found : session.resolve world name = some (.external path))
      (refused : session.launch world [] path name [] = .error fault) :
      RunsAlone session world name
        ⟨.ok statusNotStarted, session,
          world.print .stdout (utf8 (name ++ ": " ++ fault.message ++ "\n"))⟩

/-- A lone program whose files are opened is started or given up. -/
theorem execute_external {session : Session} {stage : Stage} {files : Files}
    {world opened : World} {path : Path}
    (filesOpened : openAll session [stage] world = (.ok [files], opened))
    (resolved : session.resolve opened stage.program = some (.external path)) :
    execute session [stage] world =
      match session.launch opened files.locations path stage.program stage.args with
      | .error fault => abandon session ⟨[], stage.program, files.diagnostics, fault⟩ opened
      | .ok process =>
        finish session [.running process files.output files.errors]
          (opened.record (.started 0)) := by
  simp only [execute, filesOpened, List.zip_cons_cons, List.zip_nil_left, prepareAll, resolved,
    Except.map, startAll, List.flatMap_cons, List.flatMap_nil, List.nil_append, List.append_nil]
  cases session.launch opened files.locations path stage.program stage.args <;> rfl

theorem finish_running {process : Process} {output errors : Sink} {session : Session}
    {world : World} {run : RunResult}
    (ran : run = runPrograms true 0 none 0 [.running process output errors] world) :
    finish session [.running process output errors] world =
      ⟨.ok run.status, session, run.world⟩ := by
  rw [ran]
  rfl

/-- A name that has a meaning runs alone. -/
theorem execute_runsAlone {session : Session} {world : World} {name : String}
    (meaning : (session.resolve world name).isSome = true) :
    RunsAlone session world name (execute session [⟨name, [], none, none⟩] world) := by
  have filesOpened : openAll session [⟨name, [], none, none⟩] world =
      (.ok [.standard], world) := rfl
  obtain ⟨command, resolved⟩ := Option.isSome_iff_exists.mp meaning
  cases command with
  | builtin builtin =>
    have isName := Session.builtin_of_resolve resolved
    obtain ⟨own, single, runs⟩ := execute_builtin filesOpened isName
    obtain rfl := List.singleton_inj.mp single
    obtain ⟨turn, isTurn⟩ : ∃ turn, turn = takeTurn builtin [] (Files.standard.outputAt true)
        Files.standard.diagnostics session world := ⟨_, rfl⟩
    obtain ⟨left, ⟨written, status, result, ran⟩ | ⟨-, -, handle, isFile, -⟩⟩ :=
      takeTurn_spec builtin [] .standard true session world isTurn
    · have nothing : written = [] := by cases ran <;> rfl
      rw [runs turn isTurn, result, left]
      exact .builtin isName.symm (nothing ▸ ran)
    · cases isFile
  | external path =>
    have noneHeld : Files.standard.locations = [] := rfl
    rw [execute_external filesOpened resolved, noneHeld]
    cases launched : session.launch world [] path name [] with
    | error fault => exact .notStarted resolved launched
    | ok process =>
      obtain ⟨taken, written, status, after, others, isOthers, ran, ended, runs⟩ :=
        exists_programRan process .standard true 0 none 0 [] (world.record (.started 0))
      subst isOthers
      show RunsAlone session world name (finish session [.running process
        (Files.standard.outputAt true) Files.standard.errors] (world.record (.started 0)))
      rw [finish_running runs.symm]
      exact .program resolved launched ran

/-! ### The end that a name with a meaning never comes to -/

theorem Builtin.status_le {builtin : Builtin} {args : List String} {session : Session}
    {world : World} {status : Nat}
    (done : (builtin.run args session world).status = .ok status) : status ≤ 1 := by
  unfold Builtin.run at done
  split at done
  · cases done
  · cases done
    exact Nat.zero_le 1
  · next operands _ =>
    cases builtin with
    | cd =>
      unfold perform runCd at done
      dsimp only at done
      split at done
      · cases done
      · split at done
        · cases done
          exact Nat.zero_le 1
        · cases done
    | type =>
      cases done
      split
      · exact Nat.zero_le 1
      · exact Nat.le_refl 1
    | _ =>
      cases done
      exact Nat.zero_le 1

theorem BuiltinRan.status_le {builtin : Builtin} {args : List String} {files : Files} {last : Bool}
    {session : Session} {before after : World} {written : Bytes} {status : Nat}
    (ran : BuiltinRan builtin args files last session before written status after) :
    status ≤ 1 := by
  cases ran with
  | done done => exact Builtin.status_le done
  | failed => exact Nat.le_refl 1

theorem ProgramRan.journal_eq {process : Process} {files : Files} {last : Bool} {index : Nat}
    {given : Option Bytes} {before after : World} {read taken : Nat} {written : Bytes}
    {status : Nat} (ran : ProgramRan process files last index given before read taken written status
      after) :
    after.journal = before.journal ++ [.waited index] := by
  cases ran with
  | compiled code answered routed =>
    rw [World.record, consume_journal, routed.frame]
    rfl
  | script code around wired ran enough =>
    rw [World.record, consume_journal]
    rfl

/-- To report a name without a meaning leaves the journal as it is. -/
theorem reportUnresolved_journal (session : Session) (unresolved : Unresolved) (world : World) :
    (reportUnresolved session unresolved world).world.journal = world.journal := by
  obtain ⟨events, reaps, journal⟩ := reportUnresolved_settles session unresolved world
  have nothing : events = [] := by
    generalize (reportUnresolved session unresolved world).result = result at reaps
    cases reaps <;> rfl
  rw [journal, nothing, List.append_nil]

theorem reportUnresolved_result {session : Session} {unresolved : Unresolved} {world : World}
    {status : Nat} (reported : (reportUnresolved session unresolved world).result = .ok status) :
    status = statusNotFound := by
  unfold reportUnresolved at reported
  split at reported
  · exact (Except.ok.inj reported).symm
  · cases reported

/-- Neither status of a command of the shell is that of a name without a meaning, nor is that of a
program that could not be started, and a program that ran stands in the journal. -/
theorem RunsAlone.ne_reportUnresolved {session : Session} {world : World} {name : String}
    {outcome : Outcome} (alone : RunsAlone session world name outcome) (unresolved : Unresolved) :
    outcome ≠ reportUnresolved session unresolved world := by
  intro same
  have reported := (congrArg Outcome.result same).symm
  cases alone with
  | builtin isName ran =>
    have small := ran.status_le
    rw [reportUnresolved_result reported] at small
    exact absurd small (by decide)
  | program found launched ran =>
    have journal := congrArg (fun outcome => outcome.world.journal) same
    dsimp only at journal
    rw [reportUnresolved_journal, ran.journal_eq] at journal
    simp [World.record] at journal
  | notStarted found refused =>
    exact absurd (reportUnresolved_result reported) (by decide)

/-! ### Accepting a completion -/

/-- A lone candidate is put into the line with a space behind it. That line says the candidate as a
program and nothing else, just if no blank, quote or backslash is in the candidate and it is no
separator and no operator. If the candidate was offered in the session, the line then runs it and
never ends like a line whose name has no meaning. -/
theorem complete_accepted :
    (∀ name text state, name ≠ "" → ∃ line, (complete text [name] state).1 = .replace line ∧
      (Pipeline.ofWords (splitWords line) = .ok [⟨name, [], none, none⟩] ↔
        StandsForItself name)) ∧
    ∀ (session : Session) (world : World) (text name : String),
      name ∈ world.candidates text (session.searchList? world) → StandsForItself name →
      ∀ state line, (complete text [name] state).1 = .replace line →
        RunsAlone session world name (executeLine session line world) ∧
          ∀ unresolved,
            executeLine session line world ≠ reportUnresolved session unresolved world := by
  refine ⟨fun name text state given => ⟨name ++ " ", rfl, ofWords_append_space_iff given⟩, ?_⟩
  intro session world text name offered stands state line inserted
  have meaning := Session.resolve_isSome_of_offered offered
  have given : name ≠ "" := by
    rintro rfl
    rw [Session.resolve_empty] at meaning
    cases meaning
  obtain rfl := Completion.replace.inj inserted
  have alone := execute_runsAlone meaning
  rw [← executeLine_eq_execute ((ofWords_append_space_iff given).mpr stands)] at alone
  exact ⟨alone, alone.ne_reportUnresolved⟩

/-- Of two tools that are offered one runs, and the line of the other says something else. -/
theorem complete_accepted_tool :
    let tree := ((scratchTree (utf8 "/r")).including [] (utf8 "/r/bin/größe")
      (toolNode toolMode)).including [] (utf8 "/r/bin/grö ße") (toolNode toolMode)
    let world := { scratchWorld (utf8 "/r") [] [] false with tree := tree }
    let session := Session.start [("PATH", "bin:/r/none")] (utf8 "/r")
    world.candidates "grö" (session.searchList? world) = ["grö ße", "größe"] ∧
      StandsForItself "größe" ∧
      RunsAlone session world "größe" (executeLine session "größe " world) ∧
      Pipeline.ofWords (splitWords "grö ße ") ≠ .ok [⟨"grö ße", [], none, none⟩] := by
  intro tree world session
  have offered : world.candidates "grö" (session.searchList? world) = ["grö ße", "größe"] := by
    decide +kernel
  have member : "größe" ∈ world.candidates "grö" (session.searchList? world) := by
    rw [offered]
    exact List.mem_cons_of_mem _ (List.mem_singleton_self _)
  have letters : "größe".toList = ['g', 'r', 'ö', 'ß', 'e'] := by decide +kernel
  have stands : StandsForItself "größe" := ⟨by simp [letters], by decide, by decide⟩
  obtain ⟨exactly, runs⟩ := complete_accepted
  obtain ⟨alone, -⟩ := runs session world "grö" "größe" member stands .initial "größe " rfl
  obtain ⟨line, inserted, isSaid⟩ := exactly "grö ße" "grö" .initial (by decide)
  obtain rfl := Completion.replace.inj inserted
  refine ⟨offered, stands, alone, fun parsed => ?_⟩
  exact (isSaid.mp parsed).1 ' ' (by decide +kernel) (by decide)

end CommandShell
