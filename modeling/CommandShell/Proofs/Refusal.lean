/-
This file proves what a line leaves behind that cannot start. There are three
ways to be refused: the words form no pipeline, a file cannot be opened, or a
name means nothing. Each is reported once, and apart from the report the world
is as the phases before it left it. The report on a name goes behind what its
file holds, and that needs an argument: the handle may have been overtaken by
later openings of the same file, but those can only have emptied it.
-/

import CommandShell.Proofs.Opening
import CommandShell.Proofs.Start
import CommandShell.Run
import CommandShell.Scratch

namespace CommandShell

/-! ### Reports -/

/-- A report went to a sink, behind what was there, and changed nothing else. -/
inductive Reports (bytes : Bytes) (before : World) : Sink → World → Prop
  | terminal {stream : Stream} : Reports bytes before (.terminal stream) (before.print stream bytes)
  | file {handle : Handle} {permissions : Nat} {old new : Content}
      (stands : before.tree.get? handle.location = some (.file permissions old))
      (image : new.image = old.image) (added : new.bytes = old.bytes ++ bytes) :
      Reports bytes before (.file handle)
        { before with tree := before.tree.set handle.location (.file permissions new) }
  /-- What stands there leads to a stream of the terminal. -/
  | led {handle : Handle} {stream : Stream}
      (leads : before.tree.get? handle.location = some (.device (.terminal stream))) :
      Reports bytes before (.file handle) (before.writeThrough stream handle bytes).2
  /-- What stands there takes every byte and keeps none. -/
  | lost {handle : Handle}
      (noFile : ∀ permissions content,
        before.tree.get? handle.location ≠ some (.file permissions content))
      (notFull : before.tree.get? handle.location ≠ some (.device .full))
      (notLed : ∀ stream, before.tree.get? handle.location ≠ some (.device (.terminal stream))) :
      Reports bytes before (.file handle) before

/-- A handle that was not used yet takes a report, unless the device that takes no byte stands
there. -/
theorem writeTo_fresh {world : World} {handle : Handle} {bytes : Bytes} (something : bytes ≠ [])
    (front : handle.offset = 0)
    (blank : handle.appending = false → world.tree.IsBlank handle.location) :
    (∃ next after, world.writeTo handle bytes = .ok (next, after) ∧
        Reports bytes world (.file handle) after) ∨
      (world.tree.get? handle.location = some (.device .full) ∧
        world.writeTo handle bytes = .error .noSpace) := by
  unfold World.writeTo
  rw [if_neg something]
  split
  · next permissions content stands =>
    refine Or.inl ⟨_, _, rfl, Reports.file stands rfl ?_⟩
    show (content.written.addAt _ bytes).bytes = content.bytes ++ bytes
    rw [Output.bytes_addAt]
    by_cases appending : handle.appending = true
    · rw [if_pos appending, Content.size_eq_length]
      exact overwrite_length content.bytes bytes
    · have truncating : handle.appending = false := by simpa using appending
      have empty : content.written.bytes = [] := blank truncating permissions content stands
      have noBytes : content.bytes = [] := empty
      rw [if_neg appending, front, empty, noBytes]
      exact overwrite_length [] bytes
  · next full => exact Or.inr ⟨full, rfl⟩
  · next stream leads => exact Or.inl ⟨_, _, rfl, Reports.led leads⟩
  · next noFile notFull notLed => exact Or.inl ⟨_, _, rfl, Reports.lost noFile notFull notLed⟩

/-- The place for messages about a stage takes a report when all files are open, unless it is the
device that takes no byte. -/
theorem Opened.write_diagnostics {session : Session} {pipeline : Pipeline} {files : List Files}
    {world opened : World} (all : Opened session pipeline world files opened) {own : Files}
    (member : own ∈ files) {bytes : Bytes} (something : bytes ≠ []) {around : World}
    (sameTree : around.tree = opened.tree) :
    (∃ next after, own.diagnostics.write bytes around = .ok (next, after) ∧
        Reports bytes around own.diagnostics after) ∨
      ∃ handle, own.stderr = some handle ∧
        opened.tree.get? handle.location = some (.device .full) ∧
        own.diagnostics.write bytes around = .error .noSpace := by
  unfold Files.diagnostics
  cases isError : own.stderr with
  | none => exact Or.inl ⟨_, _, rfl, Reports.terminal⟩
  | some handle =>
    have isHandle : handle ∈ files.flatMap Files.handles := by
      refine List.mem_flatMap.mpr ⟨own, member, ?_⟩
      simp [Files.handles, isError]
    obtain ⟨front, blank⟩ := all.2.fresh isHandle
    rw [← sameTree] at blank ⊢
    rcases writeTo_fresh something front blank with
      ⟨next, after, written, reports⟩ | ⟨full, refused⟩
    · refine Or.inl ⟨.file next, after, ?_, reports⟩
      simp only [Sink.write, written]
    · refine Or.inr ⟨handle, rfl, full, ?_⟩
      simp only [Sink.write, refused]

theorem utf8_line_ne_nil (text : String) : utf8 (text ++ "\n") ≠ [] := by
  rw [utf8_append]
  exact List.append_ne_nil_of_right_ne_nil _ (by decide)

/-- The report on a name reaches the place for messages about its stage, unless that is the device
that takes no byte. -/
theorem reportUnresolved_eq {session : Session} {pipeline : Pipeline} {files : List Files}
    {world opened : World} (all : Opened session pipeline world files opened)
    {stage : Stage} {own : Files} (member : own ∈ files) :
    (∃ after, Reports (utf8 (notFoundMessage stage.program ++ "\n")) opened own.diagnostics after ∧
        reportUnresolved session ⟨stage.program, own⟩ opened =
          ⟨.ok statusNotFound, session, after⟩) ∨
      ∃ handle, own.stderr = some handle ∧
        opened.tree.get? handle.location = some (.device .full) ∧
        reportUnresolved session ⟨stage.program, own⟩ opened =
          ⟨.error .noSpace, session, opened⟩ := by
  have something := utf8_line_ne_nil (notFoundMessage stage.program)
  unfold reportUnresolved
  dsimp only
  rcases all.write_diagnostics member something rfl with
    ⟨next, after, written, reports⟩ | ⟨handle, isError, full, refused⟩
  · refine Or.inl ⟨after, reports, ?_⟩
    rw [written]
  · refine Or.inr ⟨handle, isError, full, ?_⟩
    rw [refused]

/-! ### Lines -/

/-- What a line leaves behind that cannot start. A line without words does nothing. Words that form
no pipeline are reported. If a file cannot be opened, the files ahead of it were opened, and that is
reported. If a name means nothing when all files are opened, that is reported in the place for
messages about its stage. Apart from the report nothing else changes. -/
theorem executeLine_refused (session : Session) (line : String) (world : World) :
    (splitWords line = [] → executeLine session line world = ⟨.ok 0, session, world⟩) ∧
    (∀ error, splitWords line ≠ [] → Pipeline.ofWords (splitWords line) = .error error →
      executeLine session line world =
        ⟨.ok 2, session, world.print .stderr (utf8 ("tinysh: " ++ error.message ++ "\n"))⟩) ∧
    ∀ pipeline, Pipeline.ofWords (splitWords line) = .ok pipeline →
      ((∃ files opened, Opened session pipeline world files opened) ∨
        ∃ failure stopped, FailsAt session pipeline.redirects world failure stopped) ∧
      (∀ earlier redirect later handles stopped fault,
        pipeline.redirects = earlier ++ redirect :: later →
        OpenedAll session earlier world handles stopped →
        stopped.openFor redirect.mode (session.pathOf redirect) = .error fault →
        executeLine session line world =
          ⟨.ok 1, session, stopped.print .stderr
            (utf8 ("tinysh: " ++ (redirect.target ++ ": " ++ fault.message) ++ "\n"))⟩) ∧
      ∀ files opened, Opened session pipeline world files opened →
        ∀ earlier stage own later, pipeline.zip files = earlier ++ (stage, own) :: later →
          (∀ ahead ∈ earlier, session.resolve opened ahead.1.program ≠ none) →
          session.resolve opened stage.program = none →
          (∃ after, Reports (utf8 (stage.program ++ ": command not found" ++ "\n")) opened
              own.diagnostics after ∧
            executeLine session line world = ⟨.ok 127, session, after⟩) ∨
          ∃ handle, own.stderr = some handle ∧
            opened.tree.get? handle.location = some (.device .full) ∧
            executeLine session line world = ⟨.error .noSpace, session, opened⟩ := by
  refine ⟨?_, ?_, ?_⟩
  · intro blank
    simp only [executeLine, blank, if_true]
  · intro error words refused
    simp only [executeLine, words, if_false, refused]
    rfl
  · intro pipeline parsed
    have words : splitWords line ≠ [] := by
      intro blank
      rw [blank] at parsed
      cases parsed
    have runs : executeLine session line world = execute session pipeline world := by
      simp only [executeLine, words, if_false, parsed]
    rw [runs]
    refine ⟨opened_or_failsAt session pipeline world, ?_, ?_⟩
    · intro earlier redirect later handles stopped fault split ahead refused
      have fails : FailsAt session pipeline.redirects world ⟨redirect.target, fault⟩ stopped :=
        failsAt_iff.mpr ⟨earlier, redirect, later, handles, split, ahead, refused, rfl⟩
      simp only [execute, openAll_eq_error_iff.mpr fails]
      rfl
    · intro files opened all earlier stage own later split resolved means
      have refused : prepareAll session opened (pipeline.zip files) =
          .error ⟨stage.program, own⟩ :=
        prepareAll_eq_error_iff.mpr ⟨earlier, stage, own, later, split, resolved, means, rfl⟩
      have reported : execute session pipeline world =
          reportUnresolved session ⟨stage.program, own⟩ opened := by
        simp only [execute, openAll_eq_ok_iff.mpr all, refused]
      have member : own ∈ files := by
        have zipped : (stage, own) ∈ pipeline.zip files := by simp [split]
        exact (List.of_mem_zip zipped).2
      rw [reported]
      exact reportUnresolved_eq all member

/-- The stage before the name that means nothing does not run, but its file is made. -/
theorem executeLine_refused_nosuch :
    let session := Session.start [] (utf8 "/r")
    let world := scratchWorld (utf8 "/r") [] [] false
    let echo : Stage := ⟨"echo", ["a"], some ⟨.truncate, "f"⟩, none⟩
    let nosuch : Stage := ⟨"nosuch", [], none, some ⟨.truncate, "e"⟩⟩
    let opened := (openAll session [echo, nosuch] world).2
    ∃ handle after, Reports (utf8 "nosuch: command not found\n") opened (.file handle) after ∧
      executeLine session "echo a > f | nosuch 2> e" world = ⟨.ok 127, session, after⟩ := by
  intro session world echo nosuch opened
  let here (name : String) (isName : IsName (utf8 name)) : Handle :=
    ⟨scratchRoot (utf8 "/r") ++ [⟨utf8 name, isName⟩], false, 0⟩
  let made : Files := ⟨some (here "f" (by decide)), none⟩
  let own : Files := ⟨none, some (here "e" (by decide))⟩
  have parsed : Pipeline.ofWords (splitWords "echo a > f | nosuch 2> e") = .ok [echo, nosuch] := by
    decide +kernel
  have filesOpened : (openAll session [echo, nosuch] world).1 = .ok [made, own] := by
    decide +kernel
  have all : Opened session [echo, nosuch] world [made, own] opened :=
    openAll_eq_ok_iff.mp (Prod.ext filesOpened rfl)
  have meaning : ∀ ahead ∈ [(echo, made)], session.resolve opened ahead.1.program ≠ none := by
    decide +kernel
  have unknown : session.resolve opened nosuch.program = none := by decide +kernel
  obtain ⟨-, -, phases⟩ :=
    executeLine_refused session "echo a > f | nosuch 2> e" world
  obtain ⟨-, -, unresolved⟩ := phases [echo, nosuch] parsed
  rcases unresolved [made, own] opened all [(echo, made)] nosuch own [] rfl meaning unknown with
    ⟨after, reports, same⟩ | ⟨handle, isHandle, full, -⟩
  · exact ⟨_, after, reports, same⟩
  · cases isHandle
    have notFull : opened.tree.get? (here "e" (by decide)).location ≠ some (.device .full) := by
      decide +kernel
    exact absurd full notFull

/-- The words of a blank line form no pipeline, but such a line is not refused. -/
theorem blank_line_not_refused :
    let session := Session.start [] (utf8 "/r")
    let world := scratchWorld (utf8 "/r") [] [] false
    Pipeline.ofWords (splitWords "") = .error .emptyInput ∧
      (executeLine session "" world).result = .ok 0 ∧
      (executeLine session "" world).world.err.bytes = [] := by
  decide +kernel

end CommandShell
