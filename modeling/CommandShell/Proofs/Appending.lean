/-
This file proves that lines which only append lose no data. Whoever writes, and
however often one file was opened, a handle that appends writes behind what the file
holds at that moment, so no offset can be out of date. Opening to append empties
nothing. Both are facts about one step, and the rest is that a course is made of such
steps, whatever becomes of its lines. A program that a line leaves behind keeps its
handles, and they still append when it comes to write.

There is one handle of which this is not said. The terminal can be a file, and its
stream goes on there where it stopped, not at the end. Of that file nothing is
promised here.
-/

import CommandShell.Proofs.Touching

namespace CommandShell

variable {session : Session} {world : World}

/-! ### Files that go on -/

/-- Every file of the tree before is a file still, and its bytes start with those that it held. -/
def Tree.Extends (before after : Tree) : Prop :=
  ∀ location mode content, before.get? location = some (.file mode content) →
    ∃ longer, after.get? location = some (.file mode longer) ∧ longer.image = content.image ∧
      content.bytes <+: longer.bytes

namespace Tree.Extends

theorem refl (tree : Tree) : Extends tree tree :=
  fun _ _ content stands => ⟨content, stands, rfl, List.prefix_rfl⟩

theorem of_eq {before after : Tree} (same : after = before) : Extends before after :=
  same ▸ refl before

theorem trans {first second third : Tree} (early : Extends first second)
    (late : Extends second third) : Extends first third := by
  intro location mode content stands
  obtain ⟨middle, stillStands, image, starts⟩ := early location mode content stands
  obtain ⟨last, standsLast, lastImage, goesOn⟩ := late location mode middle stillStands
  exact ⟨last, standsLast, lastImage.trans image, starts.trans goesOn⟩

end Tree.Extends

/-! ### Opening -/

theorem Opens.extends {before after : World} {path : Path} {handle : Handle}
    (opens : Opens before .append path handle after) :
    Tree.Extends before.tree after.tree ∧ handle.appending = true := by
  cases opens with
  | @created directory name leads absent =>
    refine ⟨?_, rfl⟩
    intro location mode content stands
    have different : location ≠ directory ++ [name] := by
      rintro rfl
      rw [absent] at stands
      cases stands
    rw [Tree.get?_set_other before.tree different]
    exact ⟨content, stands, rfl, List.prefix_rfl⟩
  | emptied leads stands allowed truncating => cases truncating
  | kept => exact ⟨.refl _, rfl⟩
  | passed => exact ⟨.refl _, rfl⟩

theorem OpenedAll.extends {redirects : List Redirect} {opened : World} {handles : List Handle}
    (all : OpenedAll session redirects world handles opened)
    (appending : ∀ redirect ∈ redirects, redirect.mode = .append) :
    Tree.Extends world.tree opened.tree ∧ ∀ handle ∈ handles, handle.appending = true := by
  induction all with
  | nil => exact ⟨.refl _, List.forall_mem_nil _⟩
  | cons first later inductionHypothesis =>
    obtain ⟨own, behind⟩ := List.forall_mem_cons.mp appending
    rw [own] at first
    obtain ⟨opening, appends⟩ := first.extends
    obtain ⟨openings, others⟩ := inductionHypothesis behind
    exact ⟨opening.trans openings, List.forall_mem_cons.mpr ⟨appends, others⟩⟩

/-! ### Writing -/

/-- What is written to the sink goes behind what is there, if that is a file. -/
def Sink.Appends (sink : Sink) : Prop :=
  ∀ handle, sink = .file handle → handle.appending = true

theorem World.writeTo_appending {handle next : Handle} {bytes : Bytes} {after : World}
    (written : world.writeTo handle bytes = .ok (next, after)) :
    next.appending = handle.appending := by
  unfold writeTo at written
  split at written
  · cases written
    rfl
  · split at written
    · cases written
      rfl
    · cases written
    · next stream _ =>
      obtain rfl : (world.writeThrough stream handle bytes).1 = next :=
        congrArg Prod.fst (Except.ok.inj written)
      exact world.appending_writeThrough stream handle bytes
    · cases written
      rfl

theorem Sink.write_appends {sink next : Sink} {bytes : Bytes} {before after : World}
    (appends : sink.Appends) (written : sink.write bytes before = .ok (next, after)) :
    next.Appends := by
  cases sink with
  | terminal stream =>
    cases written
    exact appends
  | pipe held limit =>
    cases written
    rintro _ ⟨⟩
  | file handle =>
    unfold Sink.write at written
    dsimp only at written
    split at written
    · cases written
    · next moved wrote =>
      cases written
      rintro _ ⟨⟩
      rw [World.writeTo_appending wrote]
      exact appends handle rfl

/-- A write that a sink takes goes behind the bytes of its file and changes no other. -/
theorem Sink.write_extends {sink next : Sink} {bytes : Bytes} {before after : World}
    (appends : sink.Appends) (written : sink.write bytes before = .ok (next, after)) :
    Tree.Extends before.tree after.tree := by
  intro location mode content stands
  obtain ⟨new, standsThere, image, put⟩ := (Wrote.of_write written).file stands
  refine ⟨new, standsThere, image, ?_⟩
  have bytesAfter := congrArg Prod.snd put
  dsimp only at bytesAfter
  rw [← bytesAfter]
  cases through : sink.at? location with
  | none => exact List.prefix_rfl
  | some handle =>
    have isHandle : sink = .file handle := by
      unfold Sink.at? at through
      split at through
      · split at through
        · cases through
          rfl
        · cases through
      · cases through
    show content.bytes <+: (handle.put bytes content.bytes).2
    rw [Handle.put_eq_append bytes (Or.inl (appends handle isHandle))]
    exact List.prefix_append _ _

/-- Every write through a handle that appends extends its file, so no data is lost by what is done
through such handles. Nor does it matter to programs that are left over. -/
def extendsLaw : Preserved where
  Keeps before after := Tree.Extends before.tree after.tree ∧ after.left = before.left
  Allows := Sink.Appends
  refl _ := ⟨.refl _, rfl⟩
  trans early late := ⟨early.1.trans late.1, late.2.trans early.2⟩
  record _ _ := ⟨.refl _, rfl⟩
  terminal _ := by rintro _ ⟨⟩
  pipe _ _ := by rintro _ ⟨⟩
  write appends written :=
    ⟨Sink.write_appends appends written, Sink.write_extends appends written,
      by rw [(Wrote.of_write written).frame]; rfl⟩

/-! ### Lines -/

/-- All that was left over appends to files and acts through its streams. -/
def World.LeftAppending (world : World) : Prop :=
  ∀ stages ∈ world.left, ∀ each ∈ stages, extendsLaw.AllowsTurned each

theorem World.mem_leave {stages each : List Turned} (member : each ∈ (world.leave stages).left) :
    each ∈ world.left ∨ each = stages := by
  unfold leave at member
  split at member
  · rcases List.mem_append.mp member with old | new
    · exact Or.inl old
    · exact Or.inr (List.mem_singleton.mp new)
  · exact Or.inl member

/-- One line that only appends loses no data, however it ends, and what it leaves behind will not
either. -/
theorem executeLine_extends {line : String}
    (appending : ∀ redirect, Effective line redirect → redirect.mode = .append)
    (streamsOnly : ∀ process, Starts session line world process → process.ActsThroughStreams)
    (leftOver : world.LeftAppending) :
    Tree.Extends world.tree (executeLine session line world).world.tree ∧
      (executeLine session line world).world.LeftAppending := by
  have commands : extendsLaw.KeptByCommands := by
    intro builtin args session world
    obtain ⟨cwd, same⟩ := run_frame builtin args session world
    rw [same]
    exact ⟨.refl _, rfl⟩
  have ends : extendsLaw.Ends world (executeLine session line world).world := by
    refine extendsLaw.ends_executeLine fun pipeline parsed =>
      extendsLaw.ends_execute commands (fun _ _ => ⟨.refl _, rfl⟩) ?_ ?_
    · intro early later handles opened split all
      have own : ∀ redirect ∈ early, redirect.mode = .append := fun redirect member =>
        appending redirect (effective_of_mem parsed (split ▸ List.mem_append_left _ member))
      obtain ⟨opening, appends⟩ := all.extends own
      refine ⟨⟨opening, by rw [all.frame]⟩, ?_⟩
      rintro handle member _ ⟨⟩
      exact appends handle member
    · intro files opened prepared filesOpened isPrepared each member path process command launched
      exact (streamsOnly process
        (.intro parsed filesOpened isPrepared member command launched)).keptBy _
  obtain ⟨middle, stages, ⟨extended, sameLeft⟩, allowed, isLast⟩ := ends
  rw [isLast, World.tree_leave]
  refine ⟨extended, fun others member => ?_⟩
  rcases World.mem_leave member with old | rfl
  · exact leftOver others (sameLeft ▸ old)
  · exact allowed

/-! ### Courses -/

/-- The redirections of the lines that count only append, and the processes that the lines start act
through their streams, as does what is left over from before. -/
structure AppendOnly (session : Session) (world : World) (events : List Event) : Prop where
  appending : ∀ line, .line line ∈ events → ∀ redirect, Effective line redirect →
    redirect.mode = .append
  streamsOnly : ∀ front line back middle between, events = front ++ .line line :: back →
    Course session world front middle between → ∀ process, Starts middle line between process →
    process.ActsThroughStreams
  leftOver : world.LeftAppending

theorem EventStep.vars_eq {event : Event} {next : Session} {after : World}
    (step : EventStep session world event next after) : next.vars = session.vars := by
  cases step with
  | line text => exact executeLine_vars session text world
  | killed => exact executeLine_vars session _ world
  | leftOver => rfl

theorem Course.vars_eq {events : List Event} {now : Session} {around : World}
    (course : Course session world events now around) : now.vars = session.vars := by
  induction course with
  | nil => rfl
  | cons first later inductionHypothesis => exact inductionHypothesis.trans first.vars_eq

/-- Whether the redirections of a line only append. -/
def appendsOnly (line : String) : Bool :=
  match Pipeline.ofWords (splitWords line) with
  | .ok pipeline => pipeline.redirects.all (·.mode = .append)
  | .error _ => true

namespace AppendOnly

variable {event : Event} {events early late : List Event} {next middle now : Session}
  {after between around : World}

/-- In a session without a search list of its own only the redirections matter. -/
theorem of_noList (noList : session.vars.get? "PATH" = none)
    (appending : ∀ line, .line line ∈ events → appendsOnly line = true)
    (noneLeft : world.left = []) : AppendOnly session world events where
  appending line member redirect effective := by
    obtain ⟨pipeline, parsed, own⟩ := effective_iff.mp effective
    have all := appending line member
    simp only [appendsOnly, parsed] at all
    simpa using List.all_eq_true.mp all redirect own
  streamsOnly front line back middle between _ course process starts := by
    obtain ⟨-, -, -, -, -, launched⟩ := starts
    exact launched.actsThroughStreams (course.vars_eq ▸ noList)
  leftOver := by
    intro stages member
    rw [noneLeft] at member
    cases member

/-- What happens extends the files, and what is left over then still appends. -/
theorem extends_step (appendOnly : AppendOnly session world (event :: events))
    (step : EventStep session world event next after) :
    Tree.Extends world.tree after.tree ∧ after.LeftAppending := by
  have ofLine {line : String} (isLine : event = .line line) :
      Tree.Extends world.tree (executeLine session line world).world.tree ∧
        (executeLine session line world).world.LeftAppending :=
    executeLine_extends (appendOnly.appending line (isLine ▸ List.mem_cons_self))
      (appendOnly.streamsOnly [] line events session world (isLine ▸ rfl) .nil)
      appendOnly.leftOver
  cases step with
  | line text => exact ofLine rfl
  | killed => exact ofLine rfl
  | leftOver ran _ =>
    obtain ⟨settled, ⟨extended, sameLeft⟩, isAfter⟩ :=
      extendsLaw.keeps_resume (fun _ _ => ⟨.refl _, rfl⟩) appendOnly.leftOver ran
    rw [isAfter]
    refine ⟨extended, fun stages member => ?_⟩
    exact appendOnly.leftOver stages (List.mem_of_mem_eraseIdx (sameLeft ▸ member))

theorem tail (appendOnly : AppendOnly session world (event :: events))
    (step : EventStep session world event next after) : AppendOnly next after events where
  appending line member := appendOnly.appending line (List.mem_cons_of_mem _ member)
  streamsOnly front line back middle between split course :=
    appendOnly.streamsOnly (event :: front) line back middle between (by rw [split]; rfl)
      (.cons step course)
  leftOver := (appendOnly.extends_step step).2

theorem append_right (appendOnly : AppendOnly session world (early ++ late))
    (course : Course session world early middle between) : AppendOnly middle between late := by
  induction course with
  | nil => exact appendOnly
  | cons first later inductionHypothesis => exact inductionHypothesis (appendOnly.tail first)

theorem extends_course (appendOnly : AppendOnly session world events)
    (course : Course session world events now around) :
    Tree.Extends world.tree around.tree := by
  induction course with
  | nil => exact .refl _
  | cons first later inductionHypothesis =>
    exact (appendOnly.extends_step first).1.trans (inductionHypothesis (appendOnly.tail first))

end AppendOnly

/-- In a course of lines that only append, no file of the tree that was there at some point loses
anything: it stays where it is, and what it held then is how its content starts from then on,
whatever became of the lines, however many of them wrote to it, and whenever the programs that they
left behind come to write. A file to which a stream of the terminal goes is not meant by that: it
does not stand in the tree as a file. -/
theorem course_extends {early late : List Event} {middle now : Session} {between around : World}
    (appendOnly : AppendOnly session world (early ++ late))
    (before : Course session world early middle between)
    (behind : Course middle between late now around) :
    Tree.Extends between.tree around.tree :=
  (appendOnly.append_right before).extends_course behind

/-- Both streams of a tool and a report append to one file, by its name and through a link, and a
program that was left behind appends to it once more. -/
theorem course_extends_link :
    let session := Session.start [] (utf8 "/r")
    let tree := (((scratchTree (utf8 "/r")).including [] (utf8 "/r/tool")
      (toolNode toolMode)).including [] (utf8 "/r/a")
        (.file freshMode (.ofBytes (utf8 "0")))).including [] (utf8 "/r/link") (.link (utf8 "a"))
    let world := { scratchWorld (utf8 "/r") [] [] false with tree := tree }
    let early := ["./tool outn 1 err 2 >> a 2>> link"]
    let late := ["./tool err 3 2>> link | cd nope 2>> /dev/full", "cd nope 2>> link", "nosuch >>"]
    let events := early.map .line ++ (late.map .line ++ [.leftOver])
    let place := scratchRoot (utf8 "/r") ++ [⟨utf8 "a", by decide⟩]
    AppendOnly session world events ∧
      ∃ now around longer, Course session world events now around ∧ around.left = [] ∧
        around.tree.get? place = some (.file freshMode longer) ∧ longer.image = none ∧
        utf8 "012\n" <+: longer.bytes := by
  intro session tree world early late events place
  have appending : ∀ line ∈ early ++ late, appendsOnly line = true := by decide +kernel
  have appendOnly : AppendOnly session world events :=
    .of_noList rfl (fun line member => appending line (by simpa [events] using member)) rfl
  obtain ⟨after, isAfter⟩ : ∃ after, after = afterLines (afterLines session world early).1
      (afterLines session world early).2 late := ⟨_, rfl⟩
  have before : Course session world (early.map .line) _ _ := afterLines_course session world early
  have lines : Course _ _ (late.map .line) after.1 after.2 := isAfter ▸ afterLines_course _ _ late
  have someLeft : (after.2.resume? 0 0).any (fun run => run.ended && run.world.left.isEmpty) =
      true := by
    rw [isAfter]
    decide +kernel
  obtain ⟨run, ran, settled⟩ := (Option.any_eq_true _ _).mp someLeft
  obtain ⟨ended, noneLeft⟩ := Bool.and_eq_true_iff.mp settled
  have behind := lines.append (.one (.leftOver ran ended))
  have stands : (afterLines session world early).2.tree.get? place = some (.file freshMode
      ⟨none, ((Output.ofBytes (utf8 "0")).add (utf8 "1")).add (utf8 "2\n")⟩) := by decide +kernel
  obtain ⟨longer, still, image, starts⟩ := course_extends appendOnly before behind place _ _ stands
  exact ⟨appendOnly, after.1, run.world, longer, before.append behind, List.isEmpty_iff.mp noneLeft,
    still, image, starts⟩

/-- Of the file of a stream of the terminal that is not true: the stream goes on where it stopped,
and there something else may stand by now. -/
theorem afterLines_overwrites :
    let session := Session.start [] (utf8 "/r")
    let tree := (scratchTree (utf8 "/r")).including [] (utf8 "/dev/stdout")
      (.device (.terminal .stdout))
    let world := { scratchWorld (utf8 "/r") [] [] true with tree := tree }
    let early := ["echo first", "echo second >> /dev/stdout"]
    let late := ["echo third"]
    let place : Location := [⟨utf8 "dev", by decide⟩, ⟨utf8 "stdout", by decide⟩]
    AppendOnly session world ((early ++ late).map .line) ∧
      (afterLines session world early).2.bytesAt? place = some (utf8 "first\nsecond\n") ∧
      (afterLines session world (early ++ late)).2.bytesAt? place =
        some (utf8 "first\nthird\n\n") ∧
      ¬ utf8 "first\nsecond\n" <+: utf8 "first\nthird\n\n" := by
  intro session tree world early late place
  have appending : ∀ line ∈ early ++ late, appendsOnly line = true := by decide +kernel
  refine ⟨?_, by decide +kernel, by decide +kernel, by decide +kernel⟩
  exact .of_noList rfl (fun line member => appending line (by simpa using member)) rfl

end CommandShell
