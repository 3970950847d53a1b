/-
This file proves which files a line can touch. Four kinds of writers are at work:
the openings of the redirections, the commands of the shell, the messages about a
stage, and the programs. All of them write through handles that the openings made,
and a handle stays at the place of its file. So nothing is touched but the targets of
the redirections, however the line ends.

The redirections that are opened are those that count: of several for one stream
in a stage, the last one. A line that is no pipeline opens none.
-/

import CommandShell.Proofs.Directory
import CommandShell.Proofs.Grammar
import CommandShell.Proofs.Growth
import CommandShell.Scratch

namespace CommandShell

variable {session : Session} {line : String} {world : World} {places : Location → Prop}

/-! ### Targets -/

/-- The redirection is the last one for its stream in a segment of a line that is a pipeline. -/
inductive Effective (line : String) (redirect : Redirect) : Prop
  | intro {pipeline : Pipeline} {segment : List String} {items : List Item} {stream : Stream}
      (parsed : Pipeline.ofWords (splitWords line) = .ok pipeline)
      (member : segment ∈ (splitWords line).splitOn separator)
      (consists : Consists segment items)
      (last : (items.filterMap (Item.redirect? stream)).getLast? = some redirect)

/-- The path of the redirection, read from the session's directory, leads to this place, where a
file stands or can be made. -/
def Session.LeadsTo (session : Session) (world : World) (redirect : Redirect)
    (location : Location) : Prop :=
  EndsAt (world.tree.locate .create world.cwd (session.pathOf redirect)) location

theorem Reads.mem_redirects {segment : List String} {stage : Stage} {redirect : Redirect}
    (reads : Reads segment stage) (member : redirect ∈ stage.redirects) :
    ∃ items stream, Consists segment items ∧
      (items.filterMap (Item.redirect? stream)).getLast? = some redirect := by
  obtain ⟨items, consists, made⟩ := reads
  rcases List.mem_append.mp member with stdout | stderr
  · exact ⟨items, .stdout, consists, made.stdout.trans (Option.mem_toList.mp stdout)⟩
  · exact ⟨items, .stderr, consists, made.stderr.trans (Option.mem_toList.mp stderr)⟩

/-- Every redirection of the pipeline of a line is the last one for its stream in its segment. -/
theorem effective_of_mem {pipeline : Pipeline} {redirect : Redirect}
    (parsed : Pipeline.ofWords (splitWords line) = .ok pipeline)
    (member : redirect ∈ pipeline.redirects) : Effective line redirect := by
  have all := reads_of_ofWords_eq_ok parsed
  obtain ⟨stage, inPipeline, own⟩ := List.mem_flatMap.mp member
  obtain ⟨index, inside, rfl⟩ := List.getElem_of_mem inPipeline
  have segmentInside : index < ((splitWords line).splitOn separator).length :=
    all.length_eq ▸ inside
  obtain ⟨items, stream, consists, last⟩ :=
    (all.get segmentInside inside).mem_redirects own
  exact .intro parsed (List.getElem_mem segmentInside) consists last

/-- What a segment says for a stream does not depend on how it is divided into items. -/
theorem Reads.mem_redirects_of_consists {segment : List String} {stage : Stage}
    (reads : Reads segment stage) {items : List Item} (consists : Consists segment items)
    {stream : Stream} {redirect : Redirect}
    (last : (items.filterMap (Item.redirect? stream)).getLast? = some redirect) :
    redirect ∈ stage.redirects := by
  obtain ⟨others, otherwise, made⟩ := reads
  have same := Except.ok.inj (consists.ofWords_eq.symm.trans otherwise.ofWords_eq)
  rw [foldr_before_empty, foldr_before_empty, made.stdout, made.stderr, Draft.mk.injEq] at same
  obtain ⟨-, stdout, stderr⟩ := same
  cases stream with
  | stdout => exact List.mem_append_left _ (Option.mem_toList.mpr (stdout.symm.trans last))
  | stderr => exact List.mem_append_right _ (Option.mem_toList.mpr (stderr.symm.trans last))

/-- The redirections that count are those of the pipeline of the line. -/
theorem effective_iff {redirect : Redirect} :
    Effective line redirect ↔
      ∃ pipeline, Pipeline.ofWords (splitWords line) = .ok pipeline ∧
        redirect ∈ pipeline.redirects := by
  constructor
  · rintro @⟨pipeline, segment, items, stream, parsed, member, consists, last⟩
    have all := reads_of_ofWords_eq_ok parsed
    obtain ⟨index, inside, rfl⟩ := List.getElem_of_mem member
    have stageInside : index < pipeline.length := all.length_eq ▸ inside
    have own := (all.get inside stageInside).mem_redirects_of_consists consists last
    exact ⟨pipeline, parsed, List.mem_flatMap.mpr ⟨_, List.getElem_mem stageInside, own⟩⟩
  · rintro ⟨pipeline, parsed, member⟩
    exact effective_of_mem parsed member

/-! ### Opening -/

theorem Opens.touches {before after : World} {mode : WriteMode} {path : Path} {handle : Handle}
    (opens : Opens before mode path handle after) :
    EndsAt (before.tree.locate .create before.cwd path) handle.location ∧
      Tree.Touches (· = handle.location) before.tree after.tree := by
  cases opens with
  | @created directory name leads absent =>
    refine ⟨⟨_, leads, rfl⟩, .set rfl (by simp) ?_⟩
    rw [absent]
    exact .created (by decide)
  | emptied leads stands =>
    refine ⟨⟨_, leads, rfl⟩, .set rfl (Tree.ne_nil_of_get?_eq_file stands) ?_⟩
    rw [stands]
    exact .rewritten
  | kept leads => exact ⟨⟨_, leads, rfl⟩, .refl _ _⟩
  | passed leads => exact ⟨⟨_, leads, rfl⟩, .of_eq (before.tree_passed mode _)⟩

/-- Openings touch the targets of their redirections, as the tree before all of them has them. -/
theorem OpenedAll.touches {redirects : List Redirect} {opened : World} {handles : List Handle}
    (all : OpenedAll session redirects world handles opened) :
    (∀ handle ∈ handles,
        ∃ redirect ∈ redirects, session.LeadsTo world redirect handle.location) ∧
      Tree.Touches (fun location => ∃ redirect ∈ redirects, session.LeadsTo world redirect location)
        world.tree opened.tree := by
  induction all with
  | nil => exact ⟨by simp, .refl _ _⟩
  | @cons redirect rest handle handles world next opened first later inductionHypothesis =>
    obtain ⟨behind, touches⟩ := inductionHypothesis
    obtain ⟨leads, touchesFirst⟩ := first.touches
    have same : next.cwd = world.cwd := by
      rw [first.frame]
    have earlier : ∀ location, (∃ redirect ∈ rest, session.LeadsTo next redirect location) →
        ∃ other ∈ redirect :: rest, session.LeadsTo world other location := by
      rintro location ⟨other, member, leads⟩
      refine ⟨other, List.mem_cons_of_mem _ member, ?_⟩
      unfold Session.LeadsTo at leads
      rw [same] at leads
      exact (Tree.endsAt_locate_iff fun location => (touchesFirst location).1).mp leads
    refine ⟨?_, (touchesFirst.mono ?_).trans (touches.mono earlier)⟩
    · intro other member
      rcases List.mem_cons.mp member with rfl | member
      · exact ⟨redirect, List.mem_cons_self, leads⟩
      · exact earlier _ (behind other member)
    · rintro location rfl
      exact ⟨redirect, List.mem_cons_self, leads⟩

/-! ### Writing -/

/-- What is written to the sink goes to none but these places of the tree. -/
def Sink.Within (places : Location → Prop) (sink : Sink) : Prop :=
  ∀ handle, sink = .file handle → places handle.location

/-- A write touches the file of its sink, and the sink stays there. -/
theorem Sink.write_touches {sink next : Sink} {bytes : Bytes} {before after : World}
    (within : sink.Within places) (written : sink.write bytes before = .ok (next, after)) :
    next.Within places ∧ Tree.Touches places before.tree after.tree := by
  cases sink with
  | terminal stream =>
    cases written
    exact ⟨within, .of_eq (before.tree_print stream bytes)⟩
  | pipe held limit =>
    cases written
    refine ⟨?_, .refl _ _⟩
    rintro _ ⟨⟩
  | file handle =>
    have place := within handle rfl
    unfold Sink.write at written
    dsimp only at written
    split at written
    · cases written
    · next moved wrote =>
      cases written
      unfold World.writeTo at wrote
      split at wrote
      · cases wrote
        exact ⟨within, .refl _ _⟩
      · split at wrote
        · next mode content stands =>
          cases wrote
          refine ⟨?_, .set place (Tree.ne_nil_of_get?_eq_file stands) (stands ▸ .rewritten)⟩
          rintro _ ⟨⟩
          exact place
        · cases wrote
        · next stream _ =>
          have same := Except.ok.inj wrote
          obtain rfl := congrArg Prod.fst same
          obtain rfl := congrArg Prod.snd same
          refine ⟨?_, .of_eq (before.tree_writeThrough stream handle bytes)⟩
          rintro _ ⟨⟩
          rw [World.location_writeThrough]
          exact place
        · cases wrote
          exact ⟨within, .refl _ _⟩

/-- Every write touches the file of its sink and no other, so what is done through sinks touches
none but the places of their files. -/
def touchesLaw (places : Location → Prop) : Preserved where
  Keeps before after := Tree.Touches places before.tree after.tree
  Allows := Sink.Within places
  refl _ := .refl _ _
  trans := .trans
  record _ _ := .refl _ _
  terminal _ := by rintro _ ⟨⟩
  pipe _ _ := by rintro _ ⟨⟩
  write := Sink.write_touches

/-! ### Programs that act through their streams -/

/-- Whatever the process does to the world it does by writing to its two streams. -/
def Process.ActsThroughStreams (process : Process) : Prop :=
  ∀ input output errors before, ∃ writes,
    (process.run input output errors before).world =
      (List.foldl Streams.write ⟨output, errors, before⟩ writes).world

/-- Such a process keeps whatever every write keeps. -/
theorem Process.ActsThroughStreams.keptBy {process : Process} (acts : process.ActsThroughStreams)
    (law : Preserved) : law.KeptBy process := by
  intro input output errors before toOutput toErrors
  obtain ⟨writes, ran⟩ := acts input output errors before
  rw [ran]
  have allowed : law.AllowsStreams ⟨output, errors, before⟩ := ⟨toOutput, toErrors⟩
  exact law.keeps_foldl writes allowed

theorem Process.actsThroughStreams_of_program {process : Process} {program : Program}
    (compiled : process.code = .program program) : process.ActsThroughStreams := by
  intro input output errors before
  refine ⟨(program process.call input).writes, ?_⟩
  simp only [Process.run, compiled]

theorem World.interpret_compiled {busy : List Location} {directory : Base} {files : Nat}
    {content : Content} {path name : Bytes} {args : List Bytes} {loaded : Loaded}
    (found : world.interpret busy directory files content path name args = .ok loaded) :
    ∃ program, loaded.code = .program program := by
  induction files generalizing content path name args with
  | zero => cases found
  | succ files inductionHypothesis =>
    unfold World.interpret at found
    split at found
    · split at found
      · next program _ =>
        cases found
        exact ⟨program, rfl⟩
      · cases found
    · cases found
    · split at found
      · cases found
      · exact inductionHypothesis found

theorem World.load_compiled {busy : List Location} {directory : Base} {entries : List Bytes}
    {path name : Bytes} {args : List Bytes} {loaded : Loaded}
    (found : world.load busy directory entries path name args = .ok loaded) :
    ∃ program, loaded.code = .program program := by
  unfold World.load at found
  split at found
  · cases found
  · split at found
    · cases found
    · exact World.interpret_compiled found

/-- What a search finds, if no scripts are started, is a program of one of the directories. -/
theorem World.exists_of_loadFirst {busy : List Location} {directory : Base}
    {entries : List Bytes} {file name : Bytes} {args : List Bytes} {denied : Bool} {last : Fault}
    {tried : List Path} {loaded : Loaded}
    (found : world.loadFirst busy directory entries false file name args denied last tried =
      .ok loaded) :
    ∃ entry ∈ tried,
      world.load busy directory entries (pathIn entry file) name args = .ok loaded := by
  induction tried generalizing denied last with
  | nil => cases found
  | cons entry rest inductionHypothesis =>
    have later {nowDenied : Bool} {nowLast : Fault}
        (goesOn : world.loadFirst busy directory entries false file name args nowDenied nowLast
          rest = .ok loaded) :
        ∃ next ∈ entry :: rest,
          world.load busy directory entries (pathIn next file) name args = .ok loaded := by
      obtain ⟨next, member, loads⟩ := inductionHypothesis goesOn
      exact ⟨next, List.mem_cons_of_mem _ member, loads⟩
    unfold World.loadFirst at found
    dsimp only at found
    split at found
    · next here =>
      cases found
      exact ⟨entry, List.mem_cons_self, here⟩
    · exact later found
    · exact later found
    · exact later found
    · cases found
    · cases found

theorem World.loadFirst_compiled {busy : List Location} {directory : Base}
    {entries : List Bytes} {file name : Bytes} {args : List Bytes} {denied : Bool} {last : Fault}
    {tried : List Path} {loaded : Loaded}
    (found : world.loadFirst busy directory entries false file name args denied last tried =
      .ok loaded) : ∃ program, loaded.code = .program program := by
  obtain ⟨_, -, loads⟩ := World.exists_of_loadFirst found
  exact World.load_compiled loads

theorem exists_of_map_eq_ok {ε α β : Type} {start : α → β} {found : Except ε α} {result : β}
    (mapped : found.map start = .ok result) :
    ∃ produced, found = .ok produced ∧ start produced = result := by
  cases found with
  | error fault => cases mapped
  | ok produced => exact ⟨produced, rfl, Except.ok.inj mapped⟩

/-- A session without a search list of its own starts no scripts, so all its processes act through
their streams. -/
theorem Launched.actsThroughStreams {opened : World} {prepared : Prepared} {path : Path}
    {process : Process} (launched : Launched session opened prepared path process)
    (noList : session.vars.get? "PATH" = none) : process.ActsThroughStreams := by
  obtain ⟨journal, busy, launch⟩ := launched
  unfold Session.launch at launch
  dsimp only at launch
  rw [noList] at launch
  split at launch
  · cases launch
  · split at launch
    · cases launch
    · obtain ⟨loaded, found, rfl⟩ := exists_of_map_eq_ok launch
      have ⟨program, isProgram⟩ : ∃ program, loaded.code = .program program := by
        split at found
        · exact World.load_compiled found
        · exact World.loadFirst_compiled found
      exact Process.actsThroughStreams_of_program isProgram
    · cases launch

/-- The line starts this process for one of its stages, when all of its files are open. -/
inductive Starts (session : Session) (line : String) (world : World) (process : Process) : Prop
  | intro {pipeline : Pipeline} {files : List Files} {opened : World} {prepared : List Prepared}
      {each : Prepared} {path : Path}
      (parsed : Pipeline.ofWords (splitWords line) = .ok pipeline)
      (filesOpened : openAll session pipeline world = (.ok files, opened))
      (isPrepared : prepareAll session opened (pipeline.zip files) = .ok prepared)
      (member : each ∈ prepared) (command : each.command = .external path)
      (launched : Launched session opened each path process)

/-! ### One line -/

theorem Builtin.run_tree (builtin : Builtin) (args : List String) (session : Session)
    (world : World) : (builtin.run args session world).world.tree = world.tree := by
  obtain ⟨cwd, same⟩ := run_frame builtin args session world
  rw [same]

theorem complain_tree (world : World) (message : String) :
    (complain world message).tree = world.tree :=
  world.tree_print .stderr _

/-- A pipeline touches the targets of its redirections, however it ends. -/
theorem execute_touches {pipeline : Pipeline}
    (parsed : Pipeline.ofWords (splitWords line) = .ok pipeline)
    (streamsOnly : ∀ process, Starts session line world process → process.ActsThroughStreams) :
    Tree.Touches
      (fun location => ∃ redirect ∈ pipeline.redirects, session.LeadsTo world redirect location)
      world.tree (execute session pipeline world).world.tree := by
  have commands : (touchesLaw fun location => ∃ redirect ∈ pipeline.redirects,
      session.LeadsTo world redirect location).KeptByCommands :=
    fun builtin args session world => .of_eq (builtin.run_tree args session world)
  refine (Preserved.ends_execute commands (fun _ _ => .refl _ _) ?_ ?_).keeps
    fun world stages => Tree.Touches.of_eq (world.tree_leave stages)
  · intro early later handles opened split all
    have within : ∀ location, (∃ redirect ∈ early, session.LeadsTo world redirect location) →
        ∃ redirect ∈ pipeline.redirects, session.LeadsTo world redirect location :=
      fun _ ⟨redirect, member, leads⟩ => ⟨redirect, split ▸ List.mem_append_left _ member, leads⟩
    refine ⟨all.touches.2.mono within, ?_⟩
    rintro handle member _ ⟨⟩
    exact within _ (all.touches.1 handle member)
  · intro files opened prepared filesOpened isPrepared each member path process command launched
    exact (streamsOnly process
      (.intro parsed filesOpened isPrepared member command launched)).keptBy _

end CommandShell
