/-
This file proves that a session stays in step with its process. The current
directory is kept twice: the session spells it, and the process works in it. Only
`cd` changes either, and it changes both, so that they agree after any number of
lines, whatever the lines are.

The new spelling is the canonical one: it names the directory to which the target
leads, and no link stands on its way. For that the walk along the target is
followed. Every directory on the way was passed as a directory, and where a link
was met, the walk went on from a directory that was reached in the same way.
-/

import CommandShell.Proofs.Isolation

namespace CommandShell

/-! ### Where a path leads -/

namespace Tree

/-- A walk for any purpose takes the way of the walk that only looks, and is refused more often. -/
theorem walkUntilLink_inspect {tree : Tree} {purpose : Purpose} {spot : Spot}
    {walking looking : Location → List Step → Except Fault Spot}
    (followed : ∀ here steps, walking here steps = .ok spot → looking here steps = .ok spot)
    {here : Location} (steps : List Step)
    (walked : tree.walkUntilLink purpose walking here steps = .ok spot) :
    tree.walkUntilLink .inspect looking here steps = .ok spot := by
  induction steps generalizing here with
  | nil => exact walked
  | cons step rest inductionHypothesis =>
    cases step with
    | stay => exact inductionHypothesis walked
    | close => exact inductionHypothesis walked
    | up => exact inductionHypothesis walked
    | down name =>
      unfold walkUntilLink at walked ⊢
      rw [if_neg (by simp)]
      split at walked
      · cases walked
      · split at walked
        · cases walked
        · next short =>
          rw [if_neg short, if_neg (by simp)]
          split at walked
          · cases walked
          · cases stands : tree.get? (here ++ [name]) with
            | none =>
              rw [stands] at walked
              exact walked
            | some node =>
              rw [stands] at walked
              cases node with
              | directory => exact inductionHypothesis walked
              | link target => exact followed _ _ walked
              | file mode content => exact walked
              | device device => exact walked

theorem walk_inspect {tree : Tree} {purpose : Purpose} {spot : Spot} (links : Nat)
    {here : Location} (steps : List Step) (walked : tree.walk purpose links here steps = .ok spot) :
    tree.walk .inspect links here steps = .ok spot := by
  induction links generalizing here steps with
  | zero => exact walkUntilLink_inspect (fun _ _ refused => refused) steps walked
  | succ links inductionHypothesis =>
    exact walkUntilLink_inspect (fun _ steps => inductionHypothesis steps) steps walked

theorem walkFrom_inspect {tree : Tree} {purpose : Purpose} {spot : Spot} {here : Location}
    (removed : Nat) (steps : List Step)
    (walked : tree.walkFrom purpose here removed steps = .ok spot) :
    tree.walkFrom .inspect here removed steps = .ok spot := by
  induction steps generalizing removed with
  | nil =>
    cases removed with
    | zero => exact walk_inspect linkLimit [] walked
    | succ removed => exact walked
  | cons step rest inductionHypothesis =>
    cases removed with
    | zero => exact walk_inspect linkLimit (step :: rest) walked
    | succ removed =>
      cases step with
      | stay => exact inductionHypothesis (removed + 1) walked
      | close => exact inductionHypothesis (removed + 1) walked
      | up => exact inductionHypothesis removed walked
      | down name =>
        unfold walkFrom at walked
        split at walked <;> cases walked

theorem follow_inspect {tree : Tree} {purpose : Purpose} {spot : Spot} {base : Base} {path : Path}
    (followed : tree.follow purpose base path = .ok spot) :
    tree.follow .inspect base path = .ok spot := by
  unfold follow at followed ⊢
  split at followed
  · cases followed
  · next some =>
    rw [if_neg some]
    split at followed
    · next absolute =>
      rw [if_pos absolute]
      exact walk_inspect linkLimit path.steps followed
    · next relative =>
      rw [if_neg relative]
      exact walkFrom_inspect base.removed path.steps followed

/-- A path that leads somewhere for any purpose leads there for one that only looks. -/
theorem locate_inspect {tree : Tree} {purpose : Purpose} {spot : Spot} {base : Base} {path : Path}
    (located : tree.locate purpose base path = .ok spot) :
    tree.locate .inspect base path = .ok spot := by
  unfold locate at located ⊢
  split at located
  · cases located
  · next noNul =>
    rw [if_neg noNul]
    split at located
    · cases located
    · next within =>
      rw [if_neg within]
      exact follow_inspect located

/-- The canonical place of a path is the one to which the path leads. -/
theorem follow_of_canonical {tree : Tree} {base : Base} {path : Path} {location : Location}
    (leads : tree.canonical base path = .ok location) :
    tree.follow .inspect base path = .ok (.taken location) := by
  unfold canonical at leads
  split at leads
  · cases leads
  · split at leads
    · cases leads
    · split at leads
      · cases leads
      · next walked =>
        cases leads
        exact follow_inspect walked
      · cases leads

/-! ### Directories all the way -/

/-- Every place on the way to a location is a directory, the location included, and every name on
the way is short enough for the system. -/
def Standing (tree : Tree) (location : Location) : Prop :=
  ∀ above name, above ++ [name] <+: location →
    name.bytes.length ≤ nameLimit ∧ tree.get? (above ++ [name]) = some .directory

theorem standing_root (tree : Tree) : tree.Standing [] := by
  intro above name ahead
  have none := List.prefix_nil.mp ahead
  simp at none

namespace Standing

variable {tree : Tree} {location : Location}

theorem dropLast (standing : tree.Standing location) : tree.Standing location.dropLast :=
  fun above name ahead => standing above name (ahead.trans (List.dropLast_prefix location))

theorem down (standing : tree.Standing location) {name : Name}
    (short : name.bytes.length ≤ nameLimit)
    (stands : tree.get? (location ++ [name]) = some .directory) :
    tree.Standing (location ++ [name]) := by
  intro above last ahead
  rcases List.prefix_concat_iff.mp ahead with same | before
  · obtain ⟨rfl, last⟩ := List.append_inj' same rfl
    rw [List.singleton_inj.mp last]
    exact ⟨short, stands⟩
  · exact standing above last before

theorem get? (standing : tree.Standing location) : tree.get? location = some .directory := by
  rcases List.eq_nil_or_concat location with rfl | ⟨above, name, rfl⟩
  · exact tree.get?_root
  · rw [List.concat_eq_append] at standing ⊢
    exact (standing above name List.prefix_rfl).2

/-- What the walk between two links has passed are directories, if that is so of the walk behind
the link. -/
theorem of_walkUntilLink {purpose : Purpose} {follow : Location → List Step → Except Fault Spot}
    (followed : ∀ here steps, tree.Standing here → follow here steps = .ok (.taken location) →
      tree.Standing location)
    (stands : tree.get? location = some .directory) {here : Location}
    (standing : tree.Standing here) (steps : List Step)
    (walked : tree.walkUntilLink purpose follow here steps = .ok (.taken location)) :
    tree.Standing location := by
  induction steps generalizing here with
  | nil =>
    cases walked
    exact standing
  | cons step rest inductionHypothesis =>
    cases step with
    | stay => exact inductionHypothesis standing walked
    | close => exact inductionHypothesis standing walked
    | up => exact inductionHypothesis standing.dropLast walked
    | down name =>
      unfold walkUntilLink at walked
      split at walked
      · cases walked
      · split at walked
        · cases walked
        · next short =>
          split at walked
          · cases walked
          · split at walked
            · split at walked <;> cases walked
            · next passed =>
              exact inductionHypothesis (standing.down (Nat.le_of_not_lt short) passed) walked
            · next target _ =>
              refine followed _ _ ?_ walked
              split
              · exact tree.standing_root
              · exact standing
            · next noDirectory _ passed =>
              split at walked
              · cases walked
                rw [passed] at stands
                cases stands
                exact absurd rfl noDirectory
              · cases walked

theorem of_walk {purpose : Purpose} (stands : tree.get? location = some .directory) (links : Nat)
    {here : Location} (standing : tree.Standing here) (steps : List Step)
    (walked : tree.walk purpose links here steps = .ok (.taken location)) :
    tree.Standing location := by
  induction links generalizing here steps with
  | zero =>
    unfold walk at walked
    refine of_walkUntilLink ?_ stands standing steps walked
    intro _ _ _ refused
    cases refused
  | succ links inductionHypothesis =>
    exact of_walkUntilLink (fun _ steps standing => inductionHypothesis standing steps) stands
      standing steps walked

theorem of_canonical {base : Base} {path : Path} (absolute : Path.isAbsolute path = true)
    (leads : tree.canonical base path = .ok location)
    (stands : tree.get? location = some .directory) : tree.Standing location := by
  unfold canonical follow at leads
  simp only [absolute, Bool.not_true, Bool.false_and, Bool.false_eq_true, if_false, if_true]
    at leads
  split at leads
  · cases leads
  · split at leads
    · cases leads
    · next walked =>
      cases leads
      split at walked
      · cases walked
      · exact of_walk stands linkLimit tree.standing_root path.steps walked
    · cases leads

/-- Going down to a location meets no link. -/
theorem walkUntilLink_eq (standing : tree.Standing location)
    (follow : Location → List Step → Except Fault Spot) :
    tree.walkUntilLink .inspect follow [] (location.map .down) = .ok (.taken location) := by
  have onward : ∀ here rest, here ++ rest = location →
      tree.walkUntilLink .inspect follow here (rest.map .down) = .ok (.taken location) := by
    intro here rest
    induction rest generalizing here with
    | nil =>
      rintro rfl
      simp [walkUntilLink]
    | cons name rest inductionHypothesis =>
      intro split
      have ahead : here ++ [name] <+: location := ⟨rest, by rw [← split]; simp⟩
      obtain ⟨short, passed⟩ := standing here name ahead
      have later := inductionHypothesis (here ++ [name]) (by rw [← split]; simp)
      have tooLong : ¬ nameLimit < name.bytes.length := Nat.not_lt_of_le short
      simpa [walkUntilLink, tooLong, passed] using later
  exact onward [] location rfl

theorem walk_eq (standing : tree.Standing location) (links : Nat) :
    tree.walk .inspect links [] (location.map .down) = .ok (.taken location) := by
  cases links <;> exact standing.walkUntilLink_eq _

end Standing

end Tree

/-! ### The spelling of a place -/

theorem Location.path_eq_intercalate {location : Location} (inner : location ≠ []) :
    location.path = [slash].intercalate ([] :: location.map (·.bytes)) := by
  have spelled : ∀ names : Location, (names.flatMap fun name => slash :: name.bytes) =
      [slash].intercalate ([] :: names.map (·.bytes)) := by
    intro names
    induction names with
    | nil => rfl
    | cons name rest inductionHypothesis =>
      rw [List.flatMap_cons, inductionHypothesis, List.map_cons]
      cases rest with
      | nil => simp
      | cons next rest => simp [List.intercalate_cons_cons]
  cases location with
  | nil => exact absurd rfl inner
  | cons name rest => exact spelled (name :: rest)

/-- The pieces of the spelling of a place are its names behind an empty piece. -/
theorem Location.splitOn_path {location : Location} (inner : location ≠ []) :
    location.path.splitOn slash = [] :: location.map (·.bytes) := by
  rw [path_eq_intercalate inner]
  refine List.splitOn_intercalate _ ?_ (by simp)
  intro piece member
  rcases List.mem_cons.mp member with rfl | member
  · exact List.not_mem_nil
  · obtain ⟨name, -, rfl⟩ := List.mem_map.mp member
    exact name.isName.2.1

/-- The spelling of a place has no piece `.` or `..`. -/
theorem Location.piece_ne_dots {location : Location} {piece : Bytes}
    (member : piece ∈ location.path.splitOn slash) : piece ≠ [dot] ∧ piece ≠ [dot, dot] := by
  by_cases root : location = []
  · subst root
    have pieces : (Location.path []).splitOn slash = [[], []] := by decide
    rw [pieces] at member
    rcases List.mem_pair.mp member with rfl | rfl <;> exact ⟨by simp, by simp⟩
  · rw [splitOn_path root] at member
    rcases List.mem_cons.mp member with rfl | member
    · simp
    · obtain ⟨name, -, rfl⟩ := List.mem_map.mp member
      exact name.isName.2.2

theorem Step.ofPiece?_name (name : Name) : Step.ofPiece? name.bytes = some (.down name) := by
  unfold Step.ofPiece?
  exact dif_pos name.isName

theorem Location.endsInSlash_path {location : Location} (inner : location ≠ []) :
    Path.endsInSlash location.path = false := by
  obtain ⟨above, name, rfl⟩ := (List.eq_nil_or_concat location).resolve_left inner
  have spelled : Location.path (above.concat name) =
      (above.flatMap fun name => slash :: name.bytes) ++ slash :: name.bytes := by
    cases above <;> simp [path]
  obtain ⟨nonempty, noSlash, -⟩ := name.isName
  have last : (Location.path (above.concat name)).getLast? =
      some (name.bytes.getLast nonempty) := by
    rw [spelled, List.getLast?_append_cons, List.getLast?_cons_of_ne_nil nonempty]
    exact List.getLast?_eq_some_getLast nonempty
  unfold Path.endsInSlash
  rw [last, beq_eq_false_iff_ne]
  intro same
  exact noSlash (Option.some.inj same ▸ List.getLast_mem nonempty)

/-- The steps along the spelling of a place go down to it. -/
theorem Location.steps_path {location : Location} (inner : location ≠ []) :
    Path.steps location.path = location.map .down := by
  unfold Path.steps
  rw [endsInSlash_path inner, splitOn_path inner, List.filterMap_cons_none rfl]
  simp [List.filterMap_map, Step.ofPiece?_name]

/-- A path that is the one spelling of a directory: it starts at the root, has no piece `.` or `..`,
and leads to the directory through directories, without meeting a link. -/
structure IsCanonical (tree : Tree) (location : Location) (path : Path) : Prop where
  spelling : path = location.path
  absolute : Path.isAbsolute path = true
  noDots : ∀ piece ∈ path.splitOn slash, piece ≠ [dot] ∧ piece ≠ [dot, dot]
  standing : tree.Standing location
  noLink : tree.walk .inspect 0 [] path.steps = .ok (.taken location)
  directory : tree.get? location = some .directory

theorem Tree.Standing.isCanonical {tree : Tree} {location : Location}
    (standing : tree.Standing location) : IsCanonical tree location location.path where
  spelling := rfl
  absolute := location.path_isAbsolute
  noDots _ member := Location.piece_ne_dots member
  standing := standing
  noLink := by
    by_cases root : location = []
    · subst root
      rfl
    · rw [Location.steps_path root]
      exact standing.walk_eq 0
  directory := standing.get?

/-! ### One command of the shell -/

theorem Sink.write_nil (sink : Sink) (world : World) :
    ∃ next after, sink.write [] world = .ok (next, after) ∧ after.tree = world.tree := by
  cases sink with
  | terminal stream => exact ⟨_, _, rfl, world.tree_print stream []⟩
  | file handle => exact ⟨_, _, rfl, rfl⟩
  | pipe written limit => exact ⟨_, _, rfl, rfl⟩

/-- A command of the shell that stands alone has one turn, on the session itself. -/
theorem finish_alone (builtin : Builtin) (args : List String) (output diagnostics : Sink)
    (session : Session) (world : World) {turn : TurnResult}
    (taken : turn = takeTurn builtin args output diagnostics session world) :
    finish session [.waiting builtin args output diagnostics] world =
      ⟨turn.result.map (·.2), turn.session, turn.world⟩ := by
  have alone : decide ([Ready.waiting builtin args output diagnostics].length ≤ 1) = true := rfl
  unfold finish
  rw [alone]
  simp only [takeTurns, if_true, ← taken]
  cases turn.result <;> rfl

variable {session : Session} {world opened : World} {target : Path} {location : Location}

/-- A lone stage that was prepared is all there is of its pipeline, and its command is what its name
stands for. -/
theorem eq_singleton_of_prepared {pipeline : Pipeline} {files : List Files} {each : Prepared}
    (filesOpened : openAll session pipeline world = (.ok files, opened))
    (isPrepared : prepareAll session opened (pipeline.zip files) = .ok [each]) :
    pipeline = [each.stage] ∧
      session.resolve opened each.stage.program = some each.command := by
  obtain ⟨stages, resolved⟩ := prepareAll_eq_ok_iff.mp isPrepared
  have fit := (openAll_eq_ok_iff.mp filesOpened).1.length_eq
  have unzipped := List.map_fst_zip (Nat.le_of_eq fit)
  rw [← stages] at unzipped
  exact ⟨unzipped.symm, resolved each List.mem_cons_self⟩

theorem Session.builtin_of_resolve {name : String} {builtin : Builtin}
    (meaning : session.resolve world name = some (.builtin builtin)) : name = builtin.name := by
  unfold Session.resolve at meaning
  split at meaning
  · next found =>
    cases meaning
    exact (Builtin.ofName?_eq_some_iff.mp found).symm
  · simp at meaning

/-- A lone command of the shell whose files are opened takes its one turn. -/
theorem execute_builtin {builtin : Builtin} {stage : Stage} {files : List Files}
    (filesOpened : openAll session [stage] world = (.ok files, opened))
    (program : stage.program = builtin.name) :
    ∃ own, files = [own] ∧
      ∀ turn, turn = takeTurn builtin stage.args own.output own.diagnostics session opened →
        execute session [stage] world = ⟨turn.result.map (·.2), turn.session, turn.world⟩ := by
  have single := (openAll_eq_ok_iff.mp filesOpened).1.length_eq
  obtain ⟨own, rfl⟩ := List.length_eq_one_iff.mp single.symm
  have named : Builtin.ofName? stage.program = some builtin :=
    Builtin.ofName?_eq_some_iff.mpr program.symm
  refine ⟨own, rfl, fun turn taken => ?_⟩
  rw [← finish_alone _ _ _ _ _ _ taken]
  simp [execute, filesOpened, prepareAll, Session.resolve, named, Except.map, startAll, addReady]

/-- A command that moves has nothing to print, so its turn cannot fail any more. -/
theorem Moves.turn {builtin : Builtin} {args : List String}
    (moves : Moves builtin args session world target location) {output diagnostics : Sink}
    {turn : TurnResult} (taken : turn = takeTurn builtin args output diagnostics session world) :
    turn.result.map (·.2) = .ok 0 ∧ turn.session = { session with directory := location.path } ∧
      turn.world.cwd = (session.followed world location).cwd ∧ turn.world.tree = world.tree := by
  have same := SameProcess.turn builtin args output diagnostics session world
  rw [← taken, moves.run_eq] at same
  unfold takeTurn at taken
  rw [moves.run_eq] at taken
  simp only [BuiltinResult.print] at taken same
  obtain ⟨next, after, written, tree⟩ := output.write_nil (session.followed world location)
  rw [written] at taken
  subst taken
  refine ⟨rfl, rfl, same.cwd, ?_⟩
  rw [tree]
  unfold Session.followed
  split <;> rfl

/-! ### One line -/

/-- The line is a lone `cd`. Its files are opened, which leaves this world, and there its target
reaches the directory at this place. -/
inductive GoesTo (session : Session) (line : String) (world opened : World) (target : Path)
    (location : Location) : Prop
  | intro {stage : Stage} {files : List Files}
      (parsed : Pipeline.ofWords (splitWords line) = .ok [stage])
      (filesOpened : openAll session [stage] world = (.ok files, opened))
      (program : stage.program = Builtin.cd.name)
      (moves : Moves .cd stage.args session opened target location)

theorem executeLine_eq_execute {line : String} {pipeline : Pipeline}
    (parsed : Pipeline.ofWords (splitWords line) = .ok pipeline) :
    executeLine session line world = execute session pipeline world := by
  have words : splitWords line ≠ [] := by
    intro blank
    rw [blank] at parsed
    cases parsed
  simp only [executeLine, words, if_false, parsed]

/-- A line that goes somewhere takes the session there, and the process unless the session is
detached. It succeeds, and the tree is as opening its files left it. -/
theorem GoesTo.executeLine {line : String}
    (goes : GoesTo session line world opened target location) :
    (executeLine session line world).result = .ok 0 ∧
      (executeLine session line world).session = { session with directory := location.path } ∧
      (executeLine session line world).world.cwd = (session.followed world location).cwd ∧
      (executeLine session line world).world.tree = opened.tree := by
  obtain @⟨stage, files, parsed, filesOpened, program, moves⟩ := goes
  have opening := SameProcess.openedAll (openAll_eq_ok_iff.mp filesOpened).2
  obtain ⟨own, -, runs⟩ := execute_builtin filesOpened program
  obtain ⟨turn, taken⟩ : ∃ turn, turn =
      takeTurn .cd stage.args own.output own.diagnostics session opened := ⟨_, rfl⟩
  rw [executeLine_eq_execute parsed, runs turn taken]
  obtain ⟨result, left, cwd, tree⟩ := moves.turn taken
  refine ⟨result, left, cwd.trans ?_, tree⟩
  unfold Session.followed
  split
  · exact opening.cwd
  · rfl

/-- A pipeline of at most one stage that is ready does no more than a line that stays, unless its
stage is a command that moves. -/
theorem finish_of_not_moves {prepared : List Prepared} {ready : List Ready}
    (all : AllReady session opened prepared ready) (single : ready.length ≤ 1)
    (stays : ∀ each ∈ prepared, ∀ builtin, each.command = .builtin builtin →
      ∀ target location, ¬ Moves builtin each.stage.args session world target location) :
    SameProcess world (finish session ready world).world ∧
      ∃ exiting, (finish session ready world).session = { session with exiting := exiting } := by
  cases all with
  | nil => exact ⟨SameProcess.finished session [] world, session.exiting, rfl⟩
  | @running each rest others path process command launched later =>
    obtain rfl := List.length_eq_zero_iff.mp (Nat.le_zero.mp (Nat.le_of_succ_le_succ single))
    have same := SameProcess.finished session [.running process
      (each.files.outputAt rest.isEmpty) each.files.errors] world
    refine ⟨same, session.exiting, ?_⟩
    rw [finish_session]
    rfl
  | @waiting each rest others builtin command later =>
    obtain rfl := List.length_eq_zero_iff.mp (Nat.le_zero.mp (Nat.le_of_succ_le_succ single))
    rw [finish_alone _ _ _ _ _ _ rfl]
    obtain ⟨same, exiting, left⟩ :=
      run_of_not_moves (stays each List.mem_cons_self builtin command)
    have turn := SameProcess.turn builtin each.stage.args (each.files.outputAt rest.isEmpty)
      each.files.diagnostics session world
    rw [same] at turn
    obtain ⟨kept, -⟩ :=
      takeTurn_spec builtin each.stage.args each.files rest.isEmpty session world rfl
    exact ⟨turn, exiting, kept.trans left⟩

/-- A command that moves when its pipeline of one stage is ready makes its line go somewhere. -/
theorem goesTo_of_moves {line : String} {pipeline : Pipeline} {files : List Files}
    {prepared : List Prepared} {ready : List Ready} {started : World}
    (parsed : Pipeline.ofWords (splitWords line) = .ok pipeline) (single : pipeline.length ≤ 1)
    (filesOpened : openAll session pipeline world = (.ok files, opened))
    (isPrepared : prepareAll session opened (pipeline.zip files) = .ok prepared)
    (allStarted : startAll session 0 [] prepared opened = (.ok ready, started))
    {each : Prepared} (member : each ∈ prepared) {builtin : Builtin}
    (command : each.command = .builtin builtin)
    (moves : Moves builtin each.stage.args session started target location) :
    GoesTo session line world opened target location := by
  -- There is a stage, so there is just one, and what is prepared comes from it.
  have counted := congrArg List.length (prepareAll_eq_ok_iff.mp isPrepared).1
  rw [List.length_map, List.length_zip] at counted
  have positive := List.length_pos_of_mem member
  obtain ⟨only, rfl⟩ := List.length_eq_one_iff.mp (show prepared.length = 1 by omega)
  obtain rfl := List.mem_singleton.mp member
  obtain ⟨rfl, meaning⟩ := eq_singleton_of_prepared filesOpened isPrepared
  have isOpened : opened = started := by
    simp only [startAll, command] at allStarted
    exact congrArg Prod.snd allStarted
  subst isOpened
  obtain rfl := moves.isCd
  rw [command] at meaning
  exact .intro parsed filesOpened (Session.builtin_of_resolve meaning) moves

/-- Any other line leaves the process where it is and can do no more to the session than end it. -/
theorem executeLine_of_not_goesTo {line : String}
    (stays : ∀ opened target location, ¬ GoesTo session line world opened target location) :
    SameProcess world (executeLine session line world).world ∧
      ∃ exiting, (executeLine session line world).session =
        { session with exiting := exiting } := by
  unfold executeLine
  dsimp only
  split
  · exact ⟨.refl world, session.exiting, rfl⟩
  · split
    · exact ⟨.print world .stderr _, session.exiting, rfl⟩
    · next pipeline parsed =>
      by_cases several : 2 ≤ pipeline.length
      · obtain ⟨left, same⟩ := execute_several session several world
        exact ⟨same, session.exiting, left⟩
      · rcases execute_refused_or_ready session pipeline world with
          ⟨left, same⟩ |
            ⟨files, opened, prepared, ready, started, filesOpened, isPrepared, allStarted, runs⟩
        · exact ⟨same, session.exiting, left⟩
        · have long := ready_length filesOpened isPrepared allStarted
          have starting := SameProcess.ready filesOpened allStarted
          obtain ⟨same, left⟩ :=
            finish_of_not_moves (startAll_allReady rfl allStarted).1 (by omega)
              fun each member builtin command target location moves => stays opened target location
                (goesTo_of_moves parsed (by omega) filesOpened isPrepared allStarted member
                  command moves)
          rw [runs]
          exact ⟨starting.trans same, left⟩

/-! ### Many lines -/

/-- The session is no detached copy, and its directory is the one in which the process works. -/
structure InStep (session : Session) (world : World) : Prop where
  attached : session.detached = false
  agrees : world.cwd.path? = some session.directory

/-- The session and the world after lines that were run one after the other. -/
def afterLines (session : Session) (world : World) : List String → Session × World
  | [] => (session, world)
  | line :: rest =>
    afterLines (executeLine session line world).session (executeLine session line world).world rest

/-- Running lines one after the other is a course in which nothing else happens. -/
theorem afterLines_course (session : Session) (world : World) (lines : List String) :
    Course session world (lines.map .line) (afterLines session world lines).1
      (afterLines session world lines).2 := by
  induction lines generalizing session world with
  | nil => exact .nil
  | cons line rest inductionHypothesis => exact .cons (.line line) (inductionHypothesis _ _)

/-- The variables of a session are settled when it starts. -/
theorem executeLine_vars (session : Session) (line : String) (world : World) :
    (executeLine session line world).session.vars = session.vars := by
  by_cases goes : ∃ opened target location, GoesTo session line world opened target location
  · obtain ⟨opened, target, location, goes⟩ := goes
    rw [goes.executeLine.2.1]
  · obtain ⟨-, exiting, left⟩ := executeLine_of_not_goesTo
      fun opened target location there => goes ⟨opened, target, location, there⟩
    rw [left]

namespace InStep

/-- The directory of a session in step starts at the root, so the walk along a target does too. -/
theorem isAbsolute (inStep : InStep session world) (target : Path) :
    Path.isAbsolute (Path.join session.directory target) = true := by
  have agrees := inStep.agrees
  unfold Base.path? at agrees
  split at agrees
  · have spelled := Option.some.inj agrees
    have absolute := spelled ▸ Location.path_isAbsolute world.cwd.location
    unfold Path.join
    split
    · assumption
    · cases directory : session.directory with
      | nil => simp [directory, Path.isAbsolute] at absolute
      | cons first rest =>
        rw [directory] at absolute
        split <;> exact absolute
  · cases agrees

theorem cwd_followed (inStep : InStep session world) (location : Location) :
    (session.followed world location).cwd = .standing location := by
  rw [Session.followed, inStep.attached, if_neg Bool.false_ne_true]

theorem executeLine (inStep : InStep session world) (line : String) :
    InStep (executeLine session line world).session (executeLine session line world).world := by
  by_cases goes : ∃ opened target location, GoesTo session line world opened target location
  · obtain ⟨opened, target, location, goes⟩ := goes
    obtain ⟨-, left, cwd, -⟩ := goes.executeLine
    rw [inStep.cwd_followed] at cwd
    refine ⟨?_, ?_⟩
    · rw [left]
      exact inStep.attached
    · rw [left, cwd]
      rfl
  · obtain ⟨same, exiting, left⟩ := executeLine_of_not_goesTo
      fun opened target location there => goes ⟨opened, target, location, there⟩
    refine ⟨?_, ?_⟩
    · rw [left]
      exact inStep.attached
    · rw [left, same.cwd]
      exact inStep.agrees

theorem step {event : Event} {next : Session} {after : World} (inStep : InStep session world)
    (step : EventStep session world event next after) : InStep next after := by
  cases step with
  | line text => exact inStep.executeLine text
  | killed => exact ⟨(inStep.executeLine _).attached, (inStep.executeLine _).agrees⟩
  | leftOver ran _ => exact ⟨inStep.attached, by rw [(SameProcess.resumed ran).cwd, inStep.agrees]⟩

theorem course {events : List Event} {now : Session} {around : World}
    (inStep : InStep session world) (course : Course session world events now around) :
    InStep now around := by
  induction course with
  | nil => exact inStep
  | cons first later inductionHypothesis => exact inductionHypothesis (inStep.step first)

end InStep

/-- A session that starts in step with its process is in step with it whatever lines were run, and
whatever programs of theirs still go on. The next line takes both to another directory only if it is
a lone `cd` whose target, read in the old directory, leads there, and the system lets the process go
there. It succeeds then, and the session spells the directory in its canonical form. Any other line,
such as a failing `cd`, leaves both where they are. -/
theorem course_directory (inStep : InStep session world) {events : List Event} {now : Session}
    {around : World} (course : Course session world events now around) :
    InStep now around ∧
      ∀ line,
        (∀ opened target location, GoesTo now line around opened target location →
          (executeLine now line around).result = .ok 0 ∧
          (executeLine now line around).session = { now with directory := location.path } ∧
          (executeLine now line around).world.cwd = .standing location ∧
          (executeLine now line around).world.tree.follow .inspect around.cwd
            (Path.join now.directory target) = .ok (.taken location) ∧
          IsCanonical (executeLine now line around).world.tree location location.path) ∧
        ((∀ opened target location, ¬ GoesTo now line around opened target location) →
          (executeLine now line around).session.directory = now.directory ∧
          (executeLine now line around).world.cwd = around.cwd) := by
  have nowInStep := inStep.course course
  refine ⟨nowInStep, fun line => ⟨?_, ?_⟩⟩
  · intro opened target location goes
    obtain ⟨result, left, cwd, tree⟩ := goes.executeLine
    rw [nowInStep.cwd_followed] at cwd
    rw [tree]
    obtain ⟨-, filesOpened, -, moves⟩ := goes
    have opening := SameProcess.openedAll (openAll_eq_ok_iff.mp filesOpened).2
    have leads := moves.reaches.leads
    rw [opening.cwd] at leads
    have standing :=
      Tree.Standing.of_canonical (nowInStep.isAbsolute target) leads moves.reaches.stands
    exact ⟨result, left, cwd, Tree.follow_of_canonical leads, standing.isCanonical⟩
  · intro stays
    obtain ⟨same, exiting, left⟩ := executeLine_of_not_goesTo stays
    rw [left]
    exact ⟨rfl, same.cwd⟩

/-- A `cd` through a link, behind lines that fail or move only a detached copy. -/
theorem course_directory_link :
    let session := Session.start [] (utf8 "/r")
    let tree := ((scratchTree (utf8 "/r")).including [] (utf8 "/r/sub") .directory).including []
      (utf8 "/r/link") (.link (utf8 "sub"))
    let world := { scratchWorld (utf8 "/r") [] [] false with tree := tree }
    let lines := ["cd nope", "cd", "cd link | pwd"]
    let now := (afterLines session world lines).1
    let around := (afterLines session world lines).2
    let line := "cd ./link/../link/"
    InStep session world ∧ InStep now around ∧ now.directory = utf8 "/r" ∧
      (executeLine now line around).session.directory = utf8 "/r/sub" ∧
      (executeLine now line around).world.cwd.path? = some (utf8 "/r/sub") ∧
      ∃ location, IsCanonical (executeLine now line around).world.tree location
        (utf8 "/r/sub") := by
  intro session tree world lines now around line
  have inStep : InStep session world := ⟨rfl, by decide +kernel⟩
  have here : now.directory = utf8 "/r" := by decide +kernel
  let sub : Location := scratchRoot (utf8 "/r") ++ [⟨utf8 "sub", by decide⟩]
  have spelled : sub.path = utf8 "/r/sub" := by decide +kernel
  let target := "./link/../link/"
  have request : Builtin.cd.request [target] = .ok (.run [target]) := by decide +kernel
  have expanded : cdTarget? now around [target].head? = some (utf8 target) := by decide +kernel
  have leads : around.tree.canonical around.cwd (Path.join now.directory (utf8 target)) =
      .ok sub := by decide +kernel
  have stands : around.tree.get? sub = some .directory := by decide +kernel
  have free : around.barred sub = none := by decide +kernel
  have moves : Moves .cd [target] now around (utf8 target) sub :=
    ⟨rfl, ⟨[target], request, expanded⟩, leads, stands, fun _ => free⟩
  let stage : Stage := ⟨"cd", [target], none, none⟩
  have parsed : Pipeline.ofWords (splitWords line) = .ok [stage] := by decide +kernel
  have filesOpened : openAll now [stage] around = (.ok [⟨none, none⟩], around) := rfl
  have goes : GoesTo now line around around (utf8 target) sub :=
    .intro parsed filesOpened rfl moves
  have course : Course session world (lines.map .line) now around :=
    afterLines_course session world lines
  obtain ⟨nowInStep, next⟩ := course_directory inStep course
  obtain ⟨-, left, cwd, -, canonical⟩ := (next line).1 around (utf8 target) sub goes
  refine ⟨inStep, nowInStep, here, ?_, ?_, sub, ?_⟩
  · rw [left]
    exact spelled
  · rw [cwd, ← spelled]
    rfl
  · rw [← spelled]
    exact canonical

/-- When somebody else removes the directory between two lines, the process works nowhere, and the
session still spells the old place. -/
theorem executeLine_removed_directory :
    let session := Session.start [] (utf8 "/r")
    let tree := (scratchTree (utf8 "/r")).including [] (utf8 "/r/sub") .directory
    let world := { scratchWorld (utf8 "/r") [] [] false with tree := tree }
    let moved := executeLine session "cd sub" world
    let removed := moved.world.remove (scratchRoot (utf8 "/r") ++ [⟨utf8 "sub", by decide⟩])
    let outcome := executeLine moved.session "pwd" removed
    InStep session world ∧ InStep moved.session moved.world ∧ outcome.result = .ok 0 ∧
      outcome.session.directory = utf8 "/r/sub" ∧ outcome.world.cwd.path? = none ∧
      ¬ InStep outcome.session outcome.world := by
  intro session tree world moved removed outcome
  have inStep : InStep session world := ⟨rfl, by decide +kernel⟩
  have nowhere : outcome.world.cwd.path? = none := by decide +kernel
  refine ⟨inStep, inStep.executeLine "cd sub", by decide +kernel, by decide +kernel, nowhere, ?_⟩
  exact fun stillInStep => Option.some_ne_none _ (stillInStep.agrees.symm.trans nowhere)

end CommandShell
