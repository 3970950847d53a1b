/-
This file proves what opening the files of a pipeline does to the world. One
opening is described by what stands at the end of its path: a free name gets an
empty file, a file is emptied or kept, and a device is passed to what it leads to. A
pipeline opens one redirection after the other, so what it does is a chain of
such steps, and a chain that stops has taken exactly the steps before the one
that failed.

That a walk ends at a free name says nothing about the table of the tree until
one looks at all the links it may have followed. So this comes first.
-/

import CommandShell.Run.Open
import Mathlib.Data.List.Forall2

namespace CommandShell

/-! ### Free names -/

namespace Tree

theorem get?_of_walkUntilLink {tree : Tree} {purpose : Purpose}
    {follow : Location → List Step → Except Fault Spot} {directory : Location} {name : Name}
    (followed : ∀ here steps, follow here steps = .ok (.free directory name) →
      tree.get? (directory ++ [name]) = none) (here : Location) (steps : List Step)
    (walked : tree.walkUntilLink purpose follow here steps = .ok (.free directory name)) :
    tree.get? (directory ++ [name]) = none := by
  induction steps generalizing here with
  | nil => cases walked
  | cons step rest inductionHypothesis =>
    cases step with
    | stay => exact inductionHypothesis here walked
    | close => exact inductionHypothesis here walked
    | up => exact inductionHypothesis here.dropLast walked
    | down next =>
      unfold walkUntilLink at walked
      split at walked
      · cases walked
      · split at walked
        · cases walked
        · split at walked
          · cases walked
          · split at walked
            · next absent =>
              split at walked
              · cases walked
                exact absent
              · cases walked
            · exact inductionHypothesis _ walked
            · exact followed _ _ walked
            · split at walked
              · cases walked
              · cases walked

theorem get?_of_walk {tree : Tree} {purpose : Purpose} {directory : Location} {name : Name}
    (links : Nat) (here : Location) (steps : List Step)
    (walked : tree.walk purpose links here steps = .ok (.free directory name)) :
    tree.get? (directory ++ [name]) = none := by
  induction links generalizing here steps with
  | zero =>
    unfold walk at walked
    refine get?_of_walkUntilLink ?_ here steps walked
    intro _ _ refused
    cases refused
  | succ links inductionHypothesis =>
    exact get?_of_walkUntilLink inductionHypothesis here steps walked

theorem get?_of_walkFrom {tree : Tree} {purpose : Purpose} {directory : Location} {name : Name}
    (location : Location) (removed : Nat) (steps : List Step)
    (walked : tree.walkFrom purpose location removed steps = .ok (.free directory name)) :
    tree.get? (directory ++ [name]) = none := by
  induction steps generalizing removed with
  | nil =>
    cases removed with
    | zero => exact get?_of_walk linkLimit location [] walked
    | succ removed => cases walked
  | cons step rest inductionHypothesis =>
    cases removed with
    | zero => exact get?_of_walk linkLimit location (step :: rest) walked
    | succ removed =>
      cases step with
      | stay => exact inductionHypothesis (removed + 1) walked
      | close => exact inductionHypothesis (removed + 1) walked
      | up => exact inductionHypothesis removed walked
      | down next =>
        unfold walkFrom at walked
        split at walked
        · cases walked
        · cases walked

/-- Nothing stands at a name that a path finds free. -/
theorem get?_of_locate {tree : Tree} {purpose : Purpose} {base : Base} {path : Path}
    {directory : Location} {name : Name}
    (located : tree.locate purpose base path = .ok (.free directory name)) :
    tree.get? (directory ++ [name]) = none := by
  unfold locate follow at located
  split at located
  · cases located
  · split at located
    · cases located
    · split at located
      · cases located
      · split at located
        · exact get?_of_walk linkLimit [] path.steps located
        · exact get?_of_walkFrom base.location base.removed path.steps located

end Tree

/-! ### One opening -/

/-- Passing a device changes nothing but the files of the terminal. -/
theorem World.passed_frame (world : World) (mode : WriteMode) (node : Option Node) :
    world.passed mode node =
      { world with
        outFile := (world.passed mode node).outFile
        errFile := (world.passed mode node).errFile } := by
  unfold passed
  split
  · next stream =>
    split
    · cases stream <;> rfl
    · rfl
  · rfl

@[simp]
theorem World.tree_passed (world : World) (mode : WriteMode) (node : Option Node) :
    (world.passed mode node).tree = world.tree := by
  rw [passed_frame]

/-- What opening a path to write there did: the handle that came of it and the world after it. -/
inductive Opens (before : World) (mode : WriteMode) (path : Path) : Handle → World → Prop
  /-- Nothing stood there, and an empty file was made. -/
  | created {directory : Location} {name : Name}
      (leads : before.tree.locate .create before.cwd path = .ok (.free directory name))
      (absent : before.tree.get? (directory ++ [name]) = none) :
      Opens before mode path ⟨directory ++ [name], mode = .append, 0⟩
        { before with
          tree := before.tree.set (directory ++ [name]) (.file freshMode (.ofBytes [])) }
  /-- A file stood there, and it was emptied. -/
  | emptied {location : Location} {permissions : Nat} {content : Content}
      (leads : before.tree.locate .create before.cwd path = .ok (.taken location))
      (stands : before.tree.get? location = some (.file permissions content))
      (allowed : grants permissions .write = true) (truncating : mode = .truncate) :
      Opens before mode path ⟨location, false, 0⟩
        { before with tree := before.tree.set location (.file permissions (.ofBytes [])) }
  /-- A file stood there, and it kept what it held. -/
  | kept {location : Location} {permissions : Nat} {content : Content}
      (leads : before.tree.locate .create before.cwd path = .ok (.taken location))
      (stands : before.tree.get? location = some (.file permissions content))
      (allowed : grants permissions .write = true) (appending : mode = .append) :
      Opens before mode path ⟨location, true, 0⟩ before
  /-- What stood there was neither a file nor a directory, and it stayed what it was. A file of the
  terminal to which it leads is emptied if the path is opened to truncate. -/
  | passed {location : Location}
      (leads : before.tree.locate .create before.cwd path = .ok (.taken location))
      (noDirectory : before.tree.get? location ≠ some .directory)
      (noFile : ∀ permissions content,
        before.tree.get? location ≠ some (.file permissions content)) :
      Opens before mode path ⟨location, mode = .append, 0⟩
        (before.passed mode (before.tree.get? location))

/-- A path can be opened in just one of the ways above. -/
theorem openFor_eq_ok_iff {before after : World} {mode : WriteMode} {path : Path}
    {handle : Handle} :
    before.openFor mode path = .ok (handle, after) ↔ Opens before mode path handle after := by
  constructor
  · intro opened
    unfold World.openFor at opened
    split at opened
    · cases opened
    · cases opened
    · next leads =>
      cases opened
      exact .created leads (Tree.get?_of_locate leads)
    · next location leads =>
      dsimp only at opened
      split at opened
      · cases opened
      · next stands =>
        split at opened
        · next allowed =>
          split at opened
          · cases opened
            exact .kept leads stands allowed rfl
          · cases opened
            exact .emptied leads stands allowed rfl
        · cases opened
      · next noDirectory noFile =>
        cases opened
        exact .passed leads noDirectory noFile
  · intro opens
    cases opens with
    | created leads absent => simp only [World.openFor, leads]
    | emptied leads stands allowed truncating =>
      subst truncating
      simp [World.openFor, leads, stands, allowed]
    | kept leads stands allowed appending =>
      subst appending
      simp [World.openFor, leads, stands, allowed]
    | passed leads noDirectory noFile =>
      unfold World.openFor
      rw [leads]
      dsimp only
      split
      · next directory => exact absurd directory noDirectory
      · next file => exact absurd file (noFile _ _)
      · rfl

/-- Whether a file at a place holds no bytes. It holds of a place without a file. -/
def Tree.IsBlank (tree : Tree) (location : Location) : Prop :=
  ∀ permissions content, tree.get? location = some (.file permissions content) →
    content.bytes = []

theorem Tree.isBlank_set_same (tree : Tree) (location : Location) (permissions : Nat) :
    (tree.set location (.file permissions (.ofBytes []))).IsBlank location := by
  intro mode content stands
  by_cases root : location = []
  · subst root
    simp at stands
  · rw [Tree.get?_set_same tree root] at stands
    cases stands
    rfl

theorem Tree.isBlank_set {tree : Tree} {location : Location} (place : Location)
    (permissions : Nat) (blank : tree.IsBlank location) :
    (tree.set place (.file permissions (.ofBytes []))).IsBlank location := by
  by_cases same : location = place
  · subst same
    exact tree.isBlank_set_same location permissions
  · intro mode content stands
    rw [Tree.get?_set_other tree same] at stands
    exact blank mode content stands

namespace Opens

variable {before after : World} {mode : WriteMode} {path : Path} {handle : Handle}

/-- An opening puts no bytes anywhere. -/
theorem isBlank (opens : Opens before mode path handle after) {location : Location}
    (blank : before.tree.IsBlank location) : after.tree.IsBlank location := by
  cases opens with
  | created => exact Tree.isBlank_set _ _ blank
  | emptied => exact Tree.isBlank_set _ _ blank
  | kept => exact blank
  | passed => rwa [World.tree_passed]

/-- A handle starts at the front of its file. -/
theorem offset_eq (opens : Opens before mode path handle after) : handle.offset = 0 := by
  cases opens <;> rfl

/-- An opening changes nothing but the tree and the files of the terminal. -/
theorem frame (opens : Opens before mode path handle after) :
    after =
      { before with tree := after.tree, outFile := after.outFile, errFile := after.errFile } := by
  cases opens with
  | passed => rw [World.passed_frame]
  | _ => rfl

/-- A file that is not to be appended to is empty after its opening. -/
theorem isBlank_of_truncate (opens : Opens before mode path handle after)
    (truncating : handle.appending = false) : after.tree.IsBlank handle.location := by
  cases opens with
  | created => exact Tree.isBlank_set_same _ _ _
  | emptied => exact Tree.isBlank_set_same _ _ _
  | kept => cases truncating
  | passed leads noDirectory noFile =>
    rw [World.tree_passed]
    exact fun permissions content stands => absurd stands (noFile permissions content)

end Opens

/-! ### The redirections of a pipeline -/

/-- The redirections of a stage in the order in which they are opened. -/
def Stage.redirects (stage : Stage) : List Redirect :=
  stage.stdout.toList ++ stage.stderr.toList

/-- The redirections of a pipeline in the order in which they are opened. -/
def Pipeline.redirects (pipeline : Pipeline) : List Redirect :=
  pipeline.flatMap Stage.redirects

/-- The open files of a stage in the order in which they were opened. -/
def Files.handles (files : Files) : List Handle :=
  files.stdout.toList ++ files.stderr.toList

/-- Whether there is one file for each redirection of a stage. -/
def Files.Fit (stage : Stage) (files : Files) : Prop :=
  files.stdout.isSome = stage.stdout.isSome ∧ files.stderr.isSome = stage.stderr.isSome

/-- The path of the file that a redirection names. -/
def Session.pathOf (session : Session) (redirect : Redirect) : Path :=
  Path.join session.directory (utf8 redirect.target)

/-- Redirections were opened one after the other. -/
inductive OpenedAll (session : Session) : List Redirect → World → List Handle → World → Prop
  | nil {world : World} : OpenedAll session [] world [] world
  | cons {redirect : Redirect} {rest : List Redirect} {handle : Handle} {handles : List Handle}
      {world next opened : World}
      (first : Opens world redirect.mode (session.pathOf redirect) handle next)
      (later : OpenedAll session rest next handles opened) :
      OpenedAll session (redirect :: rest) world (handle :: handles) opened

/-- Redirections were opened one after the other until one could not be opened. -/
inductive FailsAt (session : Session) : List Redirect → World → OpenFailure → World → Prop
  | here {redirect : Redirect} {rest : List Redirect} {world : World} {fault : Fault}
      (refused : world.openFor redirect.mode (session.pathOf redirect) = .error fault) :
      FailsAt session (redirect :: rest) world ⟨redirect.target, fault⟩ world
  | later {redirect : Redirect} {rest : List Redirect} {handle : Handle} {failure : OpenFailure}
      {world next stopped : World}
      (first : Opens world redirect.mode (session.pathOf redirect) handle next)
      (fails : FailsAt session rest next failure stopped) :
      FailsAt session (redirect :: rest) world failure stopped

/-- The files of a pipeline were opened, each for its redirection. -/
def Opened (session : Session) (pipeline : Pipeline) (world : World) (files : List Files)
    (opened : World) : Prop :=
  List.Forall₂ Files.Fit pipeline files ∧
    OpenedAll session pipeline.redirects world (files.flatMap Files.handles) opened

variable {session : Session}

theorem OpenedAll.length_eq {redirects : List Redirect} {world opened : World}
    {handles : List Handle} (all : OpenedAll session redirects world handles opened) :
    handles.length = redirects.length := by
  induction all with
  | nil => rfl
  | cons first later inductionHypothesis => simp [inductionHypothesis]

theorem OpenedAll.append {first second : List Redirect} {world middle opened : World}
    {early late : List Handle} (ahead : OpenedAll session first world early middle)
    (behind : OpenedAll session second middle late opened) :
    OpenedAll session (first ++ second) world (early ++ late) opened := by
  induction ahead with
  | nil => exact behind
  | cons first later inductionHypothesis => exact .cons first (inductionHypothesis behind)

theorem OpenedAll.split {first second : List Redirect} {world opened : World}
    {early late : List Handle} (long : early.length = first.length)
    (all : OpenedAll session (first ++ second) world (early ++ late) opened) :
    ∃ middle, OpenedAll session first world early middle ∧
      OpenedAll session second middle late opened := by
  induction first generalizing early world with
  | nil =>
    rw [List.length_eq_zero_iff.mp long] at all ⊢
    exact ⟨world, .nil, all⟩
  | cons redirect rest inductionHypothesis =>
    obtain _ | ⟨handle, early⟩ := early
    · cases long
    · cases all with
      | cons opens later =>
        obtain ⟨middle, ahead, behind⟩ := inductionHypothesis (Nat.succ.inj long) later
        exact ⟨middle, .cons opens ahead, behind⟩

theorem failsAt_append_iff {first second : List Redirect} {world stopped : World}
    {failure : OpenFailure} :
    FailsAt session (first ++ second) world failure stopped ↔
      FailsAt session first world failure stopped ∨
        ∃ handles middle, OpenedAll session first world handles middle ∧
          FailsAt session second middle failure stopped := by
  constructor
  · intro fails
    induction first generalizing world with
    | nil => exact Or.inr ⟨[], world, .nil, fails⟩
    | cons redirect rest inductionHypothesis =>
      cases fails with
      | here refused => exact Or.inl (.here refused)
      | later opens fails =>
        rcases inductionHypothesis fails with ahead | ⟨handles, middle, ahead, behind⟩
        · exact Or.inl (.later opens ahead)
        · exact Or.inr ⟨_ :: handles, middle, .cons opens ahead, behind⟩
  · rintro (ahead | ⟨handles, middle, ahead, behind⟩)
    · induction ahead with
      | here refused => exact .here refused
      | later opens fails inductionHypothesis => exact .later opens inductionHypothesis
    · induction ahead with
      | nil => exact behind
      | cons opens later inductionHypothesis => exact .later opens (inductionHypothesis behind)

/-- A chain stops just where all the redirections ahead were opened and the next one cannot be. -/
theorem failsAt_iff {redirects : List Redirect} {world stopped : World}
    {failure : OpenFailure} :
    FailsAt session redirects world failure stopped ↔
      ∃ earlier redirect later handles, redirects = earlier ++ redirect :: later ∧
        OpenedAll session earlier world handles stopped ∧
        stopped.openFor redirect.mode (session.pathOf redirect) = .error failure.fault ∧
        redirect.target = failure.target := by
  constructor
  · intro fails
    induction fails with
    | here refused => exact ⟨[], _, _, [], rfl, .nil, refused, rfl⟩
    | later opens fails inductionHypothesis =>
      obtain ⟨earlier, redirect, later, handles, rfl, ahead, refused, target⟩ :=
        inductionHypothesis
      exact ⟨_ :: earlier, redirect, later, _ :: handles, rfl, .cons opens ahead, refused, target⟩
  · rintro ⟨earlier, redirect, later, handles, rfl, ahead, refused, target⟩
    obtain ⟨name, fault⟩ := failure
    cases target
    exact failsAt_append_iff.mpr (Or.inr ⟨handles, stopped, ahead, .here refused⟩)

theorem exists_handle {redirect : Option Redirect} {handles : List Handle}
    (long : handles.length = redirect.toList.length) :
    ∃ handle : Option Handle, handle.isSome = redirect.isSome ∧ handle.toList = handles := by
  obtain _ | redirect := redirect
  · rw [List.length_eq_zero_iff.mp long]
    exact ⟨none, rfl, rfl⟩
  · obtain ⟨handle, rfl⟩ := List.length_eq_one_iff.mp long
    exact ⟨some handle, rfl, rfl⟩

/-- Handles that are as many as the redirections of a stage are the open files of one. -/
theorem exists_files {stage : Stage} {handles : List Handle}
    (long : handles.length = stage.redirects.length) :
    ∃ files, Files.Fit stage files ∧ files.handles = handles := by
  have counted : handles.length = stage.stdout.toList.length + stage.stderr.toList.length := by
    rw [long, Stage.redirects, List.length_append]
  have enough : stage.stdout.toList.length ≤ handles.length := by omega
  obtain ⟨stdout, outFits, outSame⟩ :=
    @exists_handle stage.stdout (handles.take stage.stdout.toList.length)
      (by rw [List.length_take, Nat.min_eq_left enough])
  obtain ⟨stderr, errFits, errSame⟩ :=
    @exists_handle stage.stderr (handles.drop stage.stdout.toList.length)
      (by rw [List.length_drop]; omega)
  refine ⟨⟨stdout, stderr⟩, ⟨outFits, errFits⟩, ?_⟩
  rw [Files.handles, outSame, errSame, List.take_append_drop]

theorem openRedirect_eq_ok_iff {redirect : Option Redirect} {world next : World}
    {handle : Option Handle} :
    openRedirect session redirect world = (.ok handle, next) ↔
      handle.isSome = redirect.isSome ∧
        OpenedAll session redirect.toList world handle.toList next := by
  constructor
  · intro opened
    obtain _ | redirect := redirect
    · cases opened
      exact ⟨rfl, .nil⟩
    · unfold openRedirect at opened
      dsimp only at opened
      split at opened
      · cases opened
      · next opens =>
        cases opened
        exact ⟨rfl, .cons (openFor_eq_ok_iff.mp opens) .nil⟩
  · rintro ⟨same, all⟩
    obtain _ | redirect := redirect
    · obtain _ | handle := handle
      · cases all
        rfl
      · cases same
    · obtain _ | handle := handle
      · cases same
      · cases all with
        | cons opens later =>
          cases later
          have opened := openFor_eq_ok_iff.mpr opens
          unfold Session.pathOf at opened
          simp only [openRedirect, opened]

theorem openRedirect_eq_error_iff {redirect : Option Redirect} {world stopped : World}
    {failure : OpenFailure} :
    openRedirect session redirect world = (.error failure, stopped) ↔
      FailsAt session redirect.toList world failure stopped := by
  constructor
  · intro opened
    obtain _ | redirect := redirect
    · cases opened
    · unfold openRedirect at opened
      dsimp only at opened
      split at opened
      · next refused =>
        cases opened
        exact .here refused
      · cases opened
  · intro fails
    obtain _ | redirect := redirect
    · cases fails
    · cases fails with
      | here refused =>
        unfold Session.pathOf at refused
        simp only [openRedirect, refused]
      | later opens fails => cases fails

theorem openStage_eq_ok_iff {stage : Stage} {world next : World} {files : Files} :
    openStage session stage world = (.ok files, next) ↔
      Files.Fit stage files ∧ OpenedAll session stage.redirects world files.handles next := by
  constructor
  · intro opened
    unfold openStage at opened
    split at opened
    · cases opened
    · next stdoutOpened =>
      split at opened
      · cases opened
      · next stderrOpened =>
        cases opened
        obtain ⟨outFits, outAll⟩ := openRedirect_eq_ok_iff.mp stdoutOpened
        obtain ⟨errFits, errAll⟩ := openRedirect_eq_ok_iff.mp stderrOpened
        exact ⟨⟨outFits, errFits⟩, OpenedAll.append outAll errAll⟩
  · rintro ⟨⟨outFits, errFits⟩, all⟩
    have long : files.stdout.toList.length = stage.stdout.toList.length := by
      rw [Option.length_toList, Option.length_toList, outFits]
    obtain ⟨middle, outAll, errAll⟩ := OpenedAll.split long all
    have outOpened := openRedirect_eq_ok_iff.mpr ⟨outFits, outAll⟩
    have errOpened := openRedirect_eq_ok_iff.mpr ⟨errFits, errAll⟩
    simp only [openStage, outOpened, errOpened]

theorem openStage_eq_error_iff {stage : Stage} {world stopped : World} {failure : OpenFailure} :
    openStage session stage world = (.error failure, stopped) ↔
      FailsAt session stage.redirects world failure stopped := by
  unfold Stage.redirects
  rw [failsAt_append_iff]
  constructor
  · intro opened
    unfold openStage at opened
    split at opened
    · next refused =>
      cases opened
      exact Or.inl (openRedirect_eq_error_iff.mp refused)
    · next handle middle stdoutOpened =>
      split at opened
      · next refused =>
        cases opened
        exact Or.inr ⟨handle.toList, middle, (openRedirect_eq_ok_iff.mp stdoutOpened).2,
          openRedirect_eq_error_iff.mp refused⟩
      · cases opened
  · rintro (ahead | ⟨handles, middle, ahead, behind⟩)
    · simp only [openStage, openRedirect_eq_error_iff.mpr ahead]
    · have refused := openRedirect_eq_error_iff.mpr behind
      obtain ⟨handle, fits, rfl⟩ := exists_handle ahead.length_eq
      have opened := openRedirect_eq_ok_iff.mpr ⟨fits, ahead⟩
      simp only [openStage, opened, refused]

/-- The files of a pipeline are opened just if its chain of redirections runs to the end. -/
theorem openAll_eq_ok_iff {pipeline : Pipeline} {world opened : World} {files : List Files} :
    openAll session pipeline world = (.ok files, opened) ↔
      Opened session pipeline world files opened := by
  constructor
  · intro all
    induction pipeline generalizing world files with
    | nil =>
      cases all
      exact ⟨.nil, .nil⟩
    | cons stage rest inductionHypothesis =>
      unfold openAll at all
      split at all
      · cases all
      · next first =>
        split at all
        · cases all
        · next others =>
          cases all
          obtain ⟨fits, ahead⟩ := openStage_eq_ok_iff.mp first
          obtain ⟨othersFit, behind⟩ := inductionHypothesis others
          exact ⟨.cons fits othersFit, OpenedAll.append ahead behind⟩
  · rintro ⟨fits, all⟩
    induction fits generalizing world with
    | nil =>
      cases all
      rfl
    | @cons stage own rest others fit fits inductionHypothesis =>
      have long : own.handles.length = stage.redirects.length := by
        unfold Files.handles Stage.redirects
        rw [List.length_append, List.length_append, Option.length_toList, Option.length_toList,
          Option.length_toList, Option.length_toList, fit.1, fit.2]
      obtain ⟨middle, ahead, behind⟩ := OpenedAll.split long all
      have first := openStage_eq_ok_iff.mpr ⟨fit, ahead⟩
      simp only [openAll, first, inductionHypothesis behind]

/-- The files of a pipeline are not opened just if its chain of redirections stops before its
end. -/
theorem openAll_eq_error_iff {pipeline : Pipeline} {world stopped : World}
    {failure : OpenFailure} :
    openAll session pipeline world = (.error failure, stopped) ↔
      FailsAt session pipeline.redirects world failure stopped := by
  induction pipeline generalizing world with
  | nil =>
    constructor
    · intro all
      cases all
    · intro fails
      cases fails
  | cons stage rest inductionHypothesis =>
    have split : Pipeline.redirects (stage :: rest) = stage.redirects ++ Pipeline.redirects rest :=
      rfl
    rw [split, failsAt_append_iff]
    constructor
    · intro all
      unfold openAll at all
      split at all
      · next refused =>
        cases all
        exact Or.inl (openStage_eq_error_iff.mp refused)
      · next own middle first =>
        split at all
        · next refused =>
          cases all
          exact Or.inr ⟨own.handles, middle, (openStage_eq_ok_iff.mp first).2,
            inductionHypothesis.mp refused⟩
        · cases all
    · rintro (ahead | ⟨handles, middle, ahead, behind⟩)
      · simp only [openAll, openStage_eq_error_iff.mpr ahead]
      · obtain ⟨own, fits, rfl⟩ := exists_files ahead.length_eq
        have first := openStage_eq_ok_iff.mpr ⟨fits, ahead⟩
        simp only [openAll, first, inductionHypothesis.mpr behind]

/-- Either all files of a pipeline are opened or the first that cannot be opened ends it. -/
theorem opened_or_failsAt (session : Session) (pipeline : Pipeline) (world : World) :
    (∃ files opened, Opened session pipeline world files opened) ∨
      ∃ failure stopped, FailsAt session pipeline.redirects world failure stopped := by
  rcases all : openAll session pipeline world with ⟨result, after⟩
  cases result with
  | ok files => exact Or.inl ⟨files, after, openAll_eq_ok_iff.mp all⟩
  | error failure => exact Or.inr ⟨failure, after, openAll_eq_error_iff.mp all⟩

/-! ### What all openings leave behind -/

theorem OpenedAll.isBlank {redirects : List Redirect} {world opened : World}
    {handles : List Handle} (all : OpenedAll session redirects world handles opened)
    {location : Location} (blank : world.tree.IsBlank location) :
    opened.tree.IsBlank location := by
  induction all with
  | nil => exact blank
  | cons first later inductionHypothesis => exact inductionHypothesis (first.isBlank blank)

/-- A handle is at the front of its file when all are opened, and the file is empty if it is not to
be appended to, whatever was opened after it. -/
theorem OpenedAll.fresh {redirects : List Redirect} {world opened : World}
    {handles : List Handle} (all : OpenedAll session redirects world handles opened)
    {handle : Handle} (member : handle ∈ handles) :
    handle.offset = 0 ∧ (handle.appending = false → opened.tree.IsBlank handle.location) := by
  induction all with
  | nil => cases member
  | cons first later inductionHypothesis =>
    rcases List.mem_cons.mp member with rfl | behind
    · -- A later opening of the same file can only empty it once more.
      refine ⟨first.offset_eq, ?_⟩
      intro truncating
      exact later.isBlank (first.isBlank_of_truncate truncating)
    · exact inductionHypothesis behind

/-- Opening files changes nothing but the tree and the files of the terminal. -/
theorem OpenedAll.frame {redirects : List Redirect} {world opened : World}
    {handles : List Handle} (all : OpenedAll session redirects world handles opened) :
    opened =
      { world with
        tree := opened.tree, outFile := opened.outFile, errFile := opened.errFile } := by
  induction all with
  | nil => rfl
  | cons first later inductionHypothesis =>
    rw [inductionHypothesis, first.frame]

end CommandShell
