/-
This file proves what becomes of a path between finding it and starting it. A path
with a slash leads to the same file both times, so the program that runs is the
one that was found. A path without a slash comes of an empty entry of the search
list. It names a file in the directory of the process, but when it is started it is
searched for once more.

The second search has the entries of the first, and so it comes to the same file.
But it is not as patient: where the first search passes over an entry for any
reason, the second one stops for some, and behind the file it goes on if the file
cannot be started. Without a search list the two have nothing in common: the first
search then has one empty entry, and the second has the standard list.
-/

import CommandShell.Proofs.Abandoning
import CommandShell.Proofs.CommandName
import CommandShell.Proofs.Entry
import CommandShell.Proofs.Touching

namespace CommandShell

variable {session : Session} {world : World} {path : Path} {busy : List Location}
variable {entries : List Bytes} {scripts : Bool} {name : Bytes} {args : List Bytes}

/-! ### The file that was found -/

/-- The file at the end of a path, if it is one that counts as an executable. -/
structure Accepted (world : World) (path : Path) where
  location : Location
  mode : Nat
  content : Content
  stands : world.tree.inspect world.cwd path = .ok (.standing location, .file mode content)
  executable : hasExecuteBit mode = true

/-- The file names another program that runs it. -/
def Content.NamesProgram (content : Content) : Prop :=
  content.image = none ∧ (interpreter? content.bytes).isSome = true

/-- A search goes on after such a fault. -/
def Fault.PassedOver (fault : Fault) : Prop :=
  fault = .accessDenied ∨ fault = .noEntry ∨ fault = .notDirectory

instance (fault : Fault) : Decidable fault.PassedOver :=
  inferInstanceAs (Decidable (_ ∨ _ ∨ _))

theorem hasExecuteBit_of_grants {mode : Nat} (granted : grants mode .start = true) :
    hasExecuteBit mode = true := by
  unfold hasExecuteBit
  rw [bne_iff_ne]
  intro none
  rw [grants, bne_iff_ne] at granted
  refine granted ?_
  calc mode &&& 0o100 = mode &&& (0o111 &&& 0o100) := rfl
    _ = (mode &&& 0o111) &&& 0o100 := (Nat.and_assoc _ _ _).symm
    _ = 0 := by rw [none, Nat.zero_and]

namespace Accepted

/-- What opening the file gives. -/
def opened (file : Accepted world path) (busy : List Location) : Except Fault Content :=
  if !grants file.mode .start then .error .accessDenied
  else if busy.contains file.location then .error .textBusy
  else .ok file.content

/-- What starting the file gives. All that the path is needed for is to tell it to a program that
the file names. If `scripts` is set, a file in no known format is a script. -/
def start (file : Accepted world path) (busy : List Location) (entries : List Bytes)
    (scripts : Bool) (name : Bytes) (args : List Bytes) : Except Fault Loaded :=
  match file.opened busy with
  | .error fault => .error fault
  | .ok content =>
    if (name :: args ++ entries).any fun text => argumentLimit ≤ text.length then
      .error .argumentTooLong
    else
      match world.interpret busy world.cwd interpreterLimit content path name args with
      | .error .badFormat =>
        if scripts = true ∧ content.image = none then
          .ok ⟨.script content.bytes file.location, systemShell, path :: args⟩
        else .error .badFormat
      | loaded => loaded

theorem nonempty_iff : Nonempty (Accepted world path) ↔ world.isExecutable path = true := by
  constructor
  · rintro ⟨location, mode, content, stands, executable⟩
    rw [World.isExecutable, stands]
    exact executable
  · intro executable
    obtain ⟨location, mode, content, leads, stands, executable⟩ :=
      World.isExecutable_iff.mp executable
    refine ⟨location, mode, content, ?_, executable⟩
    simp only [Tree.inspect, leads, stands]

theorem path_ne_nil (file : Accepted world path) : path ≠ [] := by
  rintro rfl
  have stands := file.stands
  simp [Tree.inspect, Tree.locate, Tree.follow, pathLimit] at stands

theorem openProgram_eq (file : Accepted world path) (busy : List Location) :
    world.openProgram busy world.cwd path = file.opened busy := by
  rw [World.openProgram, if_neg file.path_ne_nil, file.stands]
  unfold opened
  simp only [List.contains_iff_mem]
  rfl

end Accepted

namespace World

/-- One attempt of a search: load the program at a path, which is a script if `scripts` is set and
its format is not known. -/
def attempt (world : World) (busy : List Location) (directory : Base) (entries : List Bytes)
    (scripts : Bool) (path name : Bytes) (args : List Bytes) : Except Fault Loaded :=
  match world.load busy directory entries path name args with
  | .error .badFormat =>
    if scripts then world.loadScript busy directory path args else .error .badFormat
  | loaded => loaded

theorem load_eq_attempt (world : World) (busy : List Location) (directory : Base)
    (entries : List Bytes) (path name : Bytes) (args : List Bytes) :
    world.load busy directory entries path name args =
      world.attempt busy directory entries false path name args := by
  unfold attempt
  split
  · next unknown => rw [unknown]; rfl
  · rfl

end World

theorem Accepted.attempt_eq (file : Accepted world path) :
    world.attempt busy world.cwd entries scripts path name args =
      file.start busy entries scripts name args := by
  unfold World.attempt World.load World.loadScript start
  rw [file.openProgram_eq, file.stands]
  unfold opened
  by_cases denied : (!grants file.mode .start) = true
  · rw [if_pos denied]
  · rw [if_neg denied]
    by_cases inUse : busy.contains file.location = true
    · rw [if_pos inUse]
    · rw [if_neg inUse]
      dsimp only
      by_cases long : ((name :: args ++ entries).any fun text => argumentLimit ≤ text.length) = true
      · rw [if_pos long, if_pos long]
      · rw [if_neg long, if_neg long]
        cases world.interpret busy world.cwd interpreterLimit file.content path name args with
        | ok loaded => rfl
        | error fault =>
          by_cases unknown : fault = .badFormat
          · subst unknown
            cases scripts <;> cases file.content.image <;> rfl
          · cases fault <;> first | rfl | exact absurd rfl unknown

/-- A program that is in no file is missing just for a file that names it. -/
theorem World.interpret_passedOver {directory : Base} {files : Nat} {content : Content}
    {fault : Fault}
    (refused : world.interpret busy directory (files + 1) content path name args = .error fault)
    (passedOver : fault.PassedOver) : content.NamesProgram := by
  have known : fault ≠ .badFormat := by
    rintro rfl
    exact absurd passedOver (by decide)
  unfold World.interpret at refused
  split at refused
  · split at refused
    · cases refused
    · cases refused
      exact absurd rfl known
  · cases refused
    exact absurd rfl known
  · next image names =>
    exact ⟨image, by rw [names]; rfl⟩

/-- A search goes on behind the file only if its owner may not start it, or if it names another
program. -/
theorem Accepted.start_passedOver (file : Accepted world path) {fault : Fault}
    (refused : file.start busy entries scripts name args = .error fault)
    (passedOver : fault.PassedOver) :
    fault = .accessDenied ∧ grants file.mode .start = false ∨ file.content.NamesProgram := by
  unfold start opened at refused
  by_cases denied : (!grants file.mode .start) = true
  · rw [if_pos denied] at refused
    cases refused
    exact Or.inl ⟨rfl, by simpa using denied⟩
  · rw [if_neg denied] at refused
    refine Or.inr ?_
    by_cases inUse : busy.contains file.location = true
    · rw [if_pos inUse] at refused
      cases refused
      exact absurd passedOver (by decide)
    · rw [if_neg inUse] at refused
      dsimp only at refused
      split at refused
      · cases refused
        exact absurd passedOver (by decide)
      · split at refused
        · split at refused
          · cases refused
          · cases refused
            exact absurd passedOver (by decide)
        · exact World.interpret_passedOver refused passedOver

/-! ### The second search -/

namespace World

variable {directory : Base} {file : Bytes} {denied : Bool} {last : Fault} {entry : Path}

variable (entries scripts name args) in
/-- A file that cannot be opened ends the attempt with its fault. -/
theorem attempt_of_openProgram {fault : Fault}
    (refused : world.openProgram busy directory path = .error fault) :
    world.load busy directory entries path name args = .error fault ∧
      world.attempt busy directory entries scripts path name args = .error fault := by
  have loads : world.load busy directory entries path name args = .error fault := by
    rw [load, refused]
  refine ⟨loads, ?_⟩
  unfold attempt loadScript
  rw [loads, refused]
  split
  · next unknown =>
    cases unknown
    split <;> rfl
  · rfl

variable (scripts denied last) in
/-- An entry of the list with a fault of that kind is left behind. -/
theorem loadFirst_goes_on {fault : Fault} (passedOver : fault.PassedOver)
    (refused : world.load busy directory entries (pathIn entry file) name args = .error fault)
    (rest : List Path) :
    ∃ nowDenied nowLast,
      world.loadFirst busy directory entries scripts file name args denied last (entry :: rest) =
        world.loadFirst busy directory entries scripts file name args nowDenied nowLast rest := by
  rw [loadFirst, refused]
  rcases passedOver with rfl | rfl | rfl
  · exact ⟨true, last, rfl⟩
  · exact ⟨denied, .noEntry, rfl⟩
  · exact ⟨denied, .notDirectory, rfl⟩

/-- With anything else the search is over. -/
theorem loadFirst_stops
    (final : ∀ fault, world.load busy directory entries (pathIn entry file) name args =
      .error fault → ¬ fault.PassedOver) (rest : List Path) :
    world.loadFirst busy directory entries scripts file name args denied last (entry :: rest) =
      world.attempt busy directory entries scripts (pathIn entry file) name args := by
  rw [loadFirst, attempt]
  cases loads : world.load busy directory entries (pathIn entry file) name args with
  | ok loaded => rfl
  | error fault =>
    have notPassed := final fault loads
    cases fault <;> first | rfl | exact absurd (by decide) notPassed

/-- A file that the second search could open for this entry would have been accepted there by the
first one. -/
theorem isExecutable_join (relative : Path.isAbsolute file = false)
    (executable : world.isExecutable (pathIn entry file) = true) :
    world.isExecutable (Path.join entry file) = true := by
  unfold pathIn at executable
  by_cases empty : entry = []
  · rw [if_pos empty] at executable
    rw [empty, Path.nil_join]
    exact executable
  · rw [if_neg empty] at executable
    unfold Path.join
    rw [relative, if_neg Bool.false_ne_true]
    by_cases closed : Path.endsInSlash entry = true
    · obtain ⟨front, rfl⟩ := Path.exists_of_endsInSlash closed
      rw [if_pos (Or.inr closed)]
      rw [List.append_assoc, List.singleton_append] at executable ⊢
      obtain ⟨location, mode, content, leads, stands, isExecutable⟩ :=
        isExecutable_iff.mp executable
      refine isExecutable_iff.mpr ⟨location, mode, content, ?_, stands, isExecutable⟩
      -- The path with one slash less is shorter, and leads to the same place.
      unfold Tree.locate at leads ⊢
      split at leads
      · cases leads
      · next noNul =>
        split at leads
        · cases leads
        · next short =>
          rw [Tree.follow_double_slash] at leads
          rw [if_neg (by simpa [slash] using noNul), if_neg ?_]
          · exact leads
          · simp only [List.length_append, List.length_cons] at short ⊢
            omega
    · rw [if_neg (not_or.mpr ⟨empty, closed⟩)]
      exact executable

theorem accepted_of_openProgram {content : Content}
    (opened : world.openProgram busy world.cwd path = .ok content) :
    Nonempty (Accepted world path) := by
  refine Accepted.nonempty_iff.mpr ?_
  unfold openProgram at opened
  split at opened
  · cases opened
  · split at opened
    · cases opened
    · next stands =>
      split at opened
      · cases opened
      · next granted =>
        rw [isExecutable, stands]
        exact hasExecuteBit_of_grants (by simpa using granted)
    · cases opened

theorem accepted_of_load {loaded : Loaded}
    (loads : world.load busy world.cwd entries path name args = .ok loaded) :
    Nonempty (Accepted world path) := by
  unfold load at loads
  split at loads
  · cases loads
  · next opened => exact accepted_of_openProgram opened

theorem triedEntries_append (before after : List Path) :
    triedEntries (before ++ [] :: after) =
      (before.map fun entry => if entry.length < pathLimit then entry else []) ++
        [] :: triedEntries after := by
  induction before with
  | nil => rfl
  | cons entry rest inductionHypothesis =>
    have more : rest ++ [] :: after ≠ [] := by simp
    rw [List.cons_append, triedEntries, inductionHypothesis, List.map_cons, List.cons_append]
    by_cases short : entry.length < pathLimit
    · rw [if_pos short, if_pos short]
    · rw [if_neg short, if_neg short, if_neg more]

/-- Where the first search found nothing, the second one finds nothing either, unless the entry is
too long and counts as the empty path. -/
theorem not_executable_of_tried (relative : Path.isAbsolute file = false) {before : List Path}
    (none : ∀ entry ∈ before, world.isExecutable (Path.join entry file) = false) :
    ∀ entry ∈ before.map fun entry => if entry.length < pathLimit then entry else [],
      entry = [] ∨ world.isExecutable (pathIn entry file) = false := by
  intro entry member
  obtain ⟨source, within, rfl⟩ := List.mem_map.mp member
  by_cases short : source.length < pathLimit
  · rw [if_pos short]
    refine Or.inr (Bool.eq_false_iff.mpr fun executable => ?_)
    have accepted := isExecutable_join relative executable
    rw [none source within] at accepted
    cases accepted
  · exact Or.inl (if_neg short)

end World

/-- The second search comes to the file, unless an entry before it stops the search. Then it is no
fault that the search would have passed over. -/
theorem Accepted.loadFirst_eq (file : Accepted world path)
    (final : ∀ fault, file.start busy entries scripts name args = .error fault → ¬ fault.PassedOver)
    {before : List Path}
    (ahead : ∀ entry ∈ before, entry = [] ∨ world.isExecutable (World.pathIn entry path) = false)
    (after : List Path) (denied : Bool) (last : Fault) :
    world.loadFirst busy world.cwd entries scripts path name args denied last
        (before ++ [] :: after) = file.start busy entries scripts name args ∨
      ∃ fault, ¬ fault.PassedOver ∧
        world.loadFirst busy world.cwd entries scripts path name args denied last
          (before ++ [] :: after) = .error fault := by
  have here : ∀ rest denied last,
      world.loadFirst busy world.cwd entries scripts path name args denied last ([] :: rest) =
        file.start busy entries scripts name args := by
    intro rest denied last
    rw [← file.attempt_eq]
    refine World.loadFirst_stops ?_ rest
    intro fault refused passedOver
    refine final fault ?_ passedOver
    rw [← file.attempt_eq, World.attempt]
    rw [World.pathIn, if_pos rfl] at refused
    rw [refused]
    rcases passedOver with rfl | rfl | rfl <;> rfl
  induction before generalizing denied last with
  | nil => exact Or.inl (here after denied last)
  | cons entry rest inductionHypothesis =>
    have later := inductionHypothesis fun entry member => ahead entry (List.mem_cons_of_mem _ member)
    rcases ahead entry List.mem_cons_self with rfl | notThere
    · exact Or.inl (here _ denied last)
    · cases opened : world.openProgram busy world.cwd (World.pathIn entry path) with
      | ok content =>
        have executable := nonempty_iff.mp (World.accepted_of_openProgram opened)
        rw [notThere] at executable
        cases executable
      | error fault =>
        obtain ⟨loads, attempts⟩ :=
          World.attempt_of_openProgram entries scripts name args opened
        by_cases passedOver : fault.PassedOver
        · obtain ⟨nowDenied, nowLast, goesOn⟩ :=
            World.loadFirst_goes_on scripts denied last passedOver loads (rest ++ [] :: after)
          rw [List.cons_append, goesOn]
          exact later nowDenied nowLast
        · refine Or.inr ⟨fault, passedOver, ?_⟩
          rw [List.cons_append, ← attempts]
          refine World.loadFirst_stops ?_ _
          intro other refused
          rw [loads] at refused
          cases refused
          exact passedOver

/-! ### Starting -/

theorem Location.path_ne_nil (location : Location) : location.path ≠ [] := by
  cases location <;> exact List.cons_ne_nil _ _

theorem Base.exists_of_path? {base : Base} {path : Path} (spelled : base.path? = some path) :
    ∃ location : Location, base = .standing location ∧ location.path = path := by
  obtain ⟨location, removed⟩ := base
  cases removed with
  | zero => exact ⟨location, rfl, Option.some.inj spelled⟩
  | succ removed => cases spelled

theorem Tree.Standing.inspect_path {tree : Tree} {location : Location}
    (standing : tree.Standing location) (base : Base) (noNul : 0 ∉ location.path) :
    tree.inspect base location.path =
      if pathLimit ≤ location.path.length then .error .nameTooLong
      else .ok (.standing location, .directory) := by
  have walked : tree.walk .inspect linkLimit [] location.path.steps = .ok (.taken location) := by
    by_cases root : location = []
    · subst root
      rfl
    · rw [Location.steps_path root]
      exact standing.walk_eq linkLimit
  unfold inspect locate
  rw [if_neg noNul]
  by_cases long : pathLimit ≤ location.path.length
  · rw [if_pos long, if_pos long]
  · rw [if_neg long, if_neg long, follow, if_neg location.path_ne_nil, if_pos location.path_isAbsolute, walked]
    dsimp only
    rw [standing.get?]

/-- The process that comes of what was loaded, in the directory of the session. The system takes no
byte zero in a text, and no spelling of a directory that is too long. -/
def Session.processOf (session : Session) (world : World) (path : Path) (name : String)
    (args : List String) (loaded : Except Fault Loaded) : Except Fault Process :=
  let entries := session.environment world
  if 0 ∈ path ∨ 0 ∈ utf8 name ∨ 0 ∈ session.directory ∨ (args.any fun argument => 0 ∈ utf8 argument)
      ∨ entries.any fun entry => 0 ∈ entry then
    .error .nulInArgument
  else if pathLimit ≤ session.directory.length then .error .nameTooLong
  else
    loaded.map fun loaded =>
      ⟨loaded.code, ⟨loaded.name, loaded.args, entries, session.directory⟩, world.cwd⟩

section ProcessOf

variable {name : String} {args : List String} {loaded : Except Fault Loaded}

theorem Session.processOf_eq_ok {process : Process}
    (starts : session.processOf world path name args loaded = .ok process) :
    ∃ produced, loaded = .ok produced := by
  unfold processOf at starts
  dsimp only at starts
  split at starts
  · cases starts
  · split at starts
    · cases starts
    · obtain ⟨produced, same, -⟩ := exists_of_map_eq_ok starts
      exact ⟨produced, same⟩

theorem Session.processOf_eq_noEntry
    (missing : session.processOf world path name args loaded = .error .noEntry) :
    loaded = .error .noEntry := by
  unfold processOf at missing
  dsimp only at missing
  split at missing
  · cases missing
  · split at missing
    · cases missing
    · cases loaded with
      | ok produced => cases missing
      | error fault =>
        cases missing
        rfl

end ProcessOf

/-- The process changes to the directory in which the path was found. -/
theorem Session.launch_eq (agrees : world.cwd.path? = some session.directory)
    (standing : world.tree.Standing world.cwd.location) (busy : List Location) (path : Path)
    (name : String) (args : List String) :
    session.launch world busy path name args =
      session.processOf world path name args
        (if slash ∈ path then
          world.load busy world.cwd (session.environment world) path (utf8 name) (args.map utf8)
        else
          world.loadFirst busy world.cwd (session.environment world)
            (session.vars.get? "PATH").isSome path (utf8 name) (args.map utf8) false .noEntry
            (World.triedEntries
              (searchEntries ((session.searchList? world).elim standardList utf8)))) := by
  obtain ⟨location, cwd, spelled⟩ := Base.exists_of_path? agrees
  have stands : world.tree.Standing location := by
    rw [cwd] at standing
    exact standing
  unfold launch processOf
  dsimp only
  rw [cwd, ← spelled]
  split
  · rfl
  · next clean =>
    have noNul : 0 ∉ location.path := fun nul => clean (Or.inr (Or.inr (Or.inl nul)))
    rw [stands.inspect_path _ noNul]
    by_cases long : pathLimit ≤ location.path.length
    · rw [if_pos long, if_pos long]
    · rw [if_neg long, if_neg long]
      rfl

/-! ### From the name to the process -/

theorem Path.slash_mem_join {directory : Path} (given : directory ≠ []) (path : Path) :
    slash ∈ Path.join directory path := by
  unfold Path.join
  by_cases absolute : Path.isAbsolute path = true
  · rw [if_pos absolute]
    exact List.mem_of_head? (by simpa [Path.isAbsolute] using absolute)
  · rw [if_neg absolute]
    by_cases closed : Path.endsInSlash directory = true
    · rw [if_pos (Or.inr closed)]
      obtain ⟨front, rfl⟩ := Path.exists_of_endsInSlash closed
      simp
    · rw [if_neg (not_or.mpr ⟨given, closed⟩)]
      exact List.mem_append_right _ List.mem_cons_self

/-- What a name resolves to is an executable. If there is no slash in it, it was found for the first
empty entry of the search list, and no entry before that has an executable of this name. -/
theorem Session.found_of_resolve {name : String} (agrees : world.cwd.path? = some session.directory)
    (resolved : session.resolve world name = some (.external path)) :
    world.isExecutable path = true ∧
      (slash ∉ path → Path.isAbsolute path = false ∧ ∃ before after,
        searchEntries (utf8 ((session.searchList? world).getD "")) = before ++ [] :: after ∧
          ∀ entry ∈ before, world.isExecutable (Path.join entry path) = false) := by
  unfold resolve at resolved
  split at resolved
  · cases resolved
  · obtain ⟨found, isFound, external⟩ := Option.map_eq_some_iff.mp resolved
    cases external
    unfold World.findCommand at isFound
    split at isFound
    · cases isFound
    · next single _ =>
      obtain ⟨executable, ahead, behind, split, none⟩ := List.find?_eq_some_iff_append.mp isFound
      refine ⟨executable, fun noSlash => ?_⟩
      obtain ⟨before, others, entries, isAhead, rest⟩ := List.map_eq_append_iff.mp split
      obtain ⟨entry, after, rfl, isEntry, -⟩ := List.map_eq_cons_iff.mp rest
      have relative := Path.isAbsolute_eq_false single.isName.2.1
      obtain rfl : entry = [] := by
        by_contra given
        exact noSlash (isEntry ▸ Path.slash_mem_join given _)
      rw [Path.nil_join] at isEntry
      subst isEntry isAhead
      refine ⟨relative, before, after, entries, fun entry member => ?_⟩
      simpa using none _ (List.mem_map_of_mem member)
    · split at isFound
      · next executable =>
        cases isFound
        obtain ⟨location, -, spelled⟩ := Base.exists_of_path? agrees
        have given : session.directory ≠ [] := spelled ▸ location.path_ne_nil
        exact ⟨executable, fun noSlash => absurd (Path.slash_mem_join given _) noSlash⟩
      · cases isFound

section Launch

variable {name : String} {args : List String}
variable (agrees : world.cwd.path? = some session.directory)
variable (standing : world.tree.Standing world.cwd.location)

include agrees standing

/-- A path with a slash is not searched for. -/
theorem Accepted.launch_of_slash (file : Accepted world path) (separated : slash ∈ path) :
    session.launch world busy path name args = session.processOf world path name args
      (file.start busy (session.environment world) false (utf8 name) (args.map utf8)) := by
  rw [session.launch_eq agrees standing, if_pos separated, World.load_eq_attempt, file.attempt_eq]

/-- If nothing is there when the file is started, it is a program that the file names. -/
theorem Accepted.namesProgram_of_launch (file : Accepted world path) (separated : slash ∈ path)
    (missing : session.launch world busy path name args = .error .noEntry) :
    file.content.NamesProgram := by
  rw [file.launch_of_slash agrees standing separated] at missing
  have refused := Session.processOf_eq_noEntry missing
  rcases file.start_passedOver refused (Or.inr (Or.inl rfl)) with ⟨impossible, -⟩ | names
  · cases impossible
  · exact names

/-- A path without a slash that is found for an empty entry is searched for in the same list. -/
theorem Accepted.launch_of_searchList (file : Accepted world path) (noSlash : slash ∉ path)
    (relative : Path.isAbsolute path = false) {searchList : String} {before after : List Path}
    (isList : session.searchList? world = some searchList)
    (split : searchEntries (utf8 searchList) = before ++ [] :: after)
    (none : ∀ entry ∈ before, world.isExecutable (Path.join entry path) = false)
    {own : Except Fault Loaded}
    (isOwn : own = file.start busy (session.environment world) (session.vars.get? "PATH").isSome
      (utf8 name) (args.map utf8))
    (final : ∀ fault, own = .error fault → ¬ fault.PassedOver) :
    session.launch world busy path name args = session.processOf world path name args own ∨
      ∃ fault, ¬ fault.PassedOver ∧ session.launch world busy path name args =
        session.processOf world path name args (.error fault) := by
  subst isOwn
  rw [session.launch_eq agrees standing, if_neg noSlash, isList, Option.elim_some, split,
    World.triedEntries_append]
  rcases file.loadFirst_eq final (World.not_executable_of_tried relative none)
      (World.triedEntries after) false .noEntry with same | ⟨fault, stops, refused⟩
  · exact Or.inl (congrArg _ same)
  · exact Or.inr ⟨fault, stops, congrArg _ refused⟩

/-- Without a search list it is searched for in the standard directories. -/
theorem Session.launch_of_noSearchList {process : Process} (noSlash : slash ∉ path)
    (noList : session.searchList? world = none)
    (starts : session.launch world busy path name args = .ok process) :
    ∃ directory ∈ searchEntries standardList,
      ∃ other : Accepted world (World.pathIn directory path),
        session.launch world busy path name args = session.processOf world path name args
          (other.start busy (session.environment world) false (utf8 name) (args.map utf8)) := by
  have noScripts : session.vars.get? "PATH" = none := by
    cases own : session.vars.get? "PATH" with
    | none => rfl
    | some searchList => simp [searchList?, var?, own] at noList
  have tried : World.triedEntries (searchEntries standardList) = searchEntries standardList := by
    decide +kernel
  rw [session.launch_eq agrees standing, if_neg noSlash, noList, Option.elim_none, tried, noScripts,
    Option.isSome_none] at starts ⊢
  obtain ⟨produced, found⟩ := processOf_eq_ok starts
  obtain ⟨directory, member, loads⟩ := World.exists_of_loadFirst found
  obtain ⟨other⟩ := World.accepted_of_load loads
  refine ⟨directory, member, other, ?_⟩
  rw [found, ← loads, World.load_eq_attempt, other.attempt_eq]

end Launch

/-- The outcome of starting a resolved path, given the file that was found at the path. -/
structure StartsAs (session : Session) (world : World) (name : String) (path : Path)
    (file : Accepted world path) (busy : List Location) (args : List String)
    (outcome : Except Fault Process) : Prop where
  /-- A path with a slash is started as this file. -/
  direct : slash ∈ path →
    outcome = session.processOf world path name args
      (file.start busy (session.environment world) false (utf8 name) (args.map utf8))
  /-- If nothing is there then, it is another program that the file names. -/
  missing : slash ∈ path → outcome = .error .noEntry → file.content.NamesProgram
  /-- A path without a slash comes of an empty entry, with no such executable in an entry before. -/
  bare : slash ∉ path → ∃ before after,
    searchEntries (utf8 ((session.searchList? world).getD "")) = before ++ [] :: after ∧
      ∀ entry ∈ before, world.isExecutable (Path.join entry path) = false
  /-- With a search list it is started as this file, or refused because of an entry before. But if
  the file cannot be started for a reason that is passed over, the search goes on. -/
  searched : slash ∉ path → (session.searchList? world).isSome = true →
    ∀ own, own = file.start busy (session.environment world) (session.vars.get? "PATH").isSome
        (utf8 name) (args.map utf8) →
      (∀ fault, own = .error fault → ¬ fault.PassedOver) →
        outcome = session.processOf world path name args own ∨
          ∃ fault, ¬ fault.PassedOver ∧
            outcome = session.processOf world path name args (.error fault)
  /-- Without a search list it is started as a file in one of the standard directories. -/
  unset : slash ∉ path → session.searchList? world = none → ∀ process, outcome = .ok process →
    ∃ directory ∈ searchEntries standardList,
      ∃ other : Accepted world (World.pathIn directory path),
        outcome = session.processOf world path name args
          (other.start busy (session.environment world) false (utf8 name) (args.map utf8))

/-- What runs is the file to which a name was resolved, if there is a slash in the path that was
found. That is so for every entry of the search list but an empty one. The process of the shell works
in the directory of the session, which stands in the tree, and other programs may have been started
since. -/
theorem Session.launch_resolved {name : String} (agrees : world.cwd.path? = some session.directory)
    (standing : world.tree.Standing world.cwd.location)
    (resolved : session.resolve world name = some (.external path)) :
    ∃ file : Accepted world path, ∀ journal busy args,
      StartsAs session world name path file busy args
        (session.launch { world with journal := journal } busy path name args) := by
  obtain ⟨executable, bare⟩ := session.found_of_resolve agrees resolved
  obtain ⟨file⟩ := Accepted.nonempty_iff.mpr executable
  refine ⟨file, fun journal busy args => ?_⟩
  rw [session.launch_journal]
  refine {
    direct := file.launch_of_slash agrees standing
    missing := file.namesProgram_of_launch agrees standing
    bare := fun noSlash => (bare noSlash).2
    searched := ?_
    unset := fun noSlash noList _ => session.launch_of_noSearchList agrees standing noSlash noList }
  intro noSlash isList own isOwn final
  obtain ⟨relative, before, after, split, none⟩ := bare noSlash
  obtain ⟨searchList, found⟩ := Option.isSome_iff_exists.mp isList
  rw [found, Option.getD_some] at split
  exact file.launch_of_searchList agrees standing noSlash relative found split none isOwn final

/-- A tool in a directory of the search list that is named from where the session is. -/
theorem Session.launch_resolved_tool :
    let tree := (scratchTree (utf8 "/r")).including [] (utf8 "/r/bin/tool") (toolNode toolMode)
    let world := { scratchWorld (utf8 "/r") [] [] false with tree := tree }
    let session := Session.start [("PATH", "bin")] (utf8 "/r")
    let path := utf8 "bin/tool"
    world.cwd.path? = some session.directory ∧ world.tree.Standing world.cwd.location ∧
      session.resolve world "tool" = some (.external path) ∧ slash ∈ path ∧
      ∃ file : Accepted world path, file.location.path = utf8 "/r/bin/tool" ∧
        session.launch world [] path "tool" ["out"] = session.processOf world path "tool" ["out"]
          (file.start [] (session.environment world) false (utf8 "tool") [utf8 "out"]) := by
  intro tree world session path
  have agrees : world.cwd.path? = some session.directory := by decide +kernel
  have leads : world.tree.canonical (.standing []) (utf8 "/r") = .ok world.cwd.location := by
    decide +kernel
  have stands : world.tree.get? world.cwd.location = some .directory := by decide +kernel
  have standing := Tree.Standing.of_canonical (by decide) leads stands
  have resolved : session.resolve world "tool" = some (.external path) := by decide +kernel
  have separated : slash ∈ path := by decide +kernel
  have place : (world.tree.inspect world.cwd path).map (·.1.location.path) =
      .ok (utf8 "/r/bin/tool") := by decide +kernel
  obtain ⟨file, starts⟩ := session.launch_resolved agrees standing resolved
  refine ⟨agrees, standing, resolved, separated, file, ?_, ?_⟩
  · rw [file.stands] at place
    exact Except.ok.inj place
  · exact (starts world.journal [] ["out"]).direct separated

/-- Without a search list a tool in the directory of the session is found, and it is missing when it
is started. -/
theorem Session.launch_unset :
    let tree := (scratchTree (utf8 "/r")).including [] (utf8 "/r/tool") (toolNode toolMode)
    let world := { scratchWorld (utf8 "/r") [] [] false with tree := tree }
    let session := Session.start [] (utf8 "/r")
    world.cwd.path? = some session.directory ∧
      session.resolve world "tool" = some (.external (utf8 "tool")) ∧
      world.isExecutable (utf8 "tool") = true ∧
      session.launch world [] (utf8 "tool") "tool" ["out"] = .error .noEntry := by
  intro tree world session
  refine ⟨by decide +kernel, by decide +kernel, by decide +kernel, rfl⟩

end CommandShell
