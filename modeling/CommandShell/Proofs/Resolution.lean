/-
This file proves what a command name stands for. The names of the shell's own
commands stand for these commands, whatever files there are. A single name stands for
the first executable of that name in the directories of the search list, and every
other name for the file to which it leads, if that can be executed.

The search asks about one directory after the other and stops at the first
executable. Directories, files without an execute bit, links that lead nowhere and
directories that do not exist are passed over alike, because all that is asked of a
path is whether it leads to an executable. So the result is settled by the entries up
to the first hit, and a list that is made of two can be searched by searching one
after the other. What is offered from it is what either of them offers.
-/

import CommandShell.Proofs.CommandName
import CommandShell.Proofs.Entry
import CommandShell.Proofs.Text
import CommandShell.Scratch

namespace CommandShell

/-! ### The first match -/

namespace World

variable {world : World}

/-- A regular file with an execute bit stands where the path leads when its links are followed. -/
def LeadsToExecutable (world : World) (path : Path) : Prop :=
  ∃ location mode content,
    world.tree.locate .inspect world.cwd path = .ok (.taken location) ∧
      world.tree.get? location = some (.file mode content) ∧ hasExecuteBit mode = true

/-- The path is that of the name in the first directory in which it leads to an executable. -/
def IsFirstMatch (world : World) (directories : List Path) (name : Name) (path : Path) : Prop :=
  ∃ before directory after, directories = before ++ directory :: after ∧
    path = Path.join directory name.bytes ∧ world.LeadsToExecutable path ∧
    ∀ earlier ∈ before, ¬ world.LeadsToExecutable (Path.join earlier name.bytes)

theorem leadsToExecutable_iff {path : Path} :
    world.LeadsToExecutable path ↔ world.isExecutable path = true :=
  isExecutable_iff.symm

theorem findInList_eq_some_iff {searchList : Bytes} {name : Name} {path : Path} :
    world.findInList searchList name = some path ↔
      world.IsFirstMatch (searchEntries searchList) name path := by
  unfold findInList IsFirstMatch
  rw [List.find?_map, Option.map_eq_some_iff]
  simp only [List.find?_eq_some_iff_append, leadsToExecutable_iff]
  constructor
  · rintro ⟨directory, ⟨executable, before, after, split, missed⟩, rfl⟩
    exact ⟨before, directory, after, split, rfl, executable, by simpa using missed⟩
  · rintro ⟨before, directory, after, split, rfl, executable, missed⟩
    exact ⟨directory, ⟨executable, before, after, split, by simpa using missed⟩, rfl⟩

theorem findInList_eq_none_iff {searchList : Bytes} {name : Name} :
    world.findInList searchList name = none ↔ ∀ directory ∈ searchEntries searchList,
      ¬ world.LeadsToExecutable (Path.join directory name.bytes) := by
  unfold findInList
  simp [List.find?_map, leadsToExecutable_iff]

end World

/-! ### What a name stands for -/

/-- The session with another search list of its own. -/
def Session.searching (session : Session) (searchList : String) : Session :=
  { session with vars := session.vars.set "PATH" searchList }

namespace Session

variable {session : Session} {world : World} {name : String}

theorem searchList?_searching (searchList : String) :
    (session.searching searchList).searchList? world = some searchList := by
  have own : (session.searching searchList).vars.get? "PATH" = some searchList :=
    Vars.get?_set_self session.vars "PATH" searchList
  rw [searchList?, var?, own]
  rfl

/-- The commands of the shell are found by their names, whatever files there are. -/
theorem resolve_eq_builtin_iff {builtin : Builtin} :
    session.resolve world name = some (.builtin builtin) ↔ builtin.name = name := by
  constructor
  · intro meaning
    exact (builtin_of_resolve meaning).symm
  · intro isName
    rw [resolve, Builtin.ofName?_eq_some_iff.mpr isName]

theorem resolve_empty : session.resolve world "" = none := rfl

/-- Any other name is looked for among the files. -/
theorem resolve_of_foreign (session : Session) (world : World)
    (foreign : ∀ builtin : Builtin, builtin.name ≠ name) :
    session.resolve world name =
      (world.findCommand (utf8 ((session.searchList? world).getD "")) session.directory
        (utf8 name)).map .external := by
  unfold resolve
  cases own : Builtin.ofName? name with
  | some builtin => exact absurd (Builtin.ofName?_eq_some_iff.mp own) (foreign builtin)
  | none => rfl

end Session

namespace World

variable {world : World} {searchList : Bytes} {directory path : Path}

theorem findCommand_of_isJust {name : Name} (just : path.IsJust name) :
    world.findCommand searchList directory path = world.findInList searchList name := by
  simp only [findCommand, ofPath_eq_plain_iff.mpr just]

theorem findCommand_of_not_isJust (given : path ≠ []) (notJust : ∀ name, ¬ path.IsJust name) :
    world.findCommand searchList directory path =
      if world.isExecutable (Path.join directory path) then some (Path.join directory path)
      else none := by
  cases form : CommandName.ofPath path with
  | nothing => exact absurd (ofPath_eq_nothing_iff.mp form) given
  | plain name => exact absurd (ofPath_eq_plain_iff.mp form) (notJust name)
  | path => simp only [findCommand, form]

/-! ### Two search lists -/

theorem searchEntries_append (first second : Bytes) :
    searchEntries (first ++ colon :: second) = searchEntries first ++ searchEntries second :=
  List.splitOn_append_cons_self first second

/-- A list that is made of two is searched by searching the first and, if nothing is found there,
the second. -/
theorem findCommand_append (world : World) (first second : Bytes) (directory path : Path) :
    world.findCommand (first ++ colon :: second) directory path =
      (world.findCommand first directory path).or (world.findCommand second directory path) := by
  unfold findCommand
  cases CommandName.ofPath path with
  | nothing => rfl
  | plain name =>
    show world.findInList _ name = (world.findInList first name).or (world.findInList second name)
    rw [findInList, searchEntries_append, List.map_append, List.find?_append]
    rfl
  | path => exact Option.or_self.symm

theorem mem_executables {name : Bytes} :
    name ∈ world.executables searchList ↔
      ∃ directory ∈ searchEntries searchList, name ∈ world.executablesIn directory := by
  rw [executables, mem_sortedSet, List.mem_flatMap]

/-- What is offered from a list that is made of two is what is offered from either. -/
theorem mem_executables_append (first second : Bytes) {name : Bytes} :
    name ∈ world.executables (first ++ colon :: second) ↔
      name ∈ world.executables first ∨ name ∈ world.executables second := by
  simp only [mem_executables, searchEntries_append, List.mem_append, or_and_right, exists_or]

end World

/-- The same of a session that has the list for itself, so that its own commands come first. -/
theorem Session.resolve_searching_append (session : Session) (world : World) (name : String)
    (first second : String) :
    (session.searching (first ++ ":" ++ second)).resolve world name =
      ((session.searching first).resolve world name).or
        ((session.searching second).resolve world name) := by
  by_cases own : ∃ builtin : Builtin, builtin.name = name
  · obtain ⟨builtin, isName⟩ := own
    rw [resolve_eq_builtin_iff.mpr isName, resolve_eq_builtin_iff.mpr isName]
    rfl
  · have foreign : ∀ builtin : Builtin, builtin.name ≠ name := fun builtin isName =>
      own ⟨builtin, isName⟩
    have joined : utf8 (first ++ ":" ++ second) = utf8 first ++ colon :: utf8 second := by
      rw [utf8_append, utf8_append, List.append_assoc]
      rfl
    simp only [resolve_of_foreign _ _ foreign, searchList?_searching, Option.getD_some, joined,
      World.findCommand_append, Option.map_or]
    rfl

/-! ### The search as a whole -/

/-- A name of one of the shell's own commands stands for that command. Any other single name, with
nothing behind it but slashes and pieces `.`, stands for the first match in the search list, which
is the variable of the session, or else that of the process, or else empty. The remaining names
stand for the file to which they lead from the session's directory, if it can be executed, and the
empty name for nothing. So a list that is made of two is searched in its first part and, if nothing
is found there, in its second, and what is offered from it is offered from one of them. -/
theorem resolve_firstMatch (session : Session) (world : World) :
    (∀ name builtin,
      session.resolve world name = some (.builtin builtin) ↔ builtin.name = name) ∧
    (∀ name, (∀ builtin : Builtin, builtin.name ≠ name) →
      (∀ single, Path.IsJust (utf8 name) single → ∀ directories,
        directories = (utf8 (((session.vars.get? "PATH").or (world.var? "PATH")).getD "")).splitOn
          colon →
        (∀ path, session.resolve world name = some (.external path) ↔
          world.IsFirstMatch directories single path) ∧
        (session.resolve world name = none ↔ ∀ directory ∈ directories,
          ¬ world.LeadsToExecutable (Path.join directory single.bytes))) ∧
      (name ≠ "" → (∀ single, ¬ Path.IsJust (utf8 name) single) → ∀ path,
        path = Path.join session.directory (utf8 name) →
        (session.resolve world name = some (.external path) ↔ world.LeadsToExecutable path) ∧
        (session.resolve world name = none ↔ ¬ world.LeadsToExecutable path)) ∧
      (name = "" → session.resolve world name = none)) ∧
    (∀ first second name,
      (session.searching (first ++ ":" ++ second)).resolve world name =
        ((session.searching first).resolve world name).or
          ((session.searching second).resolve world name)) ∧
    ∀ first second,
      (∀ directory path, world.findCommand (first ++ colon :: second) directory path =
        (world.findCommand first directory path).or (world.findCommand second directory path)) ∧
      (world.executables (first ++ colon :: second)).Pairwise (· < ·) ∧
      ∀ name, name ∈ world.executables (first ++ colon :: second) ↔
        name ∈ world.executables first ∨ name ∈ world.executables second := by
  have own : session.searchList? world = (session.vars.get? "PATH").or (world.var? "PATH") := by
    rw [Session.searchList?, Session.var?]
    cases session.vars.get? "PATH" <;> rfl
  refine ⟨fun name builtin => Session.resolve_eq_builtin_iff, ?_,
    fun first second name => session.resolve_searching_append world name first second,
    fun first second => ⟨world.findCommand_append first second, sortedSet_pairwise _,
      fun name => World.mem_executables_append first second⟩⟩
  intro name foreign
  have resolved := session.resolve_of_foreign world foreign
  rw [own] at resolved
  refine ⟨?_, ?_, ?_⟩
  · rintro single just directories rfl
    rw [World.findCommand_of_isJust just] at resolved
    constructor
    · intro path
      rw [resolved, ← searchEntries, ← World.findInList_eq_some_iff]
      simp
    · rw [resolved, Option.map_eq_none_iff]
      exact World.findInList_eq_none_iff
  · rintro given notJust path rfl
    rw [World.findCommand_of_not_isJust (mt utf8_eq_nil_iff.mp given) notJust] at resolved
    rw [resolved, World.leadsToExecutable_iff]
    split
    · next executable => simp [executable]
    · next missed => simp [missed]
  · rintro rfl
    exact Session.resolve_empty

/-- A missing directory, a directory of that name, a file without an execute bit and a link to
nothing are passed over, and the first hit is a link. -/
theorem resolve_firstMatch_link :
    let tree := ((((((scratchTree (utf8 "/r")).including [] (utf8 "/r/a/tool") .directory).including
      [] (utf8 "/r/b/tool") (toolNode 0o644)).including [] (utf8 "/r/c/tool")
        (.link (utf8 "gone"))).including [] (utf8 "/r/d/tool") (.link (utf8 "../real"))).including
          [] (utf8 "/r/real") (toolNode toolMode)).including [] (utf8 "/r/e/tool")
            (toolNode toolMode)
    let world := { scratchWorld (utf8 "/r") [("PATH", "/r/e")] [] false with tree := tree }
    let session := Session.start [("PATH", "/r/none:a:b:/r/c:d:/r/e")] (utf8 "/r")
    let tool : Name := ⟨utf8 "tool", by decide +kernel⟩
    (∀ builtin : Builtin, builtin.name ≠ "tool") ∧ Path.IsJust (utf8 "tool") tool ∧
      session.resolve world "tool" = some (.external (utf8 "d/tool")) ∧
      world.IsFirstMatch (["/r/none", "a", "b", "/r/c", "d", "/r/e"].map utf8) tool
        (utf8 "d/tool") := by
  intro tree world session tool
  have foreign : ∀ builtin : Builtin, builtin.name ≠ "tool" := by
    intro builtin
    cases builtin <;> decide
  have just : Path.IsJust (utf8 "tool") tool := ⟨[], by decide +kernel, by simp⟩
  have directories : ["/r/none", "a", "b", "/r/c", "d", "/r/e"].map utf8 =
      (utf8 (((session.vars.get? "PATH").or (world.var? "PATH")).getD "")).splitOn colon := by
    decide +kernel
  have found : session.resolve world "tool" = some (.external (utf8 "d/tool")) := by
    decide +kernel
  obtain ⟨-, files, -⟩ := resolve_firstMatch session world
  obtain ⟨meaning, -⟩ := (files "tool" foreign).1 tool just _ directories
  exact ⟨foreign, just, found, (meaning _).mp found⟩

end CommandShell
