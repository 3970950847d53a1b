/-
This file proves that completion offers what resolution finds. Completion lists the
directories of the search list and keeps the executables among the entries.
Resolution never lists a directory: it puts the name behind each path of the list
and asks whether this is an executable. They agree on every name without a
slash, but for one thing. An empty entry of the search list names no directory that
could be listed, while a name put behind it is looked for in the directory of the
process.
-/

import CommandShell.Proofs.CommandName
import CommandShell.Proofs.Entry
import CommandShell.Proofs.Text
import CommandShell.Scratch

namespace CommandShell

variable {session : Session} {world : World} {searchList text name : String}

/-! ### What is offered -/

theorem World.mem_executablesIn {directory : Path} {bytes : Bytes} :
    bytes ∈ world.executablesIn directory ↔
      (∃ entry ∈ world.names directory, entry.bytes = bytes) ∧
        world.isExecutable (Path.join directory bytes) = true ∧ (decode? bytes).isSome := by
  unfold World.executablesIn
  rw [List.mem_filterMap]
  constructor
  · rintro ⟨entry, listed, kept⟩
    split at kept
    · next passes =>
      cases kept
      exact ⟨⟨entry, listed, rfl⟩, passes⟩
    · cases kept
  · rintro ⟨⟨entry, listed, rfl⟩, passes⟩
    exact ⟨entry, listed, if_pos passes⟩

/-- A name is offered if it starts with the text and is a command of the shell, or an executable
entry of a directory in the search list. -/
theorem World.mem_candidates :
    name ∈ world.candidates text (some searchList) ↔
      text.toList <+: name.toList ∧ ((∃ builtin : Builtin, builtin.name = name) ∨
        ∃ directory ∈ searchEntries (utf8 searchList),
          (∃ entry ∈ world.names directory, entry.bytes = utf8 name) ∧
            world.isExecutable (Path.join directory (utf8 name)) = true) := by
  have decodes : ∀ bytes, decode? bytes = some name ↔ bytes = utf8 name := by
    intro bytes
    constructor
    · exact fun decoded => (utf8_of_decode? decoded).symm
    · rintro rfl
      exact decode?_utf8 name
  have own : utf8 name ∈ Builtin.all.map (fun builtin => utf8 builtin.name) ↔
      ∃ builtin : Builtin, builtin.name = name := by
    rw [List.mem_map]
    constructor
    · rintro ⟨builtin, -, same⟩
      exact ⟨builtin, utf8_injective same⟩
    · rintro ⟨builtin, rfl⟩
      exact ⟨builtin, builtin.mem_all, rfl⟩
  simp only [World.candidates, List.mem_filterMap, decodes, exists_eq_right, List.mem_filter,
    List.isPrefixOf_iff_prefix, utf8_isPrefix_iff, mem_sortedSet, List.mem_append, own,
    List.mem_flatMap, World.mem_executablesIn, decode?_utf8, Option.isSome_some, and_true]
  exact And.comm

theorem Builtin.isPlain_name (builtin : Builtin) :
    builtin.name ≠ "" ∧ '/' ∉ builtin.name.toList := by
  cases builtin <;> decide

theorem World.candidates_pairwise (world : World) (text : String) (searchList : Option String) :
    (world.candidates text searchList).Pairwise fun first second => utf8 first < utf8 second := by
  unfold World.candidates
  refine List.pairwise_filterMap.mpr (((sortedSet_pairwise _).filter _).imp ?_)
  intro first second less firstName isFirst secondName isSecond
  rw [utf8_of_decode? isFirst, utf8_of_decode? isSecond]
  exact less

/-! ### What is found -/

theorem World.findInList_isSome_iff {searchList : Bytes} {name : Name} :
    (world.findInList searchList name).isSome = true ↔
      ∃ directory ∈ searchEntries searchList,
        world.isExecutable (Path.join directory name.bytes) = true := by
  unfold World.findInList
  simp [List.find?_isSome]

/-- A name without a slash stands for a command just if it is one of the shell, or an executable
when it is put behind a path of the search list. -/
theorem Session.resolve_isSome_iff (standing : world.tree.Standing world.cwd.location)
    (isList : session.searchList? world = some searchList) (given : name ≠ "")
    (noSlash : '/' ∉ name.toList) :
    (session.resolve world name).isSome = true ↔
      (∃ builtin : Builtin, builtin.name = name) ∨
        ∃ directory ∈ searchEntries (utf8 searchList),
          world.isExecutable (Path.join directory (utf8 name)) = true := by
  have someBytes : utf8 name ≠ [] := mt utf8_eq_nil_iff.mp given
  have noSlashByte : slash ∉ utf8 name := mt slash_mem_utf8_iff.mp noSlash
  unfold Session.resolve
  cases own : Builtin.ofName? name with
  | some builtin => exact iff_of_true rfl (Or.inl ⟨builtin, Builtin.ofName?_eq_some_iff.mp own⟩)
  | none =>
    have foreign : ¬ ∃ builtin : Builtin, builtin.name = name := by
      rintro ⟨builtin, same⟩
      rw [Builtin.ofName?_eq_some_iff.mpr same] at own
      cases own
    rw [isList, Option.getD_some, Option.isSome_map, or_iff_right foreign]
    by_cases isName : IsName (utf8 name)
    · have plain : CommandName.ofPath (utf8 name) = .plain ⟨utf8 name, isName⟩ :=
        ofPath_eq_plain_iff.mpr ⟨[], List.splitOn_eq_singleton noSlashByte, by simp⟩
      simp only [World.findCommand, plain]
      exact World.findInList_isSome_iff
    · -- The other names are `.` and `..`, and no executable is found behind any path.
      have never : ∀ directory, world.isExecutable (Path.join directory (utf8 name)) ≠ true := by
        intro directory executable
        obtain ⟨entry, same, -⟩ :=
          World.exists_name_of_isExecutable_join standing someBytes noSlashByte executable
        exact isName (same ▸ entry.isName)
      have notPlain : ∀ entry, CommandName.ofPath (utf8 name) ≠ .plain entry := by
        intro entry plain
        obtain ⟨pieces, split, -⟩ := ofPath_eq_plain_iff.mp plain
        rw [List.splitOn_eq_singleton noSlashByte] at split
        exact isName ((List.cons_eq_cons.mp split).1 ▸ entry.isName)
      refine iff_of_false ?_ ?_
      · cases form : CommandName.ofPath (utf8 name) with
        | nothing => simp [World.findCommand, form]
        | plain entry => exact absurd form (notPlain entry)
        | path => simp [World.findCommand, form, never]
      · rintro ⟨directory, -, executable⟩
        exact never directory executable

/-! ### What is offered is what is found -/

/-- Completion offers names in strict byte order. Each starts with the text, has no slash and stands
for a command. A name without a slash that starts with the text stands for a command just if it is
offered, or if the search list has an empty entry and the name is an executable in the directory of
the process. All that is asked of the tree is that the directory of the process is one in it, or lay
below one before it was removed. -/
theorem candidates_resolve (standing : world.tree.Standing world.cwd.location)
    (isList : session.searchList? world = some searchList) (text : String) :
    (world.candidates text (some searchList)).Pairwise
        (fun first second => utf8 first < utf8 second) ∧
      (∀ name ∈ world.candidates text (some searchList),
        text.toList <+: name.toList ∧ '/' ∉ name.toList ∧
          (session.resolve world name).isSome = true) ∧
      ∀ name, name ≠ "" → '/' ∉ name.toList → text.toList <+: name.toList →
        ((session.resolve world name).isSome = true ↔
          name ∈ world.candidates text (some searchList) ∨
            [] ∈ searchEntries (utf8 searchList) ∧ world.isExecutable (utf8 name) = true) := by
  refine ⟨world.candidates_pairwise text _, ?_, ?_⟩
  · intro name offered
    obtain ⟨starts, own | ⟨directory, member, ⟨entry, -, bytes⟩, executable⟩⟩ :=
      World.mem_candidates.mp offered
    · obtain ⟨builtin, rfl⟩ := own
      obtain ⟨given, noSlash⟩ := builtin.isPlain_name
      exact ⟨starts, noSlash, (Session.resolve_isSome_iff standing isList given noSlash).mpr
        (Or.inl ⟨builtin, rfl⟩)⟩
    · have isName : IsName (utf8 name) := bytes ▸ entry.isName
      have given : name ≠ "" := mt utf8_eq_nil_iff.mpr isName.1
      have noSlash : '/' ∉ name.toList := mt slash_mem_utf8_iff.mpr isName.2.1
      exact ⟨starts, noSlash, (Session.resolve_isSome_iff standing isList given noSlash).mpr
        (Or.inr ⟨directory, member, executable⟩)⟩
  · intro name given noSlash starts
    rw [Session.resolve_isSome_iff standing isList given noSlash, World.mem_candidates]
    constructor
    · rintro (own | ⟨directory, member, executable⟩)
      · exact Or.inl ⟨starts, Or.inl own⟩
      · obtain ⟨entry, bytes, listed⟩ := World.exists_name_of_isExecutable_join standing
          (mt utf8_eq_nil_iff.mp given) (mt slash_mem_utf8_iff.mp noSlash) executable
        by_cases empty : directory = []
        · subst empty
          rw [Path.nil_join] at executable
          exact Or.inr ⟨member, executable⟩
        · exact Or.inl ⟨starts, Or.inr
            ⟨directory, member, ⟨entry, listed empty, bytes⟩, executable⟩⟩
    · rintro (⟨-, own | ⟨directory, member, -, executable⟩⟩ | ⟨member, executable⟩)
      · exact Or.inl own
      · exact Or.inr ⟨directory, member, executable⟩
      · exact Or.inr ⟨[], member, by rw [Path.nil_join]; exact executable⟩

/-- A search list with a missing directory, a link to a directory and an empty entry. One tool is
offered and found behind the link, another one is only found, in the directory of the process. -/
theorem candidates_resolve_link :
    let tree := (((scratchTree (utf8 "/r")).including [] (utf8 "/r/bin/tool")
      (toolNode toolMode)).including [] (utf8 "/r/link") (.link (utf8 "bin"))).including []
        (utf8 "/r/test") (toolNode toolMode)
    let world := { scratchWorld (utf8 "/r") [] [] false with tree := tree }
    let searchList := "/r/nope:link/:"
    let session := Session.start [("PATH", searchList)] (utf8 "/r")
    world.tree.Standing world.cwd.location ∧ session.searchList? world = some searchList ∧
      "tool" ∈ world.candidates "t" (some searchList) ∧
      (session.resolve world "tool").isSome = true ∧
      "test" ∉ world.candidates "t" (some searchList) ∧
      (session.resolve world "test").isSome = true := by
  intro tree world searchList session
  have leads : world.tree.canonical (.standing []) (utf8 "/r") = .ok world.cwd.location := by
    decide +kernel
  have stands : world.tree.get? world.cwd.location = some .directory := by decide +kernel
  have standing := Tree.Standing.of_canonical (by decide) leads stands
  have isList : session.searchList? world = some searchList := by decide +kernel
  have offered : "tool" ∈ world.candidates "t" (some searchList) := by decide +kernel
  have notOffered : "test" ∉ world.candidates "t" (some searchList) := by decide +kernel
  have inProcess : [] ∈ searchEntries (utf8 searchList) ∧
      world.isExecutable (utf8 "test") = true := by decide +kernel
  obtain ⟨-, onlyFound, agree⟩ := candidates_resolve standing isList "t"
  refine ⟨standing, isList, offered, (onlyFound "tool" offered).2.2, notOffered, ?_⟩
  exact (agree "test" (by decide) (by decide) (by decide)).mpr (Or.inr inProcess)

end CommandShell
