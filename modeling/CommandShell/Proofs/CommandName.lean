/-
This file tells the command names that are looked for in the search list from
those that are paths of their own. What decides is not whether there is a slash in
the name: slashes at the end and pieces `.` behind a name are passed over, so a
name with a slash can still be a single name, and it is then looked for as if
they were not there. All other names with a slash stand for one place, and the
search list has no part in that.
-/

import CommandShell.Proofs.Splitting
import CommandShell.Scratch
import CommandShell.Search

namespace CommandShell

/-! ### Single names -/

/-- The path is a name, with nothing behind it but slashes and pieces `.`. -/
def Path.IsJust (path : Path) (name : Name) : Prop :=
  ∃ pieces, path.splitOn slash = name.bytes :: pieces ∧
    ∀ piece ∈ pieces, piece = [] ∨ piece = [dot]

/-- The steps of a piece that lead to another place. -/
def moves (piece : Bytes) : List Step :=
  (Step.ofPiece? piece).toList.filter fun step => step ≠ .stay ∧ step ≠ .close

theorem moves_name (name : Name) : moves name.bytes = [.down name] := by
  rw [moves, Step.ofPiece?, dif_pos name.isName]
  rfl

theorem moves_eq_nil_iff {piece : Bytes} (noSlash : slash ∉ piece) :
    moves piece = [] ↔ piece = [] ∨ piece = [dot] := by
  constructor
  · intro idle
    by_cases empty : piece = []
    · exact Or.inl empty
    · by_cases single : piece = [dot]
      · exact Or.inr single
      · by_cases double : piece = [dot, dot]
        · subst double
          exact absurd idle (by decide)
        · have isName : IsName piece := ⟨empty, noSlash, single, double⟩
          rw [moves_name ⟨piece, isName⟩] at idle
          cases idle
  · rintro (rfl | rfl) <;> rfl

/-- A slash at the end of a path is a step of its own, but it leads nowhere. -/
theorem moves_steps (path : Path) :
    (path.steps.filter fun step => step ≠ .stay ∧ step ≠ .close) =
      (path.splitOn slash).flatMap moves := by
  have ending : ((if path.endsInSlash then [Step.close] else []).filter
      fun step => step ≠ .stay ∧ step ≠ .close) = [] := by
    split <;> rfl
  rw [Path.steps, List.filter_append, ending, List.append_nil, List.filterMap_eq_flatMap_toList,
    List.filter_flatMap]
  rfl

theorem isAbsolute_iff {byte : UInt8} {rest first : Bytes} {pieces : List Bytes}
    (split : (byte :: rest).splitOn slash = first :: pieces) :
    Path.isAbsolute (byte :: rest) = true ↔ first = [] := by
  rw [List.splitOn_cons_eq_if_modifyHead] at split
  have front : Path.isAbsolute (byte :: rest) = (byte == slash) := rfl
  rw [front]
  split at split
  · next same =>
    cases split
    exact iff_of_true same rfl
  · next different =>
    refine iff_of_false different ?_
    rintro rfl
    cases found : rest.splitOn slash with
    | nil => exact List.splitOn_ne_nil _ _ found
    | cons head others => simp [found] at split

/-! ### What is looked for -/

/-- A command name is looked for in the search list just if it is a single name. -/
theorem ofPath_eq_plain_iff {path : Path} {name : Name} :
    CommandName.ofPath path = .plain name ↔ path.IsJust name := by
  have noSlash : ∀ piece ∈ path.splitOn slash, slash ∉ piece := fun piece member within =>
    (mem_of_mem_piece path piece member slash within).2 rfl
  cases path with
  | nil =>
    refine iff_of_false (by simp [CommandName.ofPath]) ?_
    rintro ⟨pieces, split, -⟩
    rw [List.splitOn_nil] at split
    exact name.isName.1 (List.cons_eq_cons.mp split).1.symm
  | cons byte rest =>
    obtain ⟨first, others, split⟩ := List.exists_cons_of_ne_nil
      (List.splitOn_ne_nil slash (byte :: rest))
    have steps := moves_steps (byte :: rest)
    rw [split] at noSlash
    rw [split, List.flatMap_cons] at steps
    have idle : others.flatMap moves = [] ↔ ∀ piece ∈ others, piece = [] ∨ piece = [dot] := by
      rw [List.flatMap_eq_nil_iff]
      exact forall₂_congr fun piece member =>
        moves_eq_nil_iff (noSlash piece (List.mem_cons_of_mem _ member))
    simp only [CommandName.ofPath, List.cons_ne_nil, if_false, isAbsolute_iff split, split,
      List.head?_cons, Option.some.injEq, steps]
    by_cases isName : IsName first
    · have notRoot := isName.1
      have notDot := isName.2.2.1
      have down := moves_name ⟨first, isName⟩
      dsimp only at down
      rw [if_neg (by simp [notRoot, notDot]), down]
      constructor
      · intro plain
        cases later : others.flatMap moves with
        | nil =>
          rw [later] at plain
          cases plain
          exact ⟨others, split, idle.mp later⟩
        | cons step steps =>
          rw [later] at plain
          cases plain
      · rintro ⟨pieces, same, nothing⟩
        rw [split] at same
        obtain ⟨_, _⟩ := name
        cases same
        rw [idle.mpr nothing]
        rfl
    · -- The first piece is empty, `.` or `..`, and a path that starts so is a path of its own.
      refine iff_of_false ?_ ?_
      · by_cases root : first = []
        · simp [root]
        · by_cases single : first = [dot]
          · simp [single]
          · have up : first = [dot, dot] := by
              by_contra double
              exact isName ⟨root, noSlash first List.mem_cons_self, single, double⟩
            subst up
            simp [show moves [dot, dot] = [.up] from rfl]
      · rintro ⟨pieces, same, -⟩
        exact isName ((List.cons_eq_cons.mp (split.symm.trans same)).1 ▸ name.isName)

theorem ofPath_eq_nothing_iff {path : Path} :
    CommandName.ofPath path = .nothing ↔ path = [] := by
  unfold CommandName.ofPath
  split
  · next empty => exact iff_of_true rfl empty
  · next some =>
    refine iff_of_false ?_ some
    split
    · exact fun impossible => nomatch impossible
    · split <;> exact fun impossible => nomatch impossible

/-- A name with a slash in it stands for a place of its own, whatever the search list is, unless it
is a single name followed by nothing but slashes and pieces `.`. Such a name is looked for in the
search list as if they were not there. -/
theorem findCommand_of_slash_mem {path : Path} (separated : slash ∈ path) (world : World)
    (directory : Path) :
    ((∀ name, ¬ path.IsJust name) → ∀ searchList,
      (∀ other, world.findCommand searchList directory path =
        world.findCommand other directory path) ∧
      (world.findCommand searchList directory path = some (Path.join directory path) ↔
        world.isExecutable (Path.join directory path) = true) ∧
      (world.findCommand searchList directory path = none ↔
        world.isExecutable (Path.join directory path) = false)) ∧
    ∀ name, path.IsJust name → ∀ searchList,
      world.findCommand searchList directory path = world.findInList searchList name := by
  constructor
  · intro notJust searchList
    have own : CommandName.ofPath path = .path := by
      cases form : CommandName.ofPath path with
      | nothing =>
        rw [ofPath_eq_nothing_iff.mp form] at separated
        cases separated
      | plain name => exact absurd (ofPath_eq_plain_iff.mp form) (notJust name)
      | path => rfl
    simp only [World.findCommand, own]
    cases world.isExecutable (Path.join directory path) <;> simp
  · intro name just searchList
    simp only [World.findCommand, ofPath_eq_plain_iff.mpr just]

/-- A tool is found below the current directory with any search list. -/
theorem findCommand_of_slash_mem_tool :
    let tree := (scratchTree (utf8 "/r")).including [] (utf8 "/r/bin/tool") (toolNode toolMode)
    let world := { scratchWorld (utf8 "/r") [] [] false with tree := tree }
    slash ∈ utf8 "bin/./tool" ∧ (∀ name, ¬ Path.IsJust (utf8 "bin/./tool") name) ∧
      ∀ searchList, world.findCommand searchList (utf8 "/r") (utf8 "bin/./tool") =
        some (utf8 "/r/bin/./tool") := by
  intro tree world
  have separated : slash ∈ utf8 "bin/./tool" := by decide +kernel
  have notJust : ∀ name, ¬ Path.IsJust (utf8 "bin/./tool") name := by
    intro name just
    have plain := ofPath_eq_plain_iff.mpr just
    have own : CommandName.ofPath (utf8 "bin/./tool") = .path := by rfl
    rw [own] at plain
    cases plain
  have executable : world.isExecutable (Path.join (utf8 "/r") (utf8 "bin/./tool")) = true := by
    decide +kernel
  obtain ⟨ownPlace, -⟩ := findCommand_of_slash_mem separated world (utf8 "/r")
  refine ⟨separated, notJust, fun searchList => ?_⟩
  exact (ownPlace notJust searchList).2.1.mpr executable

/-- A slash at the end of a name does not keep it out of the search list, so two search lists can
find different things. -/
theorem findCommand_trailing_slash :
    let tree := (scratchTree (utf8 "/r")).including [] (utf8 "/r/bin/tool") (toolNode toolMode)
    let world := { scratchWorld (utf8 "/r") [] [] false with tree := tree }
    slash ∈ utf8 "tool/" ∧
      world.isExecutable (Path.join (utf8 "/r") (utf8 "tool/")) = false ∧
      world.findCommand (utf8 "/r") (utf8 "/r") (utf8 "tool/") = none ∧
      world.findCommand (utf8 "/r/bin") (utf8 "/r") (utf8 "tool/") = some (utf8 "/r/bin/tool") := by
  decide +kernel

end CommandShell
