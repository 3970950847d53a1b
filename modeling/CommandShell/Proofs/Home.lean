/-
This file proves where `cd` goes when its target starts with `~/`. What follows is
joined to the home directory, and that is not the same as writing it there: a rest
that starts with a slash is a path from the root, and the home directory has no
part in it. Any other rest is read in the home directory.

There joining and writing differ in one slash at most, when the home directory is
spelled with a slash at its end. A slash that stands twice counts as one, wherever
in the path it is, because no step comes of what is between.
-/

import CommandShell.Proofs.Entry
import CommandShell.Proofs.Text
import CommandShell.Scratch

namespace CommandShell

/-! ### Slashes -/

/-- Paths that both start at the root, or both do not, are joined to a directory in the same way. -/
theorem Path.exists_join_eq_append (directory : Path) (absolute : Bool) :
    ∃ before, ∀ path, Path.isAbsolute path = absolute →
      Path.join directory path = before ++ path := by
  cases absolute with
  | true => exact ⟨[], fun path isPath => Path.join_absolute isPath directory⟩
  | false =>
    by_cases closed : directory = [] ∨ Path.endsInSlash directory = true
    · refine ⟨directory, fun path isPath => ?_⟩
      rw [Path.join, isPath, if_neg Bool.false_ne_true, if_pos closed]
    · refine ⟨directory ++ [slash], fun path isPath => ?_⟩
      rw [Path.join, isPath, if_neg Bool.false_ne_true, if_neg closed, List.append_assoc,
        List.singleton_append]

/-- A path with a slash that stands twice leads to the place of the path with one. -/
theorem Tree.canonical_double_slash (tree : Tree) (base : Base) (before after : Bytes) :
    tree.canonical base (before ++ slash :: slash :: after) =
      tree.canonical base (before ++ slash :: after) := by
  have sameNul : (0 ∈ before ++ slash :: slash :: after) ↔ (0 ∈ before ++ slash :: after) := by
    simp [slash]
  unfold canonical
  simp only [sameNul, Path.isAbsolute_double_slash, tree.follow_double_slash]

theorem Session.changeDirectory_double_slash (session : Session) (world : World)
    (before after : Bytes) :
    session.changeDirectory world (before ++ slash :: slash :: after) =
      session.changeDirectory world (before ++ slash :: after) := by
  obtain ⟨ahead, joined⟩ := Path.exists_join_eq_append session.directory
    (Path.isAbsolute (before ++ slash :: after))
  have twice := joined (before ++ slash :: slash :: after)
    (Path.isAbsolute_double_slash before after)
  have once := joined (before ++ slash :: after) rfl
  unfold changeDirectory
  rw [twice, once, ← List.append_assoc, ← List.append_assoc, Tree.canonical_double_slash]

/-! ### The home directory -/

variable {session : Session} {world : World} {home : String}

/-- Joining a path to a directory leads to where it leads when it is written behind the directory,
unless it starts at the root. -/
theorem Session.changeDirectory_join (session : Session) (world : World) {directory path : Path}
    (given : directory ≠ []) (relative : Path.isAbsolute path = false) :
    session.changeDirectory world (Path.join directory path) =
      session.changeDirectory world (directory ++ slash :: path) := by
  unfold Path.join
  rw [relative, if_neg Bool.false_ne_true]
  by_cases closed : Path.endsInSlash directory = true
  · obtain ⟨front, rfl⟩ := Path.exists_of_endsInSlash closed
    rw [if_pos (Or.inr closed), List.append_assoc, List.append_assoc, List.singleton_append,
      List.singleton_append]
    exact (session.changeDirectory_double_slash world front path).symm
  · rw [if_neg (not_or.mpr ⟨given, closed⟩)]

theorem toList_tilde (rest : String) : ("~/" ++ rest).toList = '~' :: '/' :: rest.toList := by
  rw [String.toList_append]
  rfl

/-- A target that starts with `~/` is neither an option nor a request for help. -/
theorem cd_request_tilde (rest : String) :
    Builtin.cd.request ["~/" ++ rest] = .ok (.run ["~/" ++ rest]) := by
  have isOther (other : String) (head : other.toList.head? ≠ some '~') :
      ("~/" ++ rest == other) = false := by
    refine beq_eq_false_iff_ne.mpr fun same => head ?_
    rw [← same, toList_tilde]
    rfl
  have notHelp : asksForHelp ("~/" ++ rest) = false := by
    rw [asksForHelp, isOther "--help" (by decide), isOther "help" (by decide)]
    rfl
  have noOption : isOption ("~/" ++ rest) = false := by
    rw [isOption, toList_tilde]
    rfl
  show readArguments (some 1) ⟨false, false, 0⟩ ["~/" ++ rest] = _
  rw [readArguments, notHelp, noOption]
  rfl

/-- What comes of `cd` with a target, given what comes of changing to the directory that the target
stands for. -/
def cdResult (session : Session) (world : World) (target : String) (changed : DirectoryResult) :
    BuiltinResult :=
  match changed.result with
  | .ok () => .print changed.session changed.world [] 0
  | .error _ => .fail session world (.noDirectory target)

/-- With a home directory, `cd` joins what stands behind `~/` to it. -/
theorem cd_run_tilde (isHome : session.home? world = some home) (rest : String) :
    Builtin.cd.run ["~/" ++ rest] session world =
      cdResult session world ("~/" ++ rest)
        (session.changeDirectory world (Path.join (utf8 home) (utf8 rest))) := by
  have isTarget : cdTarget? session world (some ("~/" ++ rest)) =
      some (Path.join (utf8 home) (utf8 rest)) := by
    have notHome : ¬ ("~/" ++ rest = "" ∨ "~/" ++ rest = "~") := by
      rw [← String.toList_inj, ← String.toList_inj, toList_tilde]
      simp
    have behind : afterTilde? ("~/" ++ rest) = some rest := by
      rw [afterTilde?, toList_tilde]
      exact congrArg some String.ofList_toList
    simp only [cdTarget?, notHome, behind, isHome, if_false, Option.map_some]
  rw [Builtin.run, cd_request_tilde]
  show runCd session world (some ("~/" ++ rest)) = _
  simp only [runCd, isTarget]
  by_cases somewhere : ∃ location,
      session.Reaches world (Path.join (utf8 home) (utf8 rest)) location
  · obtain ⟨location, reaches⟩ := somewhere
    rw [reaches.changeDirectory_eq]
    rfl
  · obtain ⟨error, refused⟩ := session.changeDirectory_eq_error world
      (Path.join (utf8 home) (utf8 rest)) fun location reaches => somewhere ⟨location, reaches⟩
    rw [refused]
    rfl

theorem isAbsolute_utf8_iff {text : String} :
    Path.isAbsolute (utf8 text) = true ↔ text.toList.head? = some '/' := by
  have starts : Path.isAbsolute (utf8 text) = true ↔ utf8 "/" <+: utf8 text := by
    rw [Path.isAbsolute, beq_iff_eq, List.head?_eq_some_iff]
    exact exists_congr fun _ => eq_comm
  rw [starts, utf8_isPrefix_iff, List.head?_eq_some_iff]
  exact exists_congr fun _ => eq_comm

/-- With a home directory, `cd` to `~/` and a rest goes where the rest leads when it is written behind
the home directory and a slash. But a rest that starts with a slash itself is read from the root. -/
theorem cd_tilde (isHome : session.home? world = some home) (given : home ≠ "") (rest : String) :
    Builtin.cd.run ["~/" ++ rest] session world =
      cdResult session world ("~/" ++ rest)
        (session.changeDirectory world
          (utf8 (if rest.toList.head? = some '/' then rest else home ++ "/" ++ rest))) := by
  rw [cd_run_tilde isHome]
  by_cases absolute : Path.isAbsolute (utf8 rest) = true
  · rw [if_pos (isAbsolute_utf8_iff.mp absolute), Path.join_absolute absolute]
  · have relative : Path.isAbsolute (utf8 rest) = false := Bool.eq_false_iff.mpr absolute
    have someBytes : utf8 home ≠ [] := mt utf8_eq_nil_iff.mp given
    rw [if_neg (mt isAbsolute_utf8_iff.mpr absolute), utf8_append, utf8_append, List.append_assoc,
      session.changeDirectory_join world someBytes relative]
    rfl

/-- A home directory that is spelled with a slash at its end. -/
theorem cd_tilde_docs :
    let tree := (scratchTree (utf8 "/r")).including [] (utf8 "/r/home/docs") .directory
    let world := { scratchWorld (utf8 "/r") [] [] false with tree := tree }
    let session := Session.start [("HOME", "/r/home/")] (utf8 "/r")
    session.home? world = some "/r/home/" ∧
      Builtin.cd.run ["~/docs"] session world =
        cdResult session world "~/docs"
          (session.changeDirectory world (utf8 "/r/home//docs")) ∧
      (Builtin.cd.run ["~/docs"] session world).session.directory = utf8 "/r/home/docs" := by
  intro tree world session
  have isHome : session.home? world = some "/r/home/" := by decide +kernel
  have runs := cd_tilde isHome (by decide) "docs"
  exact ⟨isHome, runs, by decide +kernel⟩

/-- With a slash too many behind the tilde `cd` looks in the root, although the directory is there
when the same is written behind the home directory. -/
theorem cd_tilde_double_slash :
    let tree := (scratchTree (utf8 "/r")).including [] (utf8 "/r/home/docs") .directory
    let world := { scratchWorld (utf8 "/r") [] [] false with tree := tree }
    let session := Session.start [("HOME", "/r/home")] (utf8 "/r")
    session.home? world = some "/r/home" ∧
      (Builtin.cd.run ["~/" ++ "/docs"] session world).status =
        .error (.noDirectory "~//docs") ∧
      (session.changeDirectory world (utf8 ("/r/home" ++ "/" ++ "/docs"))).session.directory =
        utf8 "/r/home/docs" := by
  decide +kernel

end CommandShell
