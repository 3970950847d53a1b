/-
This file proves that the way to an entry goes through its directory. Two
questions about the tree are asked in different words: whether a name joined to the
path of a directory is an executable, and which names the directory at the end of
that path lists. The path of the entry is never cut at the directory when it is
followed, and the last directory that is passed need not be spelled in it, because
a link may stand there.

What settles it is the last step. A walk that ends with another step than the one
to an entry ends in a directory, and a walk that ends with that step has passed
the directory to which the steps before it lead.
-/

import CommandShell.Proofs.Directory

namespace CommandShell

/-! ### The last step -/

/-- Steps that remain where they are. -/
def Idle (steps : List Step) : Prop :=
  ∀ step ∈ steps, step = .stay ∨ step = .close

/-- The step goes down to something that stands in a directory, and this is how a walk to that
directory ends. -/
def EntersFrom (tree : Tree) (above : Except Fault Spot) (step : Step) : Prop :=
  ∃ directory name, step = .down name ∧ above = .ok (.taken directory) ∧
    tree.get? directory = some .directory ∧ (tree.get? (directory ++ [name])).isSome

namespace Tree

variable {tree : Tree} {location : Location} {pause : List Step} {step : Step}

theorem walkUntilLink_idle {follow : Location → List Step → Except Fault Spot}
    (idle : Idle pause) (here : Location) :
    tree.walkUntilLink .inspect follow here pause = .ok (.taken here) := by
  induction pause with
  | nil => rfl
  | cons first rest inductionHypothesis =>
    have later := inductionHypothesis fun step member => idle step (List.mem_cons_of_mem _ member)
    rcases idle first List.mem_cons_self with rfl | rfl <;> exact later

theorem walkUntilLink_last {follow : Location → List Step → Except Fault Spot}
    (followed : ∀ here steps, tree.Standing here →
      follow here (steps ++ [step]) = .ok (.taken location) →
      EntersFrom tree (follow here (steps ++ pause)) step ∨ tree.Standing location)
    (idle : Idle pause) {here : Location} (standing : tree.Standing here) (steps : List Step)
    (walked : tree.walkUntilLink .inspect follow here (steps ++ [step]) = .ok (.taken location)) :
    EntersFrom tree (tree.walkUntilLink .inspect follow here (steps ++ pause)) step ∨
      tree.Standing location := by
  induction steps generalizing here with
  | nil =>
    rw [List.nil_append] at walked ⊢
    cases step with
    | stay =>
      cases walked
      exact Or.inr standing
    | close =>
      cases walked
      exact Or.inr standing
    | up =>
      cases walked
      exact Or.inr standing.dropLast
    | down name =>
      refine Or.inl ⟨here, name, rfl, walkUntilLink_idle idle here, standing.get?, ?_⟩
      cases stands : tree.get? (here ++ [name]) with
      | none =>
        simp only [walkUntilLink, stands, reduceCtorEq, false_and, if_false] at walked
        split at walked <;> cases walked
      | some node => rfl
  | cons first rest inductionHypothesis =>
    rw [List.cons_append] at walked ⊢
    cases first with
    | stay => exact inductionHypothesis standing walked
    | close => exact inductionHypothesis standing walked
    | up => exact inductionHypothesis standing.dropLast walked
    | down name =>
      unfold walkUntilLink at walked ⊢
      rw [if_neg (by simp)] at walked ⊢
      split at walked
      · cases walked
      · next short =>
        rw [if_neg short, if_neg (by simp)]
        rw [if_neg (by simp)] at walked
        cases stands : tree.get? (here ++ [name]) with
        | none => simp [stands] at walked
        | some node =>
          rw [stands] at walked
          cases node with
          | directory =>
            exact inductionHypothesis (standing.down (Nat.le_of_not_lt short) stands) walked
          | link target =>
            dsimp only at walked ⊢
            rw [← List.append_assoc] at walked ⊢
            refine followed _ _ ?_ walked
            split
            · exact tree.standing_root
            · exact standing
          | file mode content => simp at walked
          | device device => simp at walked

/-- A walk ends in a directory, unless its last step goes down to an entry. Then the steps before
lead to the directory of the entry. -/
theorem walk_last (idle : Idle pause) (links : Nat) {here : Location}
    (standing : tree.Standing here) (steps : List Step)
    (walked : tree.walk .inspect links here (steps ++ [step]) = .ok (.taken location)) :
    EntersFrom tree (tree.walk .inspect links here (steps ++ pause)) step ∨
      tree.Standing location := by
  induction links generalizing here steps with
  | zero =>
    unfold walk at walked ⊢
    refine walkUntilLink_last ?_ idle standing steps walked
    intro _ _ _ refused
    cases refused
  | succ links inductionHypothesis =>
    exact walkUntilLink_last (fun _ steps standing => inductionHypothesis standing steps) idle
      standing steps walked

/-- The same from a removed directory, in which there is no entry. -/
theorem walkFrom_last (idle : Idle pause) {here : Location} (standing : tree.Standing here)
    (removed : Nat) (steps : List Step)
    (walked : tree.walkFrom .inspect here removed (steps ++ [step]) = .ok (.taken location)) :
    EntersFrom tree (tree.walkFrom .inspect here removed (steps ++ pause)) step ∨
      tree.Standing location := by
  have now : ∀ steps, tree.walkFrom .inspect here 0 steps = tree.walk .inspect linkLimit here steps :=
    fun steps => by cases steps <;> rfl
  induction steps generalizing removed with
  | nil =>
    cases removed with
    | zero =>
      rw [now] at walked ⊢
      exact walk_last idle linkLimit standing [] walked
    | succ removed =>
      rw [List.nil_append] at walked
      cases step with
      | stay => cases walked
      | close => cases walked
      | up =>
        cases removed with
        | zero =>
          cases walked
          exact Or.inr standing
        | succ removed => cases walked
      | down name => simp [walkFrom] at walked
  | cons first rest inductionHypothesis =>
    cases removed with
    | zero =>
      rw [now] at walked ⊢
      exact walk_last idle linkLimit standing (first :: rest) walked
    | succ removed =>
      rw [List.cons_append] at walked ⊢
      cases first with
      | stay => exact inductionHypothesis (removed + 1) walked
      | close => exact inductionHypothesis (removed + 1) walked
      | up => exact inductionHypothesis removed walked
      | down name => simp [walkFrom] at walked

end Tree

/-! ### A name joined to a path -/

namespace Step

variable {piece : Bytes}

theorem exists_ofPiece? (given : piece ≠ []) (noSlash : slash ∉ piece) :
    ∃ step, ofPiece? piece = some step := by
  unfold ofPiece?
  by_cases single : piece = [dot]
  · subst single
    exact ⟨.stay, by decide⟩
  · by_cases double : piece = [dot, dot]
    · subst double
      exact ⟨.up, by decide⟩
    · exact ⟨.down ⟨piece, given, noSlash, single, double⟩, dif_pos _⟩

theorem bytes_of_ofPiece? {name : Name} (isStep : ofPiece? piece = some (.down name)) :
    name.bytes = piece := by
  unfold ofPiece? at isStep
  split at isStep
  · cases isStep
    rfl
  · split at isStep
    · cases isStep
    · split at isStep <;> cases isStep

end Step

namespace Path

variable {directory : Path} {piece : Bytes}

theorem isAbsolute_eq_false (noSlash : slash ∉ piece) : isAbsolute piece = false := by
  cases piece with
  | nil => rfl
  | cons first rest =>
    have different : first ≠ slash := fun same => noSlash (same ▸ List.mem_cons_self)
    simpa [isAbsolute] using different

theorem exists_of_endsInSlash (closed : endsInSlash directory = true) :
    ∃ front, directory = front ++ [slash] :=
  List.getLast?_eq_some_iff.mp (by simpa [endsInSlash] using closed)

theorem endsInSlash_append_eq_false (before : Bytes) (given : piece ≠ [])
    (noSlash : slash ∉ piece) : endsInSlash (before ++ piece) = false := by
  unfold endsInSlash
  rw [List.getLast?_append_of_ne_nil _ given, List.getLast?_eq_some_getLast given]
  rw [beq_eq_false_iff_ne]
  intro same
  exact noSlash (Option.some.inj same ▸ List.getLast_mem given)

theorem nil_join (path : Path) : join [] path = path := by
  unfold join
  split <;> rfl

theorem steps_of_not_mem (given : piece ≠ []) (noSlash : slash ∉ piece) :
    steps piece = (Step.ofPiece? piece).toList := by
  have ended := endsInSlash_append_eq_false [] given noSlash
  rw [List.nil_append] at ended
  rw [steps, ended, List.splitOn_eq_singleton noSlash]
  cases step : Step.ofPiece? piece <;> simp [step]

/-- The steps to a directory and the steps to an entry in it begin alike. Behind them the path of
the directory can only ask for a directory, and the path of the entry names it. -/
theorem exists_steps_join (directory : Path) (given : piece ≠ []) (noSlash : slash ∉ piece) :
    ∃ above pause, Idle pause ∧ steps directory = above ++ pause ∧
      steps (join directory piece) = above ++ (Step.ofPiece? piece).toList := by
  have relative := isAbsolute_eq_false noSlash
  by_cases empty : directory = []
  · subst empty
    refine ⟨[], [], by simp [Idle], rfl, ?_⟩
    rw [nil_join, steps_of_not_mem given noSlash, List.nil_append]
  · by_cases closed : endsInSlash directory = true
    · obtain ⟨front, rfl⟩ := exists_of_endsInSlash closed
      have split : ∀ rest, (front ++ [slash] ++ rest).splitOn slash =
          front.splitOn slash ++ rest.splitOn slash := by
        intro rest
        rw [List.append_assoc, List.singleton_append, List.splitOn_append_cons_self]
      refine ⟨(front.splitOn slash).filterMap Step.ofPiece?, [.close], by simp [Idle], ?_, ?_⟩
      · have pieces := split []
        rw [List.append_nil, List.splitOn_nil] at pieces
        rw [steps, if_pos closed, pieces, List.filterMap_append, List.filterMap_cons_none rfl,
          List.filterMap_nil, List.append_nil]
      · have joined : join (front ++ [slash]) piece = front ++ [slash] ++ piece := by
          simp [join, relative, closed]
        rw [joined, steps, split, endsInSlash_append_eq_false _ given noSlash,
          List.splitOn_eq_singleton noSlash, List.filterMap_append]
        cases step : Step.ofPiece? piece <;> simp [step]
    · refine ⟨steps directory, [], by simp [Idle], (List.append_nil _).symm, ?_⟩
      have joined : join directory piece = directory ++ slash :: piece := by
        simp [join, relative, closed, empty]
      have ended : endsInSlash (directory ++ slash :: piece) = false := by
        rw [← List.singleton_append, ← List.append_assoc]
        exact endsInSlash_append_eq_false _ given noSlash
      rw [joined, steps, steps, ended, if_neg closed, List.splitOn_append_cons_self,
        List.splitOn_eq_singleton noSlash, List.filterMap_append]
      cases step : Step.ofPiece? piece <;> simp [step]

theorem isAbsolute_join (given : directory ≠ []) (noSlash : slash ∉ piece) :
    isAbsolute (join directory piece) = isAbsolute directory := by
  obtain ⟨first, rest, rfl⟩ := List.exists_cons_of_ne_nil given
  unfold join
  rw [if_neg (by simp [isAbsolute_eq_false noSlash])]
  split <;> rfl

/-- A path is a part of the path of each of its entries. -/
theorem prefix_join (directory : Path) (noSlash : slash ∉ piece) :
    directory <+: join directory piece := by
  unfold join
  rw [if_neg (by simp [isAbsolute_eq_false noSlash])]
  split <;> exact List.prefix_append _ _

end Path

/-! ### A slash that stands twice -/

namespace Path

theorem endsInSlash_append_slash (before after : Bytes) :
    endsInSlash (before ++ slash :: after) = endsInSlash (slash :: after) := by
  unfold endsInSlash
  rw [List.getLast?_append_cons]

/-- A slash that stands twice counts as one, because no step comes of what is between. -/
theorem steps_double_slash (before after : Bytes) :
    steps (before ++ slash :: slash :: after) = steps (before ++ slash :: after) := by
  have ended : endsInSlash (before ++ slash :: slash :: after) =
      endsInSlash (before ++ slash :: after) := by
    rw [endsInSlash_append_slash, endsInSlash_append_slash before after]
    rfl
  have single : ([] ++ slash :: after).splitOn slash = [[]] ++ after.splitOn slash := by
    rw [List.splitOn_append_cons_self, List.splitOn_nil]
  rw [List.nil_append] at single
  rw [steps, steps, ended, List.splitOn_append_cons_self, List.splitOn_append_cons_self, single,
    List.filterMap_append, List.filterMap_append, List.filterMap_append]
  rfl

theorem isAbsolute_double_slash (before after : Bytes) :
    isAbsolute (before ++ slash :: slash :: after) = isAbsolute (before ++ slash :: after) := by
  cases before <;> rfl

end Path

theorem Tree.follow_double_slash (tree : Tree) (purpose : Purpose) (base : Base)
    (before after : Bytes) :
    tree.follow purpose base (before ++ slash :: slash :: after) =
      tree.follow purpose base (before ++ slash :: after) := by
  have given (rest : Bytes) : before ++ slash :: rest ≠ [] := by simp
  rw [follow, follow, if_neg (given _), if_neg (given _), Path.steps_double_slash,
    Path.isAbsolute_double_slash]

/-- A path of an entry leads to a directory, or its last piece is the name of what it leads to. Then
the path before leads to the directory of the entry. -/
theorem Tree.locate_join {tree : Tree} {base : Base} {location : Location} {directory : Path}
    {piece : Bytes} {step : Step} (standing : tree.Standing base.location) (given : piece ≠ [])
    (noSlash : slash ∉ piece) (isStep : Step.ofPiece? piece = some step)
    (leads : tree.locate .inspect base (Path.join directory piece) = .ok (.taken location)) :
    tree.Standing location ∨
      (∃ name, step = .down name) ∧
        (directory ≠ [] → EntersFrom tree (tree.locate .inspect base directory) step) := by
  obtain ⟨above, pause, idle, toDirectory, toEntry⟩ :=
    Path.exists_steps_join directory given noSlash
  rw [isStep, Option.toList_some] at toEntry
  have ahead := Path.prefix_join directory noSlash
  unfold locate at leads ⊢
  split at leads
  · cases leads
  · next noNul =>
    split at leads
    · cases leads
    · next within =>
      rw [if_neg fun nul => noNul (ahead.subset nul),
        if_neg fun long => within (Nat.le_trans long ahead.length_le)]
      unfold follow at leads ⊢
      split at leads
      · cases leads
      · rw [toEntry] at leads
        by_cases empty : directory = []
        · subst empty
          rw [Path.nil_join, Path.isAbsolute_eq_false noSlash, if_neg Bool.false_ne_true] at leads
          rcases walkFrom_last idle standing _ above leads with ⟨_, name, isDown, -⟩ | ends
          · exact Or.inr ⟨⟨name, isDown⟩, fun some => absurd rfl some⟩
          · exact Or.inl ends
        · rw [if_neg empty, toDirectory]
          rw [Path.isAbsolute_join empty noSlash] at leads
          have last : EntersFrom tree (if Path.isAbsolute directory = true then
              tree.walk .inspect linkLimit [] (above ++ pause)
              else tree.walkFrom .inspect base.location base.removed (above ++ pause)) step ∨
              tree.Standing location := by
            by_cases absolute : Path.isAbsolute directory = true
            · rw [if_pos absolute] at leads ⊢
              exact walk_last idle linkLimit tree.standing_root above leads
            · rw [if_neg absolute] at leads ⊢
              exact walkFrom_last idle standing _ above leads
          rcases last with enters | ends
          · have ⟨_, name, isDown, _⟩ := enters
            exact Or.inr ⟨⟨name, isDown⟩, fun _ => enters⟩
          · exact Or.inl ends

/-! ### An executable in a directory -/

namespace World

variable {world : World} {directory : Path} {piece : Bytes}

theorem isExecutable_iff {path : Path} :
    world.isExecutable path = true ↔ ∃ location mode content,
      world.tree.locate .inspect world.cwd path = .ok (.taken location) ∧
      world.tree.get? location = some (.file mode content) ∧ hasExecuteBit mode = true := by
  unfold isExecutable Tree.inspect
  constructor
  · intro executable
    split at executable
    · next mode content found =>
      split at found
      · cases found
      · cases found
      · cases found
      · next location leads =>
        split at found
        · cases found
        · next node stands =>
          cases found
          exact ⟨location, mode, content, leads, stands, executable⟩
    · cases executable
  · rintro ⟨location, mode, content, leads, stands, executable⟩
    simp only [leads, stands]
    exact executable

/-- An executable that is named behind a directory is an entry of the directory. It is neither the
directory itself nor the one above. -/
theorem exists_name_of_isExecutable_join (standing : world.tree.Standing world.cwd.location)
    (given : piece ≠ []) (noSlash : slash ∉ piece)
    (executable : world.isExecutable (Path.join directory piece) = true) :
    ∃ name : Name, name.bytes = piece ∧ (directory ≠ [] → name ∈ world.names directory) := by
  obtain ⟨location, mode, content, leads, stands, -⟩ := isExecutable_iff.mp executable
  obtain ⟨step, isStep⟩ := Step.exists_ofPiece? given noSlash
  rcases Tree.locate_join standing given noSlash isStep leads with ends | ⟨⟨name, rfl⟩, enters⟩
  · rw [ends.get?] at stands
    cases stands
  · refine ⟨name, Step.bytes_of_ofPiece? isStep, fun some => ?_⟩
    obtain ⟨place, entry, sameStep, toDirectory, isDirectory, listed⟩ := enters some
    cases sameStep
    have lists : world.names directory = world.tree.names place := by
      simp only [names, Tree.inspect, toDirectory, isDirectory, Base.standing]
    rw [lists]
    exact Tree.mem_names.mpr listed

end World

end CommandShell
