/-
This file says how a tree may change under redirections: at a free place a file may
appear that cannot be executed, and a file may get other content. Nothing goes
away, and no directory, no link and no mode is any different afterwards.

So a path leads where it led. It may now end at a file where it ended at a free
name, but this is the same place, and no other file on its way could be passed
before or after. The places of all redirections of a line are therefore settled by
the tree before the line, although each is opened in a tree that the earlier ones
have changed.
-/

import CommandShell.Tree.Edit

namespace CommandShell

/-! ### What may become of a place -/

/-- What stood at a place stands there still, or a file was made there that cannot be executed, or
the file there has other content. -/
inductive MayBecome : Option Node → Option Node → Prop
  | same {node : Option Node} : MayBecome node node
  | created {mode : Nat} {content : Content} (plain : hasExecuteBit mode = false) :
      MayBecome none (some (.file mode content))
  | rewritten {mode : Nat} {content other : Content} :
      MayBecome (some (.file mode content)) (some (.file mode other))

theorem MayBecome.trans {first second third : Option Node} (early : MayBecome first second)
    (late : MayBecome second third) : MayBecome first third := by
  cases early with
  | same => exact late
  | created plain =>
    cases late with
    | same => exact .created plain
    | rewritten => exact .created plain
  | rewritten =>
    cases late with
    | same => exact .rewritten
    | rewritten => exact .rewritten

namespace Tree

variable {places others : Location → Prop} {before after : Tree}

/-- The tree changed at most at these places, and only in the ways above. -/
def Touches (places : Location → Prop) (before after : Tree) : Prop :=
  ∀ location, MayBecome (before.get? location) (after.get? location) ∧
    (after.get? location ≠ before.get? location → places location)

namespace Touches

theorem refl (places : Location → Prop) (tree : Tree) : Touches places tree tree :=
  fun _ => ⟨.same, fun changed => absurd rfl changed⟩

theorem of_eq (same : after = before) : Touches places before after :=
  same ▸ refl places before

theorem trans {last : Tree} (early : Touches places before after)
    (late : Touches places after last) : Touches places before last := by
  intro location
  refine ⟨(early location).1.trans (late location).1, fun changed => ?_⟩
  by_cases same : after.get? location = before.get? location
  · exact (late location).2 fun still => changed (still.trans same)
  · exact (early location).2 same

theorem mono (touches : Touches places before after)
    (within : ∀ location, places location → others location) : Touches others before after :=
  fun location => ⟨(touches location).1, fun changed => within _ ((touches location).2 changed)⟩

theorem get?_eq (touches : Touches places before after) {location : Location}
    (elsewhere : ¬ places location) : after.get? location = before.get? location := by
  by_cases same : after.get? location = before.get? location
  · exact same
  · exact absurd ((touches location).2 same) elsewhere

theorem set {location : Location} {node : Node} (place : places location)
    (inner : location ≠ []) (becomes : MayBecome (before.get? location) (some node)) :
    Touches places before (before.set location node) := by
  intro other
  by_cases here : other = location
  · subst here
    rw [get?_set_same before inner]
    exact ⟨becomes, fun _ => place⟩
  · rw [get?_set_other before here]
    exact ⟨.same, fun changed => absurd rfl changed⟩

end Touches

theorem ne_nil_of_get?_eq_file {tree : Tree} {location : Location} {mode : Nat}
    {content : Content} (stands : tree.get? location = some (.file mode content)) :
    location ≠ [] := by
  rintro rfl
  rw [get?_root] at stands
  cases stands

end Tree

/-! ### Where a path leads -/

/-- The place at which a walk ends, whether something stands there or not. -/
def Spot.place? : Spot → Option Location
  | .taken location => some location
  | .free directory name => some (directory ++ [name])
  | .removed _ => none

/-- A walk ends at this place. -/
def EndsAt (walked : Except Fault Spot) (location : Location) : Prop :=
  ∃ spot, walked = .ok spot ∧ spot.place? = some location

theorem endsAt_ok_iff {spot : Spot} {location : Location} :
    EndsAt (.ok spot) location ↔ spot.place? = some location := by
  constructor
  · rintro ⟨_, reached, place⟩
    cases reached
    exact place
  · exact fun place => ⟨spot, rfl, place⟩

theorem not_endsAt_error (fault : Fault) (location : Location) :
    ¬ EndsAt (.error fault) location := by
  rintro ⟨_, refused, -⟩
  cases refused

namespace Tree

variable {before after : Tree} {purpose : Purpose} {location : Location}

theorem endsAt_walkUntilLink_iff
    (becomes : ∀ location, MayBecome (before.get? location) (after.get? location))
    {early late : Location → List Step → Except Fault Spot}
    (followed : ∀ here steps, EndsAt (late here steps) location ↔
      EndsAt (early here steps) location) {here : Location} (steps : List Step) :
    EndsAt (after.walkUntilLink purpose late here steps) location ↔
      EndsAt (before.walkUntilLink purpose early here steps) location := by
  induction steps generalizing here with
  | nil => exact Iff.rfl
  | cons step rest inductionHypothesis =>
    cases step with
    | stay => exact inductionHypothesis
    | close => exact inductionHypothesis
    | up => exact inductionHypothesis
    | down name =>
      unfold walkUntilLink
      split
      · exact Iff.rfl
      · split
        · exact Iff.rfl
        · split
          · exact Iff.rfl
          · have changed := becomes (here ++ [name])
            generalize before.get? (here ++ [name]) = old at changed ⊢
            generalize after.get? (here ++ [name]) = new at changed ⊢
            cases changed with
            | same =>
              cases old with
              | none => exact Iff.rfl
              | some node =>
                cases node with
                | directory => exact inductionHypothesis
                | link target => exact followed _ _
                | file mode content => exact Iff.rfl
                | device device => exact Iff.rfl
            | created plain =>
              -- The walk found the name free and ended there, at the same place.
              dsimp only
              by_cases last : rest = []
              · rw [if_pos last, if_pos last, endsAt_ok_iff, endsAt_ok_iff]
                exact Iff.rfl
              · rw [if_neg last, if_neg last]
                exact iff_of_false (not_endsAt_error _ _) (not_endsAt_error _ _)
            | rewritten => exact Iff.rfl

theorem endsAt_walk_iff
    (becomes : ∀ location, MayBecome (before.get? location) (after.get? location))
    (links : Nat) {here : Location} (steps : List Step) :
    EndsAt (after.walk purpose links here steps) location ↔
      EndsAt (before.walk purpose links here steps) location := by
  induction links generalizing here steps with
  | zero => exact endsAt_walkUntilLink_iff becomes (fun _ _ => Iff.rfl) steps
  | succ links inductionHypothesis =>
    exact endsAt_walkUntilLink_iff becomes (fun _ steps => inductionHypothesis steps) steps

theorem endsAt_walkFrom_iff
    (becomes : ∀ location, MayBecome (before.get? location) (after.get? location))
    {here : Location} (removed : Nat) (steps : List Step) :
    EndsAt (after.walkFrom purpose here removed steps) location ↔
      EndsAt (before.walkFrom purpose here removed steps) location := by
  induction steps generalizing removed with
  | nil =>
    cases removed with
    | zero => exact endsAt_walk_iff becomes linkLimit []
    | succ removed => exact Iff.rfl
  | cons step rest inductionHypothesis =>
    cases removed with
    | zero => exact endsAt_walk_iff becomes linkLimit (step :: rest)
    | succ removed =>
      cases step with
      | stay => exact inductionHypothesis (removed + 1)
      | close => exact inductionHypothesis (removed + 1)
      | up => exact inductionHypothesis removed
      | down name => exact Iff.rfl

/-- A path leads to the same place before and after such a change. -/
theorem endsAt_locate_iff
    (becomes : ∀ location, MayBecome (before.get? location) (after.get? location))
    {base : Base} {path : Path} :
    EndsAt (after.locate purpose base path) location ↔
      EndsAt (before.locate purpose base path) location := by
  unfold locate follow
  split
  · exact Iff.rfl
  · split
    · exact Iff.rfl
    · split
      · exact Iff.rfl
      · split
        · exact endsAt_walk_iff becomes linkLimit path.steps
        · exact endsAt_walkFrom_iff becomes base.removed path.steps

end Tree

end CommandShell
