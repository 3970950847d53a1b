/-
This file holds what lists have in common that are cut at a separator or put
together with one, whatever they are lists of: the words of a line, the pieces of
a path.
-/

import Mathlib.Data.List.Basic

namespace CommandShell

/-- What stands in a piece stood in the list, and it is not the separator. -/
theorem mem_of_mem_piece {α : Type} [DecidableEq α] {separator : α} (list : List α) :
    ∀ piece ∈ list.splitOn separator, ∀ entry ∈ piece, entry ∈ list ∧ entry ≠ separator := by
  induction list with
  | nil => simp
  | cons first rest inductionHypothesis =>
    have behind : ∀ piece ∈ rest.splitOn separator, ∀ entry ∈ piece,
        entry ∈ first :: rest ∧ entry ≠ separator := fun piece member entry within =>
      ⟨List.mem_cons_of_mem _ (inductionHypothesis piece member entry within).1,
        (inductionHypothesis piece member entry within).2⟩
    rw [List.splitOn_cons_eq_if_modifyHead]
    split
    · intro piece member
      rcases List.mem_cons.mp member with rfl | member
      · simp
      · exact behind piece member
    · next different =>
      cases pieces : rest.splitOn separator with
      | nil => simp
      | cons head others =>
        rw [pieces] at behind
        rw [List.modifyHead_cons]
        intro piece member
        rcases List.mem_cons.mp member with rfl | member
        · intro entry within
          rcases List.mem_cons.mp within with rfl | within
          · exact ⟨List.mem_cons_self, by simpa using different⟩
          · exact behind head List.mem_cons_self entry within
        · exact behind piece (List.mem_cons_of_mem _ member)

theorem map_intercalate {α β : Type} (change : α → β) (separator : List α) (lists : List (List α)) :
    (separator.intercalate lists).map change =
      (separator.map change).intercalate (lists.map (·.map change)) := by
  induction lists with
  | nil => rfl
  | cons first others inductionHypothesis =>
    cases others with
    | nil => simp
    | cons second others =>
      rw [List.map_cons] at inductionHypothesis
      rw [List.intercalate_cons_cons, List.map_append, List.map_append, inductionHypothesis,
        List.map_cons, List.map_cons, List.intercalate_cons_cons]

/-- What stands in a list put together stood in one of its parts or in the separator. -/
theorem mem_of_mem_intercalate {α : Type} {separator : List α} {lists : List (List α)} {entry : α}
    (member : entry ∈ separator.intercalate lists) :
    entry ∈ separator ∨ ∃ list ∈ lists, entry ∈ list := by
  induction lists with
  | nil => cases member
  | cons first others inductionHypothesis =>
    cases others with
    | nil =>
      rw [List.intercalate_singleton] at member
      exact Or.inr ⟨first, List.mem_cons_self, member⟩
    | cons second others =>
      rw [List.intercalate_cons_cons, List.mem_append, List.mem_append] at member
      rcases member with (own | between) | behind
      · exact Or.inr ⟨first, List.mem_cons_self, own⟩
      · exact Or.inl between
      · rcases inductionHypothesis behind with between | ⟨list, later, within⟩
        · exact Or.inl between
        · exact Or.inr ⟨list, List.mem_cons_of_mem _ later, within⟩

/-- Lines of words with a mark between them are one line, in which the mark is a word. -/
theorem intercalate_intercalate (gap mark : String) {lists : List (List String)}
    (some : ∀ list ∈ lists, list ≠ []) :
    (gap ++ mark ++ gap).intercalate (lists.map gap.intercalate) =
      gap.intercalate ([mark].intercalate lists) := by
  induction lists with
  | nil => rfl
  | cons first others inductionHypothesis =>
    have own := some first List.mem_cons_self
    have later := inductionHypothesis fun list member => some list (List.mem_cons_of_mem _ member)
    cases others with
    | nil => simp
    | cons second others =>
      have behind : [mark].intercalate (second :: others) ≠ [] := by
        have := some second (by simp)
        cases others <;> simp [List.intercalate_cons_cons, this]
      rw [List.map_cons] at later
      rw [List.map_cons, List.map_cons, String.intercalate_cons_cons, later,
        List.intercalate_cons_cons, String.intercalate_append_of_ne_nil (by simp) behind,
        String.intercalate_append_of_ne_nil own (by simp), String.intercalate_singleton]
      simp only [String.append_assoc]

end CommandShell
