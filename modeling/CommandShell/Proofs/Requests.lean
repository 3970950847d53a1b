/-
This file proves what a row of completion requests is answered with. An answer
depends on all requests before it, but only through a memory of one text, and
that memory says no more than this: whether an odd number of ambiguous requests
for the text came last, one right after the other. So every second request of such
a block lists the candidates, whatever stood before the block.

A memory that comes from elsewhere can only be taken for the request before the
first one. It moves the first block by one, if it is of the same text, and after
that block it is forgotten.
-/

import CommandShell.Completion
import Mathlib.Algebra.Ring.Parity
import Mathlib.Data.List.DropRight

namespace CommandShell

/-- A request for completion: the text before the cursor and the names that may stand there. -/
structure TabRequest where
  text : String
  candidates : List String
  deriving DecidableEq, Repr

namespace TabRequest

/-- Several names may stand there, and what they have in common is no longer than the text. -/
def Ambiguous (request : TabRequest) : Prop :=
  2 ≤ request.candidates.length ∧
    (longestCommonStart request.candidates).utf8ByteSize ≤ request.text.utf8ByteSize

instance (request : TabRequest) : Decidable request.Ambiguous :=
  inferInstanceAs (Decidable (_ ∧ _))

/-- The answer to a request and the memory after it. -/
def step (request : TabRequest) (state : CompletionState) : Completion × CompletionState :=
  complete request.text request.candidates state

/-- Whether a request is an ambiguous one for this text. -/
def repeats (text : String) (request : TabRequest) : Bool :=
  decide (request.Ambiguous ∧ request.text = text)

/-- The longest row of ambiguous requests for the same text that ends with this request. It is
empty if the request itself is not ambiguous. -/
def block (earlier : List TabRequest) (request : TabRequest) : List TabRequest :=
  (earlier ++ [request]).rtakeWhile (repeats request.text)

end TabRequest

/-- The memory after requests that were answered one after the other. -/
def memoryAfter (state : CompletionState) (requests : List TabRequest) : CompletionState :=
  requests.foldl (fun state request => (request.step state).2) state

theorem memoryAfter_concat (state : CompletionState) (earlier : List TabRequest)
    (request : TabRequest) :
    memoryAfter state (earlier ++ [request]) = (request.step (memoryAfter state earlier)).2 := by
  unfold memoryAfter
  rw [List.foldl_append, List.foldl_cons, List.foldl_nil]

/-! ### One request -/

/-- The memory is of a request for this text. -/
def CompletionState.Recalls (state : CompletionState) (text : String) : Prop :=
  state.lastText = some text ∧ state.repeats ≠ 0

instance (state : CompletionState) (text : String) : Decidable (state.Recalls text) :=
  inferInstanceAs (Decidable (_ ∧ _))

theorem CompletionState.not_recalls_initial (text : String) :
    ¬ CompletionState.initial.Recalls text := by
  rintro ⟨same, -⟩
  cases same

theorem CompletionState.recalls_iff {text other : String} :
    CompletionState.Recalls ⟨some text, 1⟩ other ↔ text = other := by
  unfold Recalls
  simp

namespace TabRequest

variable {request : TabRequest}

/-- An ambiguous request rings the bell, or lists if the memory is of the same text. -/
theorem step_of_ambiguous (ambiguous : request.Ambiguous) (state : CompletionState) :
    request.step state =
      if state.Recalls request.text then (.list request.candidates, .initial)
      else (.bell, ⟨some request.text, 1⟩) := by
  obtain ⟨text, candidates⟩ := request
  obtain ⟨several, short⟩ := ambiguous
  obtain _ | ⟨first, _ | ⟨second, rest⟩⟩ := candidates
  · simp at several
  · simp at several
  · have notLonger := Nat.not_lt.mpr short
    by_cases recalls : state.Recalls text
    · rw [if_pos recalls]
      simp [step, complete, notLonger, recalls.1, recalls.2]
    · have forgotten : (if state.lastText = some text then state.repeats else 0) = 0 := by
        split
        · next same => exact Classical.not_not.mp fun some => recalls ⟨same, some⟩
        · rfl
      rw [if_neg recalls]
      simp [step, complete, notLonger, forgotten]

/-- Any other request rings the bell if there is no candidate, and replaces the text if there is
one. The memory has no part in that and is lost. -/
theorem step_of_not_ambiguous (clear : ¬ request.Ambiguous) (state : CompletionState) :
    (request.candidates = [] ∧ request.step state = (.bell, .initial)) ∨
      (request.candidates ≠ [] ∧ ∃ text, request.step state = (.replace text, .initial) ∧
        ∀ other, request.step other = (.replace text, .initial)) := by
  obtain ⟨text, candidates⟩ := request
  obtain _ | ⟨first, _ | ⟨second, rest⟩⟩ := candidates
  · exact Or.inl ⟨rfl, rfl⟩
  · exact Or.inr ⟨by simp, first ++ " ", rfl, fun _ => rfl⟩
  · have longer : text.utf8ByteSize <
        (longestCommonStart (first :: second :: rest)).utf8ByteSize := by
      refine Nat.lt_of_not_le fun short => clear ⟨?_, short⟩
      simp
    have same : ∀ other, step ⟨text, first :: second :: rest⟩ other =
        (.replace (longestCommonStart (first :: second :: rest)), .initial) := by
      intro other
      simp only [step, complete, if_pos longer]
    exact Or.inr ⟨by simp, _, same state, same⟩

/-- After one request nothing is remembered but that request. -/
theorem state_of_step (request : TabRequest) (state : CompletionState) :
    (request.step state).2 = .initial ∨ (request.step state).2 = ⟨some request.text, 1⟩ := by
  by_cases ambiguous : request.Ambiguous
  · rw [step_of_ambiguous ambiguous]
    split
    · exact Or.inl rfl
    · exact Or.inr rfl
  · rcases step_of_not_ambiguous ambiguous state with ⟨-, same⟩ | ⟨-, _, same, -⟩ <;>
      exact Or.inl (by rw [same])

/-- A request is remembered just if it was ambiguous and the one before it was not remembered for
its text. -/
theorem recalls_step_iff (request : TabRequest) (state : CompletionState) (text : String) :
    (request.step state).2.Recalls text ↔
      repeats text request = true ∧ ¬ state.Recalls text := by
  unfold repeats
  rw [decide_eq_true_iff]
  by_cases ambiguous : request.Ambiguous
  · rw [step_of_ambiguous ambiguous]
    split
    · next recalls =>
      refine iff_of_false (CompletionState.not_recalls_initial text) ?_
      rintro ⟨⟨-, rfl⟩, forgotten⟩
      exact forgotten recalls
    · next forgotten =>
      rw [CompletionState.recalls_iff]
      constructor
      · rintro rfl
        exact ⟨⟨ambiguous, rfl⟩, forgotten⟩
      · exact fun ⟨⟨_, same⟩, _⟩ => same
  · refine iff_of_false ?_ fun ⟨⟨isAmbiguous, _⟩, _⟩ => ambiguous isAmbiguous
    rcases step_of_not_ambiguous ambiguous state with ⟨-, same⟩ | ⟨-, _, same, -⟩
    · rw [same]
      exact CompletionState.not_recalls_initial text
    · rw [same]
      exact CompletionState.not_recalls_initial text

end TabRequest

/-! ### Many requests -/

/-- How many ambiguous requests for a text came last, one right after the other. If these are all
requests that there were, a memory of the text counts as one more. -/
def repeated (state : CompletionState) (earlier : List TabRequest) (text : String) : Nat :=
  (earlier.rtakeWhile (TabRequest.repeats text)).length +
    if earlier.rtakeWhile (TabRequest.repeats text) = earlier ∧ state.Recalls text then 1 else 0

/-- The memory after many requests is of a text just if their number is odd. -/
theorem recalls_memoryAfter_iff (state : CompletionState) (earlier : List TabRequest)
    (text : String) :
    (memoryAfter state earlier).Recalls text ↔ Odd (repeated state earlier text) := by
  -- The block grows at the end of the requests, so the induction takes the last one off.
  induction earlier using List.reverseRecOn with
  | nil =>
    show state.Recalls text ↔ Odd (repeated state [] text)
    by_cases recalls : state.Recalls text <;> simp [repeated, recalls]
  | append_singleton earlier request inductionHypothesis =>
    rw [memoryAfter_concat, TabRequest.recalls_step_iff, inductionHypothesis]
    unfold repeated
    by_cases goesOn : TabRequest.repeats text request = true
    · simp only [List.rtakeWhile_concat_pos _ _ _ goesOn, List.append_left_inj]
      rw [List.length_append, List.length_singleton, Nat.add_right_comm, Nat.odd_add_one]
      exact and_iff_right goesOn
    · rw [List.rtakeWhile_concat_neg _ _ _ goesOn]
      simp [goesOn]

theorem repeated_initial (earlier : List TabRequest) (text : String) :
    repeated .initial earlier text =
      (earlier.rtakeWhile (TabRequest.repeats text)).length := by
  unfold repeated
  rw [if_neg fun recalls => CompletionState.not_recalls_initial text recalls.2, Nat.add_zero]

namespace TabRequest

variable {request : TabRequest}

theorem block_of_ambiguous (ambiguous : request.Ambiguous) (earlier : List TabRequest) :
    block earlier request = earlier.rtakeWhile (repeats request.text) ++ [request] := by
  have goesOn : repeats request.text request = true := decide_eq_true ⟨ambiguous, rfl⟩
  exact List.rtakeWhile_concat_pos _ _ _ goesOn

/-- The answer to an ambiguous request alternates with the length of its block. -/
theorem step_memoryAfter (ambiguous : request.Ambiguous) (earlier : List TabRequest) :
    request.step (memoryAfter .initial earlier) =
      if Even (block earlier request).length then (.list request.candidates, .initial)
      else (.bell, ⟨some request.text, 1⟩) := by
  have turn : (memoryAfter .initial earlier).Recalls request.text ↔
      Even (block earlier request).length := by
    rw [recalls_memoryAfter_iff, repeated_initial, block_of_ambiguous ambiguous,
      List.length_append, List.length_singleton, Nat.even_add_one, Nat.not_even_iff_odd]
  rw [step_of_ambiguous ambiguous]
  simp only [turn]

/-- Behind a memory of the same text the first block counts as if it were longer by one. -/
theorem step_memoryAfter_of_recalls (ambiguous : request.Ambiguous) {earlier : List TabRequest}
    (first : block earlier request = earlier ++ [request]) {state : CompletionState}
    (recalls : state.Recalls request.text) :
    request.step (memoryAfter state earlier) =
      if Odd (block earlier request).length then (.list request.candidates, .initial)
      else (.bell, ⟨some request.text, 1⟩) := by
  have whole : earlier.rtakeWhile (repeats request.text) = earlier := by
    rw [block_of_ambiguous ambiguous] at first
    exact List.append_cancel_right first
  have turn : (memoryAfter state earlier).Recalls request.text ↔
      Odd (block earlier request).length := by
    rw [recalls_memoryAfter_iff, repeated, if_pos ⟨whole, recalls⟩, block_of_ambiguous ambiguous,
      List.length_append, List.length_singleton]
  rw [step_of_ambiguous ambiguous]
  simp only [turn]

/-- Everywhere else a memory from before has no part in the answer. -/
theorem step_memoryAfter_eq (earlier : List TabRequest) {state : CompletionState}
    (apart : block earlier request = earlier ++ [request] → ¬ state.Recalls request.text) :
    request.step (memoryAfter state earlier) = request.step (memoryAfter .initial earlier) := by
  by_cases ambiguous : request.Ambiguous
  · have forgotten : ¬ (earlier.rtakeWhile (repeats request.text) = earlier ∧
        state.Recalls request.text) := by
      rintro ⟨whole, recalls⟩
      refine apart ?_ recalls
      rw [block_of_ambiguous ambiguous, whole]
    have same : (memoryAfter state earlier).Recalls request.text ↔
        (memoryAfter .initial earlier).Recalls request.text := by
      rw [recalls_memoryAfter_iff, recalls_memoryAfter_iff, repeated_initial, repeated,
        if_neg forgotten, Nat.add_zero]
    rw [step_of_ambiguous ambiguous, step_of_ambiguous ambiguous]
    simp only [same]
  · rcases step_of_not_ambiguous ambiguous (memoryAfter state earlier) with
      ⟨none, bell⟩ | ⟨-, _, replace, always⟩
    · rcases step_of_not_ambiguous ambiguous (memoryAfter .initial earlier) with
        ⟨-, same⟩ | ⟨some, -⟩
      · rw [bell, same]
      · exact absurd none some
    · rw [replace, always]

/-- What a request is answered with, and what is remembered of it, when it ends a block. -/
structure FollowsBlock (request : TabRequest) (block : List TabRequest)
    (step : Completion × CompletionState) : Prop where
  lists : (∃ names, step.1 = .list names) ↔ request.Ambiguous ∧ Even block.length
  listed : ∀ names, step.1 = .list names → names = request.candidates
  rings : step.1 = .bell ↔ request.candidates = [] ∨ (request.Ambiguous ∧ Odd block.length)
  replaces : (∃ text, step.1 = .replace text) ↔ request.candidates ≠ [] ∧ ¬ request.Ambiguous
  remembers : step.2 = ⟨some request.text, 1⟩ ↔ request.Ambiguous ∧ Odd block.length
  forgets : step.2 = .initial ↔ ¬ (request.Ambiguous ∧ Odd block.length)

theorem followsBlock (earlier : List TabRequest) (request : TabRequest) :
    request.FollowsBlock (block earlier request) (request.step (memoryAfter .initial earlier)) := by
  have apart : CompletionState.initial ≠ ⟨some request.text, 1⟩ := by
    intro same
    cases same
  by_cases ambiguous : request.Ambiguous
  · have some : request.candidates ≠ [] := by
      intro none
      have several := ambiguous.1
      rw [none] at several
      cases several
    have alternates := step_memoryAfter ambiguous earlier
    by_cases even : Even (block earlier request).length
    · rw [if_pos even] at alternates
      have notOdd : ¬ Odd (block earlier request).length := Nat.not_odd_iff_even.mpr even
      rw [alternates]
      constructor <;> simp [ambiguous, even, notOdd, some, apart]
    · rw [if_neg even] at alternates
      have odd : Odd (block earlier request).length := Nat.not_even_iff_odd.mp even
      rw [alternates]
      constructor <;> simp [ambiguous, even, odd, apart.symm]
  · rcases step_of_not_ambiguous ambiguous (memoryAfter .initial earlier) with
      ⟨none, bell⟩ | ⟨some, text, replace, -⟩
    · rw [bell]
      constructor <;> simp [ambiguous, none, apart]
    · rw [replace]
      constructor <;> simp [ambiguous, some, apart]

end TabRequest

/-- A request that comes after others is answered with the list of its candidates just if it is
ambiguous and its block has an even number of requests, with the bell if it has no candidate or its
block an odd number, and with a replacement otherwise. Its text is remembered after the bell for an
ambiguous request, and nothing else is. A memory from before the first request is replaced by it,
and it has no part in any answer but those in a block of its text that starts with the first
request, which counts as longer by one. -/
theorem step_after_requests (earlier : List TabRequest) (request : TabRequest) :
    request.FollowsBlock (TabRequest.block earlier request)
      (request.step (memoryAfter .initial earlier)) ∧
    ∀ state : CompletionState,
      ((request.step state).2 = .initial ∨ (request.step state).2 = ⟨some request.text, 1⟩) ∧
      ((TabRequest.block earlier request = earlier ++ [request] →
          ¬ state.Recalls request.text) →
        request.step (memoryAfter state earlier) = request.step (memoryAfter .initial earlier)) ∧
      (request.Ambiguous → TabRequest.block earlier request = earlier ++ [request] →
        state.Recalls request.text →
        request.step (memoryAfter state earlier) =
          if Odd (TabRequest.block earlier request).length then
            (.list request.candidates, .initial)
          else (.bell, ⟨some request.text, 1⟩)) := by
  refine ⟨TabRequest.followsBlock earlier request, fun state => ⟨?_, ?_, ?_⟩⟩
  · exact request.state_of_step state
  · exact TabRequest.step_memoryAfter_eq earlier
  · exact fun ambiguous first => TabRequest.step_memoryAfter_of_recalls ambiguous first

end CommandShell
