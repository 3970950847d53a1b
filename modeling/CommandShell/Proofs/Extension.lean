/-
This file proves that a Tab never takes text away, and that what it adds to an
ambiguous text is all that can be added. The candidates all start with the text, so
what they have in common does too, and comparing lengths is enough to see whether
something is added.

What is put in place of the text has the same candidates: a name that starts with
the text is a candidate, so it starts with what they have in common. The next
request is therefore one in which nothing can be added. It rings the bell, because
an extension leaves no memory, and the one after it lists the candidates.
-/

import CommandShell.Completion.Tab
import CommandShell.Proofs.CommonStart
import CommandShell.Proofs.Requests
import CommandShell.Proofs.Text
import CommandShell.Scratch

namespace CommandShell

/-! ### The text before the cursor -/

/-- The position of a cursor is behind the text before it. -/
theorem utf8_textBefore {line : String} {position : Nat}
    (between : String.Pos.Raw.IsValid line ⟨position⟩) :
    utf8 (textBefore line position) = (utf8 line).take position := by
  obtain ⟨before, after, rfl, ends⟩ := String.Pos.Raw.isValid_iff_exists_append.mp between
  have counted : position = byteCount before.toList := by
    rw [byteCount_eq, String.ofList_toList]
    exact congrArg String.Pos.Raw.byteIdx ends
  have starts : before.toList <+: (before ++ after).toList := by
    rw [String.toList_append]
    exact List.prefix_append _ _
  obtain ⟨-, decoded, isBefore⟩ := textBefore_byteCount starts
  rw [counted, isBefore]
  exact utf8_of_decode? decoded

/-! ### The candidates of an extension -/

namespace World

variable {world : World} {text longer name : String} {searchList : Option String}

theorem starts_of_mem_candidates (offered : name ∈ world.candidates text searchList) :
    text.toList <+: name.toList := by
  unfold candidates at offered
  obtain ⟨bytes, kept, decoded⟩ := List.mem_filterMap.mp offered
  have starts := (List.mem_filter.mp kept).2
  rw [← utf8_of_decode? decoded, List.isPrefixOf_iff_prefix] at starts
  exact utf8_isPrefix_iff.mp starts

/-- A longer text has the same candidates if it starts each of them. -/
theorem candidates_of_starts (starts : text.toList <+: longer.toList)
    (startsAll : ∀ name ∈ world.candidates text searchList, longer.toList <+: name.toList) :
    world.candidates longer searchList = world.candidates text searchList := by
  unfold candidates at startsAll ⊢
  dsimp only at startsAll ⊢
  rw [List.filterMap_filter, List.filterMap_filter]
  refine List.filterMap_congr fun bytes listed => ?_
  cases decoded : decode? bytes with
  | none => rw [ite_self, ite_self]
  | some name =>
    have bytesStart : ∀ start : String,
        (utf8 start).isPrefixOf bytes = true ↔ start.toList <+: name.toList := by
      intro start
      rw [List.isPrefixOf_iff_prefix, ← utf8_of_decode? decoded, utf8_isPrefix_iff]
    have agree : longer.toList <+: name.toList ↔ text.toList <+: name.toList := by
      refine ⟨starts.trans, fun textStarts => startsAll name ?_⟩
      have kept := List.mem_filter.mpr ⟨listed, (bytesStart text).mpr textStarts⟩
      exact List.mem_filterMap.mpr ⟨bytes, kept, decoded⟩
    simp only [bytesStart, agree]

/-- The candidates are found in the tree and from the directory of the process. -/
theorem candidates_congr {other : World} (sameTree : other.tree = world.tree)
    (sameDirectory : other.cwd = world.cwd) (text : String) (searchList : Option String) :
    other.candidates text searchList = world.candidates text searchList := by
  have sameExecutable : other.isExecutable = world.isExecutable := by
    funext path
    rw [isExecutable, isExecutable, sameTree, sameDirectory]
  have sameNames : other.names = world.names := by
    funext path
    rw [names, names, sameTree, sameDirectory]
  have sameListed : other.executablesIn = world.executablesIn := by
    funext directory
    rw [executablesIn, executablesIn, sameExecutable, sameNames]
  unfold candidates
  rw [sameListed]

end World

/-! ### An extension -/

namespace TabRequest

variable {request : TabRequest}

/-- A request without candidates rings the bell, a lone candidate is put in place with a space
behind it, and several candidates are answered with what they have in common if that is longer than
the text. Any other request is ambiguous. -/
theorem step_cases (request : TabRequest) (state : CompletionState) :
    (request.candidates = [] ∧ request.step state = (.bell, .initial)) ∨
      (∃ only, request.candidates = [only] ∧
        request.step state = (.replace (only ++ " "), .initial)) ∨
      (2 ≤ request.candidates.length ∧
        request.text.utf8ByteSize < (longestCommonStart request.candidates).utf8ByteSize ∧
        request.step state = (.replace (longestCommonStart request.candidates), .initial)) ∨
      request.Ambiguous := by
  obtain ⟨text, candidates⟩ := request
  obtain _ | ⟨first, _ | ⟨second, rest⟩⟩ := candidates
  · exact Or.inl ⟨rfl, rfl⟩
  · exact Or.inr (Or.inl ⟨first, rfl, rfl⟩)
  · have several : 2 ≤ (first :: second :: rest).length := Nat.le_add_left 2 rest.length
    by_cases longer :
        text.utf8ByteSize < (longestCommonStart (first :: second :: rest)).utf8ByteSize
    · exact Or.inr (Or.inr (Or.inl ⟨several, longer, if_pos longer⟩))
    · exact Or.inr (Or.inr (Or.inr ⟨several, Nat.le_of_not_lt longer⟩))

/-- An ambiguous request leaves the text as it is. -/
theorem step_ne_replace (ambiguous : request.Ambiguous) (state : CompletionState)
    (longer : String) : (request.step state).1 ≠ .replace longer := by
  rw [step_of_ambiguous ambiguous]
  split <;> simp

/-- Several candidates are answered with a replacement only if they have more in common than the
text, and then with that. -/
theorem step_eq_replace (several : 2 ≤ request.candidates.length) {state : CompletionState}
    {longer : String} (replaces : (request.step state).1 = .replace longer) :
    longer = longestCommonStart request.candidates ∧
      request.text.utf8ByteSize < longer.utf8ByteSize ∧ (request.step state).2 = .initial := by
  rcases request.step_cases state with
    ⟨none, -⟩ | ⟨only, alone, -⟩ | ⟨-, more, step⟩ | ambiguous
  · rw [none] at several
    cases several
  · rw [alone] at several
    exact absurd several (by simp)
  · rw [step] at replaces ⊢
    cases replaces
    exact ⟨rfl, more, rfl⟩
  · exact absurd replaces (step_ne_replace ambiguous state longer)

/-- Without a memory an ambiguous request rings the bell, and the same request again lists. -/
theorem step_twice (ambiguous : request.Ambiguous) :
    request.step .initial = (.bell, ⟨some request.text, 1⟩) ∧
      request.step ⟨some request.text, 1⟩ = (.list request.candidates, .initial) := by
  rw [step_of_ambiguous ambiguous, step_of_ambiguous ambiguous]
  exact ⟨if_neg (CompletionState.not_recalls_initial _),
    if_pos (CompletionState.recalls_iff.mpr rfl)⟩

end TabRequest

namespace Completer

/-- The request that a Tab after a text is. -/
def request (completer : Completer) (world : World) (text : String) : TabRequest :=
  ⟨text, world.candidates text completer.searchList⟩

/-- What a Tab after a text does. -/
def completion (completer : Completer) (world : World) (text : String) : Completion :=
  ((completer.request world text).step completer.state).1

variable {completer : Completer} {world : World} {text : String}

/-- What is remembered has no part in the request. -/
theorem request_forgets (completer : Completer) (state : CompletionState) (world : World)
    (text : String) :
    ({ completer with state := state } : Completer).request world text =
      completer.request world text :=
  rfl

theorem tab_eq (completer : Completer) (world : World) (text : String) :
    completer.tab world text = ((completer.completion world text).answer text,
      { completer with state := ((completer.request world text).step completer.state).2 }) :=
  rfl

theorem completion_eq_replace {longer : String}
    (several : 2 ≤ (world.candidates text completer.searchList).length)
    (replaces : completer.completion world text = .replace longer) :
    longer = longestCommonStart (world.candidates text completer.searchList) ∧
      text.utf8ByteSize < longer.utf8ByteSize ∧
      (completer.tab world text).2 = { completer with state := .initial } := by
  obtain ⟨isCommon, more, forgets⟩ := TabRequest.step_eq_replace several replaces
  refine ⟨isCommon, more, ?_⟩
  rw [tab_eq, forgets]

/-- What several candidates have in common starts with the text. As long as neither the tree nor the
directory of the process changes it has the same candidates, so nothing can be added to it. -/
theorem request_extension {next : World}
    (several : 2 ≤ (world.candidates text completer.searchList).length)
    (sameTree : next.tree = world.tree) (sameDirectory : next.cwd = world.cwd) :
    let longer := longestCommonStart (world.candidates text completer.searchList)
    text.toList <+: longer.toList ∧
      completer.request next longer =
        ⟨longer, world.candidates text completer.searchList⟩ ∧
      (completer.request next longer).Ambiguous := by
  intro longer
  have someCandidate : world.candidates text completer.searchList ≠ [] := by
    intro none
    rw [none] at several
    cases several
  have common := isCommonStart_longestCommonStart someCandidate
  have starts : text.toList <+: longer.toList :=
    common.greatest text.toList fun name offered => World.starts_of_mem_candidates offered
  have same : completer.request next longer =
      ⟨longer, world.candidates text completer.searchList⟩ := by
    unfold request
    rw [World.candidates_congr sameTree sameDirectory,
      World.candidates_of_starts starts common.starts]
  rw [same]
  exact ⟨starts, rfl, several, Nat.le_refl _⟩

end Completer

/-! ### A Tab -/

/-- A Tab after a text keeps the text in front. A lone candidate is put in place with a space behind
it. If several candidates are answered with a replacement, it adds something to the text and has the
same candidates; while the tree and the directory of the process stay as they are, the next Tab
rings the bell and the one after it lists them. Otherwise the text is put in place of itself. -/
structure KeepsText (completer : Completer) (world : World) (text : String)
    (pressed : TabAnswer × Completer) : Prop where
  keeps : text.toList <+: pressed.1.replacement.toList
  alone : ∀ only, world.candidates text completer.searchList = [only] →
    pressed.1.replacement = only ++ " "
  adds : ∀ longer, 2 ≤ (world.candidates text completer.searchList).length →
    completer.completion world text = .replace longer →
    pressed.1.replacement = longer ∧ text.toList <+: longer.toList ∧
      text.utf8ByteSize < longer.utf8ByteSize ∧
      world.candidates longer completer.searchList =
        world.candidates text completer.searchList
  final : ∀ longer, 2 ≤ (world.candidates text completer.searchList).length →
    completer.completion world text = .replace longer →
    ∀ next last : World, next.tree = world.tree → next.cwd = world.cwd →
      last.tree = world.tree → last.cwd = world.cwd →
      pressed.2.completion next longer = .bell ∧
        (pressed.2.tab next longer).2.completion last longer =
          .list (world.candidates text completer.searchList)
  otherwise : (∀ only, world.candidates text completer.searchList ≠ [only]) →
    (∀ longer, completer.completion world text ≠ .replace longer) →
    pressed.1.replacement = text

namespace Completer

variable {completer : Completer} {world : World} {text : String}

theorem replacement_of_stays (stays : ∀ longer, completer.completion world text ≠ .replace longer) :
    (completer.tab world text).1.replacement = text := by
  rw [tab_eq]
  cases done : completer.completion world text with
  | bell => rfl
  | list names => rfl
  | replace longer => exact absurd done (stays longer)

/-- Whatever is put in place starts with the text: it is the text, a candidate with a space, or what
the candidates have in common. -/
theorem starts_replacement (completer : Completer) (world : World) (text : String) :
    text.toList <+: (completer.tab world text).1.replacement.toList := by
  rcases (completer.request world text).step_cases completer.state with
    ⟨-, step⟩ | ⟨only, alone, step⟩ | ⟨several, -, step⟩ | ambiguous
  · rw [tab_eq, completion, step]
    exact List.prefix_rfl
  · rw [tab_eq, completion, step]
    show text.toList <+: (only ++ " ").toList
    have offered : only ∈ world.candidates text completer.searchList := by
      rw [show world.candidates text completer.searchList = [only] from alone]
      exact List.mem_singleton_self only
    rw [String.toList_append]
    exact (World.starts_of_mem_candidates offered).trans (List.prefix_append _ _)
  · rw [tab_eq, completion, step]
    obtain ⟨starts, -⟩ := request_extension several rfl rfl
    exact starts
  · have stays : (completer.tab world text).1.replacement = text :=
      replacement_of_stays (TabRequest.step_ne_replace ambiguous completer.state)
    exact ⟨[], by rw [List.append_nil, stays]⟩

theorem replacement_of_alone {only : String}
    (alone : world.candidates text completer.searchList = [only]) :
    (completer.tab world text).1.replacement = only ++ " " := by
  rw [tab_eq, completion, request, alone]
  rfl

/-- After an extension the bell rings, and then the candidates are listed. -/
theorem completion_after_extension {longer : String}
    (several : 2 ≤ (world.candidates text completer.searchList).length)
    (replaces : completer.completion world text = .replace longer) {next last : World}
    (nextTree : next.tree = world.tree) (nextDirectory : next.cwd = world.cwd)
    (lastTree : last.tree = world.tree) (lastDirectory : last.cwd = world.cwd) :
    let pressed := (completer.tab world text).2
    pressed.completion next longer = .bell ∧
      (pressed.tab next longer).2.completion last longer =
        .list (world.candidates text completer.searchList) := by
  intro pressed
  obtain ⟨rfl, -, isPressed⟩ := completion_eq_replace several replaces
  obtain ⟨-, sameNext, ambiguous⟩ := request_extension several nextTree nextDirectory
  obtain ⟨-, sameLast, -⟩ := request_extension several lastTree lastDirectory
  rw [sameNext] at ambiguous
  obtain ⟨rings, lists⟩ := TabRequest.step_twice ambiguous
  rw [show pressed = _ from isPressed]
  constructor
  · rw [completion, request_forgets, sameNext, rings]
  · rw [tab_eq, completion]
    simp only [request_forgets]
    rw [sameNext, rings, sameLast, lists]

theorem keepsText (completer : Completer) (world : World) (text : String) :
    KeepsText completer world text (completer.tab world text) where
  keeps := completer.starts_replacement world text
  alone _ alone := replacement_of_alone alone
  adds longer several replaces := by
    obtain ⟨rfl, more, -⟩ := completion_eq_replace several replaces
    obtain ⟨starts, same, -⟩ := request_extension several rfl rfl
    refine ⟨?_, starts, more, congrArg TabRequest.candidates same⟩
    rw [tab_eq, replaces]
    rfl
  final _ several replaces _ _ := completion_after_extension several replaces
  otherwise _ := replacement_of_stays

end Completer

/-- Whatever a completer remembers, a Tab at a position between two characters of a line keeps the
text before it in front. -/
theorem tab_keepsText (completer : Completer) (world : World) {line : String} {position : Nat}
    (between : String.Pos.Raw.IsValid line ⟨position⟩) :
    utf8 (textBefore line position) = (utf8 line).take position ∧
      KeepsText completer world (textBefore line position)
        (completer.tab world (textBefore line position)) :=
  ⟨utf8_textBefore between, completer.keepsText world _⟩

/-- Two tools have more in common than the text before the cursor, which stands in front of more
text. The one that starts with the same letter as they do is no executable. -/
theorem tab_keepsText_status :
    let tree := (((scratchTree (utf8 "/r")).including [] (utf8 "/r/bin/status")
      (toolNode toolMode)).including [] (utf8 "/r/bin/statistics") (toolNode toolMode)).including []
        (utf8 "/r/bin/sed") (toolNode 0o644)
    let world := { scratchWorld (utf8 "/r") [] [] false with tree := tree }
    let completer : Completer := ⟨some "/r/bin", ⟨some "s", 1⟩⟩
    let pressed := completer.tab world (textBefore "s | cat" 1)
    String.Pos.Raw.IsValid "s | cat" ⟨1⟩ ∧ pressed.1 = ⟨[], "stat"⟩ ∧
      pressed.2.completion world "stat" = .bell ∧
      (pressed.2.tab world "stat").2.completion world "stat" =
        .list ["statistics", "status"] := by
  intro tree world completer pressed
  have between : String.Pos.Raw.IsValid "s | cat" ⟨1⟩ := by decide +kernel
  have before : textBefore "s | cat" 1 = "s" := by decide +kernel
  have candidates : world.candidates "s" completer.searchList = ["statistics", "status"] := by
    decide +kernel
  have completion : completer.completion world "s" = .replace "stat" := by decide +kernel
  obtain ⟨-, kept⟩ := tab_keepsText completer world between
  rw [before] at kept
  have several : 2 ≤ (world.candidates "s" completer.searchList).length := by
    rw [candidates]
    exact Nat.le_refl 2
  have final := kept.final "stat" several completion world world rfl rfl rfl rfl
  rw [candidates] at final
  have isPressed : pressed = completer.tab world "s" := congrArg (completer.tab world) before
  rw [isPressed]
  refine ⟨between, ?_, final⟩
  rw [Completer.tab_eq, completion]
  rfl

end CommandShell
