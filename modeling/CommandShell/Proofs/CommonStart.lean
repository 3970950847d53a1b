/-
This file proves that what candidates have in common is their greatest lower bound
among the texts that start them. A position in the first candidate is found with
each of the others, and the least of these is where the candidate is cut.

A position counts bytes, and characters can share bytes without being the same. So
it is not clear that the cut is between two characters. But every position that is
compared lies behind some of the first characters of one and the same text, and of
two such starts the shorter one starts the longer one. The least position is
therefore behind the shortest of them, and nothing needs to be said about bytes.
-/

import CommandShell.Completion
import CommandShell.Line

namespace CommandShell

/-! ### The position behind a start -/

theorem byteCount_eq (characters : List Char) :
    byteCount characters = (String.ofList characters).utf8ByteSize := by
  have counted (start : Nat) :
      characters.foldl (fun count character => count + character.utf8Size) start =
        start + (String.ofList characters).utf8ByteSize := by
    induction characters generalizing start with
    | nil => simp
    | cons first rest inductionHypothesis =>
      rw [List.foldl_cons, inductionHypothesis, ← List.singleton_append, String.ofList_append]
      simp [Nat.add_assoc]
  rw [byteCount, counted, Nat.zero_add]

theorem byteCount_append (first second : List Char) :
    byteCount (first ++ second) = byteCount first + byteCount second := by
  simp [byteCount_eq, String.ofList_append]

theorem byteCount_cons (first : Char) (rest : List Char) :
    byteCount (first :: rest) = first.utf8Size + byteCount rest := by
  rw [← List.singleton_append, byteCount_append]
  simp [byteCount]

theorem byteCount_le_of_starts {short long : List Char} (starts : short <+: long) :
    byteCount short ≤ byteCount long := by
  obtain ⟨rest, rfl⟩ := starts
  rw [byteCount_append]
  exact Nat.le_add_right _ _

theorem length_utf8 (text : String) : (utf8 text).length = text.utf8ByteSize := by
  simp [utf8]

/-- The position behind some of the first characters of a text is between two characters, and before
it are just these. -/
theorem textBefore_byteCount {start : List Char} {text : String} (starts : start <+: text.toList) :
    String.Pos.Raw.IsValid text ⟨byteCount start⟩ ∧
      decode? ((utf8 text).take (byteCount start)) = some (String.ofList start) ∧
      textBefore text (byteCount start) = String.ofList start := by
  obtain ⟨rest, whole⟩ := starts
  have split : text = String.ofList start ++ String.ofList rest := by
    rw [← String.ofList_append, whole, String.ofList_toList]
  rw [byteCount_eq]
  have bytes : (utf8 text).take (String.ofList start).utf8ByteSize =
      utf8 (String.ofList start) := by
    rw [split, utf8_append]
    exact List.take_left' (length_utf8 _)
  have decoded : decode? ((utf8 text).take (String.ofList start).utf8ByteSize) =
      some (String.ofList start) := by
    rw [bytes, decode?_utf8]
  refine ⟨String.Pos.Raw.isValid_iff_exists_append.mpr ⟨_, _, split, rfl⟩, decoded, ?_⟩
  rw [textBefore, decoded]
  rfl

/-! ### Two texts -/

/-- What two texts have in common from the start. -/
def sharedStart : List Char → List Char → List Char
  | first :: firstRest, second :: secondRest =>
    if first = second then first :: sharedStart firstRest secondRest else []
  | _, _ => []

theorem sharedStart_starts (first second : List Char) :
    sharedStart first second <+: first ∧ sharedStart first second <+: second := by
  fun_induction sharedStart first second with
  | case1 firstRest second secondRest inductionHypothesis =>
    exact ⟨List.cons_prefix_cons.mpr ⟨rfl, inductionHypothesis.1⟩,
      List.cons_prefix_cons.mpr ⟨rfl, inductionHypothesis.2⟩⟩
  | case2 => constructor <;> exact List.nil_prefix
  | case3 => constructor <;> exact List.nil_prefix

theorem prefix_sharedStart {start first second : List Char} (startsFirst : start <+: first)
    (startsSecond : start <+: second) : start <+: sharedStart first second := by
  induction start generalizing first second with
  | nil => exact List.nil_prefix
  | cons character rest inductionHypothesis =>
    obtain ⟨firstEnd, rfl⟩ := startsFirst
    obtain ⟨secondEnd, rfl⟩ := startsSecond
    rw [List.cons_append, List.cons_append, sharedStart, if_pos rfl]
    exact List.cons_prefix_cons.mpr
      ⟨rfl, inductionHypothesis (List.prefix_append _ _) (List.prefix_append _ _)⟩

/-- The last position that is found with another text is behind what the two have in common. It is
the position in front of all characters if that is nothing. -/
theorem position_of_shared (position : Nat) (first second : List Char) :
    (match (((positioned position first).zip second).takeWhile fun pair =>
        pair.1.2 == pair.2).getLast? with
      | none => position
      | some ((last, character), _) => last + character.utf8Size) =
      position + byteCount (sharedStart first second) := by
  induction first generalizing position second with
  | nil => rfl
  | cons character firstRest inductionHypothesis =>
    cases second with
    | nil => rfl
    | cons other secondRest =>
      rw [positioned, List.zip_cons_cons, List.takeWhile_cons, sharedStart]
      by_cases same : character = other
      · have later := inductionHypothesis (position + character.utf8Size) secondRest
        rw [if_pos (by simpa using same), if_pos same, byteCount_cons, ← Nat.add_assoc, ← later,
          List.getLast?_cons]
        cases List.getLast? _ with
        | none => rfl
        | some last => rfl
      · rw [if_neg (by simpa using same), if_neg same]
        rfl

theorem sharedEnd_eq (first other : String) :
    sharedEnd first other = byteCount (sharedStart first.toList other.toList) := by
  have shared := position_of_shared 0 first.toList other.toList
  rw [Nat.zero_add] at shared
  exact shared

/-! ### Many texts -/

/-- All the texts start with these characters, and whatever they all start with is the start of
these. -/
structure IsCommonStart (start : List Char) (texts : List String) : Prop where
  starts : ∀ text ∈ texts, start <+: text.toList
  greatest : ∀ other, (∀ text ∈ texts, other <+: text.toList) → other <+: start

namespace IsCommonStart

variable {start : List Char} {texts : List String}

/-- It depends on the members alone, not on their order or on how often they are there. -/
theorem of_mem_iff (common : IsCommonStart start texts) {others : List String}
    (same : ∀ text, text ∈ others ↔ text ∈ texts) : IsCommonStart start others where
  starts text member := common.starts text ((same text).mp member)
  greatest other startsAll :=
    common.greatest other fun text member => startsAll text ((same text).mpr member)

theorem unique {other : List Char} (common : IsCommonStart start texts)
    (another : IsCommonStart other texts) : start = other := by
  have short := another.greatest start common.starts
  have long := common.greatest other another.starts
  exact short.eq_of_length_le (long.length_le)

theorem single (text : String) : IsCommonStart text.toList [text] where
  starts _ member := List.mem_singleton.mp member ▸ List.prefix_rfl
  greatest _ startsAll := startsAll text List.mem_cons_self

end IsCommonStart

/-- One more text takes the position behind what the texts before it have in common to the position
behind what it has in common with them too. -/
theorem min_sharedEnd {start : List Char} {first : String} {texts : List String}
    (common : IsCommonStart start (first :: texts)) (other : String) :
    ∃ next, IsCommonStart next (first :: texts ++ [other]) ∧
      min (byteCount start) (sharedEnd first other) = byteCount next := by
  obtain ⟨sharedFirst, sharedOther⟩ := sharedStart_starts first.toList other.toList
  have ofFirst := common.starts first List.mem_cons_self
  have greatest : ∀ text, (∀ each ∈ first :: texts ++ [other], text <+: each.toList) →
      text <+: start ∧ text <+: sharedStart first.toList other.toList := by
    intro text startsAll
    exact ⟨common.greatest text fun each member => startsAll each (List.mem_append_left _ member),
      prefix_sharedStart (startsAll first (by simp)) (startsAll other (by simp))⟩
  rw [sharedEnd_eq]
  rcases List.prefix_or_prefix_of_prefix ofFirst sharedFirst with shorter | shorter
  · refine ⟨start, ⟨?_, fun text startsAll => (greatest text startsAll).1⟩,
      Nat.min_eq_left (byteCount_le_of_starts shorter)⟩
    intro text member
    rcases List.mem_append.mp member with earlier | last
    · exact common.starts text earlier
    · rw [List.mem_singleton.mp last]
      exact shorter.trans sharedOther
  · refine ⟨_, ⟨?_, fun text startsAll => (greatest text startsAll).2⟩,
      Nat.min_eq_right (byteCount_le_of_starts shorter)⟩
    intro text member
    rcases List.mem_append.mp member with earlier | last
    · exact shorter.trans (common.starts text earlier)
    · rw [List.mem_singleton.mp last]
      exact sharedOther

theorem foldl_min_sharedEnd {start : List Char} {first : String} {texts : List String}
    (common : IsCommonStart start (first :: texts)) (rest : List String) :
    ∃ last, IsCommonStart last (first :: texts ++ rest) ∧
      rest.foldl (fun position other => min position (sharedEnd first other)) (byteCount start) =
        byteCount last := by
  induction rest generalizing start texts with
  | nil => exact ⟨start, by rwa [List.append_nil], rfl⟩
  | cons other rest inductionHypothesis =>
    obtain ⟨next, commonNext, position⟩ := min_sharedEnd common other
    obtain ⟨last, commonLast, ends⟩ := inductionHypothesis commonNext
    refine ⟨last, ?_, ?_⟩
    · simpa using commonLast
    · rw [List.foldl_cons, position, ends]

/-- The first text is cut behind what all the texts have in common. -/
theorem exists_isCommonStart (first : String) (rest : List String) :
    ∃ start, IsCommonStart start (first :: rest) ∧ commonEnd first rest = byteCount start := by
  obtain ⟨start, common, ends⟩ := foldl_min_sharedEnd (IsCommonStart.single first) rest
  refine ⟨start, common, ?_⟩
  rw [commonEnd, ← ends, byteCount_eq, String.ofList_toList]

/-- What texts have in common is their common start. -/
theorem isCommonStart_longestCommonStart {texts : List String} (nonempty : texts ≠ []) :
    IsCommonStart (longestCommonStart texts).toList texts := by
  cases texts with
  | nil => exact absurd rfl nonempty
  | cons first rest =>
    obtain ⟨start, common, ends⟩ := exists_isCommonStart first rest
    obtain ⟨-, -, before⟩ := textBefore_byteCount (common.starts first List.mem_cons_self)
    rw [longestCommonStart, ends, before, String.toList_ofList]
    exact common

/-- The longest common start of candidates starts each of them, and whatever starts each of them
starts it. So it depends only on which candidates there are. The position at which the first one is
cut is between two of its characters, and what is before it is a text. -/
theorem longestCommonStart_greatest {candidates : List String} (nonempty : candidates ≠ []) :
    (∀ candidate ∈ candidates, (longestCommonStart candidates).toList <+: candidate.toList) ∧
    (∀ text : String, (∀ candidate ∈ candidates, text.toList <+: candidate.toList) →
      text.toList <+: (longestCommonStart candidates).toList) ∧
    (∀ others : List String, (∀ candidate, candidate ∈ others ↔ candidate ∈ candidates) →
      longestCommonStart others = longestCommonStart candidates) ∧
    ∀ first rest, candidates = first :: rest →
      String.Pos.Raw.IsValid first ⟨commonEnd first rest⟩ ∧
      decode? ((utf8 first).take (commonEnd first rest)) =
        some (longestCommonStart candidates) := by
  have common := isCommonStart_longestCommonStart nonempty
  refine ⟨common.starts, fun text => common.greatest text.toList, ?_, ?_⟩
  · intro others same
    have otherNonempty : others ≠ [] := by
      obtain ⟨candidate, member⟩ := List.exists_mem_of_ne_nil candidates nonempty
      exact List.ne_nil_of_mem ((same candidate).mpr member)
    have another := isCommonStart_longestCommonStart otherNonempty
    exact String.toList_inj.mp (another.unique (common.of_mem_iff same))
  · rintro first rest rfl
    obtain ⟨start, starts, ends⟩ := exists_isCommonStart first rest
    obtain ⟨valid, decoded, -⟩ := textBefore_byteCount (starts.starts first List.mem_cons_self)
    have same := common.unique starts
    rw [ends]
    refine ⟨valid, ?_⟩
    rw [decoded, ← same, String.ofList_toList]

/-- The two characters behind the first one share a byte, and the cut is in front of it. -/
theorem longestCommonStart_greatest_accents :
    let candidates := ["xé", "xè", "xé"]
    candidates ≠ [] ∧ longestCommonStart candidates = "x" ∧
      ((utf8 "xé").take 2 = (utf8 "xè").take 2 ∧ ¬ String.Pos.Raw.IsValid "xé" ⟨2⟩) ∧
      longestCommonStart ["xè", "xé"] = longestCommonStart candidates ∧
      String.Pos.Raw.IsValid "xé" ⟨commonEnd "xé" ["xè", "xé"]⟩ := by
  intro candidates
  obtain ⟨-, -, members, cut⟩ := @longestCommonStart_greatest candidates (by decide)
  refine ⟨by decide, by decide +kernel, by decide +kernel, members ["xè", "xé"] ?_,
    (cut "xé" ["xè", "xé"] rfl).1⟩
  intro candidate
  simp only [candidates, List.mem_cons, List.not_mem_nil, or_false]
  constructor
  · rintro (rfl | rfl) <;> simp
  · rintro (rfl | rfl | rfl) <;> simp

end CommandShell
