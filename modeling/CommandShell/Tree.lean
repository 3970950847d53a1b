/-
This file holds the tree of files as a finite table from places to what stands
there. Two handles on one file see each other's writes because both name its
place. Looking a place up after a change is described by one equation per
operation, and nothing else needs to look at the table.
-/

import CommandShell.Output
import CommandShell.Path
import CommandShell.Program

namespace CommandShell

/-- What takes output without being a file with bytes of its own. -/
inductive Device
  /-- Takes every byte and keeps none. -/
  | null
  /-- Takes no byte. -/
  | full
  /-- Leads to where a stream of the terminal goes. -/
  | terminal (stream : Stream)
  deriving DecidableEq, Repr

/-- What a file holds: bytes, behind the image of a compiled program if it starts with one. -/
structure Content where
  /-- The name of the compiled program. -/
  image : Option String
  written : Output
  deriving DecidableEq, Repr

/-- The content of a file that holds nothing but bytes. -/
def Content.ofBytes (bytes : Bytes) : Content := ⟨none, .ofBytes bytes⟩

/-- The bytes of a file, but for the image of a compiled program. -/
def Content.bytes (content : Content) : Bytes := content.written.bytes

/-- The number of bytes in a file, but for the image of a compiled program. -/
def Content.size (content : Content) : Nat := content.written.size

theorem Content.size_eq_length (content : Content) : content.size = content.bytes.length :=
  content.written.size_eq_length

/-- What stands at a place. -/
inductive Node
  | directory
  | file (mode : Nat) (content : Content)
  | link (target : Path)
  | device (device : Device)
  deriving DecidableEq, Repr

/-- A table from places to what stands there. The root is a directory in every tree. -/
structure Tree where
  entries : List (Location × Node)

namespace Tree

/-- The tree in which there is only the root. -/
def empty : Tree := ⟨[]⟩

/-- What stands at a place. -/
def get? (tree : Tree) (location : Location) : Option Node :=
  if location = [] then some .directory else tree.entries.lookup location

/-- Put something at a place, instead of what stood there. -/
def set (tree : Tree) (location : Location) (node : Node) : Tree :=
  ⟨(location, node) :: tree.entries.filter fun entry => entry.1 ≠ location⟩

/-- Take away a place and all below it. -/
def remove (tree : Tree) (location : Location) : Tree :=
  ⟨tree.entries.filter fun entry => !location.isPrefixOf entry.1⟩

/-- The names of the entries of a directory. -/
def names (tree : Tree) (directory : Location) : List Name :=
  tree.entries.filterMap fun entry =>
    match entry.1.getLast? with
    | some name => if entry.1 = directory ++ [name] then some name else none
    | none => none

@[simp]
theorem get?_root (tree : Tree) : tree.get? [] = some .directory := by
  simp [get?]

theorem lookup_filter_ne {entries : List (Location × Node)} {location other : Location}
    (different : other ≠ location) :
    (entries.filter fun entry => entry.1 ≠ location).lookup other = entries.lookup other := by
  induction entries with
  | nil => rfl
  | cons entry rest inductionHypothesis =>
    obtain ⟨place, node⟩ := entry
    by_cases here : place = location
    · subst here
      have apart : (other == place) = false := by simpa using different
      simpa [List.filter_cons, List.lookup_cons, apart] using inductionHypothesis
    · by_cases found : other = place
      · subst found
        simp [here]
      · have apart : (other == place) = false := by simpa using found
        simpa [List.filter_cons, here, List.lookup_cons, apart] using inductionHypothesis

/-- A place holds what was put there last. -/
theorem get?_set_same (tree : Tree) {location : Location} (inner : location ≠ []) (node : Node) :
    (tree.set location node).get? location = some node := by
  simp [get?, set, inner]

/-- Putting something at one place leaves every other place alone. -/
theorem get?_set_other (tree : Tree) {location other : Location} (different : other ≠ location)
    (node : Node) : (tree.set location node).get? other = tree.get? other := by
  unfold get? set
  split
  · rfl
  · have apart : (other == location) = false := by simpa using different
    rw [List.lookup_cons, apart]
    exact lookup_filter_ne different

theorem lookup_isSome_iff {entries : List (Location × Node)} {location : Location} :
    (entries.lookup location).isSome ↔ ∃ entry ∈ entries, entry.1 = location := by
  induction entries with
  | nil => simp
  | cons entry rest inductionHypothesis =>
    obtain ⟨place, node⟩ := entry
    by_cases here : location = place
    · subst here
      simp
    · have apart : (location == place) = false := by simpa using here
      rw [List.lookup_cons, apart]
      constructor
      · intro found
        obtain ⟨other, member, same⟩ := inductionHypothesis.mp found
        exact ⟨other, List.mem_cons_of_mem _ member, same⟩
      · rintro ⟨other, member, same⟩
        rcases List.mem_cons.mp member with head | tail
        · exact absurd (head ▸ same).symm here
        · exact inductionHypothesis.mpr ⟨other, tail, same⟩

/-- A directory lists the names at which something stands. -/
theorem mem_names {tree : Tree} {directory : Location} {name : Name} :
    name ∈ tree.names directory ↔ (tree.get? (directory ++ [name])).isSome := by
  have inner : directory ++ [name] ≠ [] := by simp
  unfold names get?
  rw [if_neg inner, lookup_isSome_iff, List.mem_filterMap]
  constructor
  · rintro ⟨entry, member, listed⟩
    cases last : entry.1.getLast? with
    | none => simp [last] at listed
    | some found =>
      by_cases here : entry.1 = directory ++ [found]
      · simp only [last, if_pos here, Option.some.injEq] at listed
        exact ⟨entry, member, listed ▸ here⟩
      · simp [last, here] at listed
  · rintro ⟨entry, member, same⟩
    exact ⟨entry, member, by simp [same]⟩

end Tree

end CommandShell
