/-
This file holds variables in two forms. A session keeps a table from keys to
values. A process is given a list of entries, each a key, an equals sign and a
value, and it looks a key up by comparing the start of the entries, so a key that
itself holds an equals sign can be found inside the value of a shorter one.
-/

import CommandShell.Bytes

namespace CommandShell

/-! ### Tables -/

/-- Variables by name. -/
abbrev Vars := List (String × String)

namespace Vars

/-- The value of a variable. -/
def get? (vars : Vars) (key : String) : Option String :=
  vars.lookup key

/-- The variables with one of them set. -/
def set (vars : Vars) (key value : String) : Vars :=
  (key, value) :: vars.filter fun entry => entry.1 ≠ key

/-- A variable has the value it was set to last. -/
theorem get?_set_self (vars : Vars) (key value : String) :
    (vars.set key value).get? key = some value := by
  simp [get?, set]

end Vars

/-! ### Entries -/

/-- The byte between a key and its value. -/
def equalsSign : UInt8 := 61

/-- The entry of a variable. -/
def entryOf (key value : String) : Bytes :=
  utf8 key ++ equalsSign :: utf8 value

/-- The value of a key among entries: what follows the key and an equals sign in the first entry
that starts with them. The empty key has none. -/
def findEntry (entries : List Bytes) (key : Bytes) : Option Bytes :=
  if key = [] then none
  else
    (entries.find? fun entry => (key ++ [equalsSign]).isPrefixOf entry).map
      (·.drop (key.length + 1))

/-- The key and the value of an entry, which is divided at its first equals sign. A key cannot be
empty, so an equals sign at the very start does not divide it. -/
def splitEntry? : Bytes → Option (Bytes × Bytes)
  | [] => none
  | first :: rest =>
    match rest.dropWhile (· != equalsSign) with
    | [] => none
    | _ :: value => some (first :: rest.takeWhile (· != equalsSign), value)

namespace Vars

/-- Set the variable of an entry, if it has one. There is no table any more if the key or the value
is not text. -/
def setEntry? (vars : Vars) (entry : Bytes) : Option Vars :=
  match splitEntry? entry with
  | none => some vars
  | some (key, value) =>
    match decode? key, decode? value with
    | some key, some value => some (vars.set key value)
    | _, _ => none

/-- The table of a list of entries, if all of them are text. Of two entries with one key the later
one counts. -/
def ofEntries? (entries : List Bytes) : Option Vars :=
  entries.foldlM setEntry? []

/-- The entries of a process whose variables are overlaid with those of a table, by their keys in
byte order. They need not be text. -/
def overlay (vars : Vars) (entries : List Bytes) : List Bytes :=
  let all := (vars.map fun entry => (utf8 entry.1, utf8 entry.2)) ++
    (entries.filterMap splitEntry?).reverse
  (sortedSet (all.map (·.1))).filterMap fun key =>
    (all.lookup key).map fun value => key ++ equalsSign :: value

end Vars

end CommandShell
