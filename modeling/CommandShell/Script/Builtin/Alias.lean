/-
This file holds the commands for aliases: words that stand for other texts where a
command can start. They are listed in the order of the table that holds them, which
is by a remainder of the sum of their characters, and within that by age.
-/

import CommandShell.Script.Builtin.Variable

namespace CommandShell

namespace Script

/-- The sum of the characters of a word, of which the first one counts once more, sixteen times. A
character that is not plain counts less than nothing. -/
def letterSum (word : Text) : Nat :=
  let worth (character : Char) : Int :=
    if character.toNat < 128 then character.toNat else (character.toNat : Int) - 256
  let first := (word.head?.map (·.toNat)).getD 0
  ((word.foldl (fun sum character => sum + worth character) ((first : Int) * 16)) %
    0x100000000).toNat

/-- Entries in the order of a table with so many places. -/
def tableOrder {α : Type} (places : Nat) (key : α → Nat) (entries : List α) : List α :=
  (List.range places).flatMap fun place => entries.filter fun entry => key entry % places = place

/-- The number of places in the table of aliases. -/
def aliasPlaces : Nat := 39

/-- An alias as it would be set. -/
def shownAlias (name value : Text) : Text :=
  name ++ '=' :: quotedText value ++ ['\n']

/-- Set an alias. One that is there keeps its age. -/
def Shell.setAlias (shell : Shell) (name value : Text) : Shell :=
  if (shell.aliases.lookup name).isSome then
    { shell with
      aliases := shell.aliases.map fun entry => if entry.1 = name then (name, value) else entry }
  else { shell with aliases := shell.aliases ++ [(name, value)] }

/-- Set or show aliases. What stands in front of the equals sign is one character at least. -/
def aliasEach : List Text → Run (Text × Nat)
  | [] => return ([], 0)
  | argument :: rest => do
    let shell ← get
    let (name, value) := divideArgument (argument.drop 1)
    match argument, value with
    | first :: _, some value =>
      set (shell.setAlias (first :: name) value)
      aliasEach rest
    | _, _ =>
      match shell.aliases.lookup argument with
      | some value =>
        let (text, status) ← aliasEach rest
        return (shownAlias argument value ++ text, status)
      | none =>
        put 2 ("alias: ".toList ++ argument ++ " not found\n".toList)
        let (text, _) ← aliasEach rest
        return (text, 1)

/-- Set or show aliases. -/
def aliasCommand (args : List Text) : Run Nat := do
  if args = [] then
    let entries := tableOrder aliasPlaces (fun entry => letterSum entry.1) (← get).aliases
    return ← print "alias".toList (entries.flatMap fun (name, value) => shownAlias name value)
  let (text, status) ← aliasEach args
  return max status (← print "alias".toList text)

/-- Forget aliases. -/
def unaliasCommand (args : List Text) : Run Nat := do
  let (options, names) ← takeOptions ['a'] args
  if options ≠ [] then
    modify fun shell => { shell with aliases := [] }
    return 0
  names.foldlM (fun status name => do
    let shell ← get
    if (shell.aliases.lookup name).isSome then
      set { shell with aliases := shell.aliases.filter fun entry => entry.1 ≠ name }
      return status
    put 2 ("unalias: ".toList ++ name ++ " not found\n".toList)
    return 1) 0

end Script

end CommandShell
