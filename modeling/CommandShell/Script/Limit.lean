/-
This file holds the limits that the system sets to processes. Each has a soft value,
which counts, and a hard one, up to which the soft one can be raised. Values are
counted in units that differ from limit to limit.
-/

import CommandShell.Script.Statement

namespace CommandShell

namespace Script

/-- A limit. -/
structure Limit where
  /-- The letter by which it is asked for. -/
  letter : Char
  label : String
  unit : Nat
  soft : Nat
  hard : Nat
  deriving DecidableEq, Repr

/-- The limits of a process. -/
abbrev Limits := List Limit

namespace Limit

/-- The number of different values. -/
def modulus : Nat := Nat.pow 2 64

/-- The value that is no limit. -/
def unlimited : Nat := modulus - 1

/-- A value in the units of a limit. -/
def shown (limit : Limit) (value : Nat) : Text :=
  if value = unlimited then "unlimited\n".toList
  else (toString (value / limit.unit)).toList ++ ['\n']

/-- The value that a text stands for. -/
def value? (limit : Limit) (text : Text) : Option Nat :=
  if text = "unlimited".toList then some unlimited
  else if text.all Char.isDigit then
    let number := text.foldl (fun number digit => number * 10 + (digit.toNat - 48)) 0
    some (number * limit.unit % modulus)
  else none

/-- Set the values of a limit, or say why this cannot be done. A hard value is never raised. -/
def change (limit : Limit) (soft hard : Option Nat) : Except String Limit :=
  let next := { limit with soft := soft.getD limit.soft, hard := hard.getD limit.hard }
  if next.hard < next.soft then .error "Invalid argument"
  else if limit.hard < next.hard then .error "Operation not permitted"
  else .ok next

end Limit

namespace Limits

/-- The limits at the start. -/
def usual : Limits :=
  [⟨'t', "time(seconds)", 1, Limit.unlimited, Limit.unlimited⟩,
    ⟨'f', "file(blocks)", 512, Limit.unlimited, Limit.unlimited⟩,
    ⟨'d', "data(kbytes)", 1024, Limit.unlimited, Limit.unlimited⟩,
    ⟨'s', "stack(kbytes)", 1024, 8192 * 1024, Limit.unlimited⟩,
    ⟨'c', "coredump(blocks)", 512, 0, Limit.unlimited⟩,
    ⟨'m', "memory(kbytes)", 1024, Limit.unlimited, Limit.unlimited⟩,
    ⟨'l', "locked memory(kbytes)", 1024, 8192 * 1024, 8192 * 1024⟩,
    ⟨'p', "process", 1, 128597, 128597⟩,
    ⟨'n', "nofiles", 1, 20000, 20000⟩,
    ⟨'v', "vmemory(kbytes)", 1024, Limit.unlimited, Limit.unlimited⟩,
    ⟨'w', "locks", 1, Limit.unlimited, Limit.unlimited⟩,
    ⟨'r', "rtprio", 1, 0, 0⟩]

/-- The limit with this letter. -/
def get? (limits : Limits) (letter : Char) : Option Limit :=
  limits.find? fun limit => limit.letter = letter

/-- The soft value of the limit with this letter. -/
def soft? (limits : Limits) (letter : Char) : Option Nat :=
  (limits.get? letter).map (·.soft)

/-- Put a limit in the place of the one with its letter. -/
def put (limits : Limits) (limit : Limit) : Limits :=
  limits.map fun other => if other.letter = limit.letter then limit else other

end Limits

end Script

end CommandShell
