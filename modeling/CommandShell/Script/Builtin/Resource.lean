/-
This file holds the commands for what the system grants: the permissions that new
files do not get, the limits of processes, and the time that they took.
-/

import CommandShell.Script.Builtin.Arguments
import CommandShell.Script.Print

namespace CommandShell

namespace Script

/-! ### Permissions -/

/-- All permissions. -/
def allPermissions : Nat := 0o777

/-- The digits of the permissions that files do not get. -/
def maskText (mask : Nat) : Text :=
  let digits := Nat.toDigits 8 mask
  List.replicate (4 - digits.length) '0' ++ digits ++ ['\n']

/-- The permissions that files get, by name. -/
def permissionsText (mask : Nat) : Text :=
  let granted := allPermissions - mask
  let letters (shift : Nat) : Text := [(4, 'r'), (2, 'w'), (1, 'x')].filterMap fun (bit, letter) =>
    if (granted >>> shift) &&& bit ≠ 0 then some letter else none
  "u=".toList ++ letters 6 ++ ",g=".toList ++ letters 3 ++ ",o=".toList ++ letters 0 ++ ['\n']

/-- The permissions of the one that a letter stands for. -/
def ownersOf : Char → Nat
  | 'u' => 0o700
  | 'g' => 0o070
  | 'o' => 0o007
  | 'a' => 0o777
  | _ => 0

/-- Permissions of three bits, for everyone. -/
def forAll (bits : Nat) : Nat := bits * 0o111

/-- The permissions that a letter stands for, where others are granted now. -/
def permission? (granted : Nat) : Char → Option Nat
  | 'r' => some (forAll 4)
  | 'w' => some (forAll 2)
  | 'x' => some (forAll 1)
  | 'X' => some (if granted &&& forAll 1 ≠ 0 then forAll 1 else 0)
  | 's' => some 0
  | 'u' => some (forAll (granted >>> 6 &&& 7))
  | 'g' => some (forAll (granted >>> 3 &&& 7))
  | 'o' => some (forAll (granted &&& 7))
  | _ => none

/-- The permissions after those of some owners were added, taken away or set. -/
def grant (sign : Char) (owners permissions granted : Nat) : Nat :=
  let others := granted - (granted &&& owners)
  match sign with
  | '+' => granted ||| (permissions &&& owners)
  | '-' => granted - (granted &&& permissions &&& owners)
  | _ => others ||| (permissions &&& owners)

/-- The permissions after the changes at the start of a text, and the rest of the text. Others that
the text refers to are those at first. -/
def applyChanges (first owners : Nat) : (steps : Nat) → Text → Nat → Nat × Text
  | 0, text, granted => (granted, text)
  | steps + 1, text, granted =>
    match text with
    | [] => (granted, [])
    | sign :: rest =>
      if ['+', '-', '='].contains sign then
        let letters := rest.takeWhile fun letter => (permission? first letter).isSome
        let permissions := letters.foldl (fun permissions letter =>
          permissions ||| (permission? first letter).getD 0) 0
        applyChanges first owners steps (rest.drop letters.length)
          (grant sign owners permissions granted)
      else (granted, text)

/-- The permissions after all the changes that a text asks for, with commas between them. -/
def changePermissions? (first : Nat) : (steps : Nat) → Text → Nat → Option Nat
  | 0, _, _ => none
  | _, [], granted => some granted
  | steps + 1, text, granted =>
    let named := text.takeWhile fun letter => ownersOf letter ≠ 0
    let owners := if named = [] then allPermissions
      else named.foldl (fun owners letter => owners ||| ownersOf letter) 0
    let text := text.drop named.length
    if ['+', '-', '='].contains (text.head?.getD ' ') then
      match applyChanges first owners text.length text granted with
      | (granted, []) => some granted
      | (granted, ',' :: rest) => changePermissions? first steps rest granted
      | _ => none
    else none

/-- Set or print the permissions that files do not get. -/
def maskCommand (args : List Text) : Run Nat := do
  let (options, args) ← takeOptions ['S'] args
  let shell ← get
  match args with
  | [] =>
    print "umask".toList ((if options = [] then maskText else permissionsText) shell.mask)
  | argument :: _ =>
    let mask ←
      if (argument.head?.map (·.isDigit)).getD false then
        if argument.all isOctal then
          pure ((takeDigits 8 0 argument).1 % (allPermissions + 1))
        else fail ("Illegal number: ".toList ++ argument)
      else
        let first := allPermissions - shell.mask
        match changePermissions? first (argument.length + 1) argument first with
        | some granted => pure (allPermissions - granted)
        | none => fail ("Illegal mode: ".toList ++ argument)
    set { shell with mask := mask }
    return 0

/-! ### Limits -/

/-- The width of the label of a limit. -/
def labelWidth : Nat := 20

/-- Set or print limits. The hard value is meant if only that is asked for. -/
def limitCommand (args : List Text) : Run Nat := do
  let shell ← get
  let letters := shell.limits.map (·.letter)
  let (options, args) ← takeOptions ('H' :: 'S' :: 'a' :: letters) args
  let kind := (options.filter ['H', 'S'].contains).getLast?
  let letter := ((options.filter letters.contains).getLast?).getD 'f'
  let shown (limit : Limit) : Text :=
    limit.shown (if kind = some 'H' then limit.hard else limit.soft)
  let all := options.contains 'a'
  match args, shell.limits.get? letter with
  | argument :: more, some limit =>
    if all ∨ more ≠ [] then fail "too many arguments".toList
    match limit.value? argument with
    | none => fail "bad number".toList
    | some value =>
      let soft := if kind = some 'H' then none else some value
      let hard := if kind = some 'S' then none else some value
      match limit.change soft hard with
      | .error reason => fail ("error setting limit (" ++ reason ++ ")").toList
      | .ok limit =>
        set { shell with limits := shell.limits.put limit }
        return 0
  | [], some limit =>
    print "ulimit".toList
      (if all then shell.limits.flatMap fun limit =>
        limit.label.toList ++ List.replicate (labelWidth - limit.label.length) ' ' ++
          ' ' :: shown limit
      else shown limit)
  | _, none => return 0

/-- A line with the time that the shell took. -/
def timesLine : Text := "0m0.000000s 0m0.000000s\n".toList

/-- Print the times that the shell and its processes took. -/
def timesCommand : Run Nat :=
  print "times".toList (timesLine ++ timesLine)

end Script

end CommandShell
