/-
This file holds the commands for the options of the shell, and for those in the
arguments of scripts.
-/

import CommandShell.Script.Builtin.Variable

namespace CommandShell

namespace Script

/-! ### Options -/

/-- Set an option or take it back. -/
def setOption (on : Bool) (name : String) : Run Unit :=
  modify fun shell =>
    let others := shell.options.filter (· ≠ name)
    { shell with options := if on then name :: others else others }

/-- Set an option by its letter or take it back. Only one of the two ways to edit lines is set. -/
def setLetter (on : Bool) (letter : Char) (name : String) : Run Unit := do
  if on && letter = 'V' then setOption false "emacs"
  if on && letter = 'E' then setOption false "vi"
  setOption on name

/-- The options as the commands that set them. -/
def optionCommands (shell : Shell) : Text :=
  optionTable.flatMap fun (_, name) =>
    "set ".toList ++ (if shell.has name then '-' else '+') :: "o ".toList ++ name.toList ++ ['\n']

/-- The list of all options. -/
def listOptions (shell : Shell) : Text :=
  let lines := optionTable.map fun (_, name) =>
    name.toList ++ List.replicate (16 - name.length) ' ' ++
      (if shell.has name then "on" else "off").toList ++ ['\n']
  "Current option settings\n".toList ++ lines.flatten

/-- Set the options in a bundle. The option for names takes the next argument. -/
def setBundle (on : Bool) : Text → List Text → Run (List Text)
  | [], args => return args
  | 'o' :: rest, args => do
    match args with
    | [] =>
      let _ ← print "set".toList ((if on then listOptions else optionCommands) (← get))
      setBundle on rest []
    | name :: args =>
      match optionTable.find? fun entry => entry.2.toList = name with
      | some (_, name) =>
        setOption on name
        setBundle on rest args
      | none => fail ("Illegal option -o ".toList ++ name)
  | letter :: rest, args => do
    match optionTable.find? fun entry => entry.1 = some letter with
    | some (_, name) =>
      setLetter on letter name
      setBundle on rest args
    | none => fail ("Illegal option -".toList ++ [letter])

/-- Set the parameters. The search for options in them starts anew. -/
def Shell.setParameters (shell : Shell) (parameters : List Text) : Shell :=
  { shell with parameters := parameters, optionPlace := .start }

/-- Set options and parameters. -/
def setArguments : (steps : Nat) → List Text → Run Unit
  | 0, _ => return
  | _, [] => return
  | steps + 1, word :: rest => do
    if word = "--".toList then modify (·.setParameters rest)
    else if word = ['-'] then
      setOption false "xtrace"
      setOption false "verbose"
      if rest ≠ [] then modify (·.setParameters rest)
    else
      match word with
      | '-' :: bundle => setArguments steps (← setBundle true bundle rest)
      | '+' :: bundle => setArguments steps (← setBundle false bundle rest)
      | _ => modify (·.setParameters (word :: rest))

/-- Set options and parameters, or list the variables. -/
def setCommand (args : List Text) : Run Nat := do
  if args = [] then
    return ← print "set".toList (listVariables [] (·.value.isSome) (← get))
  setArguments (args.length + 1) args
  let shell ← get
  if shell.has "monitor" && shell.wholeTraps.isNone then
    warn "can't access tty; job control turned off".toList
    setOption false "monitor"
  return 0

/-! ### Options in arguments -/

/-- What stands at a place: the rest of a bundle of options, and the number of the argument after
it. -/
def nextBundle (args : List Text) (place : OptionPlace) : Option Text × Nat :=
  let begun := match place.offset with
    | some offset => if 1 < place.next then ((args[place.next - 2]?).getD []).drop offset else []
    | none => []
  if begun ≠ [] then (some begun, place.next)
  else
    match args[place.next - 1]? with
    | some ['-', '-'] => (none, place.next + 1)
    | some ('-' :: first :: rest) => (some (first :: rest), place.next + 1)
    | _ => (none, place.next)

/-- Whether a letter is among the options that are looked for, and if so whether it takes an
argument. -/
def lookUpOption (letter : Char) : Text → Option Bool
  | [] => none
  | option :: rest =>
    if option = letter then some (rest.head? == some ':')
    else
      match rest with
      | ':' :: after => lookUpOption letter after
      | rest => lookUpOption letter rest

/-- What the search for options found at a place. -/
structure FoundOption where
  letter : Char
  /-- The place after it. -/
  place : OptionPlace
  /-- What is wrong with it, for the user to read. -/
  problem : Option Text := none
  /-- What was found with it, or nothing if it is wrong. -/
  argument : Option Text := none

/-- The option at the start of the rest of a bundle. -/
def optionIn (wanted : Text) (args : List Text) (letter : Char) (rest : Text) (next : Nat) :
    FoundOption :=
  let silent := wanted.head? == some ':'
  let onward : OptionPlace := ⟨next, some (((args[next - 2]?).getD []).length - rest.length)⟩
  let wrong (problem : String) (shown : Char) (place : OptionPlace) : FoundOption :=
    if silent then ⟨shown, place, none, some [letter]⟩
    else ⟨'?', place, some (problem.toList ++ [letter]), none⟩
  match lookUpOption letter wanted with
  | none => wrong "Illegal option -" '?' onward
  | some false => ⟨letter, onward, none, some []⟩
  | some true =>
    match rest, args[next - 1]? with
    | [], none =>
      let found := wrong "No arg for -" ':' onward
      { found with problem := found.problem.map (· ++ " option".toList) }
    | [], some argument => ⟨letter, ⟨next + 1, none⟩, none, some argument⟩
    | rest, _ => ⟨letter, ⟨next, none⟩, none, some rest⟩

/-- Set the variables for what was found, and go on from there later. As long as they are not set
the place is not known. -/
def reportOption (name : Text) (letter : Char) (place : OptionPlace) : Run Unit := do
  setVariable Shell.placeName (toString place.next).toList false
  modify fun shell => { shell with optionPlace := ⟨0, none⟩ }
  if !isVariableName name then fail (labelled name "bad variable name")
  setVariable name [letter] false
  modify fun shell => { shell with optionPlace := place }

/-- Find the next option in arguments. A place that is not in them means the first one. -/
def findOption (wanted name : Text) (args : List Text) : Run Nat := do
  let shell ← get
  let known := 0 < shell.optionPlace.next ∧ shell.optionPlace.next ≤ args.length + 1
  let place := if known then shell.optionPlace else .start
  set { shell with optionPlace := ⟨0, none⟩ }
  match nextBundle args place with
  | (some (letter :: rest), next) =>
    let found := optionIn wanted args letter rest next
    match found.problem with
    | some problem => put 2 (problem ++ ['\n'])
    | none => pure ()
    match found.argument with
    | some argument => setVariable "OPTARG".toList argument false
    | none => forgetVariable "OPTARG".toList
    reportOption name found.letter found.place
    return 0
  | (_, next) =>
    reportOption name '?' ⟨next, none⟩
    return 1

/-- Find the next option in the arguments, or else in the parameters. -/
def optionsCommand (args : List Text) : Run Nat := do
  match args with
  | wanted :: name :: rest =>
    let shell ← get
    findOption wanted name (if rest = [] then shell.parameters else rest)
  | _ => fail "Usage: getopts optstring var [arg...]".toList

end Script

end CommandShell
