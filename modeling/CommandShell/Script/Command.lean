/-
This file runs simple commands. The words are expanded first, the redirections are
made next, and then the assignments. What is left is the name of a function, of a
command of the shell or of a program.
-/

import CommandShell.Script.Builtin
import CommandShell.Script.Process
import CommandShell.Script.Redirection

namespace CommandShell

namespace Script

/-! ### Redirections -/

/-- Give the words of redirections their values. Only a text that is brought gets its value when the
redirection is made. -/
def expandTargets (again : Again) (depth : Nat) (redirections : List Redirection) :
    Run (List Target) :=
  redirections.mapM fun redirection => do
    match redirection with
    | .mk descriptor direction word =>
      let value := expandText (outputOf again) depth word
      if direction = .text then return ⟨descriptor, .text, value⟩
      let text ← value
      if direction = .copy ∧ text ≠ ['-'] ∧ !(text.length == 1 && text.all Char.isDigit) then
        modify fun shell => { shell with line := shell.reached }
        fail "Syntax error: Bad fd number".toList
      return ⟨descriptor, direction, pure text⟩

/-! ### Commands that run other commands -/

/-- Run a script in this shell. -/
def sourceCommand (again : Again) (args : List Text) : Run Nat := do
  let (_, args) ← takeOptions [] args
  match args with
  | [] => return 0
  | name :: _ =>
    let shell ← get
    match findSourced shell name with
    | none => fail (labelled name "not found")
    | some path =>
      let number ← numberFor openProblem path
      match shell.world.tree.inspect shell.world.cwd (bytesOf path) with
      | .error fault => fail (openProblem ++ path ++ ": ".toList ++ openReason fault "No such file")
      | .ok (place, .file _ content) =>
        if !shell.world.mayRead place.location then
          fail (openProblem ++ path ++ ": ".toList ++ Fault.accessDenied.reason.toList)
        match shell.keptNumber with
        | .error problem => fail (labelled (toString number).toList problem)
        | .ok kept => set { shell with title := some path, reading := kept :: shell.reading }
        let result ← attempt (runFile again noPrompt content.bytes place.location)
        modify fun shell => { shell with reading := shell.reading.drop 1 }
        match result with
        | .ok status => return status
        | .error .back => return (← get).status
        | .error jump => throw jump
      | .ok _ => return 0

/-- Run a command in place of the script. -/
def execCommand (again : Again) (args : List Text) : Run Nat := do
  match args with
  | [] => return 0
  | name :: args =>
    let shell ← get
    let paths := if name.contains '/' then [name] else shell.searchList.map (pathBelow name)
    match ← runFirst again name args paths with
    | .inl status =>
      modify fun shell => { shell with status := status }
      throw .exit
    | .inr status => throw (.replaced status)

/-- The command with this name. -/
def command? (again : Again) (tested : Bool) (name : String) : Option (List Text → Run Nat) :=
  match name with
  | "eval" => some fun args => runText again noPrompt tested textLoad .made (List.intercalate [' '] args)
  | "." => some (sourceCommand again)
  | "exec" => some (execCommand again)
  | name => builtin? name

/-! ### Simple commands -/

/-- How a command is looked for. -/
structure Manner where
  /-- Whether no function is meant. -/
  bypass : Bool := false
  /-- Whether only the programs of the system are meant. -/
  usual : Bool := false

/-- Whether a word asks for the programs of the system. -/
def asksUsual (word : Text) : Bool :=
  isBundle word && (word.drop 1).all (· == 'p')

/-- The words of a command without those that only say how it is looked for. -/
def stripCommand : (steps : Nat) → List Text → Manner × List Text
  | 0, words => ({}, words)
  | steps + 1, words =>
    match words with
    | name :: rest =>
      if name = "command".toList then
        let usual := rest.takeWhile asksUsual
        let rest := rest.drop usual.length
        let (marked, rest) := match rest with
          | ['-', '-'] :: rest => (true, rest)
          | rest => (false, rest)
        match rest with
        | [] => ({}, words)
        | next :: _ =>
          if isBundle next && !marked then ({}, words)
          else
            let (manner, rest) := stripCommand steps rest
            (⟨true, manner.usual || !usual.isEmpty⟩, rest)
      else ({}, words)
    | [] => ({}, [])

/-- How many functions can run inside each other. -/
def functionLimit : Nat := 1000

/-- Give back what a function has to give back. -/
def Shell.giveBack (shell : Shell) (saved : Saved) : Shell :=
  match saved with
  | .variable name entry => shell.define name entry
  | .options names => { shell with options := names }

/-- Run a function with parameters of its own. -/
def callFunction (again : Again) (tested : Bool) (body : Statement) (args : List Text) :
    Run Nat := do
  let before ← get
  if functionLimit ≤ before.locals.length then
    fail "Maximum function recursion depth (1000) reached".toList
  set { before with
    parameters := args, optionPlace := .start, loops := 0, locals := [] :: before.locals }
  let result ← attempt (again ⟨tested, false⟩ body)
  modify fun shell =>
    { (shell.locals.head?.getD []).foldl Shell.giveBack shell with
      parameters := before.parameters, optionPlace := before.optionPlace
      loops := before.loops, locals := before.locals }
  match result with
  | .ok status => return status
  | .error .back => return (← get).status
  | .error jump => throw jump

/-- Run a command of the shell under its own name. What it finds wrong ends the script only if the
command is part of the language. -/
def callBuiltin (special : Bool) (name : Text) (action : Run Nat) : Run Nat := do
  let title := (← get).title
  modify fun shell => { shell with title := some name }
  let result ← attempt action
  modify fun shell => { shell with title := title }
  match result with
  | .ok status => return status
  | .error .error => if special then throw .error else return (← get).status
  | .error jump => throw jump

/-- The text in front of a command that is shown. -/
def traceStart (again : Again) : Run Text := do
  modify fun shell => { shell with prompting := true }
  let result ← attempt (promptText again "PS4")
  modify fun shell => { shell with prompting := false }
  match result with
  | .ok text => return text
  | .error jump => throw jump

/-- Show a command before it runs, on the descriptors that were open before it. -/
def trace (again : Again) (files : List (Nat × Nat))
    (assignments : List (Text × Text)) (words : List Text) : Run Unit := do
  let shell ← get
  if shell.has "xtrace" && !shell.prompting then
    let start ← traceStart again
    let texts := assignments.map (fun (name, value) => name ++ '=' :: value) ++ words
    let inner := (← get).files
    modify fun shell => { shell with files := files }
    put 2 (start ++ List.intercalate [' '] texts ++ ['\n'])
    modify fun shell => { shell with files := inner }

/-- The commands whose arguments set variables. -/
def settingNames : List String := ["export", "readonly", "local", "alias"]

/-- Whether a command of which these are the first words sets variables by its arguments, if they
tell. -/
def setsVariables? (texts : List Text) : Option Bool :=
  match (stripCommand (texts.length + 1) texts).2 with
  | [] => none
  | name :: _ =>
    if name = "command".toList then none
    else some (settingNames.contains (String.ofList name))

/-- Expand the words of a command, of which those before are given, the last one first. Where
variables are set by arguments, those are not split. -/
def expandOnward (again : Again) (depth : Nat) (setting : Option Bool) (before : List Text) :
    List (List Part) → Run (List Text)
  | [] => return before.reverse
  | word :: rest => do
    match if setting = some true then assignment? word else none with
    | some (name, value) =>
      let value ← expandValue (outputOf again) depth value
      expandOnward again depth setting ((name ++ '=' :: value) :: before) rest
    | none =>
      let before := (← expandWords (outputOf again) depth [word]).reverse ++ before
      let setting := setting.orElse fun _ => setsVariables? before.reverse
      expandOnward again depth setting before rest

/-- Expand the words of a command. -/
def expandCommand (again : Again) (depth : Nat) (words : List (List Part)) : Run (List Text) :=
  expandOnward again depth none [] words

/-- Set variables. They are given back as they were before. -/
def assignAll (again : Again) (depth : Nat) (exported : Bool)
    (assignments : List (Text × List Part)) :
    Run (List (Text × Text) × List (Text × Option Variable)) := do
  let before ← get
  let values ← assignments.mapM fun (name, word) => do
    let value ← expandValue (outputOf again) depth word
    setVariable name value exported
    return (name, value)
  return (values, values.map fun (name, _) => (name, before.entry? name))

/-- Run a command whose words are known. -/
def dispatch (again : Again) (position : Position) (manner : Manner) (name : Text)
    (args : List Text) : Run Nat := do
  let shell ← get
  let text := String.ofList name
  let function := if manner.bypass || specialNames.contains text then none
    else shell.functions.lookup name
  match function, command? again position.tested text with
  | some body, _ => callFunction again position.tested body args
  | none, some action =>
    callBuiltin (specialNames.contains text && !manner.bypass) name (action args)
  | none, none => runExternal again position manner.usual name args

/-- Run a simple command. -/
def runSimple (again : Again) (depth : Nat) (position : Position)
    (assignments : List (Text × List Part)) (words : List (List Part))
    (redirections : List Redirection) : Run Nat := do
  modify fun shell => { shell with outputStatus := 0 }
  let words ← expandCommand again depth words
  let (manner, command) := stripCommand (words.length + 1) words
  let targets ← expandTargets again depth redirections
  let special := !manner.bypass && (command.head?.map fun name =>
    specialNames.contains (String.ofList name)).getD false
  let files := (← get).files
  let frame := (← get).frame
  let lastingFiles := command.head? == some "exec".toList
  if !(← redirectAll true targets) then
    modify fun shell => if lastingFiles then shell.keepFrom frame else shell.giveBackTo frame
    modify fun shell => { shell with status := errorStatus }
    if special then throw .error
    return errorStatus
  let lasting := special || command.isEmpty
  let (values, before) ← assignAll again depth (!lasting) assignments
  trace again files values words
  let result ← attempt (match command with
    | [] => do return (← get).outputStatus
    | name :: args => dispatch again position manner name args)
  modify fun shell =>
    if lastingFiles && (result matches .ok _) then shell.keepFrom frame else shell.giveBackTo frame
  if !lasting then
    modify fun shell => before.reverse.foldl (fun shell (name, entry) =>
      shell.define name entry) shell
  match result with
  | .ok status => return status
  | .error jump => throw jump

end Script

end CommandShell
