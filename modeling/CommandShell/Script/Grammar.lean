/-
This file reads statements. The text is cut into tokens, and a word is a reserved
one only where a command can start. Statements in statements are read by the
reader that is given from outside; tying it to itself is a recursion on how deep
they may be nested.
-/

import CommandShell.Script.Word

namespace CommandShell

namespace Script

/-! ### Tokens -/

/-- A text without the blanks and the comment at its start, and the number of lines that were
joined on the way. -/
def skipBlanks : Text → Nat × Text
  | ' ' :: rest => skipBlanks rest
  | '\t' :: rest => skipBlanks rest
  | '\\' :: '\n' :: rest => ((skipBlanks rest).1 + 1, (skipBlanks rest).2)
  | '#' :: rest => (0, rest.dropWhile (· != '\n'))
  | text => (0, text)

/-- Go to the next token. -/
def passBlanks : Reader Unit :=
  modify fun source =>
    let (joined, rest) := skipBlanks source.rest
    let spaced := source.expanded.any fun entry =>
      entry.spaced && entry.left < source.rest.length && rest.length ≤ entry.left
    { source with rest := rest, line := source.line + joined, spaced := spaced }

/-- Read an operator of one character, or of two if the second one follows. -/
def readOperator (first : String) (next : Char) (both : String) : Reader Token := do
  advance 1
  if (← peek) == some next then
    advance 1
    return .sign both
  return .sign first

/-- Read the sign of a redirection. -/
def readArrow (descriptor : Option Nat) : Reader Token := do
  let source ← peek
  advance 1
  let next ← peek
  if source == some '<' then
    let descriptor := descriptor.getD 0
    if next == some '<' then
      advance 1
      let stripped := (← peek) == some '-'
      if stripped then advance 1
      return .arrow descriptor .text stripped
    if next == some '&' then
      advance 1
      return .arrow descriptor .copy false
    if next == some '>' then
      advance 1
      return .arrow descriptor .readWrite false
    return .arrow descriptor .read false
  else
    let descriptor := descriptor.getD 1
    if next == some '>' then
      advance 1
      return .arrow descriptor .append false
    if next == some '|' then
      advance 1
      return .arrow descriptor .overwrite false
    if next == some '&' then
      advance 1
      return .arrow descriptor .copy false
    return .arrow descriptor .write false

/-- The descriptor that a word before the sign of a redirection stands for. -/
def descriptor? : List Part → Option (Option Nat)
  | [] => some none
  | [.literal false [digit]] => if digit.isDigit then some (some (digit.toNat - 48)) else none
  | _ => none

/-- Pass over a text that stands at the start of what is left. -/
def passDocument (nested : Nested) (awaited : Awaited) : Reader Unit := do
  let before ← get
  match before.known.find? fun document => document.place == awaited.place with
  | some document =>
    set { before with
      rest := document.rest, line := document.line, found := before.found ++ [document] }
  | none =>
    set { before with
      asked := 0, awaited := [], found := [], known := [], ending := awaited.ending, fresh := true }
    let parts ←
      if awaited.ending.literal then do pure [.literal true (← takeRun fun _ => true)]
      else withDocuments (readWord nested .document)
    let after ← get
    let document : Document := ⟨awaited.place, parts, after.below, after.line⟩
    set { before with
      rest := document.rest, line := document.line, found := before.found ++ [document] }

/-- Pass over the texts that stand at the start of what is left. -/
def passDocuments (nested : Nested) : Reader Unit := do
  let source ← get
  set { source with awaited := [] }
  source.awaited.forM (passDocument nested)

/-- Read the next token of the text, of which a word would be in this context. -/
def readTokenIn (nested : Nested) (context : Context) : Reader Token := do
  passBlanks
  match ← peek with
  | none => return .finish
  | some '\n' =>
    advance 1
    passDocuments nested
    return .newline
  | some '&' => readOperator "&" '&' "&&"
  | some '|' => readOperator "|" '|' "||"
  | some ';' => readOperator ";" ';' ";;"
  | some '(' =>
    advance 1
    return .sign "("
  | some ')' =>
    advance 1
    return .sign ")"
  | some _ =>
    let parts ← readWord nested context
    let next ← peek
    let word : Reader Token := do
      modify fun source => { source with word := parts }
      return .word parts
    match descriptor? parts with
    | some descriptor =>
      if next == some '<' || next == some '>' then readArrow descriptor else word
    | none => word

/-- The reserved words. -/
def reservedWords : List String :=
  ["!", "case", "do", "done", "elif", "else", "esac", "fi", "for", "if", "in", "then", "until",
    "while", "\x7b", "\x7d"]

/-- A word as it is where reserved words count. -/
def Token.reserve : Token → Token
  | .word parts =>
    match plainText? parts with
    | some text =>
      if reservedWords.contains (String.ofList text) then .sign (String.ofList text)
      else .word parts
    | none => .word parts
  | token => token

/-- Whether a token is this sign. -/
def Token.isSign (token : Token) (text : String) : Bool :=
  match token with
  | .sign other => other == text
  | _ => false

/-- Whether a token ends a list of statements. -/
def Token.endsList : Token → Bool
  | .finish => true
  | .sign text =>
    [")", ";;", "do", "done", "elif", "else", "esac", "fi", "then", "\x7d"].contains text
  | _ => false

/-- What is looked out for when the next token is read. -/
structure Watch where
  /-- Whether line ends are passed over. -/
  pastLines : Bool := false
  /-- Whether reserved words count. -/
  reserved : Bool := false
  /-- Whether aliases count. -/
  aliases : Bool := false

namespace Watch

/-- What is looked out for in the middle of a command. -/
def middle : Watch := {}

/-- What is looked out for at the start of a command. -/
def start : Watch := { reserved := true, aliases := true }

/-- What is looked out for where a command may start on another line. -/
def block : Watch := { start with pastLines := true }

/-- What is looked out for at the start of a branch. -/
def branch : Watch := { pastLines := true, reserved := true }

end Watch

/-- The token that is held, or else the next one of the text. -/
def heldOrRead (nested : Nested) (context : Context) : Reader Token := do
  let source ← get
  match source.held with
  | some token =>
    set { source with held := none, spaced := false }
    return token
  | none => readTokenIn nested context

/-- The next token, of which a word would be in this context. -/
def nextTokenIn (nested : Nested) (context : Context) (watch : Watch) : Reader Token := do
  let first ← heldOrRead nested context
  untilDone (fun (token, aliases) => do
    let source ← get
    let aliases := aliases || source.spaced
    let again : Reader ((Token × Bool) ⊕ Token) := do
      return .inl (← readTokenIn nested context, aliases)
    match token with
    | .newline => if watch.pastLines then again else return .inr token
    | .word parts =>
      let token := if watch.reserved then token.reserve else token
      match token, (if aliases then (plainText? parts).bind source.expand? else none) with
      | .word _, some source =>
        set source
        again
      | token, _ => return .inr token
    | token => return .inr token) ((← stepsLeft) + (← get).aliases.length) (first, watch.aliases)

/-- The next token. -/
def nextToken (nested : Nested) (watch : Watch) : Reader Token :=
  nextTokenIn nested .bare watch

/-- Read a sign that has to stand here. -/
def expectSign (nested : Nested) (text : String) : Reader Unit := do
  let token ← nextToken nested .middle
  if !token.isSign text then unexpected token (some (.sign text))

/-! ### Redirections -/

/-- The literal text in the parts of a word. -/
def literalText (parts : List Part) : Text :=
  parts.flatMap fun part =>
    match part with
    | .literal _ text => text
    | _ => []

/-- Whether some part of a word is quoted. -/
def hasQuotes (parts : List Part) : Bool :=
  parts.any fun part =>
    match part with
    | .literal quoted _ => quoted
    | _ => false

/-- Ask for the text below the current line up to the delimiter. It is literal if the delimiter is
quoted. -/
def awaitDocument (delimiter : List Part) (stripped : Bool) : Reader (List Part) := do
  let source ← get
  let place := source.asked
  let awaited : Awaited := ⟨place, ⟨literalText delimiter, stripped, hasQuotes delimiter⟩⟩
  set { source with asked := place + 1, awaited := source.awaited ++ [awaited] }
  let known := source.known.find? fun document => document.place == place
  return (known.map (·.parts)).getD []

/-- Read what follows the sign of a redirection. -/
def readTarget (nested : Nested) (descriptor : Nat) (direction : Direction) (stripped : Bool) :
    Reader Redirection := do
  let context := if direction = .text then .delimiter false else .bare
  match ← nextTokenIn nested context .middle with
  | .word parts =>
    if direction = .text then
      return .mk descriptor .text (← awaitDocument parts stripped)
    return .mk descriptor direction parts
  | token => unexpected token none

/-- Read the redirections after a statement. -/
def readRedirections (nested : Nested) : Reader (List Redirection) := do
  untilDone (fun (redirections, first) => do
    match ← nextToken nested (if first then .start else .middle) with
    | .arrow descriptor direction stripped =>
      return .inl (redirections ++ [← readTarget nested descriptor direction stripped], false)
    | token =>
      hold token
      return .inr redirections) (← stepsLeft) (([] : List Redirection), true)

/-! ### Commands -/

/-- The variable and the value that a word sets. -/
def assignment? : List Part → Option (Text × List Part)
  | .literal false text :: rest =>
    let name := text.takeWhile (· != '=')
    match text.drop name.length with
    | [] => none
    | _ :: value =>
      if isVariableName name then
        some (name, if value = [] then rest else .literal false value :: rest)
      else none
  | _ => none

/-- The commands that are part of the shell's language. -/
def specialNames : List String :=
  [".", ":", "break", "continue", "eval", "exec", "exit", "export", "local", "readonly", "return",
    "set", "shift", "times", "trap", "unset"]

/-- What was read of a simple command, the last of each first. -/
structure Simple where
  assignments : List (Text × List Part) := []
  words : List (List Part) := []
  redirections : List Redirection := []

/-- Read a function after its name and the first bracket. -/
def readFunction (nested : Nested) (name : List Part) : Reader Statement := do
  expectSign nested ")"
  match plainText? name with
  | some name =>
    if isVariableName name && !specialNames.contains (String.ofList name) then
      return .function name (← nested .single)
    refuse .functionName
  | none => refuse .functionName

/-- Read a simple command. -/
def readSimple (nested : Nested) : Reader Statement := do
  let line := (← get).line
  untilDone (fun (simple : Simple) => do
    match ← nextToken nested { aliases := simple.words.isEmpty } with
    | .word parts =>
      match simple.words, assignment? parts with
      | [], some assignment =>
        return .inl { simple with assignments := assignment :: simple.assignments }
      | _, _ => return .inl { simple with words := parts :: simple.words }
    | .arrow descriptor direction stripped =>
      let redirection ← readTarget nested descriptor direction stripped
      return .inl { simple with redirections := redirection :: simple.redirections }
    | token =>
      match simple.words, simple.assignments, simple.redirections with
      | [name], [], [] =>
        if token.isSign "(" then return .inr (← readFunction nested name)
      | _, _, _ => pure ()
      hold token
      return .inr (.simple line simple.assignments.reverse simple.words.reverse
        simple.redirections.reverse))
    (← stepsLeft) {}

/-- Put branches together, of which each is tried if those before it did not run. -/
def chain (branches : List (Statement × Statement)) (otherwise : Statement) : Statement :=
  branches.foldr (fun (condition, body) rest => .choice condition body rest) otherwise

/-- Read the branches of a choice. -/
def readChoice (nested : Nested) : Reader Statement := do
  untilDone (fun branches => do
    let condition ← nested .block
    expectSign nested "then"
    let branches := branches ++ [(condition, ← nested .block)]
    let token ← nextToken nested .middle
    if token.isSign "elif" then return .inl branches
    if token.isSign "else" then return .inr (chain branches (← nested .block))
    hold token
    return .inr (chain branches .empty)) (← stepsLeft) ([] : List (Statement × Statement))

/-- Read a loop that goes on while a condition holds. -/
def readLoop (nested : Nested) (untilTrue : Bool) : Reader Statement := do
  let condition ← nested .block
  expectSign nested "do"
  return .loop untilTrue condition (← nested .block)

/-- Read the words of a loop over values. -/
def readValues (nested : Nested) : Reader (List (List Part)) := do
  untilDone (fun words => do
    match ← nextToken nested .middle with
    | .word parts => return .inl (parts :: words)
    | .newline => return .inr words.reverse
    | token => if token.isSign ";" then return .inr words.reverse else unexpected token none)
    (← stepsLeft) ([] : List (List Part))

/-- Read a loop over values. -/
def readEach (nested : Nested) (line : Nat) : Reader Statement := do
  match ← nextToken nested .middle with
  | .word parts =>
    match plainText? parts with
    | some name =>
      if !isVariableName name then refuse .loopName
      let token ← nextToken nested .block
      let words ←
        if token.isSign "in" then pure (some (← readValues nested))
        else do
          if !token.isSign ";" then hold token
          pure none
      let token ← nextToken nested .block
      if !token.isSign "do" then unexpected token (some (.sign "do"))
      return .each line name words (← nested .block)
    | none => refuse .loopName
  | _ => refuse .loopName

/-- Read the patterns of a branch, the first of which starts with this token. A token that is no
word stands for the last word before it. -/
def readPatterns (nested : Nested) (first : Token) : Reader (List (List Part)) := do
  if first.isSign "(" then
    let _ ← nextToken nested .middle
  untilDone (fun patterns => do
    let patterns := patterns ++ [(← get).word]
    let next ← nextToken nested .middle
    if next.isSign "|" then
      let _ ← nextToken nested .middle
      return .inl patterns
    if next.isSign ")" then return .inr patterns
    unexpected next (some (.sign ")"))) (← stepsLeft) ([] : List (List Part))

/-- Read a choice by patterns. -/
def readCases (nested : Nested) (line : Nat) : Reader Statement := do
  match ← nextToken nested .middle with
  | .word word =>
    let token ← nextToken nested .block
    if !token.isSign "in" then unexpected token (some (.sign "in"))
    let branches ← untilDone (fun branches => do
      let token ← nextToken nested .branch
      if token.isSign "esac" then return .inr branches.reverse
      let patterns ← readPatterns nested token
      let body ← nested .closed
      let branches := (patterns, body) :: branches
      let token ← nextToken nested .branch
      if token.isSign "esac" then return .inr branches.reverse
      if token.isSign ";;" then return .inl branches
      unexpected token (some (.sign ";;"))) (← stepsLeft)
      ([] : List (List (List Part) × Statement))
    return .cases line word branches
  | token => unexpected token (some (.word []))

/-- Read a statement that starts with a sign, up to the sign that ends it. -/
def readCompound (nested : Nested) (line : Nat) (start : String) : Reader (Option Statement) := do
  if start = "if" then
    let statement ← readChoice nested
    expectSign nested "fi"
    return statement
  if start = "while" ∨ start = "until" then
    let statement ← readLoop nested (start == "until")
    expectSign nested "done"
    return statement
  if start = "for" then
    let statement ← readEach nested line
    expectSign nested "done"
    return statement
  if start = "case" then return ← readCases nested line
  if start = "(" then
    let statement ← nested .block
    expectSign nested ")"
    return some (.apart line statement)
  if start = "\x7b" then
    let statement ← nested .block
    expectSign nested "\x7d"
    return statement
  return none

/-- Read a command. -/
def readCommand (nested : Nested) (pastLines : Bool) : Reader Statement := do
  let line := (← get).line
  let token ← nextToken nested { Watch.start with pastLines := pastLines }
  match token with
  | .word _ | .arrow .. =>
    hold token
    readSimple nested
  | .sign start =>
    match ← readCompound nested line start with
    | none => unexpected token none
    | some statement =>
      return statement.under line (← readRedirections nested)
  | token => unexpected token none

/-- Read commands that are joined by pipes. -/
def readPipeline (nested : Nested) : Reader Statement := do
  let token ← nextToken nested .block
  let negated := token.isSign "!"
  if !negated then hold token
  let line := (← get).line
  let first ← readCommand nested false
  let statement ← untilDone (fun stages => do
    let token ← nextToken nested .middle
    if token.isSign "|" then return .inl ((← readCommand nested true) :: stages)
    hold token
    return .inr (if stages.isEmpty then first else .pipeline line (first :: stages.reverse)))
    (← stepsLeft) ([] : List Statement)
  return if negated then .negation statement else statement

/-- Read pipelines that depend on each other. -/
def readConditional (nested : Nested) : Reader Statement := do
  untilDone (fun statement => do
    let token ← nextToken nested .middle
    if token.isSign "&&" then return .inl (.both statement (← readPipeline nested))
    if token.isSign "||" then return .inl (.either statement (← readPipeline nested))
    hold token
    return .inr statement) (← stepsLeft) (← readPipeline nested)

/-- Read statements. -/
def readStatements (nested : Nested) (extent : Extent) : Reader Statement := do
  let inLine := extent == .line
  untilDone (fun statements => do
    let finish : List Statement ⊕ Statement := .inr (.sequence statements.reverse)
    match ← nextToken nested { Watch.start with pastLines := !inLine } with
    | .newline => return finish
    | token =>
      hold token
      let mayEnd := extent == .closed || (extent == .block && !statements.isEmpty)
      if (token matches .finish) || (mayEnd && token.endsList) then return finish
      let statement ← readConditional nested
      let token ← nextToken nested .middle
      let statements :=
        (if token.isSign "&" then .background statement else statement) :: statements
      if token.isSign ";" || token.isSign "&" then return .inl statements
      hold token
      match token with
      | .newline => return .inl statements
      | .finish => return .inr (.sequence statements.reverse)
      | _ => if inLine then unexpected token none else return .inr (.sequence statements.reverse))
    (← stepsLeft) ([] : List Statement)

/-- The reader of statements that are nested this deep at most. -/
def nestedReader : Nat → Nested
  | 0, _ => refuse .tooDeep
  | depth + 1, .single => readCommand (nestedReader depth) true
  | depth + 1, extent => readStatements (nestedReader depth) extent

/-- Read the next line of a script, or more lines if its statements go on. There is none after the
end. -/
def readLine (source : Source) : Except Malformed (Option Statement × Source) :=
  match (withDocuments (nestedReader source.bound .line)).run source with
  | .error malformed => .error malformed
  | .ok (.sequence [], source) =>
    .ok (if source.held matches some .finish then none else some .empty, source)
  | .ok (statement, source) => .ok (some statement, source)

/-- Read a text in which everything is quoted as in double quotes, but no quote ends it. -/
def readQuoted (aliases : List (Text × Text)) (text : Text) : Except Malformed (List Part) :=
  let source := { Source.start text 1 with aliases := aliases, ending := some ⟨none, false, false⟩ }
  ((withDocuments (readWord (nestedReader source.bound) .document)).run source).map (·.1)

end Script

end CommandShell
