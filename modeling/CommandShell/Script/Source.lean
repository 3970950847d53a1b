/-
This file holds the text of a script as it is being read: what is left of it, the
line it has come to, and a token that was looked at but not used yet. Reading
either goes on or finds that the text is no script, and then it says on which
line it was.

A redirection can bring a text of its own, which stands below the line, and where
the line ends is known only when it has been read. So such lines are read twice:
once to find the texts, and once more with the texts at hand. A text ends at the
line that is its delimiter, but a line that is joined to the one before it, or that
is part of a statement in the text, is none.
-/

import CommandShell.Script.Statement

namespace CommandShell

namespace Script

/-- What a script is made of at first sight. -/
inductive Token
  /-- The end of the text. -/
  | finish
  | newline
  /-- An operator or a reserved word. -/
  | sign (text : String)
  | word (parts : List Part)
  /-- The start of a redirection. Tabs are stripped from the lines of a text that it brings. -/
  | arrow (descriptor : Nat) (direction : Direction) (stripped : Bool)

/-- A token in a message. -/
def Token.shown : Token → String
  | .finish => "end of file"
  | .newline => "newline"
  | .sign text => "\"" ++ text ++ "\""
  | .word _ => "word"
  | .arrow .. => "redirection"

/-- Why a text is no script. -/
inductive Problem
  | unexpected (found : String) (wanted : Option String)
  | openQuote
  | openBrace
  | openSum
  | openBackquote
  | loopName
  | functionName
  /-- The text is nested more deeply than it is long. -/
  | tooDeep
  deriving DecidableEq, Repr

/-- The wording of a problem. -/
def Problem.message : Problem → String
  | .unexpected found none => found ++ " unexpected"
  | .unexpected found (some wanted) => found ++ " unexpected (expecting " ++ wanted ++ ")"
  | .openQuote => "Unterminated quoted string"
  | .openBrace => "Missing '\x7d'"
  | .openSum => "Missing '))'"
  | .openBackquote => "EOF in backquote substitution"
  | .loopName => "Bad for loop variable"
  | .functionName => "Bad function name"
  | .tooDeep => "nested too deeply"

/-- A problem, the line on which it was found, and how much of the script was left then. -/
structure Malformed where
  line : Nat
  problem : Problem
  left : Nat
  deriving DecidableEq, Repr

/-- The end of a text in which quotes do not end. -/
structure Ending where
  /-- The line that ends the text, if it stands below a line. -/
  delimiter : Option Text
  /-- Whether the tabs at the start of lines are left out. -/
  stripped : Bool
  /-- Whether every character of the text stands for itself. -/
  literal : Bool

/-- A text that has to stand below the current line. -/
structure Awaited where
  /-- How many texts were asked for before. -/
  place : Nat
  ending : Ending

/-- A text that stood below a line. -/
structure Document where
  /-- How many texts were asked for before. -/
  place : Nat
  parts : List Part
  /-- What stands below the text. -/
  rest : Text
  /-- The line of what stands below the text. -/
  line : Nat

/-- A word for which its alias stands in. -/
structure Expanded where
  name : Text
  /-- How much is left of the script when all that stands in for the word has been read. -/
  left : Nat
  /-- Whether the word after it can be an alias too, because a blank is at the end. -/
  spaced : Bool

/-- A script that is being read. -/
structure Source where
  /-- What is to be read, with what stands in for aliases. -/
  rest : Text
  line : Nat
  /-- The length of the whole text. -/
  size : Nat
  /-- A token that is read once more. -/
  held : Option Token := none
  /-- The last word. -/
  word : List Part := []
  /-- The words that stand for other texts. -/
  aliases : List (Text × Text) := []
  /-- The words for which aliases stood in, the last one first. -/
  expanded : List Expanded := []
  /-- Whether the last token stands behind an alias that has a blank at its end. -/
  spaced : Bool := false
  /-- The end of the text that is being read, if quotes do not end in it. -/
  ending : Option Ending := none
  /-- Whether a line of that text starts here. -/
  fresh : Bool := false
  /-- What stands below the text that is being read, if its end was reached. -/
  below : Text := []
  /-- How many texts that follow were asked for. -/
  asked : Nat := 0
  /-- The texts that follow at the end of the line. -/
  awaited : List Awaited := []
  /-- The texts that were passed over. -/
  found : List Document := []
  /-- The texts that are known already. -/
  known : List Document := []

/-- What stands below the end of a text, if a text starts with that end. -/
def Ending.below? (ending : Ending) (text : Text) : Option Text :=
  ending.delimiter.bind fun delimiter =>
    let after := text.drop delimiter.length
    if delimiter.isPrefixOf text && after.head?.all (· == '\n') then some (after.drop 1)
    else none

/-- A place in a line. -/
inductive LinePlace
  | start
  | behindTabs
  | middle
  deriving DecidableEq, Repr

/-- What was read of a text that has an end. -/
structure Stretch where
  taken : Text
  rest : Text
  /-- The number of lines that were passed. -/
  lines : Nat
  /-- What stands below the text, if its end was reached. -/
  below : Option Text := none

/-- The number of characters that two texts have in common at their start. -/
def commonLength : Text → Text → Nat
  | first :: one, second :: other => if first = second then commonLength one other + 1 else 0
  | _, _ => 0

/-- The place of the character that gets lost at the start of a line: the one at which it is seen that
the line is not the end of the text, if something was taken for that end before and the character is
not of the first half of all characters. -/
def Ending.lostAt? (ending : Ending) (line : Text) : Option Nat :=
  ending.delimiter.bind fun delimiter =>
    let common := commonLength delimiter line
    if common ≠ 0 && (line.drop common).head?.any (0x80 ≤ ·.toNat) then some common else none

/-- A text without the character that gets lost in it. -/
def withoutLost (lost : Option Nat) (text : Text) : Text :=
  lost.elim text text.eraseIdx

/-- Read the characters of a kind that stand at the start, up to the end of the text. At the start of
a line a line end behind a backslash is passed over first, then tabs may be. Behind tabs it stands
for itself with its backslash, and the line goes on. The character at the place `lost` is left
out. -/
def Ending.read (ending : Ending) (kind : Char → Bool) (place : LinePlace) (lost : Option Nat)
    (taken : Text) (lines : Nat) : Text → Stretch
  | [] => { taken := taken.reverse, rest := [], lines := lines }
  | '\\' :: '\n' :: rest =>
    match if place = .middle then none else ending.below? ('\\' :: '\n' :: rest) with
    | some below =>
      { taken := taken.reverse, rest := [], lines := lines + 1, below := some below }
    | none =>
      if place = .start && !ending.literal then ending.read kind .start none taken (lines + 1) rest
      else if place = .behindTabs && !ending.literal then
        ending.read kind .middle none ('\n' :: '\\' :: taken) lines rest
      else if kind '\\' then ending.read kind .middle none ('\\' :: taken) lines ('\n' :: rest)
      else { taken := taken.reverse, rest := '\\' :: '\n' :: rest, lines := lines }
  | character :: rest =>
    if lost = some 0 then ending.read kind place none taken lines rest
    else if place != .middle && ending.stripped && character == '\t' then
      ending.read kind .behindTabs none taken lines rest
    else
      match if place = .middle then none else ending.below? (character :: rest) with
      | some below =>
        { taken := taken.reverse, rest := [], lines := lines + 1, below := some below }
      | none =>
        let lost := (if place = .middle then lost else ending.lostAt? (character :: rest)).map (· - 1)
        if !kind character then
          { taken := taken.reverse, rest := character :: withoutLost lost rest, lines := lines }
        else if character = '\n' then
          ending.read kind .start none (character :: taken) (lines + 1) rest
        else ending.read kind .middle lost (character :: taken) lines rest

namespace Source

/-- The start of a script. -/
def start (text : Text) (line : Nat) : Source :=
  { rest := text, line := line, size := text.length }

/-- How much is left to be read. -/
def length (source : Source) : Nat :=
  source.rest.length + source.below.length

/-- How much is left of the script itself. -/
def left (source : Source) : Nat :=
  source.expanded.foldl (fun left entry => min left entry.left) source.length

/-- Whether nothing is left of the script itself. -/
def isFinished (source : Source) : Bool :=
  (source.rest.isEmpty && source.below.isEmpty) || source.expanded.any (·.left == 0)

/-- The source with more to read at its end. -/
def extended (source : Source) (more : Text) : Source :=
  { source with
    rest := source.rest ++ more
    size := source.size + more.length
    held := none
    expanded := source.expanded.map fun entry => { entry with left := entry.left + more.length } }

/-- Whether what stands in for a word is still being read. -/
def isExpanding (source : Source) (entry : Expanded) : Bool :=
  entry.left ≤ source.length

/-- The start of a text that is read on its own within a script. -/
def inner (source : Source) (text : Text) (line : Nat) : Source :=
  { start text line with
    aliases := source.aliases
    expanded := (source.expanded.filter source.isExpanding).map fun entry =>
      { entry with left := 0, spaced := false } }

/-- Whether a character has a code that also marks parts of words. -/
def isMark (character : Char) : Bool :=
  0x81 ≤ character.toNat && character.toNat ≤ 0x88

/-- The script with the text of an alias in place of the word that was just read. An alias does not
stand in for a word of its own text, nor for one in which characters could be taken for marks. -/
def expand? (source : Source) (name : Text) : Option Source :=
  match if name.any isMark then none else source.aliases.lookup name with
  | none => none
  | some value =>
    let current := source.expanded.filter source.isExpanding
    if current.any fun entry => entry.name = name then none
    else if value = [] then some source
    else
      let blank := value.getLast? = some ' ' ∨ value.getLast? = some '\t'
      some { source with
        rest := value ++ source.rest
        expanded := ⟨name, source.length, blank⟩ :: current }

/-- A bound on the number of characters of a text, whatever aliases stand in for. -/
def bound (source : Source) : Nat :=
  let growth := source.aliases.foldl (fun size entry => size + entry.2.length + 1) 1
  (source.size + 2) * Nat.pow growth source.aliases.length

end Source

/-- Reading a script. -/
abbrev Reader := StateT Source (Except Malformed)

/-- Stop at a problem. -/
def refuse {α : Type} (problem : Problem) : Reader α := do
  let source ← get
  throw ⟨source.line, problem, source.left⟩

/-- Stop at a token that cannot stand here. -/
def unexpected {α : Type} (found : Token) (wanted : Option Token) : Reader α :=
  refuse (.unexpected found.shown (wanted.map Token.shown))

/-- The number of lines that end in a text. -/
def lineCount (text : Text) : Nat :=
  text.countP (· == '\n')

/-- Pass over characters. -/
def advance (count : Nat) : Reader Unit :=
  modify fun source =>
    { source with
      rest := source.rest.drop count
      line := source.line + lineCount (source.rest.take count) }

/-- Pass over a character in the place of a sign. A line end there does not count as a line. -/
def skipSign : Reader Unit :=
  modify fun source => { source with rest := source.rest.drop 1 }

/-- A text without the line ends at its start that a backslash takes away, and how many of them
there were. -/
def joinLines : Text → Nat × Text
  | '\\' :: '\n' :: rest => ((joinLines rest).1 + 1, (joinLines rest).2)
  | text => (0, text)

/-- The next character. A line that ends in a backslash is joined with the next one. -/
def peek : Reader (Option Char) := do
  let source ← get
  let (joined, rest) := joinLines source.rest
  set { source with rest := rest, line := source.line + joined }
  return rest.head?

/-- Read the characters at the start that are of a kind. They never go beyond the end of a text. -/
def takeRun (kind : Char → Bool) : Reader Text := do
  let source ← get
  match source.ending with
  | none =>
    let run := source.rest.takeWhile kind
    advance run.length
    return run
  | some ending =>
    let stretch :=
      ending.read kind (if source.fresh then .start else .middle) none [] 0 source.rest
    set { source with
      rest := stretch.rest
      line := source.line + stretch.lines
      below := stretch.below.getD source.below
      fresh := false }
    return stretch.taken

/-- Read the characters at the start that are of a kind, in up to so many lines that are joined. -/
def takeLines (kind : Char → Bool) : (lines : Nat) → Reader Text
  | 0 => return []
  | lines + 1 => do
    let run ← takeRun kind
    if (← peek).any kind then return run ++ (← takeLines kind lines) else return run

/-- Read the characters at the start that are of a kind, in all lines that are joined. -/
def takeJoined (kind : Char → Bool) : Reader Text := do
  takeLines kind ((← get).rest.length + 1)

/-- Look at a token once more later. -/
def hold (token : Token) : Reader Unit :=
  modify fun source => { source with held := some token }

/-- The number of steps after which a text must have been read. -/
def stepsLeft : Reader Nat :=
  return (← get).bound

/-- Read a text on its own. If something is wrong with it, the script around it has been read up
to where it is now. -/
def readInner {α : Type} (text : Text) (line : Nat) (reader : Reader α) : Reader α := do
  let source ← get
  match reader.run (source.inner text line) with
  | .ok (result, _) => return result
  | .error malformed => throw { malformed with left := source.left }

/-- Read twice if texts below lines are found, the second time with these texts. -/
def withDocuments {α : Type} (reader : Reader α) : Reader α := do
  let source ← get
  let first ← reader
  let found := (← get).found
  if found.isEmpty then return first
  set { source with known := found }
  let second ← reader
  modify fun after => { after with found := source.found, known := source.known }
  return second

/-- Take steps until one of them gives a result. -/
def untilDone {σ α : Type} (step : σ → Reader (σ ⊕ α)) : Nat → σ → Reader α
  | 0, _ => refuse .tooDeep
  | steps + 1, state => do
    match ← step state with
    | .inl state => untilDone step steps state
    | .inr result => return result

end Script

end CommandShell
