/-
This file reads words. Where a word ends and which characters have a meaning in it
depends on what is around: nothing, quotes, the braces of a parameter, a sum, or a
text that follows a command. In a word there can be statements again, whose reader
is given from outside.
-/

import CommandShell.Script.Source

namespace CommandShell

namespace Script

/-- How far statements go. -/
inductive Extent
  /-- To the end of the line. -/
  | line
  /-- To a reserved word or a bracket, after one statement at least. -/
  | block
  /-- To a bracket, or another sign that ends them, at once if need be. -/
  | closed
  /-- To the end of one command. -/
  | single
  deriving DecidableEq, Repr

/-- The reader of the statements in a word. -/
abbrev Nested := Extent → Reader Statement

/-- The character that stands around statements whose output is meant. -/
def backquote : Char := Char.ofNat 96

/-- What a part of a word stands in. -/
inductive Context
  | bare
  /-- Double quotes, which can stand in the braces of a parameter. -/
  | quoted (inBraces : Bool)
  /-- A text that follows a command. -/
  | document
  /-- The braces of a parameter. -/
  | braced
  /-- The braces of a parameter in double quotes, where quotes can be opened once more. -/
  | bracedQuoted (inner : Bool)
  /-- A sum, within this many open brackets. -/
  | sum (depth : Nat)
  /-- The delimiter of a text that follows a command, in which nothing is replaced. -/
  | delimiter (quoted : Bool)
  deriving DecidableEq, Repr

/-- Stop at the end of what must not end here. Where quotes do not end, it is in braces. -/
def refuseOpen {α : Type} : Reader α := do
  refuse (if (← get).ending.isSome then .openBrace else .openQuote)

namespace Context

/-- Whether what is read is quoted. -/
def isQuoted : Context → Bool
  | .bare | .braced | .delimiter false => false
  | _ => true

/-- The characters that do not stand for themselves everywhere in a word. -/
def marks : Context → List Char
  | .bare | .delimiter false => "\n \t<>();&|'\"".toList
  | .quoted _ | .delimiter true => ['"']
  | .document => []
  | .braced => ['\'', '"', '\x7d']
  | .bracedQuoted _ => ['"', '\x7d']
  | .sum _ => ['(', ')']

/-- Whether a character stands for itself. -/
def isPlain (context : Context) (character : Char) : Bool :=
  let replaces := !(context matches .delimiter _)
  !(character == '\\' || (replaces && (character == '$' || character == backquote)) ||
    context.marks.contains character)

/-- What stands between double quotes. -/
def ofQuotes : Context → Context
  | .delimiter _ => .delimiter true
  | _ => .quoted false

/-- What the word of a parameter stands in. -/
def ofWord (context : Context) : Context :=
  if context.isQuoted then .bracedQuoted false else .braced

/-- Whether a backslash before this character stands for itself. -/
def keepsBackslash (context : Context) (character : Char) : Bool :=
  context.isQuoted &&
    !(character == '\\' || character == '$' || character == backquote ||
      (character == '"' && context != .document) ||
      (character == '\x7d' && ((context matches .bracedQuoted _) || context == .quoted true)))

/-- The end of the text. -/
def finish (context : Context) : Reader (List Part) := do
  match context with
  | .bare | .document | .delimiter false => return []
  | .braced => refuse .openBrace
  | .sum _ => refuse .openSum
  | .quoted _ | .bracedQuoted _ | .delimiter true => refuseOpen

end Context

/-- Put a literal part in front, as one with the next part if that is alike. -/
def addLiteral (quoted : Bool) (text : Text) : List Part → List Part
  | .literal other more :: rest =>
    if other = quoted then .literal quoted (text ++ more) :: rest
    else .literal quoted text :: .literal other more :: rest
  | parts => .literal quoted text :: parts

/-- A word of one literal part that is not quoted. -/
def plainText? : List Part → Option Text
  | [.literal false text] => some text
  | _ => none

/-- The parts between double quotes. All parameters alone can be no word at all, and everything
else is a word even if it is empty. -/
def quotedParts : List Part → List Part
  | [.parameter true ['@'] .plain orEmpty word] => [.parameter true ['@'] .plain orEmpty word]
  | parts => addLiteral true [] parts

/-- The text in single quotes. -/
def readSingleQuoted : Reader Text := do
  let text ← takeRun (· != '\'')
  if (← get).rest = [] then refuseOpen
  advance 1
  return text

/-! ### Parameters -/

/-- The way in which the value of a parameter is changed, and whether an empty value counts as
none. -/
def readModifier : Reader (Modifier × Bool) := do
  let orEmpty := (← peek) == some ':'
  if orEmpty then advance 1
  let sign ← peek
  skipSign
  if sign == some '-' then return (.orElse, orEmpty)
  if sign == some '+' then return (.ifSet, orEmpty)
  if sign == some '?' then return (.orFail, orEmpty)
  if sign == some '=' then return (.orSet, orEmpty)
  if sign == some '\x7d' then return (.plain, orEmpty)
  if !orEmpty && (sign == some '%' || sign == some '#') then
    let longest := (← peek) == sign
    if longest then advance 1
    return (if sign == some '%' then .cutEnd longest else .cutStart longest, false)
  return (.unknown, false)

/-- The rest of a parameter in braces, after its name. -/
def readNamed (recur : Context → Reader (List Part)) (context : Context) (name : Text) :
    Reader Part := do
  if (← peek) == some '\x7d' then
    advance 1
    return .parameter context.isQuoted name .plain false []
  let (modifier, orEmpty) ← readModifier
  let inner := match modifier with
    | .cutEnd _ | .cutStart _ => .braced
    | _ => context.ofWord
  return .parameter context.isQuoted name modifier orEmpty (← recur inner)

/-- What follows the start of a parameter that is not known. -/
def readUnknown (recur : Context → Reader (List Part)) (context : Context) : Reader Part :=
  return .parameter context.isQuoted [] .unknown false (← recur context.ofWord)

/-- The name of a parameter, or its number. -/
def readName : Reader Text := do
  match ← peek with
  | some first => if startsName first then takeJoined continuesName else takeJoined (·.isDigit)
  | none => return []

/-- A parameter whose length is meant, or else the number of parameters, after its sign. -/
def readLength (recur : Context → Reader (List Part)) (context : Context) : Reader Part := do
  let name ← readName
  if name ≠ [] then
    if (← peek) == some '\x7d' then
      advance 1
      return .parameter context.isQuoted name .length false []
    readUnknown recur context
  else
    match ← peek with
    | none => readNamed recur context ['#']
    | some sign =>
      skipSign
      if sign ≠ '\x7d' && (← peek) == some '\x7d' then
        if !isSpecialParameter sign then return ← readUnknown recur context
        advance 1
        return .parameter context.isQuoted [sign] .length false []
      modify fun source => { source with rest := sign :: source.rest }
      readNamed recur context ['#']

/-- A parameter in braces, after the first brace. -/
def readBraces (recur : Context → Reader (List Part)) (context : Context) : Reader Part := do
  let name ← readName
  if name ≠ [] then readNamed recur context name
  else
    match ← peek with
    | some sign =>
      if sign = '#' then
        advance 1
        readLength recur context
      else if isSpecialParameter sign then
        advance 1
        readNamed recur context [sign]
      else
        if sign ≠ '\x7d' then skipSign
        readUnknown recur context
    | none => readUnknown recur context

/-! ### Statements in words -/

/-- The output of statements in brackets. The texts that they wait for cannot stand below the
brackets, nor the texts for others in them, and a text around them does not end in them. -/
def readOutput (nested : Nested) (context : Context) : Reader Part := do
  let before ← get
  set { before with awaited := [], ending := none }
  let body ← nested .closed
  let source ← get
  set { source with held := none, awaited := before.awaited, ending := before.ending }
  match source.held with
  | some (.sign ")") => return .output context.isQuoted body
  | token => unexpected (token.getD .finish) (some (.sign ")"))

/-- The text up to the next backquote. A backslash takes away the meaning of a few characters. -/
def backquoted (quoted : Bool) : Text → Option (Text × Text)
  | [] => none
  | '\\' :: character :: rest =>
    (backquoted quoted rest).map fun (text, rest) =>
      if character = '\n' then (text, rest)
      else if character = '\\' ∨ character = backquote ∨ character = '$' ∨
          (quoted = true ∧ character = '"') then
        (character :: text, rest)
      else ('\\' :: character :: text, rest)
  | character :: rest =>
    if character = backquote then some ([], rest)
    else (backquoted quoted rest).map fun (text, rest) => (character :: text, rest)

/-- The output of statements in backquotes, whose lines are counted anew. -/
def readBackquoted (nested : Nested) (context : Context) : Reader Part := do
  let source ← get
  match backquoted context.isQuoted source.rest with
  | none =>
    advance source.rest.length
    refuse .openBackquote
  | some (text, rest) =>
    set { source with
      rest := rest
      line := source.line + lineCount (source.rest.take (source.rest.length - rest.length)) }
    return .output context.isQuoted (← readInner text 1 (withDocuments (nested .closed)))

/-! ### Words -/

/-- What a dollar sign stands for. -/
def readDollar (nested : Nested) (recur : Context → Reader (List Part)) (context : Context) :
    Reader Part := do
  let literal : Part := .literal context.isQuoted ['$']
  match ← peek with
  | none => return literal
  | some sign =>
    if sign = '(' then
      advance 1
      if (← peek) == some '(' then
        advance 1
        return .sum context.isQuoted (← recur (.sum 0))
      readOutput nested context
    else if sign = '\x7b' then
      advance 1
      readBraces recur context
    else if startsName sign then
      return .parameter context.isQuoted (← takeJoined continuesName) .plain false []
    else if sign.isDigit || isSpecialParameter sign then
      advance 1
      return .parameter context.isQuoted [sign] .plain false []
    else return literal

/-- Put a part in front. -/
def addPart (part : Part) (parts : List Part) : List Part :=
  match part with
  | .literal quoted text => addLiteral quoted text parts
  | part => part :: parts

/-- What a backslash stands for, with the character after it. -/
def readEscape (context : Context) : Reader Part := do
  match (← get).rest.head? with
  | none => return .literal true ['\\']
  | some character =>
    advance 1
    return .literal true
      (if context.keepsBackslash character then ['\\', character] else [character])

/-- Read the parts of a word up to where they end in this context. -/
def readParts (nested : Nested) : (steps : Nat) → Context → Reader (List Part)
  | 0, _ => refuse .tooDeep
  | steps + 1, context => do
    let recur := readParts nested steps
    let run ← takeRun context.isPlain
    if run ≠ [] then return addLiteral context.isQuoted run (← recur context)
    match ← peek with
    | none => context.finish
    | some character =>
      if context.isPlain character then recur context
      else if character = '\\' then
        advance 1
        let part ← readEscape context
        return addPart part (← recur context)
      else if character = '$' then
        advance 1
        let part ← readDollar nested recur context
        return addPart part (← recur context)
      else if character = backquote then
        advance 1
        let part ← readBackquoted nested context
        return part :: (← recur context)
      else
        match context with
        | .bare | .delimiter false =>
          if character = '\'' then
            advance 1
            let text ← readSingleQuoted
            return addLiteral true text (← recur context)
          else if character = '"' then
            advance 1
            let parts ← recur context.ofQuotes
            return quotedParts parts ++ (← recur context)
          else return []
        | .braced =>
          advance 1
          if character = '\'' then
            let text ← readSingleQuoted
            return addLiteral true text (← recur .braced)
          else if character = '"' then
            let parts ← recur (.quoted true)
            return quotedParts parts ++ (← recur .braced)
          else return []
        | .bracedQuoted inner =>
          advance 1
          if character = '"' then
            return addLiteral true [] (← recur (.bracedQuoted !inner))
          else if inner then
            return addLiteral true [character] (← recur (.bracedQuoted inner))
          else return []
        | .sum depth =>
          advance 1
          if character = '(' then
            return addLiteral true [character] (← recur (.sum (depth + 1)))
          else if depth ≠ 0 then
            return addLiteral true [character] (← recur (.sum (depth - 1)))
          else if (← peek) == some ')' then
            advance 1
            return []
          else return addLiteral true [character] (← recur (.sum 0))
        | .quoted _ | .document | .delimiter true =>
          advance 1
          return []

/-- Read a word, which is in this context. -/
def readWord (nested : Nested) (context : Context) : Reader (List Part) := do
  readParts nested (← stepsLeft) context

end Script

end CommandShell
