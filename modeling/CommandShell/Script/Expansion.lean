/-
This file turns words into texts. Parameters, outputs and sums are replaced by
their values first, then values outside of quotes are split, and then what is
still a pattern is replaced by the paths it matches. Where only one text is asked
for, nothing is split and no paths are looked for.

How to get the output of statements is given from outside.
-/

import CommandShell.Script.Arithmetic
import CommandShell.Script.Grammar
import CommandShell.Script.Parameter

namespace CommandShell

namespace Script

/-! ### Home directories -/

/-- The home directory of a user. -/
def homeOf? (home : Option Text) (user : Text) : Option Text :=
  if user = [] then home
  else if user = "root".toList then some "/root".toList
  else none

/-- A text with the home directory that its start means. It has to end with the text or at a slash,
unless the text goes on in another part. -/
def tildeParts (home : Option Text) (complete : Bool) (text : Text) : List Part :=
  match text with
  | '~' :: rest =>
    let user := rest.takeWhile (· != '/')
    let after := rest.drop user.length
    match if after = [] && !complete then none else homeOf? home user with
    | some directory => [.literal true directory, .literal false after]
    | none => [.literal false text]
  | _ => [.literal false text]

/-- Put the home directories into the parts of a word. With `listed` set they can stand behind
every colon. -/
def resolveHomes (home : Option Text) (listed : Bool) : (first : Bool) → List Part → List Part
  | _, [] => []
  | first, .literal false text :: rest =>
    let pieces := if listed then text.splitOn ':' else [text]
    let resolved := pieces.zipIdx.map fun (piece, index) =>
      let complete := index + 1 < pieces.length || rest.isEmpty
      if first || 0 < index then tildeParts home complete piece else [.literal false piece]
    List.intercalate [.literal false [':']] resolved ++ resolveHomes home listed false rest
  | _, part :: rest => part :: resolveHomes home listed false rest

/-! ### Paths -/

/-- Divide letters at their slashes. -/
def pathPieces (letters : List Letter) : List (List Letter) :=
  letters.foldr (fun letter pieces =>
    match pieces with
    | [] => [[letter]]
    | piece :: rest =>
      if letter.character == '/' then [] :: piece :: rest else (letter :: piece) :: rest) [[]]

/-- The names in a directory that a pattern matches. A dot at the start has to be written. -/
def matchingNames (world : World) (directory : Text) (pattern : List Letter) : List Text :=
  let names := world.names (if directory = [] then [dot] else bytesOf directory)
  let listed := ['.'] :: ['.', '.'] :: names.map fun name => textOf name.bytes
  listed.filter fun name =>
    (name.head? != some '.' || pattern.head?.map (·.character) == some '.') &&
      matchesText (patternOf pattern) name

/-- The paths that pieces match, behind a path that was found. A link at the end counts wherever it
leads. -/
def matchingPaths (world : World) (found : Text) : List (List Letter) → List Text
  | [] => []
  | [last] =>
    if hasMeaning last then (matchingNames world found last).map (found ++ ·)
    else
      let path := found ++ Letter.text last
      match world.tree.inspectEntry world.cwd (bytesOf path) with
      | .ok _ => [path]
      | .error _ => []
  | piece :: rest =>
    if hasMeaning piece then
      (matchingNames world found piece).flatMap fun name =>
        matchingPaths world (found ++ name ++ ['/']) rest
    else matchingPaths world (found ++ Letter.text piece ++ ['/']) rest

/-- The texts that a word stands for: the paths it matches, or else itself. -/
def pathsOf (shell : Shell) (word : List Letter) : List Text :=
  let pattern := Letter.unescape word
  if shell.has "noglob" || !hasMeaning pattern then [Letter.text word]
  else
    match sortedSet ((matchingPaths shell.world [] (pathPieces pattern)).map bytesOf) with
    | [] => [Letter.text word]
    | paths => paths.map textOf

/-! ### Sums -/

/-- Say what is wrong with a sum. -/
def refuseSum {α : Type} (text : Text) (wrong : String) : Run α :=
  fail ("arithmetic expression: ".toList ++ wrong.toList ++ ": \"".toList ++ text ++ ['"'])

/-- The integer that a whole text is. -/
def readInteger (base : Text → Nat × Text) (text : Text) : Run Int64 :=
  match integerBy? base text with
  | some number =>
    if (nearest number).toInt = number then return nearest number
    else fail ("Illegal number: ".toList ++ text)
  | none => fail ("Illegal number: ".toList ++ text)

/-- The number that is the value of a variable. A blank value is zero. -/
def variableNumber (name : Text) : Run Int64 := do
  let value := ((← get).value? name).getD []
  if value.all isSpaceLetter then return 0 else readInteger takeNumber value

/-- What an operator in a sum makes of two numbers. A quotient that is too great is the end of the
shell. -/
def applyOperator (text : Text) (operator : Operator) (first second : Int64) : Run Int64 :=
  if (operator = .over || operator = .modulo) && Operator.overflows first second then
    throw (.replaced (.signalled divisionSignal))
  else match operator.apply first second with
  | some value => return value
  | none => refuseSum text "division by zero"

/-- The value of a sum. In a part that is not `live`, only what cannot be read is an error. -/
def evaluate (text : Text) : (live : Bool) → Expression → Run Int64
  | _, .number value => return value
  | live, .name name => if live then variableNumber name else return 0
  | live, .signed sign operand => do
    let value ← evaluate text live operand
    return match sign with
      | .negative => -value
      | .complement => ~~~value
      | .opposite => Operator.ofTruth (value == 0)
  | live, .joined operator first second => do
    let first ← evaluate text live first
    let second ← evaluate text live second
    if live then applyOperator text operator first second else return second
  | live, .both first second => do
    let first ← evaluate text live first
    let second ← evaluate text (live && first != 0) second
    return Operator.ofTruth (first != 0 && second != 0)
  | live, .either first second => do
    let first ← evaluate text live first
    let second ← evaluate text (live && first == 0) second
    return Operator.ofTruth (first != 0 || second != 0)
  | live, .choice condition first second => do
    let value ← evaluate text live condition
    let first ← evaluate text (live && value != 0) first
    let second ← evaluate text (live && value == 0) second
    return if value != 0 then first else second
  | live, .assign name operator value => do
    let value ← evaluate text live value
    if !live then return value
    let value ← match operator with
      | none => pure value
      | some operator => do applyOperator text operator (← variableNumber name) value
    setVariable name (toString value.toInt).toList false
    return value
  | _, .missing => refuseSum text "expecting primary"
  | live, .broken first wanted => do
    let _ ← evaluate text live first
    refuseSum text ("expecting " ++ wanted)

/-- The value of a sum as a text. -/
def sumText (text : Text) : Run Text :=
  return (toString (← evaluate text true (Expression.ofText text)).toInt).toList

/-! ### Words -/

/-- The output of statements as a value: without the line ends at its end. -/
def outputText (bytes : Bytes) : Text :=
  ((textOf bytes).filter (·.toNat != 0)).reverse.dropWhile (· == '\n') |>.reverse

/-- The error that a parameter has no value. -/
def refuseUnset {α : Type} (name : Text) (orEmpty : Bool) : Run α :=
  fail (labelled name (if orEmpty then "parameter not set or null" else "parameter not set"))

/-- What becomes of a word. -/
inductive Goal
  /-- As many words as it is split into. -/
  | words
  | pattern
  | text
  /-- A text in which home directories can stand behind colons. -/
  | value
  deriving DecidableEq, Repr

/-- A text without the marks of quotes. The character of code 0x81 marks the one behind it as quoted,
and the one of code 0x88 is a quote. -/
def dropMarks : Text → Text
  | [] => []
  | [last] => if last.toNat = 0x81 ∨ last.toNat = 0x88 then [] else [last]
  | first :: next :: rest =>
    if first.toNat = 0x81 then next :: dropMarks rest
    else if first.toNat = 0x88 then dropMarks (next :: rest)
    else first :: dropMarks (next :: rest)

/-- The pieces of a parameter. The pieces of its word are asked for by `inner`, split or not. All
parameters are measured as one text if their value is not shown. -/
def expandParameter (inner : Goal → (splits : Bool) → List Part → Run (List Bit))
    (goal : Goal) (quoted : Bool) (name : Text) (modifier : Modifier) (orEmpty : Bool)
    (word : List Part) : Run (List Bit) := do
  if modifier = .unknown then fail "Bad substitution".toList
  let shell ← get
  let many := goal = .words
  let value := shell.parameter? many quoted name
  let shown := modifier != .ifSet && modifier != .length
  let measured := shell.parameter? (many && shown) quoted name
  let present := value.isSome && !(orEmpty && (measured.map Value.length).getD 0 == 0)
  let needValue : Run Unit := do
    if value.isNone && shell.has "nounset" then refuseUnset name false
  match modifier with
  | .plain =>
    needValue
    return Value.bits? quoted value
  | .orElse => if present then return Value.bits? quoted value else inner goal (many && !quoted) word
  | .ifSet =>
    if present then inner goal (many && !quoted) word else return Value.edge quoted value
  | .orSet =>
    if present then return Value.bits? quoted value
    let text := bitText (← inner .text false word)
    if !isVariableName name then fail (labelled name "bad variable name")
    setVariable name text false
    return (Value.single text).bits quoted
  | .orFail =>
    if present then return Value.bits? quoted value
    if word.isEmpty then refuseUnset name orEmpty
    fail (name ++ ": ".toList ++ bitText (← inner .text false word))
  | .cutEnd longest =>
    needValue
    match value with
    | none => return []
    | some value =>
      let pattern := (← inner .pattern false word).filterMap Bit.letter?
      return (value.cutEnd longest (patternOf pattern)).bits quoted
  | .cutStart longest =>
    needValue
    match value with
    | none => return []
    | some value =>
      let pattern := (← inner .pattern false word).filterMap Bit.letter?
      return (value.cutStart longest (patternOf pattern)).bits quoted
  | .length =>
    needValue
    let size := (measured.map Value.length).getD 0
    return letterBits quoted (toString size).toList ++ Value.edge quoted value
  | .unknown => return []

/-- Whether a parameter is written with a colon that nothing follows. Its word is then part of the
word around it, and is the end of that. -/
def Part.isUnclosed : Part → Bool
  | .parameter _ _ .plain orEmpty _ => orEmpty
  | _ => false

/-- How the output of statements is got. -/
abbrev OutputOf := Statement → Run Text

/-- The pieces of the parts of a word, of which the words of parameters are nested this deep at
most. Literal text is split only where `splits` is set. In words and patterns quotes are marked. -/
def expandParts (outputOf : OutputOf) :
    (depth : Nat) → Goal → (splits : Bool) → List Part → Run (List Bit)
  | 0, _, _, _ => overflow
  | depth + 1, goal, splits, parts => do
    match parts.dropWhile (!·.isUnclosed) with
    | .parameter quoted name .plain true word :: _ =>
      return ← expandParts outputOf depth goal splits
        (parts.takeWhile (!·.isUnclosed) ++ .parameter quoted name .plain false [] :: word)
    | _ => pure ()
    let home := (← get).value? "HOME".toList
    let inner (goal : Goal) (splits : Bool) := expandParts outputOf depth goal splits
    let bits ← (resolveHomes home (goal = .value) true parts).mapM fun part => do
      match part with
      | .literal true text => return .mark :: letterBits true text
      | .literal false text =>
        let letters : List Bit := text.map fun character => .letter ⟨character, false⟩ splits
        return if splits then letters ++ [.edge false] else letters
      | .parameter quoted name modifier orEmpty word =>
        expandParameter inner goal quoted name modifier orEmpty word
      | .output quoted body => return (Value.single (← outputOf body)).bits quoted
      | .sum quoted expression =>
        let text := bitText (← inner .text false expression)
        let text := if goal = .words || goal = .pattern then dropMarks text else text
        return (Value.single (← sumText text)).bits quoted
    return bits.flatten

/-- The texts that words stand for. -/
def expandWords (outputOf : OutputOf) (depth : Nat) (words : List (List Part)) :
    Run (List Text) := do
  let texts ← words.mapM fun word => do
    let bits ← expandParts outputOf depth .words false word
    let shell ← get
    return (splitBits shell.separators bits).flatMap (pathsOf shell)
  return texts.flatten

/-- The one text that a word stands for. -/
def expandText (outputOf : OutputOf) (depth : Nat) (word : List Part) : Run Text := do
  return bitText (← expandParts outputOf depth .text false word)

/-- The text that a word stands for as the value of a variable. -/
def expandValue (outputOf : OutputOf) (depth : Nat) (word : List Part) : Run Text := do
  return bitText (← expandParts outputOf depth .value false word)

/-- The pattern that a word stands for. -/
def expandPattern (outputOf : OutputOf) (depth : Nat) (word : List Part) :
    Run (List Glob) := do
  return patternOf ((← expandParts outputOf depth .pattern false word).filterMap Bit.letter?)

end Script

end CommandShell
