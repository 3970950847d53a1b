/-
This file matches texts against patterns. A star stands for any text, a question
mark for any character, and brackets for one character of a set. A quoted
character always stands for itself.
-/

import CommandShell.Script.Statement

namespace CommandShell

namespace Script

/-- A character, and whether it is quoted. -/
structure Letter where
  character : Char
  quoted : Bool
  deriving DecidableEq, Repr

namespace Letter

/-- Whether a letter is this character and has the meaning of it. -/
def means (letter : Letter) (character : Char) : Bool :=
  !letter.quoted && letter.character == character

/-- The text of letters. -/
def text (letters : List Letter) : Text :=
  letters.map (·.character)

/-- Letters with the backslashes gone that only quote the letter behind them. -/
def unescape : List Letter → List Letter
  | [] => []
  | [last] => [last]
  | letter :: next :: rest =>
    if letter.means '\\' then { next with quoted := true } :: unescape rest
    else letter :: unescape (next :: rest)

/-- A text of which every character is quoted. -/
def quote (text : Text) : List Letter :=
  text.map (⟨·, true⟩)

end Letter

/-- Some characters of a set. -/
inductive Span
  | between (low high : Char)
  | class (name : Text)
  deriving DecidableEq, Repr

/-- A part of a pattern. -/
inductive Glob
  | exactly (character : Char)
  | one
  | any
  | among (inverted : Bool) (spans : List Span)
  deriving DecidableEq, Repr

/-- The names of the classes of characters. -/
def classNames : List String :=
  ["alpha", "alnum", "digit", "upper", "lower", "blank", "space", "cntrl", "graph", "print", "punct",
    "xdigit"]

/-- Whether a character is of a class. -/
def isOfClass (name : Text) (character : Char) : Bool :=
  let visible := '!' ≤ character && character ≤ '~'
  let upper := 'A' ≤ character && character ≤ 'Z'
  let lower := 'a' ≤ character && character ≤ 'z'
  let digit := character.isDigit
  match String.ofList name with
  | "alpha" => upper || lower
  | "alnum" => upper || lower || digit
  | "digit" => digit
  | "upper" => upper
  | "lower" => lower
  | "blank" => character == ' ' || character == '\t'
  | "space" => character == ' ' || ('\t' ≤ character && character ≤ '\r')
  | "cntrl" => character < ' ' || character.toNat == 127
  | "graph" => visible
  | "print" => visible || character == ' '
  | "punct" => visible && !(upper || lower || digit)
  | "xdigit" =>
    digit || ('a' ≤ character && character ≤ 'f') || ('A' ≤ character && character ≤ 'F')
  | _ => false

/-- Whether a character is one of these. -/
def Span.holds (span : Span) (character : Char) : Bool :=
  match span with
  | .between low high => low ≤ character && character ≤ high
  | .class name => isOfClass name character

/-- The name of a class, and the letters after it. -/
def class? (letters : List Letter) : Option (Text × List Letter) :=
  let name := letters.takeWhile fun letter => !letter.quoted && letter.character.isAlpha
  match letters.drop name.length with
  | colon :: bracket :: after =>
    if colon.means ':' && bracket.means ']' && classNames.contains (String.ofList (Letter.text name))
    then some (Letter.text name, after)
    else none
  | _ => none

/-- A letter in brackets, which may stand behind a backslash. -/
def member? : List Letter → Option (Char × List Letter)
  | [] => none
  | letter :: rest =>
    if letter.means '\\' then
      match rest with
      | next :: after => some (next.character, after)
      | [] => none
    else some (letter.character, rest)

/-- The set of which the first bracket was read, and the letters after the last one. A last
bracket in the first place is a member. -/
def set? : (steps : Nat) → (first : Bool) → List Letter → Option (List Span × List Letter)
  | 0, _, _ => none
  | _, _, [] => none
  | steps + 1, first, letter :: rest =>
    if !first && letter.means ']' then some ([], rest)
    else
      let named := match rest with
        | colon :: after => if letter.means '[' && colon.means ':' then class? after else none
        | [] => none
      match named with
      | some (name, after) =>
        (set? steps false after).map fun (spans, rest) => (.class name :: spans, rest)
      | none =>
        (member? (letter :: rest)).bind fun (low, after) =>
          match after with
          | hyphen :: high :: others =>
            if hyphen.means '-' && !high.means ']' then
              (member? (high :: others)).bind fun (high, after) =>
                (set? steps false after).map fun (spans, rest) => (.between low high :: spans, rest)
            else (set? steps false after).map fun (spans, rest) => (.between low low :: spans, rest)
          | _ => (set? steps false after).map fun (spans, rest) => (.between low low :: spans, rest)

/-- The parts of a pattern. -/
def globs : (steps : Nat) → List Letter → List Glob
  | 0, _ => []
  | _, [] => []
  | steps + 1, letter :: rest =>
    if letter.means '*' then .any :: globs steps rest
    else if letter.means '?' then .one :: globs steps rest
    else if letter.means '\\' then
      match rest with
      | next :: after => .exactly next.character :: globs steps after
      | [] => [.exactly '\\']
    else if letter.means '[' then
      let inverted := (rest.head?.map (·.means '!')).getD false
      match set? (rest.length + 1) true (if inverted then rest.drop 1 else rest) with
      | some (spans, after) => .among inverted spans :: globs steps after
      | none => .exactly '[' :: globs steps rest
    else .exactly letter.character :: globs steps rest

/-- The pattern that letters are. -/
def patternOf (letters : List Letter) : List Glob :=
  globs (letters.length + 1) letters

/-- What has to match the rest of a text of which this is the first character, if a pattern is to
match all of it. -/
def follow (character : Char) : List Glob → List (List Glob)
  | [] => []
  | .any :: pattern => (.any :: pattern) :: follow character pattern
  | .one :: pattern => [pattern]
  | .exactly expected :: pattern => if expected = character then [pattern] else []
  | .among inverted spans :: pattern =>
    if (spans.any (·.holds character)) != inverted then [pattern] else []

/-- What has to match the rest of a text of which this is the next character, if one of some
patterns is to match what there is from it on. -/
def followAny (patterns : List (List Glob)) (character : Char) : List (List Glob) :=
  (patterns.flatMap (follow character)).eraseDups

/-- Whether one of some patterns matches the empty text. -/
def matchesEmpty (patterns : List (List Glob)) : Bool :=
  patterns.any fun pattern => pattern.all (· = .any)

/-- Whether a pattern matches a text. -/
def matchesText (pattern : List Glob) (text : Text) : Bool :=
  matchesEmpty (text.foldl followAny [pattern])

/-- What is left of a text after the starts of it that one of some patterns matches, the shortest
start first. -/
def leftAfter (patterns : List (List Glob)) : Text → List Text
  | [] => if matchesEmpty patterns then [[]] else []
  | character :: rest =>
    let longer := if patterns = [] then [] else leftAfter (followAny patterns character) rest
    if matchesEmpty patterns then (character :: rest) :: longer else longer

/-- The text without what the pattern matches at its start, if there is such a start. -/
def cutStart? (longest : Bool) (pattern : List Glob) (text : Text) : Option Text :=
  let left := leftAfter [pattern] text
  if longest then left.getLast? else left.head?

/-- The text without what the pattern matches at its end, if there is such an end. -/
def cutEnd? (longest : Bool) (pattern : List Glob) (text : Text) : Option Text :=
  (cutStart? longest pattern.reverse text.reverse).map List.reverse

/-- Whether letters can stand for more than one text. -/
def hasMeaning (letters : List Letter) : Bool :=
  letters.any fun letter => letter.means '*' || letter.means '?' || letter.means '['

end Script

end CommandShell
