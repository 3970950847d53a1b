/-
This file reads sums: integers of sixty-four bits and variables, joined by the
usual operators, among them a choice and assignments. Only reading is done here;
the value depends on the variables. A text that is no sum is read up to where it
goes wrong, because what stands before that place is worked out all the same.
-/

import CommandShell.Script.Statement

namespace CommandShell

namespace Script

/-- An operator between two numbers. -/
inductive Operator
  | times
  | over
  | modulo
  | plus
  | minus
  | shiftLeft
  | shiftRight
  | less
  | lessOrEqual
  | greater
  | greaterOrEqual
  | equal
  | different
  | bitAnd
  | bitXor
  | bitOr
  deriving DecidableEq, Repr

namespace Operator

/-- The operator with this spelling. -/
def ofText? : String → Option Operator
  | "*" => some .times
  | "/" => some .over
  | "%" => some .modulo
  | "+" => some .plus
  | "-" => some .minus
  | "<<" => some .shiftLeft
  | ">>" => some .shiftRight
  | "<" => some .less
  | "<=" => some .lessOrEqual
  | ">" => some .greater
  | ">=" => some .greaterOrEqual
  | "==" => some .equal
  | "!=" => some .different
  | "&" => some .bitAnd
  | "^" => some .bitXor
  | "|" => some .bitOr
  | _ => none

/-- How tightly an operator binds. The loosest are of rank zero. -/
def rank : Operator → Nat
  | .times | .over | .modulo => 7
  | .plus | .minus => 6
  | .shiftLeft | .shiftRight => 5
  | .less | .lessOrEqual | .greater | .greaterOrEqual => 4
  | .equal | .different => 3
  | .bitAnd => 2
  | .bitXor => 1
  | .bitOr => 0

/-- The truth of a comparison as a number. -/
def ofTruth (truth : Bool) : Int64 := if truth then 1 else 0

/-- Whether the quotient of two numbers is beyond the greatest integer. -/
def overflows (first second : Int64) : Bool :=
  first = Int64.minValue && second = -1

/-- What an operator makes of two numbers. Nothing can be divided by zero. -/
def apply (operator : Operator) (first second : Int64) : Option Int64 :=
  match operator with
  | .times => some (first * second)
  | .over => if second = 0 then none else some (first / second)
  | .modulo => if second = 0 then none else some (first % second)
  | .plus => some (first + second)
  | .minus => some (first - second)
  | .shiftLeft => some (first <<< second)
  | .shiftRight => some (first >>> second)
  | .less => some (ofTruth (first < second))
  | .lessOrEqual => some (ofTruth (first ≤ second))
  | .greater => some (ofTruth (second < first))
  | .greaterOrEqual => some (ofTruth (second ≤ first))
  | .equal => some (ofTruth (first == second))
  | .different => some (ofTruth (first != second))
  | .bitAnd => some (first &&& second)
  | .bitXor => some (first ^^^ second)
  | .bitOr => some (first ||| second)

end Operator

/-- An operator before a number. -/
inductive Sign
  | negative
  | complement
  | opposite
  deriving DecidableEq, Repr

/-- A sum. -/
inductive Expression
  | number (value : Int64)
  | name (name : Text)
  | signed (sign : Sign) (operand : Expression)
  | joined (operator : Operator) (first second : Expression)
  | both (first second : Expression)
  | either (first second : Expression)
  | choice (condition first second : Expression)
  | assign (name : Text) (operator : Option Operator) (value : Expression)
  /-- There is nothing where an operand should be. -/
  | missing
  /-- Something else follows than what is wanted after the first sum. -/
  | broken (first : Expression) (wanted : String)
  deriving Repr

/-- What a sum is made of at first sight. -/
inductive Term
  | number (value : Int64)
  | name (name : Text)
  | sign (text : String)
  | unknown
  deriving DecidableEq, Repr

/-- The signs in sums, the longer ones first. -/
def termSigns : List String :=
  ["<<=", ">>=", "<<", ">>", "<=", ">=", "==", "!=", "&&", "||", "+=", "-=", "*=", "/=", "%=",
    "&=", "|=", "^=", "+", "-", "*", "/", "%", "<", ">", "=", "&", "|", "^", "~", "!", "?", ":",
    "(", ")"]

/-! ### Numbers -/

/-- The value of a digit. Letters are digits from ten on. -/
def digitValue? (character : Char) : Option Nat :=
  if character.isDigit then some (character.toNat - 48)
  else if 'a' ≤ character ∧ character ≤ 'z' then some (character.toNat - 87)
  else if 'A' ≤ character ∧ character ≤ 'Z' then some (character.toNat - 55)
  else none

/-- The digits of a base at the start of a text, as a number, and the rest. -/
def takeDigits (base : Nat) (number : Nat) : Text → Nat × Text
  | [] => (number, [])
  | character :: rest =>
    match digitValue? character with
    | some digit =>
      if digit < base then takeDigits base (number * base + digit) rest
      else (number, character :: rest)
    | none => (number, character :: rest)

/-- The number at the start of a text, and the rest. It is in base eight after a zero, and in base
sixteen after `0x`. -/
def takeNumber (text : Text) : Nat × Text :=
  match text with
  | '0' :: mark :: digit :: rest =>
    if (mark = 'x' ∨ mark = 'X') ∧ ((digitValue? digit).getD 16) < 16 then
      takeDigits 16 0 (digit :: rest)
    else takeDigits 8 0 (mark :: digit :: rest)
  | '0' :: rest => takeDigits 8 0 rest
  | text => takeDigits 10 0 text

/-- The greatest integer. -/
def greatest : Nat := 0x7FFFFFFFFFFFFFFF

/-- The integer nearest to a number. -/
def nearest (number : Int) : Int64 :=
  Int64.ofInt (max (-(greatest : Int) - 1) (min number greatest))

/-- Whether a character may stand around a number. -/
def isSpaceLetter (character : Char) : Bool :=
  character == ' ' || ('\t' ≤ character && character ≤ '\r')

/-- The integer that a whole text is, by how its digits are read. Blanks may stand around it. -/
def integerBy? (digits : Text → Nat × Text) (text : Text) : Option Int :=
  let text := text.dropWhile isSpaceLetter
  let (negative, unsigned) := match text with
    | '-' :: rest => (true, rest)
    | '+' :: rest => (false, rest)
    | text => (false, text)
  if (unsigned.head?.map (·.isDigit)).getD false then
    let (number, rest) := digits unsigned
    if rest.all isSpaceLetter then some (if negative then -number else number) else none
  else none

/-! ### Reading -/

/-- The next term of a sum, and the rest. -/
def takeTerm (text : Text) : Term × Text :=
  match text with
  | [] => (.unknown, [])
  | first :: rest =>
    if first.isDigit then
      let (number, rest) := takeNumber text
      (.number (nearest number), rest)
    else if startsName first then
      (.name (text.takeWhile continuesName), text.dropWhile continuesName)
    else
      match termSigns.find? fun sign => sign.toList.isPrefixOf text with
      | some sign => (.sign sign, text.drop sign.length)
      | none => (.unknown, rest)

/-- The terms of a sum. -/
def terms : (steps : Nat) → Text → List Term
  | 0, _ => []
  | steps + 1, text =>
    match text.dropWhile isSpaceLetter with
    | [] => []
    | text =>
      let (term, rest) := takeTerm text
      term :: terms steps rest

/-- A reader of a sum gives it and the terms after it, of which there are none if something is wrong
with it. -/
abbrev SumReader := List Term → Expression × List Term

/-- The operator of the assignment that a sign stands for. -/
def assigning? (sign : String) : Option (Option Operator) :=
  if sign = "=" then some none
  else if ["<<=", ">>=", "+=", "-=", "*=", "/=", "%=", "&=", "|=", "^="].contains sign then
    some (Operator.ofText? (String.ofList sign.toList.dropLast))
  else none

/-- Read a number, a variable, a sum in brackets, or one of these after a sign. -/
def primary (whole : SumReader) : (steps : Nat) → SumReader
  | steps + 1, .sign "+" :: rest => primary whole steps rest
  | steps + 1, .sign "-" :: rest => (primary whole steps rest).map (.signed .negative) id
  | steps + 1, .sign "!" :: rest => (primary whole steps rest).map (.signed .opposite) id
  | steps + 1, .sign "~" :: rest => (primary whole steps rest).map (.signed .complement) id
  | _, .sign "(" :: rest =>
    match whole rest with
    | (inner, .sign ")" :: rest) => (inner, rest)
    | (inner, _) => (.broken inner "')'", [])
  | _, .number value :: rest => (.number value, rest)
  | _, .name name :: rest => (.name name, rest)
  | _, _ => (.missing, [])

/-- Go on after a first operand with operators of at least this rank. -/
def operands (next : SumReader) : (steps : Nat) → (rank : Nat) → Expression → SumReader
  | 0, _, first, rest => (first, rest)
  | steps + 1, rank, first, rest =>
    match rest with
    | .sign text :: after =>
      match Operator.ofText? text with
      | some operator =>
        if rank ≤ operator.rank then
          let (second, after) := next after
          let (second, after) := operands next steps (operator.rank + 1) second after
          operands next steps rank (.joined operator first second) after
        else (first, rest)
      | none => (first, rest)
    | rest => (first, rest)

/-- Read what is joined by operators. -/
def joinedSum (whole : SumReader) : SumReader := fun terms =>
  let next := primary whole (terms.length + 1)
  let (first, rest) := next terms
  operands next (terms.length + 1) 0 first rest

/-- Read sums of which all must hold. -/
def bothSums (whole : SumReader) : (steps : Nat) → SumReader
  | 0, terms => joinedSum whole terms
  | steps + 1, terms =>
    match joinedSum whole terms with
    | (first, .sign "&&" :: rest) => (bothSums whole steps rest).map (.both first) id
    | result => result

/-- Read sums of which one must hold. -/
def eitherSums (whole : SumReader) : (steps : Nat) → SumReader
  | 0, terms => bothSums whole terms.length terms
  | steps + 1, terms =>
    match bothSums whole terms.length terms with
    | (first, .sign "||" :: rest) => (eitherSums whole steps rest).map (.either first) id
    | result => result

/-- Read a choice, if it is one. -/
def choiceSum (whole : SumReader) : (steps : Nat) → SumReader
  | 0, terms => eitherSums whole terms.length terms
  | steps + 1, terms =>
    match eitherSums whole terms.length terms with
    | (condition, .sign "?" :: rest) =>
      match whole rest with
      | (first, .sign ":" :: rest) =>
        (choiceSum whole steps rest).map (.choice condition first) id
      | (first, _) => (.choice condition (.broken first "':'") (.number 0), [])
    | result => result

/-- Read a sum that is nested this deep at most. -/
def wholeSum : Nat → SumReader
  | 0, _ => (.missing, [])
  | depth + 1, terms =>
    let other := choiceSum (wholeSum depth) terms.length terms
    match terms with
    | .name name :: .sign sign :: rest =>
      match assigning? sign with
      | some operator => (wholeSum depth rest).map (.assign name operator) id
      | none => other
    | _ => other

/-- The sum that a text is. -/
def Expression.ofText (text : Text) : Expression :=
  let terms := terms (text.length + 1) text
  match wholeSum (terms.length + 1) terms with
  | (expression, []) => expression
  | (expression, _) => .broken expression "EOF"

end Script

end CommandShell
