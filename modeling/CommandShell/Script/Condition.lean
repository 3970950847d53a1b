/-
This file holds the conditions that scripts test: comparisons of texts and of
numbers, and what stands at a path, joined by signs. How many words there are can
decide what a word means.
-/

import CommandShell.Script.Expansion

namespace CommandShell

namespace Script

/-- What a word of a condition is. -/
inductive TestWord
  | finish
  | operand
  | opposite
  | both
  | either
  | opened
  | closed
  | unary
  | binary
  deriving DecidableEq, Repr

/-- The signs before one operand. -/
def unarySigns : List String :=
  ["-r", "-w", "-x", "-e", "-f", "-d", "-c", "-b", "-p", "-u", "-g", "-k", "-s", "-t", "-z", "-n",
    "-h", "-O", "-G", "-L", "-S"]

/-- The signs between two operands. -/
def binarySigns : List String :=
  ["=", "!=", "<", ">", "-eq", "-ne", "-ge", "-gt", "-le", "-lt", "-nt", "-ot", "-ef"]

/-- The sign that a word is. -/
def signOf (word : Text) : TestWord :=
  let word := String.ofList word
  if unarySigns.contains word then .unary
  else if binarySigns.contains word then .binary
  else if word = "!" then .opposite
  else if word = "-a" then .both
  else if word = "-o" then .either
  else if word = "(" then .opened
  else if word = ")" then .closed
  else .operand

/-- What the word at a position is. A sign before an operand is an operand itself if there is none
or if a sign between two operands follows. -/
def testWord (words : List Text) (position : Nat) : TestWord :=
  match words[position]? with
  | none => .finish
  | some word =>
    match signOf word, words[position + 1]? with
    | .unary, none => .operand
    | .unary, some next =>
      if words[position + 2]?.isSome && signOf next = .binary then .operand else .unary
    | .opened, none => .operand
    | sign, _ => sign

/-- Report a condition that is not understood. -/
def refuseCondition {α : Type} (word : Option Text) (problem : String) : Run α :=
  fail (match word with
    | some word => if word = [] then problem.toList else labelled word problem
    | none => problem.toList)

/-! ### Operands -/

/-- What stands at a path. -/
def nodeAt (shell : Shell) (path : Text) : Option Node :=
  match shell.world.tree.inspect shell.world.cwd (bytesOf path) with
  | .ok (_, node) => some node
  | .error _ => none

/-- Whether a link stands at a path. -/
def isLink (shell : Shell) (path : Text) : Bool :=
  (shell.world.tree.inspectEntry shell.world.cwd (bytesOf path)) matches .ok (_, .link _)

/-- Whether the owner of what stands at a path may use it so. -/
def mayUse (shell : Shell) (permission : Permission) (path : Text) : Bool :=
  match nodeAt shell path with
  | some (.file mode _) => grants mode permission
  | some (.device _) => permission != .start
  | some _ => true
  | none => false

/-- Whether the file at a path has one of these bits. -/
def hasMode (shell : Shell) (bits : Nat) (path : Text) : Bool :=
  match nodeAt shell path with
  | some (.file mode _) => mode &&& bits != 0
  | _ => false

/-- Whether a sign holds of an operand. -/
def testOperand (shell : Shell) (sign operand : Text) : Bool :=
  match String.ofList sign with
  | "-z" => operand.isEmpty
  | "-n" => !operand.isEmpty
  | "-e" | "-O" | "-G" => (nodeAt shell operand).isSome
  | "-f" => ((nodeAt shell operand) matches some (.file ..))
  | "-d" => ((nodeAt shell operand) matches some .directory)
  | "-c" => ((nodeAt shell operand) matches some (.device _))
  | "-s" =>
    match nodeAt shell operand with
    | some (.file _ content) => content.image.isSome || content.size ≠ 0
    | some .directory => true
    | _ => false
  | "-h" | "-L" => isLink shell operand
  | "-r" => mayUse shell .read operand
  | "-w" => mayUse shell .write operand
  | "-x" => mayUse shell .start operand
  | "-u" => hasMode shell 0o4000 operand
  | "-g" => hasMode shell 0o2000 operand
  | "-k" => hasMode shell 0o1000 operand
  | _ => false

/-- Whether two paths lead to one place. -/
def samePlace (shell : Shell) (first second : Text) : Bool :=
  match shell.world.tree.inspect shell.world.cwd (bytesOf first),
      shell.world.tree.inspect shell.world.cwd (bytesOf second) with
  | .ok (first, _), .ok (second, _) => first = second
  | _, _ => false

/-- The number that a text is. -/
def decimal (text : Text) : Run Int64 :=
  readInteger (takeDigits 10 0) text

/-- Whether a sign holds between two operands. -/
def testOperands (first sign second : Text) : Run Bool := do
  let numbers (compare : Int64 → Int64 → Bool) : Run Bool := do
    let first ← decimal first
    return compare first (← decimal second)
  match String.ofList sign with
  | "=" => return first == second
  | "!=" => return first != second
  | "<" => return decide (first < second)
  | ">" => return decide (second < first)
  | "-eq" => numbers fun first second => first == second
  | "-ne" => numbers fun first second => first != second
  | "-ge" => numbers fun first second => second ≤ first
  | "-gt" => numbers fun first second => second < first
  | "-le" => numbers fun first second => first ≤ second
  | "-lt" => numbers fun first second => first < second
  | "-ef" => return samePlace (← get) first second
  | _ => return false

/-! ### Conditions -/

/-- A reader of a condition at a position gives its truth and the position of its last word. -/
abbrev ConditionReader := TestWord → Nat → Run (Bool × Nat)

/-- Read a condition between whose parts are no signs. What is in brackets is read by `inner`. -/
def testPrimary (words : List Text) (inner : ConditionReader) : ConditionReader :=
  fun word position => do
    if word = .finish then return (false, position)
    if word = .opened then
      let next := testWord words (position + 1)
      if next = .closed then return (false, position + 1)
      let (truth, last) ← inner next (position + 1)
      if testWord words (last + 1) ≠ .closed then
        refuseCondition none "closing paren expected"
      return (truth, last + 1)
    let first := words[position]?.getD []
    if word = .unary then
      match words[position + 1]? with
      | none => refuseCondition (some first) "argument expected"
      | some operand => return (testOperand (← get) first operand, position + 1)
    if testWord words (position + 1) = .binary then
      let sign := words[position + 1]?.getD []
      match words[position + 2]? with
      | none => refuseCondition (some sign) "argument expected"
      | some second => return (← testOperands first sign second, position + 2)
    return (!first.isEmpty, position)

/-- Read a condition that can stand behind the sign for its opposite. -/
def testOpposite (words : List Text) (inner : ConditionReader) : (steps : Nat) → ConditionReader
  | 0, _, _ => throw .stuck
  | steps + 1, word, position => do
    if word ≠ .opposite then testPrimary words inner word position
    else
      let next := testWord words (position + 1)
      let (truth, last) ←
        testOpposite words inner steps next (if next = .finish then position else position + 1)
      return (!truth, last)

/-- Read conditions that must all hold. -/
def testBoth (words : List Text) (inner : ConditionReader) : (steps : Nat) → ConditionReader
  | 0, _, _ => throw .stuck
  | steps + 1, word, position => do
    let (truth, last) ← testOpposite words inner (words.length + 2) word position
    if testWord words (last + 1) ≠ .both then return (truth, last)
    let (others, last) ←
      testBoth words inner steps (testWord words (last + 2)) (last + 2)
    return (truth && others, last)

/-- Read conditions of which one must hold. -/
def testEither (words : List Text) (inner : ConditionReader) : (steps : Nat) → ConditionReader
  | 0, _, _ => throw .stuck
  | steps + 1, word, position => do
    let (truth, last) ← testBoth words inner (words.length + 2) word position
    if testWord words (last + 1) ≠ .either then return (truth, last)
    let (others, last) ←
      testEither words inner steps (testWord words (last + 2)) (last + 2)
    return (truth || others, last)

/-- Read a condition with brackets that are nested this deep at most. -/
def testNested (words : List Text) : Nat → ConditionReader
  | 0, _, _ => throw .stuck
  | depth + 1, word, position =>
    testEither words (testNested words depth) (words.length + 2) word position

/-- The truth of words as a condition, of which the first one is given. -/
def testWords (first : Nat → TestWord) (words : List Text) : Run Bool := do
  let (truth, last) ← testNested words (words.length + 2) (first 0) 0
  match words[last]?, words[last + 1]? with
  | some word, some _ => refuseCondition (some word) "unexpected operator"
  | _, _ => return truth

/-- The truth of a condition. With three words a sign in the middle comes first, and with three or
four an opposite or brackets around the whole. -/
def condition : (steps : Nat) → List Text → Run Bool
  | 0, _ => return false
  | _, [] => return false
  | steps + 1, words => do
    let middle := (words[1]?.map signOf).getD .operand
    if words.length = 3 ∧ middle = .binary then testWords (fun _ => .operand) words
    else if words.length = 3 ∨ words.length = 4 then
      if words.head? = some ['('] ∧ words.getLast? = some [')'] then
        let inner := (words.drop 1).dropLast
        testWords (testWord inner) inner
      else if words.head? = some ['!'] then return !(← condition steps (words.drop 1))
      else testWords (testWord words) words
    else testWords (testWord words) words

end Script

end CommandShell
