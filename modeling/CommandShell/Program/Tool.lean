/-
This file holds `tool`, a small program for trying out streams. Its arguments are
words that it obeys from left to right: it writes texts, copies its standard
input in several ways, counts it, shows what it was started with, and ends in
the way it is told to. Each word is read as one instruction, so what the program
does is one recursion on the instructions.
-/

import CommandShell.Environment
import CommandShell.Program

namespace CommandShell

namespace Tool

/-- One thing to do. -/
inductive Instruction
  /-- Write these bytes. -/
  | emit (stream : Stream) (bytes : Bytes)
  /-- Read the standard input to its end and write this function of it. -/
  | convert (function : Bytes → Bytes)
  /-- Copy at most this many bytes of the standard input. -/
  | head (count : Nat)
  /-- End. -/
  | stop (status : Status)

/-- The newline. -/
def newline : UInt8 := 10

/-- The bytes with the letters a to z made upper case. -/
def upperCase (bytes : Bytes) : Bytes :=
  bytes.map fun byte => if 97 ≤ byte ∧ byte ≤ 122 then byte - 32 else byte

/-- The bytes with a plus sign before the first byte of every line. -/
def markLines (bytes : Bytes) : Bytes :=
  (bytes.foldl
    (fun (marked, atStart) byte =>
      (if atStart then byte :: 43 :: marked else byte :: marked, byte == newline))
    (([] : Bytes), true)).1.reverse

/-- A number and a newline. -/
def numberLine (number : Nat) : Bytes :=
  utf8 (toString number) ++ [newline]

/-- The digits at the start, as a number in the given base. Other bytes end it. -/
def readDigits (base : Nat) (number : Nat) : Bytes → Nat
  | [] => number
  | byte :: rest =>
    let digit :=
      if 48 ≤ byte ∧ byte ≤ 57 then byte.toNat - 48
      else if 97 ≤ byte ∧ byte ≤ 122 then byte.toNat - 87
      else if 65 ≤ byte ∧ byte ≤ 90 then byte.toNat - 55
      else base
    if digit < base then readDigits base (number * base + digit) rest else number

/-- Whether a byte may stand before a number. -/
def isSpace (byte : UInt8) : Bool :=
  byte == 32 || (9 ≤ byte && byte ≤ 13)

/-- The number at the start of an operand without a sign. In base sixteen it may be marked by
`0x`. -/
def readUnsigned (base : Nat) (operand : Bytes) : Nat :=
  match operand with
  | 48 :: 120 :: rest => if base = 16 then readDigits base 0 rest else 0
  | 48 :: 88 :: rest => if base = 16 then readDigits base 0 rest else 0
  | _ => readDigits base 0 operand

/-- The number at the start of an operand, with a sign if there is one. -/
def readNumber (base : Nat) (operand : Bytes) : Int :=
  match operand.dropWhile isSpace with
  | 45 :: rest => -(readUnsigned base rest : Int)
  | 43 :: rest => readUnsigned base rest
  | rest => readUnsigned base rest

/-- What is said about a variable. -/
def describeVariable (environment : List Bytes) (key : Bytes) : Bytes :=
  match findEntry environment key with
  | some value => key ++ equalsSign :: value ++ [newline]
  | none => key ++ utf8 " unset" ++ [newline]

/-- The name the program was called by and these arguments, each on a line. -/
def describeArguments (name : Bytes) (args : List Bytes) : Bytes :=
  name ++ newline :: args.flatMap fun argument => utf8 "[" ++ argument ++ utf8 "]" ++ [newline]

/-- Whether a program that does nothing about this signal is ended by it. -/
def endsProgram (signal : Nat) : Bool :=
  1 ≤ signal && signal ≤ 64 && !([17, 18, 19, 20, 21, 22, 23, 28].contains signal)

/-- What is done about a word that means nothing. -/
def refuse : List Instruction :=
  [.emit .stderr (utf8 "tool: bad word\n"), .stop (.exited 99)]

/-- The instructions that a word without an operand stands for. -/
def plainWord? (call : Invocation) (word : Bytes) : Option Instruction :=
  if word = utf8 "cat" then some (.convert id)
  else if word = utf8 "upper" then some (.convert upperCase)
  else if word = utf8 "mark" then some (.convert markLines)
  else if word = utf8 "drain" then some (.convert fun _ => [])
  else if word = utf8 "count" then some (.convert fun input => numberLine input.length)
  else if word = utf8 "lines" then
    some (.convert fun input => numberLine (input.countP (· == newline)))
  else if word = utf8 "cwd" then some (.emit .stdout (call.directory ++ [newline]))
  else none

/-- The instruction that a word with its operand stands for. -/
def wordWithOperand? (call : Invocation) (word operand : Bytes) : Option Instruction :=
  if word = utf8 "out" then some (.emit .stdout (operand ++ [newline]))
  else if word = utf8 "outn" then some (.emit .stdout operand)
  else if word = utf8 "err" then some (.emit .stderr (operand ++ [newline]))
  else if word = utf8 "head" then some (.head (readNumber 10 operand).toNat)
  else if word = utf8 "repeat" then
    some (.emit .stdout (List.replicate (readNumber 10 operand).toNat 120))
  else if word = utf8 "byte" then
    some (.emit .stdout [UInt8.ofNat (readNumber 16 operand).toNat])
  else if word = utf8 "env" then
    some (.emit .stdout (describeVariable call.environment operand))
  else if word = utf8 "exit" then
    some (.stop (.exited ((readNumber 10 operand) % 256).toNat))
  else if word = utf8 "signal" then
    let signal := (readNumber 10 operand).toNat
    some (if endsProgram signal then .stop (.signalled signal) else .emit .stdout [])
  else none

/-- The instructions that the arguments stand for. The word `argv` ends the words. -/
def instructions (call : Invocation) : List Bytes → List Instruction
  | [] => []
  | word :: rest =>
    if word = utf8 "argv" then [.emit .stdout (describeArguments call.name rest)]
    else
      match plainWord? call word with
      | some instruction => instruction :: instructions call rest
      | none =>
        match rest with
        | [] => refuse
        | operand :: rest =>
          match wordWithOperand? call word operand with
          | some instruction => instruction :: instructions call rest
          | none => refuse

/-- A transcript that starts with a write. -/
def writeFirst (stream : Stream) (bytes : Bytes) (transcript : Transcript) : Transcript :=
  { transcript with writes := (stream, bytes) :: transcript.writes }

/-- Obey the instructions, with this much of the standard input still unread. -/
def obey (unread : Bytes) : List Instruction → Transcript
  | [] => ⟨0, [], .exited 0⟩
  | .stop status :: _ => ⟨0, [], status⟩
  | .emit stream bytes :: rest => writeFirst stream bytes (obey unread rest)
  | .convert function :: rest =>
    let later := writeFirst .stdout (function unread) (obey [] rest)
    { later with taken := unread.length + later.taken }
  | .head count :: rest =>
    let piece := unread.take count
    let later := writeFirst .stdout piece (obey (unread.drop count) rest)
    { later with taken := piece.length + later.taken }

/-- The program. -/
def run : Program := fun call input => obey input (instructions call call.args)

/-- The name of the compiled program. -/
def image : String := "tool"

/-- The programs of a world in which `tool` is the only one. -/
def table : String → Option Program := fun name =>
  if name = image then some run else none

end Tool

end CommandShell
