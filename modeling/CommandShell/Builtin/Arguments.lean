/-
This file reads the arguments of the shell's own commands. Arguments are taken
from left to right. Until `--`, a request for help is only noted and any other
argument with a dash in front is refused; every other argument counts as one of
the command's own. A command that takes any number of them takes the first one
as the end of the options too.
-/

import CommandShell.Builtin

namespace CommandShell

/-! ### White space at the end of a text -/

/-- A white space character of Unicode. -/
def isWhiteSpace (character : Char) : Bool :=
  let code := character.toNat
  (9 ≤ code && code ≤ 13) || code == 0x20 || code == 0x85 || code == 0xA0 || code == 0x1680 ||
    (0x2000 ≤ code && code ≤ 0x200A) || code == 0x2028 || code == 0x2029 || code == 0x202F ||
    code == 0x205F || code == 0x3000

/-- The text without white space at its end. -/
def trimEnd (text : String) : String :=
  String.ofList (text.toList.reverse.dropWhile isWhiteSpace).reverse

/-! ### Arguments -/

/-- What the arguments ask for. -/
inductive Request
  /-- To describe the command. -/
  | help
  /-- To run it on these. -/
  | run (operands : List String)
  deriving DecidableEq, Repr

/-- Why arguments are refused. -/
inductive ArgumentError
  /-- The command takes no such argument. -/
  | unrecognized (argument : String)
  /-- An option follows a request for help. -/
  | afterHelp
  deriving DecidableEq, Repr

/-- The wording of refused arguments. -/
def ArgumentError.message : ArgumentError → String
  | .unrecognized argument => trimEnd ("Unrecognized argument: " ++ argument)
  | .afterHelp => "Trailing arguments are not allowed after `help`."

/-- How many operands a command takes, if that is limited. -/
def Builtin.operandLimit : Builtin → Option Nat
  | .cd => some 1
  | .pwd => some 0
  | .echo | .exit | .type => none

/-- Whether an argument has a dash in front. -/
def isOption (argument : String) : Bool :=
  argument.toList.head? == some '-'

/-- Whether an argument asks for help. -/
def asksForHelp (argument : String) : Bool :=
  argument == "--help" || argument == "help"

/-- Where the reading of arguments stands. -/
structure ArgumentState where
  /-- Whether help was asked for. -/
  help : Bool
  /-- Whether the options have ended. -/
  ended : Bool
  /-- How many operands were taken. -/
  taken : Nat

/-- One more operand in front. A request for help stays one. -/
def Request.addOperand (argument : String) : Request → Request
  | .help => .help
  | .run operands => .run (argument :: operands)

/-- Read the arguments from left to right. -/
def readArguments (limit : Option Nat) (state : ArgumentState) :
    List String → Except ArgumentError Request
  | [] => .ok (if state.help then .help else .run [])
  | argument :: rest =>
    if !state.ended && asksForHelp argument then
      readArguments limit { state with help := true } rest
    else if !state.ended && isOption argument then
      if argument = "--" then readArguments limit { state with ended := true } rest
      else if state.help then .error .afterHelp
      else .error (.unrecognized argument)
    else
      match limit with
      | none =>
        (readArguments limit { state with ended := true, taken := state.taken + 1 } rest).map
          (Request.addOperand argument)
      | some count =>
        if state.taken < count then
          (readArguments limit { state with taken := state.taken + 1 } rest).map
            (Request.addOperand argument)
        else .error (.unrecognized argument)

/-- What the arguments of a command ask for. The command `echo` prints its arguments whatever they
are. -/
def Builtin.request (builtin : Builtin) (args : List String) : Except ArgumentError Request :=
  match builtin with
  | .echo => .ok (.run args)
  | _ => readArguments builtin.operandLimit ⟨false, false, 0⟩ args

/-- What every description ends with. -/
def helpOption : String :=
  "Options:\n  --help, help      display usage information\n"

/-- The description of a command. -/
def Builtin.usage : Builtin → String
  | .cd =>
    "Usage: cd [--] [<target>]\n\n" ++
    "Change the current working directory. If no target is provided, changes to the directory " ++
    "specified by the HOME environment variable.\n\n" ++
    "Positional Arguments:\n" ++
    "  target            directory to switch to; absolute, relative to the current\n" ++
    "                    directory, or starting with `~`.\n\n" ++ helpOption
  | .exit => "Usage: exit [args...]\n\nExit the shell.\n\n" ++ helpOption
  | .type =>
    "Usage: type [names...]\n\n" ++
    "Describe how each name would be interpreted as a command.\n\n" ++ helpOption
  | .pwd =>
    "Usage: pwd\n\nPrint the current working directory to standard output.\n\n" ++ helpOption
  | .echo => ""

end CommandShell
