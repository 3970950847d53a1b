/-
This file holds what commands have in common: how they take options from their
arguments, and how they write their output.
-/

import CommandShell.Script.Shell

namespace CommandShell

namespace Script

/-- Whether a word is a bundle of options. -/
def isBundle : Text → Bool
  | '-' :: _ :: _ => true
  | _ => false

/-- The options of a bundle, and the arguments after it. Some options take an argument, which is the
rest of the bundle or the argument after it. -/
def takeBundle (allowed : List (Char × Bool)) :
    Text → List Text → Run (List (Char × Text) × List Text)
  | [], args => return ([], args)
  | letter :: rest, args => do
    match allowed.lookup letter with
    | none => fail ("Illegal option -".toList ++ [letter])
    | some false =>
      let (options, args) ← takeBundle allowed rest args
      return ((letter, []) :: options, args)
    | some true =>
      match rest, args with
      | [], [] => fail ("No arg for -".toList ++ letter :: " option".toList)
      | [], argument :: args => return ([(letter, argument)], args)
      | rest, args => return ([(letter, rest)], args)

/-- The bundles at the start of the arguments, and the other arguments. -/
def takeBundles (allowed : List (Char × Bool)) :
    (steps : Nat) → List Text → Run (List (Char × Text) × List Text)
  | steps + 1, word :: rest => do
    if word = "--".toList then return ([], rest)
    if !isBundle word then return ([], word :: rest)
    let (options, rest) ← takeBundle allowed (word.drop 1) rest
    let (more, rest) ← takeBundles allowed steps rest
    return (options ++ more, rest)
  | _, args => return ([], args)

/-- The options at the start of the arguments, and the other arguments. -/
def takeOptions (allowed : List Char) (args : List Text) : Run (List Char × List Text) := do
  let (options, args) ← takeBundles (allowed.map fun letter => (letter, false)) args.length args
  return (options.map (·.1), args)

/-- A text in single quotes, as long as it goes on after single quotes in it. Those stand in double
quotes. -/
def quoteRuns : (steps : Nat) → Text → Text
  | 0, _ => []
  | steps + 1, text =>
    let plain := text.takeWhile (· != '\'')
    let quotes := (text.drop plain.length).takeWhile (· == '\'')
    let rest := text.drop (plain.length + quotes.length)
    '\'' :: plain ++ ['\''] ++
      (if quotes = [] then []
      else '"' :: quotes ++ ['"'] ++ if rest = [] then [] else quoteRuns steps rest)

/-- A text in quotes. -/
def quotedText (text : Text) : Text :=
  quoteRuns (text.length + 1) text

/-- Write the output of a command, and report if that does not work. -/
def print (name output : Text) : Run Nat := do
  if output = [] then return 0
  if ← offer 1 output then return 0
  warn (labelled name "I/O error")
  return 1

end Script

end CommandShell
