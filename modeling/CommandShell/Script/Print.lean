/-
This file holds the texts that scripts print. In them a backslash starts a name
for a character. A format has places in which arguments are put; it is used again
as long as arguments are left.
-/

import CommandShell.Script.Real

namespace CommandShell

namespace Script

/-! ### Characters by name -/

/-- The character that a letter behind a backslash stands for. -/
def namedCharacter? : Char → Option Char
  | 'a' => some (Char.ofNat 7)
  | 'b' => some (Char.ofNat 8)
  | 'e' => some (Char.ofNat 27)
  | 'f' => some (Char.ofNat 12)
  | 'n' => some '\n'
  | 'r' => some '\r'
  | 't' => some '\t'
  | 'v' => some (Char.ofNat 11)
  | '\\' => some '\\'
  | _ => none

/-- Whether a character is a digit in base eight. -/
def isOctal (character : Char) : Bool :=
  '0' ≤ character && character ≤ '7'

/-- The character of the code that up to three digits in base eight are, and the rest. -/
def takeOctal (text : Text) : Char × Text :=
  let digits := (text.take 3).takeWhile isOctal
  (Char.ofNat ((takeDigits 8 0 digits).1 % 256), text.drop digits.length)

/-- The character that stands behind a backslash, and the rest. If nothing is known the backslash
stands for itself. -/
def takeEscape (text : Text) : Char × Text :=
  match text with
  | [] => ('\\', [])
  | first :: rest =>
    if isOctal first then takeOctal text
    else
      match namedCharacter? first with
      | some character => (character, rest)
      | none => ('\\', text)

/-- A text with its characters by name put in, and whether it asks to stop. -/
def unescape : (steps : Nat) → Text → Text × Bool
  | 0, _ => ([], false)
  | _, [] => ([], false)
  | _, '\\' :: 'c' :: _ => ([], true)
  | steps + 1, '\\' :: rest =>
    let (character, rest) := match rest with
      | '0' :: digits => takeOctal digits
      | rest => takeEscape rest
    let (text, stops) := unescape steps rest
    (character :: text, stops)
  | steps + 1, character :: rest =>
    let (text, stops) := unescape steps rest
    (character :: text, stops)

/-- A text with its characters by name put in, and whether it asks to stop. -/
def escaped (text : Text) : Text × Bool :=
  unescape (text.length + 1) text

/-- Words with blanks between them and their characters by name put in. One that asks to stop ends
it all. -/
def echoWords (lineEnd : Text) : List Text → Text
  | [] => lineEnd
  | word :: rest =>
    let (text, stops) := escaped word
    if stops then text
    else if rest.isEmpty then text ++ lineEnd
    else text ++ ' ' :: echoWords lineEnd rest

/-- What is printed for words, the first of which can ask for no line end. -/
def echoed : List Text → Text
  | [] => ['\n']
  | first :: rest =>
    if first = "-n".toList then echoWords [] rest else echoWords ['\n'] (first :: rest)

/-! ### Formats -/

/-- How an argument is put into a format. -/
structure Place where
  flags : List Char
  width : Nat
  precision : Option Nat

/-- Fill a text up to the width of a place. -/
def Place.pad (place : Place) (text : Text) : Text :=
  let gap := List.replicate (place.width - text.length) ' '
  if place.flags.contains '-' then text ++ gap else gap ++ text

/-- The text of an argument in a place. -/
def Place.text (place : Place) (text : Text) : Text :=
  place.pad (match place.precision with
    | some precision => text.take precision
    | none => text)

/-- The digits of a number, which are as many at least as the precision of a place. -/
def Place.digits (place : Place) (digits : Text) : Text :=
  match place.precision with
  | some 0 => if digits = ['0'] then [] else digits
  | some precision => List.replicate (precision - digits.length) '0' ++ digits
  | none => digits

/-- The digits of a number in a place, behind a sign or the mark of a base. -/
def Place.number (place : Place) (mark digits : Text) : Text :=
  let digits := place.digits digits
  if place.flags.contains '0' && !place.flags.contains '-' && place.precision.isNone then
    mark ++ List.replicate (place.width - mark.length - digits.length) '0' ++ digits
  else place.pad (mark ++ digits)

/-- A number with a fraction in a place, behind a sign. -/
def Place.real (place : Place) (mark : Text) (kind : Char) (number : Real) : Text :=
  let (start, digits) := number.text kind.toLower place.precision (place.flags.contains '#')
  let (start, digits) :=
    if kind.isUpper then (start.map Char.toUpper, digits.map Char.toUpper) else (start, digits)
  let start := mark ++ start
  if place.flags.contains '0' && !place.flags.contains '-' && (number matches .finite ..) then
    start ++ List.replicate (place.width - start.length - digits.length) '0' ++ digits
  else place.pad (start ++ digits)

/-- What stands in front of a number: its sign, or what is asked for in place of one. -/
def Place.mark (place : Place) (negative : Bool) : Text :=
  if negative then ['-']
  else if place.flags.contains '+' then ['+']
  else if place.flags.contains ' ' then [' ']
  else []

/-- What printing has come to. -/
structure Printing where
  output : Text
  args : List Text
  /-- The messages about arguments that are no numbers. -/
  warnings : List Text

/-- A place as it was asked for. -/
def Place.shown (place : Place) : Text :=
  let has := place.flags.contains
  let flag (character : Char) (shown : Bool) : Text := if shown then [character] else []
  let number (number : Nat) : Text := (toString number).toList
  '%' :: flag '#' (has '#') ++ flag '+' (has '+') ++ flag ' ' (has ' ' && !has '+') ++
    flag '-' (has '-') ++ flag '0' (has '0' && !has '-') ++
    (if place.width = 0 then [] else number place.width) ++
    (place.precision.map fun precision => '.' :: number precision).getD []

/-- Why printing ends. -/
inductive PrintEnd
  /-- The format is used up. -/
  | done
  /-- An argument asked to stop. -/
  | stopped
  /-- The format is not understood. -/
  | wrong (message : Text)

namespace Printing

/-- The next argument. -/
def next (printing : Printing) : Option Text × Printing :=
  match printing.args with
  | [] => (none, printing)
  | argument :: rest => (some argument, { printing with args := rest })

/-- Print a text. -/
def add (printing : Printing) (text : Text) : Printing :=
  { printing with output := printing.output ++ text }

/-- Report an argument that is no number, or not only one. -/
def warn (printing : Printing) (argument : Text) (problem : String) : Printing :=
  { printing with warnings := printing.warnings ++ [argument ++ ": ".toList ++ problem.toList] }

/-- What is wrong with an argument that is not all used up. -/
def wrongRest (argument rest : Text) : String :=
  if rest = argument then "expected numeric value" else "not completely converted"

/-- What is wrong with an argument that is too great or too small. -/
def outOfRange : String := "Numerical result out of range"

/-- The next argument as a number with a fraction, or the code of a character behind a quote. -/
def nextReal (printing : Printing) : Real × Printing :=
  let (argument, printing) := printing.next
  let argument := argument.getD []
  if argument.head? = some '"' ∨ argument.head? = some '\'' then
    ((Real.ofQuotient false (((argument.drop 1).head?.map (·.toNat)).getD 0) 1).1, printing)
  else
    let (number, wide, rest) := Real.take argument
    if rest ≠ [] then (number, printing.warn argument (wrongRest argument rest))
    else if wide then (number, printing.warn argument outOfRange)
    else (number, printing)

/-- The greatest integer without a sign. -/
def greatestUnsigned : Nat := 0xFFFFFFFFFFFFFFFF

/-- The next argument as a number: an integer, or the code of a character behind a quote. An integer
that is not to have a sign can be twice as great. -/
def nextNumber (signed : Bool) (printing : Printing) : Int × Printing :=
  match printing.next with
  | (none, printing) => (0, printing)
  | (some [], printing) => (0, printing)
  | (some (first :: rest), printing) =>
    if first = '"' ∨ first = '\'' then (((rest.head?.map (·.toNat)).getD 0 : Nat), printing)
    else
      let argument := first :: rest
      let unsigned := argument.dropWhile isSpaceLetter
      let negative := unsigned.head? == some '-'
      let digits := match unsigned with
        | '-' :: digits => digits
        | '+' :: digits => digits
        | digits => digits
      if (digits.head?.map (·.isDigit)).getD false then
        let (number, after) := takeNumber digits
        let value : Int := if negative then -number else number
        if after ≠ [] then (value, printing.warn argument "not completely converted")
        else if signed && (nearest value).toInt ≠ value then
          (value, printing.warn argument outOfRange)
        else if greatestUnsigned < number then
          (greatestUnsigned, printing.warn argument outOfRange)
        else (value, printing)
      else (0, printing.warn argument "expected numeric value")

end Printing

/-- A number without a sign. -/
def wrapped (number : Int) : Nat :=
  (number % 0x10000000000000000).toNat

/-- The digits of a number in a base. -/
def digitsIn (base number : Nat) : Text :=
  Nat.toDigits base number

/-- What the next argument is in a place. -/
structure Converted where
  text : Text
  /-- Whether the argument asks to stop. -/
  stops : Bool := false
  printing : Printing

/-- Convert the next argument for a place of this kind, if there is such a kind. -/
def convert (place : Place) (kind : Char) (printing : Printing) : Option Converted :=
  match kind with
  | 's' =>
    let (argument, printing) := printing.next
    some { text := place.text (argument.getD []), printing }
  | 'b' =>
    let (argument, printing) := printing.next
    let (text, stops) := escaped (argument.getD [])
    some { text := place.text text, stops, printing }
  | 'c' =>
    let (argument, printing) := printing.next
    let character := ((argument.getD []).head?).getD (Char.ofNat 0)
    some { text := place.pad [character], printing }
  | 'd' | 'i' =>
    let (number, printing) := printing.nextNumber true
    let number := (nearest number).toInt
    some { text := place.number (place.mark (number < 0)) (digitsIn 10 number.natAbs), printing }
  | 'u' =>
    let (number, printing) := printing.nextNumber false
    some { text := place.number [] (digitsIn 10 (wrapped number)), printing }
  | 'o' =>
    let (number, printing) := printing.nextNumber false
    let digits := digitsIn 8 (wrapped number)
    let marked := place.flags.contains '#' && (place.digits digits).head? != some '0'
    some { text := place.number (if marked then ['0'] else []) digits, printing }
  | 'x' =>
    let (number, printing) := printing.nextNumber false
    let mark := if place.flags.contains '#' && number != 0 then ['0', 'x'] else []
    some { text := place.number mark (digitsIn 16 (wrapped number)), printing }
  | 'X' =>
    let (number, printing) := printing.nextNumber false
    let mark := if place.flags.contains '#' && number != 0 then ['0', 'X'] else []
    some { text := place.number mark ((digitsIn 16 (wrapped number)).map Char.toUpper), printing }
  | 'a' | 'e' | 'f' | 'g' | 'A' | 'E' | 'F' | 'G' =>
    let (number, printing) := printing.nextReal
    some { text := place.real (place.mark number.isNegative) kind number, printing }
  | _ => none

/-- A width or precision in a format. -/
structure Measure where
  /-- Its value, unless that is too great. -/
  value : Option Int
  /-- The format from a star on that stands where there can be none. -/
  stray : Option Text
  rest : Text

/-- The greatest width. -/
def widthLimit : Nat := 0x7FFFFFFF

/-- A width or precision at the start of a format: a number, or a star for the next argument, of
which thirty-two bits count. -/
def takeMeasure (format : Text) (printing : Printing) : Measure × Printing :=
  match format with
  | '*' :: rest =>
    let (number, printing) := printing.nextNumber true
    (⟨some (Int32.ofInt (nearest number).toInt).toInt, none, rest⟩, printing)
  | format =>
    let (number, after) := takeDigits 10 0 format
    let rest := after.dropWhile fun character => character == '*' || character.isDigit
    (⟨if widthLimit < number then none else some number,
      if after.head? = some '*' then some after else none, rest⟩, printing)

/-- The letter by which a kind is handed to the system, which knows integers by two letters. -/
def systemKind (kind : Char) : Text :=
  if ['d', 'i', 'u', 'o', 'x', 'X'].contains kind then ['l', kind]
  else if kind = 'b' then ['s']
  else [kind]

/-- Use a format once. -/
def printOnce : (steps : Nat) → Text → Printing → Printing × PrintEnd
  | 0, _, printing => (printing, .done)
  | _, [], printing => (printing, .done)
  | steps + 1, '\\' :: rest, printing =>
    let (character, rest) := takeEscape rest
    printOnce steps rest (printing.add [character])
  | steps + 1, '%' :: '%' :: rest, printing => printOnce steps rest (printing.add ['%'])
  | steps + 1, '%' :: format, printing =>
    let flags := format.takeWhile ['#', '-', '+', ' ', '0'].contains
    let (width, printing) := takeMeasure (format.drop flags.length) printing
    let (precision, printing) := match width.rest with
      | '.' :: rest => takeMeasure rest printing
      | rest => (⟨some (-1), none, rest⟩, printing)
    match precision.rest with
    | [] => (printing, .wrong "missing format character".toList)
    | kind :: after =>
      let flags := if width.value.any (· < 0) then '-' :: flags else flags
      let shown := if width.stray.isSome then some (-1) else precision.value
      let place : Place :=
        ⟨flags, (width.value.getD 0).natAbs,
          shown.bind fun number => if number < 0 then none else some number.toNat⟩
      match convert place kind printing with
      | none =>
        let directive := ('%' :: format).take (format.length + 1 - after.length)
        (printing, .wrong (directive ++ ": invalid directive".toList))
      | some { text, stops, printing } =>
        if width.value.isNone || shown.isNone then
          (printing, .wrong "xvsnprintf failed".toList)
        else
          let text := match width.stray.orElse fun _ => precision.stray with
            | some stray =>
              place.shown ++ stray.take (stray.length - after.length - 1) ++ systemKind kind
            | none => text
          if stops then (printing.add text, .stopped)
          else printOnce steps after (printing.add text)
  | steps + 1, character :: rest, printing => printOnce steps rest (printing.add [character])

/-- Use a format as long as it takes arguments and some are left. -/
def printAll (format : Text) : (rounds : Nat) → Printing → Printing × PrintEnd
  | 0, printing => (printing, .done)
  | rounds + 1, printing =>
    match printOnce (format.length + 1) format printing with
    | (later, .done) =>
      if later.args.length < printing.args.length && !later.args.isEmpty then
        printAll format rounds later
      else (later, .done)
    | (later, finish) => (later, finish)

/-- What a format makes of arguments. -/
def formatted (format : Text) (args : List Text) : Printing × PrintEnd :=
  printAll format (args.length + 1) ⟨[], args, []⟩

end Script

end CommandShell
