/-
This file holds the state of the shell that runs a script: its variables and
functions, its parameters, its open descriptors, and the world around it. A
descriptor leads to a channel, and several descriptors can lead to one. What runs
in a part of its own gets a copy of all that, but the channels and the world stay
what they have become.

A statement either has a status or makes the shell leave what it is doing.
-/

import CommandShell.Script.Job
import CommandShell.Script.Limit
import CommandShell.Script.Pattern
import CommandShell.Sink

namespace CommandShell

namespace Script

/-- What a descriptor can lead to. -/
inductive Channel
  /-- What is left to be read of an input. -/
  | source (unread : Bytes)
  | sink (sink : Sink)
  /-- A file that is read, and is also written to if `writes` is set. -/
  | file (handle : Handle) (writes : Bool)

/-- A variable. It can be known without having a value. -/
structure Variable where
  value : Option Text
  /-- Whether started programs get it. -/
  exported : Bool
  /-- Whether it cannot be set. -/
  fixed : Bool
  deriving DecidableEq, Repr

/-- A program that was found in the list of directories before. -/
structure Tracked where
  name : Text
  /-- The number of the directory in the list. -/
  place : Nat
  /-- Whether it has to be looked for again, because the directory of the shell has changed. -/
  stale : Bool
  deriving DecidableEq, Repr

/-- A program that has to be looked for again. -/
def Tracked.aged (entry : Tracked) : Tracked :=
  { entry with stale := true }

/-- Where the search for options in arguments has come to. -/
structure OptionPlace where
  /-- The number of the next argument, which is zero if that is not known. -/
  next : Nat
  /-- How much was read of the argument before it, if it goes on. -/
  offset : Option Nat
  deriving DecidableEq, Repr

/-- The start of a search for options. -/
def OptionPlace.start : OptionPlace := ⟨1, none⟩

/-- A descriptor that was put away until it is given back. -/
structure PutAway where
  descriptor : Nat
  /-- The number at which it is kept and its channel, if it led anywhere. -/
  kept : Option (Nat × Nat)
  deriving DecidableEq, Repr

/-- How many descriptors had been put away, and channels been made, at some time. -/
structure Frame where
  away : Nat
  channels : Nat

/-- What a function has to give back at its end. -/
inductive Saved
  | variable (name : Text) (entry : Option Variable)
  | options (names : List String)

/-- Whether this is a variable of this name. -/
def Saved.isVariable (saved : Saved) (name : Text) : Bool :=
  match saved with
  | .variable other _ => other = name
  | .options _ => false

/-- The state of the shell. -/
structure Shell where
  /-- The world. Its directory is that of the shell. -/
  world : World
  channels : List Channel
  /-- The channels of the descriptors. -/
  files : List (Nat × Nat)
  /-- The descriptors that were put away, the last one first. -/
  away : List PutAway
  /-- The numbers at which the scripts are open that are being read. -/
  reading : List Nat
  /-- The directory as the shell spells it. -/
  directory : Text
  /-- The name of the script. -/
  name : Text
  parameters : List Text
  vars : List (Text × Variable)
  functions : List (Text × Statement)
  /-- The words that stand for other texts. -/
  aliases : List (Text × Text)
  tracked : List Tracked
  /-- The names of the options that are set. -/
  options : List String
  /-- The permissions that files made by the shell do not get. -/
  mask : Nat
  limits : Limits
  /-- Where the search for options in arguments has come to. -/
  optionPlace : OptionPlace
  /-- What is done on a signal. The signal zero is the end of the shell. -/
  traps : List (Nat × Text)
  /-- The signals that did nothing to the process when the shell was started in it. -/
  deaf : List Nat
  /-- The status of the last command. -/
  status : Nat
  /-- The status of the last command before what is done on a signal. -/
  interrupted : Option Nat
  jobs : Jobs
  /-- How many processes were started in the background. -/
  started : Nat
  /-- Whether the prompt of a trace is being made, so that nothing is traced. -/
  prompting : Bool
  /-- What is done on signals in the shell of which this is a part, if it is one. -/
  wholeTraps : Option (List (Nat × Text))
  /-- The status of the last statements whose output was used. -/
  outputStatus : Nat
  /-- The line of the command that runs. -/
  line : Nat
  /-- The line up to which the script was read. -/
  reached : Nat
  /-- The builtin command that runs, for messages. -/
  title : Option Text
  /-- How many loops are running. -/
  loops : Nat
  /-- How many bytes the process needs for the scripts that run inside each other. -/
  load : Nat
  /-- The signals that came and are still to be answered. -/
  pending : List Nat
  /-- The signals that were sent to the shell of which this is a part. -/
  sent : List Nat
  /-- For each running function, what it has to give back. -/
  locals : List (List Saved)

/-- Why the shell leaves what it is doing. -/
inductive Jump
  /-- The script ends. -/
  | exit
  /-- This many loops end. -/
  | leave (loops : Nat)
  /-- This many loops end, except for the last, which goes on. -/
  | resume (loops : Nat)
  /-- The function ends. -/
  | back
  /-- Something is wrong, and it was reported. -/
  | error
  /-- The process became a program, which ended in this way. -/
  | replaced (status : Status)
  /-- A signal ends the shell. -/
  | killed (signal : Nat)
  /-- The script is nested more deeply, or goes on longer, than is allowed. -/
  | stuck
  deriving DecidableEq, Repr

/-- Running a script. -/
abbrev Run := ExceptT Jump (StateM Shell)

/-- The end of a process in which too much is nested. -/
def overflow {α : Type} : Run α :=
  throw (.replaced (.signalled overflowSignal))

/-- Run something and say how it ended. -/
def attempt {α : Type} (action : Run α) : Run (Except Jump α) :=
  ExceptT.mk do
    let result ← action.run
    return .ok result

/-! ### Descriptors -/

namespace Shell

/-- The number of the channel that a descriptor leads to. -/
def channelOf? (shell : Shell) (descriptor : Nat) : Option Nat :=
  shell.files.lookup descriptor

/-- What a descriptor leads to. -/
def channel? (shell : Shell) (descriptor : Nat) : Option Channel :=
  (shell.channelOf? descriptor).bind fun channel => shell.channels[channel]?

/-- What went into the pipe that is this channel. -/
def heldBy (shell : Shell) (channel : Nat) : Bytes :=
  match shell.channels[channel]? with
  | some (.sink sink) => sink.held
  | _ => []

/-- How much was written to the pipe that is this channel. -/
def writtenTo (shell : Shell) (channel : Nat) : Nat :=
  match shell.channels[channel]? with
  | some (.sink (.pipe written _)) => written.count
  | _ => 0

/-- What is left of the input that is this channel. -/
def leftIn (shell : Shell) (channel : Nat) : Bytes :=
  match shell.channels[channel]? with
  | some (.source unread) => unread
  | _ => []

/-- Let a descriptor lead to a channel, or nowhere. -/
def connect (shell : Shell) (descriptor : Nat) (channel : Option Nat) : Shell :=
  { shell with
    files := (channel.toList.map fun channel => (descriptor, channel)) ++
      shell.files.filter fun file => file.1 ≠ descriptor }

/-- A new channel, to which a descriptor leads. -/
def attach (shell : Shell) (descriptor : Nat) (channel : Channel) : Shell :=
  { shell with channels := shell.channels ++ [channel] }.connect descriptor
    (some shell.channels.length)

/-- How much was put away and made so far. -/
def frame (shell : Shell) : Frame := ⟨shell.away.length, shell.channels.length⟩

/-- The descriptors and the numbers at which others are kept, with their channels. -/
def led (shell : Shell) : List (Nat × Nat) :=
  shell.files ++ shell.away.filterMap (·.kept)

/-- Forget all channels but so many, if nothing leads to others. -/
def release (shell : Shell) (count : Nat) : Shell :=
  if shell.led.all (·.2 < count) then { shell with channels := shell.channels.take count }
  else shell

/-- The numbers at which something is open. -/
def openNumbers (shell : Shell) : List Nat :=
  shell.led.map (·.1) ++ shell.reading

/-- The lowest number from `least` on at which nothing is open. -/
def freeNumber (shell : Shell) (least : Nat) : Nat :=
  lowestFree least shell.openNumbers

/-- Files can be open at the numbers below this one. -/
def openLimit (shell : Shell) : Nat :=
  (shell.limits.soft? 'n').getD Limit.unlimited

/-- The least number at which the shell keeps what it needs for itself. -/
def leastKept : Nat := 10

/-- The lowest number at which the shell can keep something for itself, or why there is none. -/
def keptNumber (shell : Shell) : Except String Nat :=
  let number := shell.freeNumber leastKept
  if number < shell.openLimit then .ok number
  else .error (if shell.openLimit ≤ leastKept then "Invalid argument"
    else Fault.tooManyOpen.reason)

/-- A channel becomes what it is now. -/
def replace (shell : Shell) (channel : Nat) (now : Channel) : Shell :=
  { shell with channels := shell.channels.set channel now }

/-- What can be read from an open file. -/
def fileRest (world : World) (handle : Handle) : Bytes :=
  match world.tree.get? handle.location with
  | some (.file _ content) => content.bytes.drop handle.offset
  | _ => []

/-- What can be read from a descriptor. -/
def unread (shell : Shell) (descriptor : Nat) : Bytes :=
  match shell.channel? descriptor with
  | some (.source unread) => unread
  | some (.file handle _) => fileRest shell.world handle
  | _ => []

/-- The descriptor after bytes were read from it. -/
def consume (shell : Shell) (descriptor : Nat) (count : Nat) : Shell :=
  match shell.channelOf? descriptor, shell.channel? descriptor with
  | some channel, some (.source unread) => shell.replace channel (.source (unread.drop count))
  | some channel, some (.file handle writes) =>
    shell.replace channel (.file { handle with offset := handle.offset + count } writes)
  | _, _ => shell

/-- How much more a file takes that was written up to a place. -/
def fileRoom? (shell : Shell) (place : Nat) : Option Nat :=
  (shell.limits.soft? 'f').bind fun limit =>
    if limit = Limit.unlimited then none else some (limit - place)

/-- How much more an open file takes. -/
def handleRoom? (shell : Shell) (handle : Handle) : Option Nat :=
  match shell.world.tree.get? handle.location with
  | some (.file _ content) =>
    shell.fileRoom? (if handle.appending then content.size else handle.offset)
  | _ => none

/-- How much more a channel takes, and the signal to whoever writes more to it. -/
def room? (shell : Shell) (channel : Channel) : Option (Nat × Nat) :=
  match channel with
  | .sink (.pipe written limit) =>
    limit.map fun limit => (limit - written.count, brokenPipeSignal)
  | .sink (.terminal stream) =>
    if shell.world.recorded then
      (shell.fileRoom? (shell.world.printed stream).count).map fun room => (room, fileSizeSignal)
    else none
  | .sink (.file handle) | .file handle true =>
    (shell.handleRoom? handle).map fun room => (room, fileSizeSignal)
  | _ => none

/-- How writing ended. -/
inductive Written
  | whole
  /-- Nothing was taken. -/
  | refused
  /-- Not all was taken, and this signal came. -/
  | cut (signal : Nat)

/-- Write to a channel, which takes as much as this. -/
def pass (shell : Shell) (number : Nat) (channel : Channel) (bytes : Bytes) : Written × Shell :=
  match channel with
  | .sink sink =>
    match sink.write bytes shell.world with
    | .ok (sink, world) => (.whole, { shell with world := world }.replace number (.sink sink))
    | .error _ => (.refused, shell)
  | .file handle true =>
    match shell.world.writeTo handle bytes with
    | .ok (handle, world) =>
      (.whole, { shell with world := world }.replace number (.file handle true))
    | .error _ => (.refused, shell)
  | _ => (.refused, shell)

/-- Write to a descriptor as much as it takes. -/
def write (shell : Shell) (descriptor : Nat) (bytes : Bytes) : Written × Shell :=
  match shell.channelOf? descriptor, shell.channel? descriptor with
  | some number, some channel =>
    match shell.room? channel with
    | none => shell.pass number channel bytes
    | some (room, signal) =>
      if bytes.length ≤ room then shell.pass number channel bytes
      else (.cut signal, (shell.pass number channel (bytes.take room)).2)
  | _, _ => (.refused, shell)

/-- The place of the file that a channel writes to. -/
def writtenPlace? (shell : Shell) (channel : Nat) : Option Location :=
  match shell.channels[channel]? with
  | some (.sink (.file handle)) => some handle.location
  | some (.file handle true) => some handle.location
  | _ => none

/-- The places of the files that are open for writing. -/
def busy (shell : Shell) : List Location :=
  shell.led.filterMap fun file => shell.writtenPlace? file.2

/-! ### Variables -/

/-- A variable. -/
def entry? (shell : Shell) (name : Text) : Option Variable :=
  shell.vars.lookup name

/-- The value of a variable. -/
def value? (shell : Shell) (name : Text) : Option Text :=
  (shell.entry? name).bind (·.value)

/-- The name of the variable that tells where the search for options has come to. -/
def placeName : Text := "OPTIND".toList

/-- Put a variable in the place of the one with its name. With another list of directories the
programs that were found count no more, and the search for options goes to where it is told. -/
def define (shell : Shell) (name : Text) (entry : Option Variable) : Shell :=
  { shell with
    vars := (entry.toList.map fun entry => (name, entry)) ++
      shell.vars.filter fun entry => entry.1 ≠ name
    tracked := if name = "PATH".toList then [] else shell.tracked
    optionPlace :=
      if name = placeName then
        let value := (entry.bind (·.value)).getD []
        ⟨max 1 (takeDigits 10 0 (value.dropWhile (!·.isDigit))).1, none⟩
      else shell.optionPlace }

/-- Mark a variable, whether or not it was known. -/
def mark (shell : Shell) (name : Text) (mark : Variable → Variable) : Shell :=
  { shell with
    vars := (name, mark ((shell.entry? name).getD ⟨none, false, false⟩)) ::
      shell.vars.filter fun entry => entry.1 ≠ name }

/-- Whether an option is set. -/
def has (shell : Shell) (option : String) : Bool :=
  shell.options.contains option

/-- The characters at which values are split. -/
def separators (shell : Shell) : Text :=
  (shell.value? "IFS".toList).getD [' ', '\t', '\n']

/-- The entries of the variables that started programs get. -/
def entries (shell : Shell) : List Bytes :=
  shell.vars.filterMap fun (name, entry) =>
    match entry.value with
    | some value =>
      if entry.exported then some (bytesOf name ++ equalsSign :: bytesOf value) else none
    | none => none

/-! ### Processes -/

/-- The number of the shell's process. -/
def processNumber : Nat := 4242

/-- The number of the process that started the shell. -/
def parentNumber : Nat := 4241

/-- The number of the last process in the background. -/
def lastProcess? (shell : Shell) : Option Nat :=
  if shell.started = 0 then none else some (processNumber + shell.started)

/-- The end of a process was noticed. -/
def toldOfEnd (shell : Shell) : Shell :=
  { shell with
    pending :=
      if (shell.traps.lookup childSignal).any (· ≠ []) && !shell.pending.contains childSignal then
        shell.pending ++ [childSignal]
      else shell.pending }

/-- A process was waited for. Whatever else had ended was noticed then. -/
def waited (shell : Shell) : Shell :=
  { shell.toldOfEnd with jobs := shell.jobs.spare.notice }

/-- The signals to which the processes that the shell starts are deaf. -/
def ignored (shell : Shell) : List Nat :=
  shell.deaf ++ (shell.traps.filter fun entry => entry.2 = []).map (·.1)

/-- What a signal to the shell does: nothing, something that is to be done then, or the end. -/
inductive Effect
  | nothing
  | answer
  | finish

/-- What a signal to the shell does. In a part of its own, the shell around it gets the signal. -/
def effect (shell : Shell) (signal : Nat) : Effect :=
  if signal = 9 then .finish
  else if signal = 0 || shell.deaf.contains signal then .nothing
  else
    match (shell.wholeTraps.getD shell.traps).lookup signal with
    | some [] => .nothing
    | some _ => .answer
    | none => if isHarmless signal then .nothing else .finish

/-- What a signal does to the process itself that runs the shell. -/
def ownEffect (shell : Shell) (signal : Nat) : Effect :=
  if shell.deaf.contains signal then .nothing
  else
    match shell.traps.lookup signal with
    | some [] => .nothing
    | some _ => .answer
    | none => .finish

/-- Whether something is to be done on signals. -/
def hasTraps (shell : Shell) : Bool :=
  shell.traps.any fun entry => entry.2 ≠ []

end Shell

/-! ### Messages -/

/-- Write a text to a descriptor, and say whether all of it was taken. Writing too much can be the
end of the process. -/
def offer (descriptor : Nat) (text : Text) : Run Bool := do
  let (written, shell) := (← get).write descriptor (bytesOf text)
  set shell
  match written with
  | .whole => return true
  | .refused => return false
  | .cut signal =>
    match shell.ownEffect signal with
    | .finish => throw (.replaced (.signalled signal))
    | .answer =>
      set { shell with pending := shell.pending ++ [signal] }
      return false
    | .nothing => return false

/-- Write a text to a descriptor, whether or not it is taken. -/
def put (descriptor : Nat) (text : Text) : Run Unit := do
  let _ ← offer descriptor text

/-- A message about what went wrong, with the place in the script. -/
def Shell.message (shell : Shell) (problem : Text) : Text :=
  let title := match shell.title with
    | some title => title ++ ": ".toList
    | none => []
  shell.name ++ ": ".toList ++ (toString shell.line).toList ++ ": ".toList ++ title ++ problem ++
    ['\n']

/-- Report that something went wrong. -/
def warn (problem : Text) : Run Unit := do
  put 2 ((← get).message problem)

/-- The status of what went wrong. -/
def errorStatus : Nat := 2

/-- Report that something went wrong, and leave. -/
def fail {α : Type} (problem : Text) : Run α := do
  warn problem
  modify fun shell => { shell with status := errorStatus }
  throw .error

/-- The two lowest free numbers are for a pipe, and the first of them is for reading from it. One
more is taken if `held` is set. -/
def pipeNumber (held : Bool) : Run Nat := do
  let shell ← get
  let first := shell.freeNumber 0
  let second := shell.freeNumber (first + 1)
  let last := if held then shell.freeNumber (second + 1) else second
  if shell.openLimit ≤ last then fail "Pipe call failed".toList
  return first

/-- A text in front of a colon and another text. -/
def labelled (label : Text) (text : String) : Text :=
  label ++ ": ".toList ++ text.toList

/-- The number that an argument is. -/
def count (argument : Text) : Run Nat :=
  match integerBy? (takeDigits 10 0) argument with
  | some (.ofNat number) =>
    if number < 0x80000000 then return number else fail ("Illegal number: ".toList ++ argument)
  | _ => fail ("Illegal number: ".toList ++ argument)

/-- The variable of this name, which must not be fixed. -/
def looseVariable (name : Text) : Run Variable := do
  let shell ← get
  let old := (shell.entry? name).getD ⟨none, false, false⟩
  if old.fixed then fail (labelled name "is read only")
  return old

/-- Set a variable. -/
def setVariable (name value : Text) (exported : Bool) : Run Unit := do
  let old ← looseVariable name
  if name = Shell.placeName then
    let _ ← count value
  modify fun shell => shell.define name
    (some ⟨some value, old.exported || exported || shell.has "allexport", false⟩)

/-- Forget a variable. The search for options has to be somewhere. -/
def forgetVariable (name : Text) : Run Unit := do
  let _ ← looseVariable name
  if name = Shell.placeName then fail "Illegal number: ".toList
  modify fun shell => shell.define name none

end Script

end CommandShell
