/-
This file proves where the bytes end up that are written to sinks. A write to the
terminal or to a pipe goes behind what is there. A write to an open file goes to
the position of its handle, and two handles can be on one file, so what the file
holds after many writes depends on the order in which they were made. The content
of a file is therefore followed by one recursion on the writes, which knows only
the handles that are on this file.

A write can be refused, and a program does not notice. Such a write reaches no
file, so it needs no case of its own in that recursion.

A stream of the terminal can have a file of its own. It goes on there where it
stopped, which is what a handle does that does not append. What is said about that
file supposes that nobody else writes to it through a device that leads there.
-/

import CommandShell.Run.Finish

namespace CommandShell

/-! ### The terminal -/

@[simp]
theorem World.printed_print (world : World) (stream : Stream) (bytes : Bytes) :
    ((world.print stream bytes).printed stream).bytes = (world.printed stream).bytes ++ bytes := by
  cases stream <;> exact Output.bytes_add _ _

theorem World.printed_print_other (world : World) {stream other : Stream} (bytes : Bytes)
    (different : other ≠ stream) :
    (world.print stream bytes).printed other = world.printed other := by
  cases stream <;> cases other <;> first | rfl | exact absurd rfl different

@[simp]
theorem World.kept_print (world : World) (stream : Stream) (bytes : Bytes) :
    (world.print stream bytes).kept stream = (world.kept stream).goOn bytes := by
  cases stream <;> rfl

theorem World.kept_print_other (world : World) {stream other : Stream} (bytes : Bytes)
    (different : other ≠ stream) : (world.print stream bytes).kept other = world.kept other := by
  cases stream <;> cases other <;> first | rfl | exact absurd rfl different

@[simp]
theorem World.tree_print (world : World) (stream : Stream) (bytes : Bytes) :
    (world.print stream bytes).tree = world.tree := by
  cases stream <;> rfl

/-! ### The content of a file -/

/-- Bytes written behind bytes that were just written are written together with them. -/
theorem overwrite_overwrite (content first second : Bytes) (offset : Nat) :
    overwrite (overwrite content offset first) (offset + first.length) second =
      overwrite content offset (first ++ second) := by
  obtain ⟨front, isFront⟩ :
      ∃ front, front =
        content.take offset ++ (List.replicate (offset - content.length) 0 ++ first) :=
    ⟨_, rfl⟩
  have long : offset + first.length = front.length := by
    simp only [isFront, List.length_append, List.length_take, List.length_replicate]
    omega
  have ahead : overwrite content offset first = front ++ content.drop front.length := by
    simp [overwrite, isFront, long]
  have noGap : front.length - (overwrite content offset first).length = 0 := by
    rw [ahead, List.length_append]
    omega
  calc overwrite (overwrite content offset first) (offset + first.length) second
      = front ++ (second ++ content.drop (front.length + second.length)) := by
        rw [overwrite, long, noGap, ahead, List.take_left, List.drop_length_add_append,
          List.drop_drop]
        rfl
    _ = overwrite content offset (first ++ second) := by
        simp only [overwrite, List.length_append, ← Nat.add_assoc, long, isFront,
          List.append_assoc]

/-- What a write through a handle makes of the handle and of the bytes of its file. -/
def Handle.put (handle : Handle) (bytes content : Bytes) : Handle × Bytes :=
  if bytes = [] then (handle, content)
  else
    let offset := if handle.appending then content.length else handle.offset
    ({ handle with offset := offset + bytes.length }, overwrite content offset bytes)

/-- A handle that appends, or one at the front of an empty file, adds to what is there. -/
theorem Handle.put_eq_append {handle : Handle} {content : Bytes} (bytes : Bytes)
    (atEnd : handle.appending = true ∨ handle.offset = content.length) :
    (handle.put bytes content).2 = content ++ bytes := by
  by_cases nothing : bytes = []
  · simp [put, nothing]
  · have offset : (if handle.appending then content.length else handle.offset) =
        content.length := by
      rcases atEnd with appending | front
      · rw [if_pos appending]
      · rw [front, ite_self]
    simp only [put, if_neg nothing, offset, overwrite_length]

/-- The handle through which a sink writes to the file at a place. -/
def Sink.at? (sink : Sink) (location : Location) : Option Handle :=
  match sink with
  | .file handle => if handle.location = location then some handle else none
  | _ => none

/-- What a write makes of a handle and of the bytes of its file, if there is a handle. -/
def putThrough (handle : Option Handle) (bytes content : Bytes) : Option Handle × Bytes :=
  match handle with
  | none => (none, content)
  | some handle => (some (handle.put bytes content).1, (handle.put bytes content).2)

/-- The bytes of a file after writes to two streams, of which each may write to the file through a
handle. -/
def landed : (output errors : Option Handle) → List (Stream × Bytes) → Bytes → Bytes
  | _, _, [], content => content
  | output, errors, (.stdout, bytes) :: rest, content =>
    landed (putThrough output bytes content).1 errors rest (putThrough output bytes content).2
  | output, errors, (.stderr, bytes) :: rest, content =>
    landed output (putThrough errors bytes content).1 rest (putThrough errors bytes content).2

/-- Everything written to one of the streams. -/
def streamBytes (stream : Stream) (writes : List (Stream × Bytes)) : Bytes :=
  writes.flatMap fun write => if write.1 = stream then write.2 else []

/-! ### The file of a stream of the terminal -/

/-- The file of a stream after the stream was given more. -/
def Kept.WentOn (before : Kept) (bytes : Bytes) (after : Kept) : Prop :=
  (after.offset, after.content.bytes) =
    if bytes = [] then (before.offset, before.content.bytes)
    else (before.offset + bytes.length, overwrite before.content.bytes before.offset bytes)

namespace Kept.WentOn

theorem refl (kept : Kept) : WentOn kept [] kept := rfl

theorem goOn (kept : Kept) (bytes : Bytes) : WentOn kept bytes (kept.goOn bytes) := by
  unfold WentOn Kept.goOn
  split <;> simp

theorem append {before between after : Kept} {first second : Bytes}
    (ahead : WentOn before first between) (behind : WentOn between second after) :
    WentOn before (first ++ second) after := by
  unfold WentOn at *
  by_cases noFirst : first = []
  · subst noFirst
    obtain ⟨offset, content⟩ := Prod.mk.inj ahead
    rw [behind, offset, content, List.nil_append]
  · rw [if_neg noFirst] at ahead
    obtain ⟨offset, content⟩ := Prod.mk.inj ahead
    by_cases noSecond : second = []
    · subst noSecond
      rw [behind, if_pos rfl, List.append_nil, if_neg noFirst, offset, content]
    · have noneEmpty : first ++ second ≠ [] := by simp [noFirst]
      rw [behind, if_neg noSecond, if_neg noneEmpty, offset, content, overwrite_overwrite,
        List.length_append, Nat.add_assoc]

end Kept.WentOn

namespace World

variable (world : World) (stream : Stream) (handle : Handle) (bytes : Bytes)

theorem kept_keep_other (now : Kept) {other : Stream} (different : other ≠ stream) :
    (world.keep stream now).kept other = world.kept other := by
  cases stream <;> cases other <;> first | rfl | exact absurd rfl different

theorem kept_writeThrough_other {other : Stream} (different : other ≠ stream) :
    (world.writeThrough stream handle bytes).2.kept other = world.kept other := by
  unfold writeThrough
  dsimp only
  split <;> exact world.kept_keep_other stream _ different

@[simp]
theorem location_writeThrough :
    (world.writeThrough stream handle bytes).1.location = handle.location := by
  unfold writeThrough
  dsimp only
  split <;> rfl

@[simp]
theorem appending_writeThrough :
    (world.writeThrough stream handle bytes).1.appending = handle.appending := by
  unfold writeThrough
  dsimp only
  split <;> rfl

@[simp]
theorem tree_writeThrough : (world.writeThrough stream handle bytes).2.tree = world.tree := by
  unfold writeThrough
  dsimp only
  split <;> cases stream <;> rfl

@[simp]
theorem printed_writeThrough (other : Stream) :
    (world.writeThrough stream handle bytes).2.printed other = world.printed other := by
  unfold writeThrough
  dsimp only
  split <;> cases stream <;> cases other <;> rfl

theorem adopt_writeThrough :
    (world.writeThrough stream handle bytes).2 =
      world.adopt (world.writeThrough stream handle bytes).2 := by
  unfold writeThrough
  dsimp only
  split <;> cases stream <;> rfl

end World

/-! ### One write -/

namespace Sink

/-- Whether a sink is a pipe. -/
def isPipe : Sink → Bool
  | .pipe .. => true
  | _ => false

/-- The place of the file that a sink writes to. -/
def location? : Sink → Option Location
  | .file handle => some handle.location
  | _ => none

/-- Whether a sink is an open file through which it writes to a stream of the terminal. -/
def LeadsTo (sink : Sink) (tree : Tree) (stream : Stream) : Prop :=
  ∃ location, sink.location? = some location ∧
    tree.get? location = some (.device (.terminal stream))

end Sink

/-- What one write to a sink, refused or not, made of the sink and the world. -/
structure Wrote (sink : Sink) (bytes : Bytes) (before : World) (next : Sink) (after : World) :
    Prop where
  /-- Only the tree and the terminal can change. -/
  frame : after = before.adopt after
  printed (stream : Stream) :
    (after.printed stream).bytes =
      (before.printed stream).bytes ++ if sink = .terminal stream then bytes else []
  kept {stream : Stream} (apart : ¬sink.LeadsTo before.tree stream) :
    (before.kept stream).WentOn (if sink = .terminal stream then bytes else [])
      (after.kept stream)
  file {location : Location} {permissions : Nat} {old : Content}
    (stands : before.tree.get? location = some (.file permissions old)) :
    ∃ new, after.tree.get? location = some (.file permissions new) ∧ new.image = old.image ∧
      putThrough (sink.at? location) bytes old.bytes = (next.at? location, new.bytes)
  other {location : Location}
    (noFile : ∀ permissions content,
      before.tree.get? location ≠ some (.file permissions content)) :
    after.tree.get? location = before.tree.get? location
  terminal (stream : Stream) : next = .terminal stream ↔ sink = .terminal stream
  location : next.location? = sink.location?
  held : next.held = sink.held ++ if sink.isPipe then bytes else []
  isPipe : next.isPipe = sink.isPipe

namespace Wrote

variable {bytes : Bytes} {before : World} {handle next : Handle}

/-- Devices stay where they are. -/
theorem device_iff {sink next : Sink} {after : World}
    (wrote : Wrote sink bytes before next after) {location : Location} {device : Device} :
    after.tree.get? location = some (.device device) ↔
      before.tree.get? location = some (.device device) := by
  by_cases isFile : ∃ permissions content,
      before.tree.get? location = some (.file permissions content)
  · obtain ⟨permissions, content, stands⟩ := isFile
    obtain ⟨new, there, -⟩ := wrote.file stands
    simp [there, stands]
  · have noFile : ∀ permissions content,
        before.tree.get? location ≠ some (.file permissions content) :=
      fun permissions content stands => isFile ⟨permissions, content, stands⟩
    rw [wrote.other noFile]

/-- Another sink leads where it led before. -/
theorem leadsTo_iff {sink next : Sink} {after : World}
    (wrote : Wrote sink bytes before next after) {other : Sink} {stream : Stream} :
    other.LeadsTo after.tree stream ↔ other.LeadsTo before.tree stream :=
  exists_congr fun _ => and_congr_right fun _ => wrote.device_iff

/-- What the sink has become leads where it led before. -/
theorem leadsTo_next_iff {sink next : Sink} {after : World}
    (wrote : Wrote sink bytes before next after) {stream : Stream} :
    next.LeadsTo after.tree stream ↔ sink.LeadsTo before.tree stream := by
  unfold Sink.LeadsTo
  rw [wrote.location]
  exact wrote.leadsTo_iff

/-- A write that changes nothing: there is nothing to write, or no file to write to. -/
theorem of_idle (idle : bytes = [] ∨ ∀ permissions content,
      before.tree.get? handle.location ≠ some (.file permissions content)) :
    Wrote (.file handle) bytes before (.file handle) before where
  frame := rfl
  printed stream := by simp
  kept _ := by simp [Kept.WentOn.refl]
  file {location permissions old} stands := by
    refine ⟨old, stands, rfl, ?_⟩
    rcases idle with nothing | noFile
    · subst nothing
      cases place : (Sink.file handle).at? location <;> rfl
    · have elsewhere : handle.location ≠ location := by
        rintro rfl
        exact noFile permissions old stands
      simp [Sink.at?, elsewhere, putThrough]
  other noFile := rfl
  terminal stream := Iff.rfl
  location := rfl
  held := by simp [Sink.isPipe]
  isPipe := rfl

/-- A write into a file. -/
theorem of_file {permissions : Nat} {content : Content} (something : bytes ≠ [])
    (stands : before.tree.get? handle.location = some (.file permissions content))
    {offset : Nat} (isOffset : offset = if handle.appending then content.size else handle.offset) :
    Wrote (.file handle) bytes before (.file { handle with offset := offset + bytes.length })
      { before with
        tree := before.tree.set handle.location
          (.file permissions { content with written := content.written.addAt offset bytes }) } where
  frame := rfl
  printed stream := by cases stream <;> simp [World.printed]
  kept {stream} _ := by cases stream <;> simp [World.kept, Kept.WentOn.refl]
  file {location mode old} here := by
    by_cases same : handle.location = location
    · subst same
      have inner : handle.location ≠ [] := by
        intro root
        rw [root] at stands
        simp at stands
      rw [stands] at here
      cases here
      refine ⟨_, Tree.get?_set_same _ inner _, rfl, ?_⟩
      have size : content.size = content.bytes.length := content.size_eq_length
      simp [Sink.at?, putThrough, Handle.put, something, Content.bytes, isOffset, size]
    · have different : location ≠ handle.location := fun equal => same equal.symm
      refine ⟨old, ?_, rfl, ?_⟩
      · rw [Tree.get?_set_other _ different]
        exact here
      · simp [Sink.at?, same, putThrough]
  other {location} noFile := by
    have different : location ≠ handle.location := by
      rintro rfl
      exact noFile permissions content stands
    exact Tree.get?_set_other _ different _
  terminal stream := by simp
  location := rfl
  held := by simp [Sink.isPipe, Sink.held]
  isPipe := rfl

/-- A write through a device that leads to a stream of the terminal. -/
theorem of_device {stream : Stream}
    (leads : before.tree.get? handle.location = some (.device (.terminal stream))) :
    Wrote (.file handle) bytes before (.file (before.writeThrough stream handle bytes).1)
      (before.writeThrough stream handle bytes).2 where
  frame := before.adopt_writeThrough stream handle bytes
  printed other := by simp
  kept {other} apart := by
    have different : other ≠ stream := by
      rintro rfl
      exact apart ⟨_, rfl, leads⟩
    rw [before.kept_writeThrough_other stream handle bytes different]
    exact .refl _
  file {location permissions old} stands := by
    have elsewhere : handle.location ≠ location := by
      rintro rfl
      rw [leads] at stands
      cases stands
    exact ⟨old, by simpa using stands, rfl, by simp [Sink.at?, elsewhere, putThrough]⟩
  other _ := by simp
  terminal _ := by simp
  location := by simp [Sink.location?]
  held := by simp [Sink.isPipe, Sink.held]
  isPipe := rfl

/-- A write to a stream of the terminal. -/
theorem of_terminal (stream : Stream) :
    Wrote (.terminal stream) bytes before (.terminal stream) (before.print stream bytes) where
  frame := by cases stream <;> rfl
  printed other := by
    by_cases same : other = stream
    · subst same
      simp
    · have apart : Sink.terminal stream ≠ .terminal other := fun equal => by
        cases equal
        exact same rfl
      rw [World.printed_print_other _ _ same, if_neg apart, List.append_nil]
  kept {other} _ := by
    by_cases same : other = stream
    · subst same
      rw [if_pos rfl, World.kept_print]
      exact .goOn _ _
    · have apart : Sink.terminal stream ≠ .terminal other := fun equal => by
        cases equal
        exact same rfl
      rw [if_neg apart, World.kept_print_other _ _ same]
      exact .refl _
  file stands := ⟨_, by rw [World.tree_print]; exact stands, rfl, rfl⟩
  other _ := by rw [World.tree_print]
  terminal _ := Iff.rfl
  location := rfl
  held := by simp [Sink.isPipe]
  isPipe := rfl

/-- A write to a pipe. -/
theorem of_pipe (held : Output) (limit : Option Nat) :
    Wrote (.pipe held limit) bytes before (.pipe (held.add bytes) limit) before where
  frame := rfl
  printed _ := by simp
  kept _ := by simp [Kept.WentOn.refl]
  file stands := ⟨_, stands, rfl, rfl⟩
  other _ := rfl
  terminal _ := by simp
  location := rfl
  held := by simp [Sink.held, Sink.isPipe]
  isPipe := rfl

/-- A write that a sink takes. -/
theorem of_write {sink next : Sink} {after : World}
    (written : sink.write bytes before = .ok (next, after)) :
    Wrote sink bytes before next after := by
  cases sink with
  | terminal stream =>
    cases written
    exact of_terminal stream
  | pipe held limit =>
    cases written
    exact of_pipe held limit
  | file handle =>
    unfold Sink.write World.writeTo at written
    dsimp only at written
    by_cases nothing : bytes = []
    · rw [if_pos nothing] at written
      cases written
      exact of_idle (Or.inl nothing)
    · rw [if_neg nothing] at written
      split at written
      · cases written
      · next result =>
        split at result
        · next stands =>
          cases result
          cases written
          exact of_file nothing stands rfl
        · cases result
        · next leads =>
          obtain ⟨rfl, rfl⟩ := Prod.mk.inj (Except.ok.inj result)
          cases written
          exact of_device leads
        · next noFile _ _ =>
          cases result
          cases written
          exact of_idle (Or.inr noFile)

/-- A write that a sink refuses: only the device that takes no byte does so. -/
theorem of_refused {sink : Sink} {fault : Fault}
    (refused : sink.write bytes before = .error fault) :
    fault = .noSpace ∧ ∃ handle, sink = .file handle ∧
      before.tree.get? handle.location = some (.device .full) := by
  cases sink with
  | terminal stream => cases refused
  | pipe held limit => cases refused
  | file handle =>
    unfold Sink.write World.writeTo at refused
    dsimp only at refused
    split at refused
    · next result =>
      cases refused
      split at result
      · cases result
      · split at result
        · cases result
        · next full =>
          cases result
          exact ⟨rfl, handle, rfl, full⟩
        · cases result
        · cases result
    · cases refused

/-- A write to a sink, refused or not. One that is refused changes nothing. -/
theorem exists_wrote (sink : Sink) (bytes : Bytes) (before : World) :
    (∃ next after, sink.write bytes before = .ok (next, after) ∧
        Wrote sink bytes before next after) ∨
      ∃ fault, sink.write bytes before = .error fault ∧ Wrote sink bytes before sink before := by
  cases written : sink.write bytes before with
  | ok result => exact Or.inl ⟨result.1, result.2, rfl, of_write written⟩
  | error fault =>
    obtain ⟨-, handle, rfl, full⟩ := of_refused written
    exact Or.inr ⟨fault, rfl, of_idle (Or.inr fun permissions content => by simp [full])⟩

end Wrote

/-! ### Many writes -/

/-- The sink of a stream. -/
def sinkOf (output errors : Sink) : Stream → Sink
  | .stdout => output
  | .stderr => errors

/-- What a stream of the terminal gets of writes to two sinks. -/
def shownOn (stream : Stream) (output errors : Sink) (writes : List (Stream × Bytes)) : Bytes :=
  writes.flatMap fun write =>
    if sinkOf output errors write.1 = .terminal stream then write.2 else []

theorem sinkOf_eq (sinks : Stream → Sink) (source : Stream) :
    sinkOf (sinks .stdout) (sinks .stderr) source = sinks source := by
  cases source <;> rfl

theorem shownOn_cons (shown stream : Stream) (sinks : Stream → Sink) (bytes : Bytes)
    (writes : List (Stream × Bytes)) :
    shownOn shown (sinks .stdout) (sinks .stderr) ((stream, bytes) :: writes) =
      (if sinks stream = .terminal shown then bytes else []) ++
        shownOn shown (sinks .stdout) (sinks .stderr) writes := by
  simp [shownOn, sinkOf_eq]

theorem shownOn_congr {shown : Stream} {sinks others : Stream → Sink}
    (same : ∀ source, others source = .terminal shown ↔ sinks source = .terminal shown)
    (writes : List (Stream × Bytes)) :
    shownOn shown (others .stdout) (others .stderr) writes =
      shownOn shown (sinks .stdout) (sinks .stderr) writes := by
  simp only [shownOn, sinkOf_eq, same]

/-- What writes to two sinks made of the world. -/
structure Routed (output errors : Sink) (writes : List (Stream × Bytes)) (before after : World) :
    Prop where
  /-- Only the tree and the terminal can change. -/
  frame : after = before.adopt after
  /-- The terminal gets, in order, the writes that are for it. -/
  printed (stream : Stream) :
    (after.printed stream).bytes =
      (before.printed stream).bytes ++ shownOn stream output errors writes
  /-- They go on in the file of the terminal where it stopped. -/
  kept {stream : Stream} (noOutput : ¬output.LeadsTo before.tree stream)
    (noErrors : ¬errors.LeadsTo before.tree stream) :
    (before.kept stream).WentOn (shownOn stream output errors writes) (after.kept stream)
  /-- A file gets, in order, the writes that are for it. -/
  file {location : Location} {permissions : Nat} {old : Content}
    (stands : before.tree.get? location = some (.file permissions old)) :
    ∃ new, after.tree.get? location = some (.file permissions new) ∧ new.image = old.image ∧
      new.bytes = landed (output.at? location) (errors.at? location) writes old.bytes
  /-- What is no file stays what it is. -/
  other {location : Location}
    (noFile : ∀ permissions content,
      before.tree.get? location ≠ some (.file permissions content)) :
    after.tree.get? location = before.tree.get? location

theorem Streams.write_stdout (streams : Streams) (bytes : Bytes) :
    ∃ next after, streams.write (.stdout, bytes) = ⟨next, streams.errors, after⟩ ∧
      Wrote streams.output bytes streams.world next after := by
  rcases Wrote.exists_wrote streams.output bytes streams.world with
    ⟨next, after, written, wrote⟩ | ⟨fault, refused, wrote⟩
  · exact ⟨next, after, by simp [Streams.write, written], wrote⟩
  · exact ⟨_, _, by simp [Streams.write, refused], wrote⟩

theorem Streams.write_stderr (streams : Streams) (bytes : Bytes) :
    ∃ next after, streams.write (.stderr, bytes) = ⟨streams.output, next, after⟩ ∧
      Wrote streams.errors bytes streams.world next after := by
  rcases Wrote.exists_wrote streams.errors bytes streams.world with
    ⟨next, after, written, wrote⟩ | ⟨fault, refused, wrote⟩
  · exact ⟨next, after, by simp [Streams.write, written], wrote⟩
  · exact ⟨_, _, by simp [Streams.write, refused], wrote⟩

namespace Routed

variable {output errors next : Sink} {writes : List (Stream × Bytes)} {bytes : Bytes}
  {before middle after : World}

theorem nil (output errors : Sink) (world : World) : Routed output errors [] world world where
  frame := rfl
  printed stream := by simp [shownOn]
  kept _ _ := .refl _
  file stands := ⟨_, stands, rfl, rfl⟩
  other noFile := rfl

theorem terminal_iff {sinks others : Stream → Sink} {stream : Stream}
    (wrote : Wrote (sinks stream) bytes before (others stream) middle)
    (same : ∀ other, other ≠ stream → others other = sinks other) (shown source : Stream) :
    others source = .terminal shown ↔ sinks source = .terminal shown := by
  by_cases here : source = stream
  · subst here
    exact wrote.terminal shown
  · rw [same source here]

/-- One write to either stream in front. The sinks are given as functions of the stream, so that one
argument does for both. -/
theorem cons {sinks others : Stream → Sink} {stream : Stream}
    (wrote : Wrote (sinks stream) bytes before (others stream) middle)
    (same : ∀ other, other ≠ stream → others other = sinks other)
    (routed : Routed (others .stdout) (others .stderr) writes middle after) :
    Routed (sinks .stdout) (sinks .stderr) ((stream, bytes) :: writes) before after where
  frame := by
    rw [routed.frame, wrote.frame]
    rfl
  printed shown := by
    have later := shownOn_congr (terminal_iff wrote same shown) writes
    rw [routed.printed, wrote.printed, later, shownOn_cons, List.append_assoc]
  kept {shown} noOutput noErrors := by
    have apart : ∀ source, ¬(sinks source).LeadsTo before.tree shown := by
      intro source
      cases source with
      | stdout => exact noOutput
      | stderr => exact noErrors
    have othersApart : ∀ source, ¬(others source).LeadsTo middle.tree shown := by
      intro source
      by_cases here : source = stream
      · subst here
        rw [wrote.leadsTo_next_iff]
        exact apart source
      · rw [same source here, wrote.leadsTo_iff]
        exact apart source
    have later := shownOn_congr (terminal_iff wrote same shown) writes
    rw [shownOn_cons, ← later]
    exact (wrote.kept (apart stream)).append
      (routed.kept (othersApart .stdout) (othersApart .stderr))
  file stands := by
    obtain ⟨content, there, image, put⟩ := wrote.file stands
    obtain ⟨new, here, sameImage, bytesEq⟩ := routed.file there
    refine ⟨new, here, sameImage.trans image, ?_⟩
    cases stream with
    | stdout => rw [bytesEq, landed, put, same .stderr (by decide)]
    | stderr => rw [bytesEq, landed, put, same .stdout (by decide)]
  other noFile := by
    have unchanged := wrote.other noFile
    rw [← unchanged] at noFile
    exact (routed.other noFile).trans unchanged

theorem stdout (wrote : Wrote output bytes before next middle)
    (routed : Routed next errors writes middle after) :
    Routed output errors ((.stdout, bytes) :: writes) before after := by
  refine @cons _ _ _ _ _ (sinkOf output errors) (sinkOf next errors) .stdout wrote ?_ routed
  intro other isOther
  cases other with
  | stdout => exact absurd rfl isOther
  | stderr => rfl

theorem stderr (wrote : Wrote errors bytes before next middle)
    (routed : Routed output next writes middle after) :
    Routed output errors ((.stderr, bytes) :: writes) before after := by
  refine @cons _ _ _ _ _ (sinkOf output errors) (sinkOf output next) .stderr wrote ?_ routed
  intro other isOther
  cases other with
  | stdout => rfl
  | stderr => exact absurd rfl isOther

end Routed

/-- The writes of a program end up where its two sinks lead, and a pipe holds what was written to it
and nothing else. -/
theorem routed_foldl (writes : List (Stream × Bytes)) (streams : Streams) :
    Routed streams.output streams.errors writes streams.world
        (writes.foldl Streams.write streams).world ∧
      (writes.foldl Streams.write streams).output.held =
        streams.output.held ++
          if streams.output.isPipe then streamBytes .stdout writes else [] := by
  induction writes generalizing streams with
  | nil =>
    refine ⟨Routed.nil _ _ _, ?_⟩
    simp [streamBytes]
  | cons write rest inductionHypothesis =>
    obtain ⟨stream, bytes⟩ := write
    rw [List.foldl_cons]
    cases stream with
    | stdout =>
      obtain ⟨next, middle, step, wrote⟩ := streams.write_stdout bytes
      obtain ⟨routed, held⟩ := inductionHypothesis ⟨next, streams.errors, middle⟩
      rw [step]
      refine ⟨Routed.stdout wrote routed, ?_⟩
      rw [held, wrote.held, wrote.isPipe]
      cases streams.output.isPipe with
      | true => simp [streamBytes]
      | false => simp
    | stderr =>
      obtain ⟨next, middle, step, wrote⟩ := streams.write_stderr bytes
      obtain ⟨routed, held⟩ := inductionHypothesis ⟨streams.output, next, middle⟩
      rw [step]
      refine ⟨Routed.stderr wrote routed, ?_⟩
      rw [held]
      simp [streamBytes]

end CommandShell
