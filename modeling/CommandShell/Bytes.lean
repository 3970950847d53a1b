/-
This file holds the byte strings that paths, file contents and terminal output
are made of. Text typed by the user is a `String`; it becomes bytes by its
UTF-8 encoding, and bytes become text again only when they are the encoding of
some text. Where bytes have to be shown that are not, every part that no text
could contain is shown as one replacement character.
-/

namespace CommandShell

/-- A byte string. -/
abbrev Bytes := List UInt8

/-- The bytes of a text. -/
def utf8 (text : String) : Bytes :=
  text.toByteArray.data.toList

/-- The text with these bytes, if there is one. -/
def decode? (bytes : Bytes) : Option String :=
  String.fromUTF8? ⟨bytes.toArray⟩

theorem utf8_append (first second : String) :
    utf8 (first ++ second) = utf8 first ++ utf8 second := by
  simp [utf8, String.toByteArray_append, ByteArray.data_append]

theorem utf8_injective {first second : String} (same : utf8 first = utf8 second) :
    first = second := by
  apply String.toByteArray_inj.mp
  apply ByteArray.ext
  exact Array.toList_inj.mp same

theorem decode?_utf8 (text : String) : decode? (utf8 text) = some text := by
  have whole : (⟨(utf8 text).toArray⟩ : ByteArray) = text.toByteArray := by
    apply ByteArray.ext
    simp [utf8]
  unfold decode? String.fromUTF8?
  rw [whole, dif_pos text.isValidUTF8]
  rfl

/-- Only the encoding of a text decodes to it. -/
theorem utf8_of_decode? {bytes : Bytes} {text : String} (decoded : decode? bytes = some text) :
    utf8 text = bytes := by
  unfold decode? String.fromUTF8? at decoded
  split at decoded
  · injection decoded with decoded
    subst decoded
    rfl
  · cases decoded

/-! ### Sorted sets of byte strings -/

/-- Put a byte string into a strictly increasing list, unless it is there already. -/
def insertSorted (entry : Bytes) : List Bytes → List Bytes
  | [] => [entry]
  | first :: rest =>
    if entry = first then first :: rest
    else if entry < first then entry :: first :: rest
    else first :: insertSorted entry rest

/-- The distinct members of a list in byte order. -/
def sortedSet (entries : List Bytes) : List Bytes :=
  entries.foldr insertSorted []

theorem mem_insertSorted {entry other : Bytes} {entries : List Bytes} :
    other ∈ insertSorted entry entries ↔ other = entry ∨ other ∈ entries := by
  induction entries with
  | nil => simp [insertSorted]
  | cons first rest inductionHypothesis =>
    unfold insertSorted
    split
    · next same => subst same; simp
    · split
      · simp
      · simp only [List.mem_cons, inductionHypothesis]
        constructor
        · rintro (here | here | here) <;> simp [here]
        · rintro (here | here | here) <;> simp [here]

/-- Sorting keeps the members and adds none. -/
theorem mem_sortedSet {entry : Bytes} {entries : List Bytes} :
    entry ∈ sortedSet entries ↔ entry ∈ entries := by
  induction entries with
  | nil => simp [sortedSet]
  | cons first rest inductionHypothesis =>
    have step : sortedSet (first :: rest) = insertSorted first (sortedSet rest) := rfl
    rw [step, mem_insertSorted, inductionHypothesis, List.mem_cons]

/-! ### Bytes shown as text -/

/-- The bytes of the character that stands for a part no text could contain. -/
def replacement : Bytes := [0xEF, 0xBF, 0xBD]

/-- What the first byte of a character asks for: how many more bytes it needs, and the range of
the next one. The byte is a character of its own when it needs none. -/
def leadByte (byte : UInt8) : Option (Nat × UInt8 × UInt8) :=
  if byte ≤ 0x7F then some (0, 0, 0)
  else if byte < 0xC2 then none
  else if byte ≤ 0xDF then some (1, 0x80, 0xBF)
  else if byte = 0xE0 then some (2, 0xA0, 0xBF)
  else if byte = 0xED then some (2, 0x80, 0x9F)
  else if byte ≤ 0xEF then some (2, 0x80, 0xBF)
  else if byte = 0xF0 then some (3, 0x90, 0xBF)
  else if byte ≤ 0xF3 then some (3, 0x80, 0xBF)
  else if byte = 0xF4 then some (3, 0x80, 0x8F)
  else none

/-- A character of which some bytes are read: those bytes, how many more it needs, and the range
of the next one. -/
structure PartialCharacter where
  held : Bytes
  needed : Nat
  low : UInt8
  high : UInt8

/-- The bytes with every part that no text could contain shown as `replacement`. A part ends
before the first byte that cannot continue it, and that byte is looked at anew. -/
def showFrom : Option PartialCharacter → Bytes → Bytes
  | none, [] => []
  | some _, [] => replacement
  | none, byte :: rest =>
    match leadByte byte with
    | none => replacement ++ showFrom none rest
    | some (0, _, _) => byte :: showFrom none rest
    | some (needed, low, high) => showFrom (some ⟨[byte], needed, low, high⟩) rest
  | some begun, byte :: rest =>
    if begun.low ≤ byte ∧ byte ≤ begun.high then
      if begun.needed ≤ 1 then
        begun.held ++ byte :: showFrom none rest
      else
        showFrom (some ⟨begun.held ++ [byte], begun.needed - 1, 0x80, 0xBF⟩) rest
    else
      match leadByte byte with
      | none => replacement ++ replacement ++ showFrom none rest
      | some (0, _, _) => replacement ++ byte :: showFrom none rest
      | some (needed, low, high) =>
        replacement ++ showFrom (some ⟨[byte], needed, low, high⟩) rest

/-- Bytes as they are shown where text is expected. -/
def shown (bytes : Bytes) : Bytes :=
  match decode? bytes with
  | some _ => bytes
  | none => showFrom none bytes

end CommandShell
