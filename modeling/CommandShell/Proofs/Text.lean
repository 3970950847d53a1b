/-
This file relates a text to its bytes. The byte of an ASCII character occurs in
the encoding of no other character, and one text starts with another just if its
bytes start with the bytes of the other. So what is decided on bytes, whether a
name has a slash in it or which names start with a text, is decided on texts.

Byte strings that are kept as a sorted set are strictly increasing.
-/

import CommandShell.Path

namespace CommandShell

/-! ### The bytes of a text -/

theorem utf8_eq_flatMap (text : String) :
    utf8 text = text.toList.flatMap String.utf8EncodeChar := by
  unfold utf8
  rw [← String.utf8Encode_toList, List.utf8Encode, List.data_toByteArray]

theorem utf8_eq_nil_iff {text : String} : utf8 text = [] ↔ text = "" := by
  constructor
  · intro empty
    exact utf8_injective (empty.trans (show [] = utf8 "" from rfl))
  · rintro rfl
    rfl

/-- A byte below 128 is in the encoding of no character but its own. -/
theorem mem_utf8EncodeChar_iff {byte : UInt8} (ascii : byte.toNat < 128) (character : Char) :
    byte ∈ String.utf8EncodeChar character ↔ character.toNat = byte.toNat := by
  have encoded : ∀ value : Nat, byte = UInt8.ofNat value ↔ byte.toNat = value % 256 := by
    intro value
    rw [← UInt8.toNat_inj, UInt8.toNat_ofNat']
  show _ ↔ character.val.toNat = byte.toNat
  -- Each byte of a longer encoding has 128 added to it.
  fun_cases String.utf8EncodeChar character <;>
    simp only [List.mem_cons, List.not_mem_nil, or_false, encoded] <;> omega

theorem mem_utf8_iff {byte : UInt8} (ascii : byte.toNat < 128) {text : String} :
    byte ∈ utf8 text ↔ ∃ character ∈ text.toList, character.toNat = byte.toNat := by
  rw [utf8_eq_flatMap, List.mem_flatMap]
  simp only [mem_utf8EncodeChar_iff ascii]

theorem slash_mem_utf8_iff {text : String} : slash ∈ utf8 text ↔ '/' ∈ text.toList := by
  rw [mem_utf8_iff (by decide)]
  constructor
  · rintro ⟨character, member, same⟩
    rw [Char.toNat_inj.mp (show character.toNat = '/'.toNat from same)] at member
    exact member
  · intro member
    exact ⟨'/', member, rfl⟩

theorem utf8_isPrefix_iff {first second : String} :
    utf8 first <+: utf8 second ↔ first.toList <+: second.toList := by
  constructor
  · rintro ⟨rest, whole⟩
    refine List.isPrefix_of_utf8Encode_append_eq_utf8Encode rest.toByteArray ?_
    rw [String.utf8Encode_toList, String.utf8Encode_toList]
    apply ByteArray.ext
    apply Array.toList_inj.mp
    simpa [utf8] using whole
  · rintro ⟨rest, whole⟩
    rw [utf8_eq_flatMap, utf8_eq_flatMap, ← whole, List.flatMap_append]
    exact List.prefix_append _ _

/-! ### Sorted sets -/

theorem insertSorted_pairwise {entry : Bytes} {entries : List Bytes}
    (sorted : entries.Pairwise (· < ·)) : (insertSorted entry entries).Pairwise (· < ·) := by
  induction entries with
  | nil => exact List.pairwise_singleton _ _
  | cons first rest inductionHypothesis =>
    obtain ⟨least, restSorted⟩ := List.pairwise_cons.mp sorted
    unfold insertSorted
    split
    · exact sorted
    · next different =>
      split
      · next smaller =>
        refine List.pairwise_cons.mpr ⟨?_, sorted⟩
        intro other member
        rcases List.mem_cons.mp member with rfl | member
        · exact smaller
        · exact List.lt_trans smaller (least other member)
      · next notSmaller =>
        have larger : first < entry := by
          rcases List.le_iff_lt_or_eq.mp (List.not_lt.mp notSmaller) with larger | same
          · exact larger
          · exact absurd same.symm different
        refine List.pairwise_cons.mpr ⟨?_, inductionHypothesis restSorted⟩
        intro other member
        rcases mem_insertSorted.mp member with rfl | member
        · exact larger
        · exact least other member

/-- A sorted set is strictly increasing, so nothing is in it twice. -/
theorem sortedSet_pairwise (entries : List Bytes) : (sortedSet entries).Pairwise (· < ·) := by
  induction entries with
  | nil => exact List.Pairwise.nil
  | cons first rest inductionHypothesis => exact insertSorted_pairwise inductionHypothesis

end CommandShell
