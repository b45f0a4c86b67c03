import Mathlib.Algebra.Group.Nat.Defs
import Dispatch.Text.Basic

/-!
# The order of strings is that of their bytes

A character takes one to four bytes in UTF-8: a first byte that is marked by how many follow, and
the following ones with six bits each (`encodeChar_eq`). With as many bytes, the numbers are compared
bit by bit (`markedBytes_append_lt`); with more bytes, the mark of the first one is larger. So a
lesser character has lesser bytes, whatever stands behind the two (`encodeChar_append_lt`), and
strings are ordered as their bytes are (`bytes_lt_iff`).
-/

namespace Dispatch.Text

/-! ## 1. The bytes of a character -/

/-- A number in bytes: the lowest bits, six to a byte, behind a first byte with a mark. -/
def markedBytes (mark : Nat) : (count : Nat) → (n : Nat) → List UInt8
  | 0, n => [UInt8.ofNat (mark + n)]
  | count + 1, n => markedBytes mark count (n / 64) ++ [UInt8.ofNat (0x80 + n % 64)]

/-- How many bytes stand behind the first one of a code point, and the mark of the first one. -/
def byteMark (n : Nat) : Nat × Nat :=
  if n ≤ 0x7f then (0, 0)
  else if n ≤ 0x7ff then (1, 0xc0)
  else if n ≤ 0xffff then (2, 0xe0)
  else (3, 0xf0)

theorem lt_of_char (c : Char) : c.val.toNat < 0x110000 := by
  have hvalid : c.val.toNat.isValidChar := c.valid
  rcases hvalid with hlow | ⟨-, hhigh⟩ <;> omega

theorem encodeChar_eq (c : Char) :
    String.utf8EncodeChar c =
      markedBytes (byteMark c.val.toNat).2 (byteMark c.val.toNat).1 c.val.toNat := by
  have hbound := lt_of_char c
  unfold String.utf8EncodeChar byteMark
  generalize c.val.toNat = n at *
  dsimp only
  split
  · simp only [markedBytes, Nat.zero_add]
  · split
    · have hfirst : n / 64 % 0x20 + 0xc0 = 0xc0 + n / 64 := by omega
      simp only [markedBytes, hfirst, Nat.add_comm 0x80, List.singleton_append]
    · split
      · have hfirst : n / 4096 % 0x10 + 0xe0 = 0xe0 + n / 64 / 64 := by omega
        simp only [markedBytes, hfirst, Nat.add_comm 0x80, List.cons_append, List.nil_append]
      · have hfirst : n / 262144 % 0x08 + 0xf0 = 0xf0 + n / 64 / 64 / 64 := by omega
        have hsecond : n / 4096 % 0x40 = n / 64 / 64 % 64 := by omega
        simp only [markedBytes, hfirst, hsecond, Nat.add_comm 0x80, List.cons_append,
          List.nil_append]

theorem toNat_byte {k : Nat} (h : k < 256) : (UInt8.ofNat k).toNat = k := by
  rw [UInt8.toNat_ofNat', Nat.mod_eq_of_lt h]

theorem byte_lt {k l : Nat} (h : k < l) (hl : l < 256) : UInt8.ofNat k < UInt8.ofNat l := by
  rw [UInt8.lt_iff_toNat_lt, toNat_byte hl, toNat_byte (Nat.lt_trans h hl)]
  exact h

/-- Behind marks of the same kind, a lesser number has lesser bytes. -/
theorem markedBytes_append_lt {mark count m n : Nat} (h : m < n)
    (hbound : mark + n / 64 ^ count < 256) (s t : List UInt8) :
    markedBytes mark count m ++ s < markedBytes mark count n ++ t := by
  induction count generalizing m n s t with
  | zero =>
    rw [Nat.pow_zero, Nat.div_one] at hbound
    exact List.cons_lt_cons_iff.mpr (Or.inl (byte_lt (by omega) hbound))
  | succ count ih =>
    rw [Nat.pow_succ', ← Nat.div_div_eq_div_mul] at hbound
    simp only [markedBytes, List.append_assoc]
    by_cases hhigh : m / 64 < n / 64
    · exact ih hhigh hbound _ _
    · have hsame : m / 64 = n / 64 := by omega
      rw [hsame]
      refine List.append_left_lt (List.cons_lt_cons_iff.mpr (Or.inl (byte_lt ?_ ?_))) <;> omega

theorem markedBytes_eq_cons (mark count n : Nat) :
    ∃ rest, markedBytes mark count n = UInt8.ofNat (mark + n / 64 ^ count) :: rest := by
  induction count generalizing n with
  | zero => exact ⟨[], by rw [markedBytes, Nat.pow_zero, Nat.div_one]⟩
  | succ count ih =>
    obtain ⟨rest, hrest⟩ := ih (n / 64)
    refine ⟨rest ++ [UInt8.ofNat (0x80 + n % 64)], ?_⟩
    rw [markedBytes, hrest, Nat.pow_succ', ← Nat.div_div_eq_div_mul]
    rfl

/-- The first byte of a code point. -/
def firstByte (n : Nat) : Nat := (byteMark n).2 + n / 64 ^ (byteMark n).1

theorem firstByte_eq (n : Nat) :
    firstByte n =
      if n ≤ 0x7f then n
      else if n ≤ 0x7ff then 0xc0 + n / 64
      else if n ≤ 0xffff then 0xe0 + n / 4096
      else 0xf0 + n / 262144 := by
  unfold firstByte byteMark
  repeat' split
  · exact (Nat.zero_add _).trans (Nat.div_one n)
  all_goals rfl

theorem firstByte_lt {n : Nat} (h : n < 0x110000) : firstByte n < 256 := by
  rw [firstByte_eq]
  repeat' split
  all_goals omega

/-- A lesser code point has as many bytes, or a lesser first byte. -/
theorem byteMark_eq_or_lt {m n : Nat} (h : m < n) :
    byteMark m = byteMark n ∨ firstByte m < firstByte n := by
  rw [firstByte_eq, firstByte_eq]
  unfold byteMark
  grind

/-- **A lesser character has lesser bytes**, whatever stands behind. -/
theorem encodeChar_append_lt {c d : Char} (h : c < d) (s t : List UInt8) :
    String.utf8EncodeChar c ++ s < String.utf8EncodeChar d ++ t := by
  have hlt : c.val.toNat < d.val.toNat := h
  have hfirst := firstByte_lt (lt_of_char d)
  rw [encodeChar_eq, encodeChar_eq]
  rcases byteMark_eq_or_lt hlt with hsame | hless
  · rw [hsame]
    exact markedBytes_append_lt hlt hfirst s t
  · obtain ⟨others, hc⟩ := markedBytes_eq_cons (byteMark c.val.toNat).2 (byteMark c.val.toNat).1 _
    obtain ⟨more, hd⟩ := markedBytes_eq_cons (byteMark d.val.toNat).2 (byteMark d.val.toNat).1 _
    rw [hc, hd]
    exact List.cons_lt_cons_iff.mpr (Or.inl (byte_lt hless hfirst))

/-! ## 2. The bytes of a string -/

/-- The bytes of a string in UTF-8. -/
def bytes (s : String) : List UInt8 := s.toByteArray.data.toList

theorem bytes_eq (s : String) : bytes s = s.toList.flatMap String.utf8EncodeChar := by
  rw [bytes, ← String.utf8Encode_toList]
  exact List.toList_data_toByteArray

theorem encode_lt_of_lt {s t : Text} (h : s < t) :
    s.flatMap String.utf8EncodeChar < t.flatMap String.utf8EncodeChar := by
  induction s generalizing t with
  | nil =>
    cases t with
    | nil => exact absurd h (List.not_lt_nil [])
    | cons d t =>
      obtain ⟨byte, rest, hd⟩ := List.exists_cons_of_ne_nil (@String.utf8EncodeChar_ne_nil d)
      rw [List.flatMap_cons, hd]
      exact List.nil_lt_cons _ _
  | cons c s ih =>
    cases t with
    | nil => exact absurd h (List.not_lt_nil _)
    | cons d t =>
      rw [List.flatMap_cons, List.flatMap_cons]
      rcases List.cons_lt_cons_iff.mp h with hlt | ⟨rfl, hrest⟩
      · exact encodeChar_append_lt hlt _ _
      · exact List.append_left_lt (ih hrest)

/-- **Strings are ordered as their bytes are.** -/
theorem bytes_lt_iff (s t : String) : bytes s < bytes t ↔ s < t := by
  rw [bytes_eq, bytes_eq, String.lt_iff]
  refine ⟨fun h => Classical.byContradiction fun hnot => ?_, encode_lt_of_lt⟩
  rcases List.le_iff_lt_or_eq.mp (List.not_lt.mp hnot) with hlt | heq
  · exact List.lt_asymm h (encode_lt_of_lt hlt)
  · rw [heq] at h
    exact List.lt_irrefl _ h

end Dispatch.Text
