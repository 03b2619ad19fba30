import Mathlib
import Outline.Dump.Writer

/-!
# The order of bytes

Texts are compared character by character. Their bytes are in the same order: the first bytes
of characters tell how many others follow and grow with the characters, and the others hold
six bits each, the highest first.

- `Below` — byte strings in order, whatever follows them
- `below_continuation` — characters that share their first byte
- `bytesOf_lt` — bytes are ordered like the texts they write
-/

namespace Outline.Text

/-! ## §1 Byte strings in order -/

/-- The first byte string comes before the second, whatever bytes follow each of them. -/
def Below (first second : List UInt8) : Prop :=
  ∀ left right : List UInt8, first ++ left < second ++ right

theorem Below.head {a b : UInt8} (h : a < b) (first second : List UInt8) :
    Below (a :: first) (b :: second) := by
  intro left right
  exact List.cons_lt_cons_iff.mpr (.inl h)

theorem Below.append_left {first second : List UInt8} (h : Below first second)
    (same : List UInt8) : Below (same ++ first) (same ++ second) := by
  intro left right
  rw [List.append_assoc, List.append_assoc]
  exact List.append_left_lt (h left right)

theorem Below.append_right {first second : List UInt8} (h : Below first second)
    (more other : List UInt8) : Below (first ++ more) (second ++ other) := by
  intro left right
  rw [List.append_assoc, List.append_assoc]
  exact h (more ++ left) (other ++ right)

theorem ofNat_lt_ofNat {m n : Nat} (h : m < n) (hBound : n < 256) :
    UInt8.ofNat m < UInt8.ofNat n := by
  rw [UInt8.lt_iff_toNat_lt, UInt8.toNat_ofNat_of_lt' hBound,
    UInt8.toNat_ofNat_of_lt' (Nat.lt_trans h hBound)]
  exact h

/-! ## §2 Characters -/

/-- The bytes of a character behind its first one: six bits each, the lowest last. -/
def continuation : Nat → Nat → List UInt8
  | 0, _ => []
  | count + 1, code => continuation count (code / 64) ++ [UInt8.ofNat (code % 64 + 128)]

/-- Codes that agree in what the first byte holds are told apart by the other bytes. -/
theorem below_continuation {count m n : Nat} (h : m < n)
    (hSame : m / 64 ^ count = n / 64 ^ count) :
    Below (continuation count m) (continuation count n) := by
  induction count generalizing m n with
  | zero =>
    simp only [Nat.pow_zero, Nat.div_one] at hSame
    omega
  | succ count ih =>
    rw [continuation, continuation]
    rcases Nat.lt_or_ge (m / 64) (n / 64) with hLess | hNotLess
    · -- the difference shows before the last byte
      apply Below.append_right
      apply ih hLess
      rwa [Nat.div_div_eq_div_mul, Nat.div_div_eq_div_mul, ← Nat.pow_succ']
    · have hEqual : m / 64 = n / 64 := by omega
      rw [hEqual]
      apply Below.append_left
      exact Below.head (ofNat_lt_ofNat (by omega) (by omega)) [] []

/-- The number of bytes of a character behind its first one, by its code. -/
def following (code : Nat) : Nat :=
  if code ≤ 0x7F then 0 else if code ≤ 0x7FF then 1 else if code ≤ 0xFFFF then 2 else 3

/-- The first byte of a character, by its code. -/
def leading (code : Nat) : Nat :=
  if code ≤ 0x7F then code
  else if code ≤ 0x7FF then code / 64 + 0xC0
  else if code ≤ 0xFFFF then code / 4096 + 0xE0
  else code / 262144 + 0xF0

/-- First bytes grow with the codes; where they do not, they announce as many others and hold
    the same bits. -/
theorem leading_lt_or_same {m n : Nat} (h : m < n) :
    leading m < leading n ∨ leading m = leading n ∧ following m = following n ∧
      m / 64 ^ following n = n / 64 ^ following n := by
  unfold leading following
  split_ifs <;> omega

theorem toNat_lt (c : Char) : c.toNat < 0x110000 :=
  c.valid.elim (fun h => Nat.lt_trans h (by decide)) (fun h => h.2)

theorem leading_lt {code : Nat} (h : code < 0x110000) : leading code < 256 := by
  unfold leading
  split_ifs <;> omega

/-- A character is written by its first byte and those that hold the rest of its bits. -/
theorem utf8EncodeChar_eq (c : Char) :
    String.utf8EncodeChar c =
      UInt8.ofNat (leading c.toNat) :: continuation (following c.toNat) c.toNat := by
  have hBound := toNat_lt c
  simp only [String.utf8EncodeChar, Char.toNat_val, leading, following]
  split_ifs with hOne hTwo hThree
  · rfl
  · have hLead : c.toNat / 64 % 32 = c.toNat / 64 := by omega
    rw [hLead]
    rfl
  · have hLead : c.toNat / 4096 % 16 = c.toNat / 4096 := by omega
    rw [hLead]
    rfl
  · have hLead : c.toNat / 262144 % 8 = c.toNat / 262144 := by omega
    rw [hLead]
    simp [continuation, Nat.div_div_eq_div_mul]

/-- The bytes of characters are ordered like the characters. -/
theorem below_utf8EncodeChar {c d : Char} (h : c < d) :
    Below (String.utf8EncodeChar c) (String.utf8EncodeChar d) := by
  have hLess : c.toNat < d.toNat := UInt32.lt_iff_toNat_lt.mp h
  rw [utf8EncodeChar_eq, utf8EncodeChar_eq]
  rcases leading_lt_or_same hLess with hLead | ⟨hLead, hFollowing, hSame⟩
  · exact Below.head (ofNat_lt_ofNat hLead (leading_lt (toNat_lt d))) _ _
  · rw [hLead, hFollowing]
    exact (below_continuation hLess hSame).append_left [_]

/-! ## §3 Texts -/

theorem flatMap_utf8EncodeChar_lt {first second : List Char} (h : first < second) :
    first.flatMap String.utf8EncodeChar < second.flatMap String.utf8EncodeChar := by
  induction h with
  | @nil d rest =>
    -- every character has a first byte
    rw [List.flatMap_cons, utf8EncodeChar_eq]
    exact List.nil_lt_cons ..
  | rel h =>
    rw [List.flatMap_cons, List.flatMap_cons]
    exact below_utf8EncodeChar h _ _
  | cons _ ih =>
    rw [List.flatMap_cons, List.flatMap_cons]
    exact List.append_left_lt ih

theorem bytesOf_eq (text : String) :
    Writer.bytesOf text = text.toList.flatMap String.utf8EncodeChar := by
  have hBytes : text.toUTF8 = text.toList.utf8Encode := String.utf8Encode_toList.symm
  rw [Writer.bytesOf, hBytes, List.utf8Encode]
  simp

/-- The bytes of texts are ordered like the texts. -/
theorem bytesOf_lt {first second : String} (h : first < second) :
    Writer.bytesOf first < Writer.bytesOf second := by
  rw [bytesOf_eq, bytesOf_eq]
  exact flatMap_utf8EncodeChar_lt h

end Outline.Text
