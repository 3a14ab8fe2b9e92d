import Mathlib.Algebra.Ring.Nat
import Mathlib.Data.List.Lex

/-!
# The order of texts is the order of their bytes

Texts are compared character by character, but a file is stored under the bytes of its name. The
encoding of characters keeps their order: the bytes of a smaller character are smaller at the first
place where they differ, and no encoding begins with another one. So the bytes of a smaller text are
smaller, by `bytes_lt`.
-/

namespace Schemata.Text

/-- The bytes under which a text is stored. -/
def bytes (text : String) : List UInt8 :=
  text.toUTF8.data.toList

/-- The bytes of a text are those of its characters. -/
theorem bytes_of_list (chars : List Char) :
    bytes (String.ofList chars) = chars.flatMap String.utf8EncodeChar := by
  simp [bytes, List.utf8Encode]

/-! ## The bytes of a character -/

/-- The last bytes of an encoding, which hold six bits each. -/
def lowBytes : Nat → Nat → List UInt8
  | 0, _ => []
  | k + 1, n => lowBytes k (n / 64) ++ [UInt8.ofNat (n % 64 + 128)]

variable {m n : Nat}

/-- A number in front of other bytes is compared first. -/
theorem cons_byte_lt {left right : List UInt8} (hn : n < 256) (h : m < n) :
    UInt8.ofNat m :: left < UInt8.ofNat n :: right := by
  rw [List.cons_lt_cons_iff, UInt8.lt_iff_toNat_lt, UInt8.toNat_ofNat', UInt8.toNat_ofNat']
  exact .inl (by omega)

/-- Of two numbers that differ in their last bytes only, the smaller one has the smaller bytes. -/
theorem low_bytes_lt {k : Nat} (heq : m / 64 ^ k = n / 64 ^ k) (h : m < n)
    (left right : List UInt8) : lowBytes k m ++ left < lowBytes k n ++ right := by
  induction k generalizing m n left right with
  | zero =>
      rw [pow_zero, Nat.div_one, Nat.div_one] at heq
      omega
  | succ k ih =>
      rw [lowBytes, lowBytes, List.append_assoc, List.append_assoc]
      by_cases hlast : m / 64 = n / 64
      · rw [hlast]
        exact List.append_left_lt (cons_byte_lt (by omega) (by omega))
      · rw [pow_succ', ← Nat.div_div_eq_div_mul, ← Nat.div_div_eq_div_mul] at heq
        exact ih heq (by omega) _ _

/-- Of two numbers with as many bytes, the smaller one has the smaller bytes. -/
theorem led_bytes_lt (k lead : Nat) (hn : n / 64 ^ k + lead < 256) (h : m < n)
    (left right : List UInt8) :
    UInt8.ofNat (m / 64 ^ k + lead) :: (lowBytes k m ++ left) <
      UInt8.ofNat (n / 64 ^ k + lead) :: (lowBytes k n ++ right) := by
  by_cases hlead : m / 64 ^ k = n / 64 ^ k
  · rw [hlead]
    exact List.cons_lt_cons_iff.2 (.inr ⟨rfl, low_bytes_lt hlead h left right⟩)
  · have hle : m / 64 ^ k ≤ n / 64 ^ k := Nat.div_le_div_right (Nat.le_of_lt h)
    exact cons_byte_lt hn (by omega)

/-- The bytes of a smaller character are smaller, whatever follows. -/
theorem encoded_char_lt {c d : Char} (h : c < d) (left right : List UInt8) :
    String.utf8EncodeChar c ++ left < String.utf8EncodeChar d ++ right := by
  have hlt : c.val.toNat < d.val.toNat := h
  have hmax : d.val.toNat < 0x110000 := by
    rcases d.valid with hd | hd <;> omega
  unfold String.utf8EncodeChar
  generalize c.val.toNat = m at *
  generalize d.val.toNat = n at *
  dsimp only
  split_ifs <;> try omega
  -- encodings of different sizes differ in their first byte, and so do those of one byte
  all_goals try exact cons_byte_lt (by omega) (by omega)
  · rw [Nat.mod_eq_of_lt (show m / 64 < 32 by omega), Nat.mod_eq_of_lt (show n / 64 < 32 by omega)]
    exact led_bytes_lt 1 192 (by omega) hlt left right
  · rw [Nat.mod_eq_of_lt (show m / 4096 < 16 by omega),
      Nat.mod_eq_of_lt (show n / 4096 < 16 by omega)]
    exact led_bytes_lt 2 224 (by omega) hlt left right
  · rw [Nat.mod_eq_of_lt (show m / 262144 < 8 by omega),
      Nat.mod_eq_of_lt (show n / 262144 < 8 by omega)]
    simpa [lowBytes, Nat.div_div_eq_div_mul] using led_bytes_lt 3 240 (by omega) hlt left right

/-! ## The bytes of a text -/

/-- The bytes of a smaller list of characters are smaller. -/
theorem encoded_lt {left right : List Char} (h : List.Lex (· < ·) left right) :
    left.flatMap String.utf8EncodeChar < right.flatMap String.utf8EncodeChar := by
  induction h with
  | nil =>
      refine List.not_le.1 fun hle => ?_
      rw [List.flatMap_nil, List.le_nil, List.flatMap_cons, List.append_eq_nil_iff] at hle
      exact String.utf8EncodeChar_ne_nil hle.1
  | cons _ ih =>
      rw [List.flatMap_cons, List.flatMap_cons]
      exact List.append_left_lt ih
  | rel hlt =>
      rw [List.flatMap_cons, List.flatMap_cons]
      exact encoded_char_lt hlt _ _

/-- The bytes of a smaller text are smaller. -/
theorem bytes_lt {left right : String} (h : left < right) : bytes left < bytes right := by
  rw [← String.ofList_toList (s := left), ← String.ofList_toList (s := right), bytes_of_list,
    bytes_of_list]
  exact encoded_lt h

end Schemata.Text
