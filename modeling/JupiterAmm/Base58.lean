import Mathlib.Data.Nat.Digits.Lemmas

/-!
# Base58

The Base58 text of a fixed-width byte string, read as a big-endian number: a `1` for each leading
zero byte, then the digits of the number in base 58. The text determines the number
(`decode_encode`), uses only the 58 characters of the alphabet (`encode_alphabet`) and has at least
one character a byte, up to the rounding of the two bases (`le_length_encode`).
-/

namespace Base58

/-- The digits of base 58, `0` to `57`. -/
def alphabet : List Char := "123456789ABCDEFGHJKLMNPQRSTUVWXYZabcdefghijkmnopqrstuvwxyz".toList

/-- The character of a digit. -/
def digitChar (d : Nat) : Char := alphabet.getD d '1'

/-- The digit of a character. -/
def charDigit (c : Char) : Nat := alphabet.idxOf c

/-- The number a text denotes. -/
def decodeChars (s : List Char) : Nat := s.foldl (fun n c => 58 * n + charDigit c) 0

/-- The number a text denotes. -/
def decode (s : String) : Nat := decodeChars s.toList

/-- The text of the number `n` as a string of `w` bytes. -/
def encodeChars (w n : Nat) : List Char :=
  List.replicate (w - (Nat.digits 256 n).length) '1' ++ ((Nat.digits 58 n).map digitChar).reverse

/-- The text of the number `n` as a string of `w` bytes. -/
def encode (w n : Nat) : String := String.ofList (encodeChars w n)

theorem charDigit_digitChar {d : Nat} (h : d < 58) : charDigit (digitChar d) = d := by
  have hall : ∀ d : Fin 58, charDigit (digitChar d) = d := by decide
  exact hall ⟨d, h⟩

theorem digitChar_mem {d : Nat} (h : d < 58) : digitChar d ∈ alphabet := by
  have hall : ∀ d : Fin 58, digitChar d ∈ alphabet := by decide
  exact hall ⟨d, h⟩

/-- Leading ones are leading zeros. -/
theorem decodeChars_replicate (k : Nat) (s : List Char) :
    decodeChars (List.replicate k '1' ++ s) = decodeChars s := by
  induction k with
  | zero => rfl
  | succ k ih =>
    rw [← ih]
    rfl

/-- The characters of digits, most significant first, denote the number of the digits. -/
theorem decodeChars_digits {ds : List Nat} (h : ∀ d ∈ ds, d < 58) :
    decodeChars (ds.map digitChar).reverse = Nat.ofDigits 58 ds := by
  induction ds with
  | nil => rfl
  | cons d ds ih =>
    have hd := h d (List.mem_cons_self ..)
    have ih := ih fun e he => h e (List.mem_cons_of_mem _ he)
    rw [decodeChars] at ih
    rw [List.map_cons, List.reverse_cons, decodeChars, List.foldl_append, ih, Nat.ofDigits_cons,
      List.foldl_cons, List.foldl_nil, charDigit_digitChar hd, Nat.add_comm]

/-- **The text determines the number.** -/
theorem decode_encode (w n : Nat) : decode (encode w n) = n := by
  have hlt : ∀ d ∈ Nat.digits 58 n, d < 58 := fun d hd => Nat.digits_lt_base (by decide) hd
  rw [decode, encode, String.toList_ofList, encodeChars, decodeChars_replicate,
    decodeChars_digits hlt, Nat.ofDigits_digits]

/-- A text holds only characters of the alphabet. -/
theorem encode_alphabet (w n : Nat) : ∀ c ∈ (encode w n).toList, c ∈ alphabet := by
  intro c hc
  rw [encode, String.toList_ofList, encodeChars, List.mem_append, List.mem_reverse] at hc
  rcases hc with hc | hc
  · rw [(List.mem_replicate.1 hc).2]
    decide
  · obtain ⟨d, hd, rfl⟩ := List.mem_map.1 hc
    exact digitChar_mem (Nat.digits_lt_base (by decide) hd)

/-- A smaller base needs no fewer digits. -/
theorem length_digits_le (n : Nat) : (Nat.digits 256 n).length ≤ (Nat.digits 58 n).length := by
  rw [Nat.digits_length_le_iff (by decide)]
  calc n < 58 ^ (Nat.digits 58 n).length := Nat.lt_base_pow_length_digits (by decide)
    _ ≤ 256 ^ (Nat.digits 58 n).length := Nat.pow_le_pow_left (by decide) _

/-- A text has at least one character a byte. -/
theorem le_length_encode (w n : Nat) : w ≤ (encode w n).length := by
  have h := length_digits_le n
  rw [← String.length_toList, encode, String.toList_ofList, encodeChars, List.length_append,
    List.length_replicate, List.length_reverse, List.length_map]
  omega

end Base58
