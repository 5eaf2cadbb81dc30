import JupiterAmm.Borsh.Codec

/-!
# Base64

Base64 with padding: three bytes are four characters, and a last group of one or two bytes is filled
up with `=`. Decoding undoes encoding (`decode_encode`), and a text uses only the 64 characters of
the alphabet and the padding (`encode_alphabet`).
-/

namespace Base64

open Borsh (Bytes)

/-- The digits of base 64, `0` to `63`. -/
def alphabet : List Char :=
  "ABCDEFGHIJKLMNOPQRSTUVWXYZabcdefghijklmnopqrstuvwxyz0123456789+/".toList

/-- The character of a digit. -/
def digitChar (d : Nat) : Char := alphabet.getD d 'A'

/-- The digit of a character. -/
def charDigit (c : Char) : Nat := alphabet.idxOf c

/-- The text of some bytes. -/
def encode : Bytes → List Char
  | [] => []
  | [a] => [digitChar (a.toNat / 4), digitChar (a.toNat % 4 * 16), '=', '=']
  | [a, b] =>
    [digitChar (a.toNat / 4), digitChar (a.toNat % 4 * 16 + b.toNat / 16),
      digitChar (b.toNat % 16 * 4), '=']
  | a :: b :: c :: rest =>
    digitChar (a.toNat / 4) :: digitChar (a.toNat % 4 * 16 + b.toNat / 16) ::
      digitChar (b.toNat % 16 * 4 + c.toNat / 64) :: digitChar (c.toNat % 64) :: encode rest

/-- The first byte of a group. -/
def byte₁ (x y : Char) : UInt8 := UInt8.ofNat (charDigit x * 4 + charDigit y / 16)

/-- The second byte of a group. -/
def byte₂ (y z : Char) : UInt8 := UInt8.ofNat (charDigit y % 16 * 16 + charDigit z / 4)

/-- The third byte of a group. -/
def byte₃ (z w : Char) : UInt8 := UInt8.ofNat (charDigit z % 4 * 64 + charDigit w)

/-- The bytes of a text. -/
def decode : List Char → Option Bytes
  | [] => some []
  | x :: y :: z :: w :: rest =>
    if w = '=' then
      if z = '=' then some [byte₁ x y] else some [byte₁ x y, byte₂ y z]
    else
      (decode rest).map fun bs => byte₁ x y :: byte₂ y z :: byte₃ z w :: bs
  | _ => none

theorem charDigit_digitChar {d : Nat} (h : d < 64) : charDigit (digitChar d) = d := by
  have hall : ∀ d : Fin 64, charDigit (digitChar d) = d := by decide +kernel
  exact hall ⟨d, h⟩

theorem digitChar_mem {d : Nat} (h : d < 64) : digitChar d ∈ alphabet := by
  have hall : ∀ d : Fin 64, digitChar d ∈ alphabet := by decide +kernel
  exact hall ⟨d, h⟩

theorem digitChar_ne_pad {d : Nat} (h : d < 64) : digitChar d ≠ '=' := by
  have hall : ∀ d : Fin 64, digitChar d ≠ '=' := by decide +kernel
  exact hall ⟨d, h⟩

theorem byte₁_eq {x y : Char} {a : UInt8} (hx : charDigit x = a.toNat / 4)
    (hy : charDigit y / 16 = a.toNat % 4) : byte₁ x y = a := by
  have h : charDigit x * 4 + charDigit y / 16 = a.toNat := by omega
  rw [byte₁, h, UInt8.ofNat_toNat]

theorem byte₂_eq {y z : Char} {b : UInt8} (hy : charDigit y % 16 = b.toNat / 16)
    (hz : charDigit z / 4 = b.toNat % 16) : byte₂ y z = b := by
  have h : charDigit y % 16 * 16 + charDigit z / 4 = b.toNat := by omega
  rw [byte₂, h, UInt8.ofNat_toNat]

theorem byte₃_eq {z w : Char} {c : UInt8} (hz : charDigit z % 4 = c.toNat / 64)
    (hw : charDigit w = c.toNat % 64) : byte₃ z w = c := by
  have h : charDigit z % 4 * 64 + charDigit w = c.toNat := by omega
  rw [byte₃, h, UInt8.ofNat_toNat]

/-- **Decoding undoes encoding.** -/
theorem decode_encode : ∀ bs : Bytes, decode (encode bs) = some bs
  | [] => rfl
  | [a] => by
    have ha := a.toNat_lt
    have hx := charDigit_digitChar (d := a.toNat / 4) (by omega)
    have hy := charDigit_digitChar (d := a.toNat % 4 * 16) (by omega)
    rw [encode, decode, if_pos rfl, if_pos rfl, byte₁_eq hx (by omega)]
  | [a, b] => by
    have ha := a.toNat_lt
    have hb := b.toNat_lt
    have hx := charDigit_digitChar (d := a.toNat / 4) (by omega)
    have hy := charDigit_digitChar (d := a.toNat % 4 * 16 + b.toNat / 16) (by omega)
    have hz := charDigit_digitChar (d := b.toNat % 16 * 4) (by omega)
    rw [encode, decode, if_pos rfl, if_neg (digitChar_ne_pad (by omega)),
      byte₁_eq hx (by omega), byte₂_eq (b := b) (by omega) (by omega)]
  | a :: b :: c :: rest => by
    have ha := a.toNat_lt
    have hb := b.toNat_lt
    have hc := c.toNat_lt
    have hx := charDigit_digitChar (d := a.toNat / 4) (by omega)
    have hy := charDigit_digitChar (d := a.toNat % 4 * 16 + b.toNat / 16) (by omega)
    have hz := charDigit_digitChar (d := b.toNat % 16 * 4 + c.toNat / 64) (by omega)
    have hw := charDigit_digitChar (d := c.toNat % 64) (by omega)
    rw [encode, decode, if_neg (digitChar_ne_pad (by omega)), decode_encode rest,
      byte₁_eq hx (by omega), byte₂_eq (b := b) (by omega) (by omega), byte₃_eq (by omega) hw]
    rfl

/-- A text holds only characters of the alphabet and the padding. -/
theorem encode_alphabet : ∀ bs : Bytes, ∀ c ∈ encode bs, c ∈ alphabet ∨ c = '='
  | [], c, h => by cases h
  | [a], c, h => by
    have ha := a.toNat_lt
    simp only [encode, List.mem_cons, List.not_mem_nil, or_false] at h
    rcases h with rfl | rfl | rfl | rfl
    · exact .inl (digitChar_mem (by omega))
    · exact .inl (digitChar_mem (by omega))
    · exact .inr rfl
    · exact .inr rfl
  | [a, b], c, h => by
    have ha := a.toNat_lt
    have hb := b.toNat_lt
    simp only [encode, List.mem_cons, List.not_mem_nil, or_false] at h
    rcases h with rfl | rfl | rfl | rfl
    · exact .inl (digitChar_mem (by omega))
    · exact .inl (digitChar_mem (by omega))
    · exact .inl (digitChar_mem (by omega))
    · exact .inr rfl
  | x :: y :: z :: rest, c, h => by
    have hx := x.toNat_lt
    have hy := y.toNat_lt
    have hz := z.toNat_lt
    simp only [encode, List.mem_cons] at h
    rcases h with rfl | rfl | rfl | rfl | h
    · exact .inl (digitChar_mem (by omega))
    · exact .inl (digitChar_mem (by omega))
    · exact .inl (digitChar_mem (by omega))
    · exact .inl (digitChar_mem (by omega))
    · exact encode_alphabet rest c h

end Base64
