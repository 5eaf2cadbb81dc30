import Mathlib.Algebra.Group.Nat.Defs
import Mathlib.Tactic.Common

/-!
# Borsh codecs

A `Codec` is a writer and a reader of one type with the two laws that make a byte format canonical:
what is written reads back, whatever bytes follow it (`decode_encode`), and what is read is exactly
what the writer would have written (`encode_decode`). Both laws are fields, so a codec assembled
from the combinators below needs no round-trip proof of its own. Writing is partial: Borsh prefixes
a vector with its length as a `u32` and an enum value with its index as a `u8`, and refuses to write
where these do not fit.
-/

namespace Borsh

/-- A byte string. -/
abbrev Bytes := List UInt8

/-- A Borsh writer and reader of `α`, inverse to each other. -/
structure Codec (α : Type) where
  encode : α → Option Bytes
  decode : Bytes → Option (α × Bytes)
  decode_encode : ∀ {a : α} {bs : Bytes}, encode a = some bs →
    ∀ rest, decode (bs ++ rest) = some (a, rest)
  encode_decode : ∀ {bs : Bytes} {a : α} {rest : Bytes}, decode bs = some (a, rest) →
    ∃ pre, encode a = some pre ∧ bs = pre ++ rest

/-! ## Little-endian integers -/

/-- The `w` low bytes of a number, least significant first. -/
def leBytes : Nat → Nat → Bytes
  | 0, _ => []
  | w + 1, n => UInt8.ofNat n :: leBytes w (n / 256)

@[simp] theorem length_leBytes : ∀ w n : Nat, (leBytes w n).length = w
  | 0, _ => rfl
  | w + 1, n => congrArg (· + 1) (length_leBytes w (n / 256))

/-- Read `w` bytes, least significant first. -/
def readLE : Nat → Bytes → Option (Nat × Bytes)
  | 0, bs => some (0, bs)
  | _ + 1, [] => none
  | w + 1, b :: bs => (readLE w bs).map fun r => (b.toNat + 256 * r.1, r.2)

/-- The bytes of a number that fits their width read back as that number. -/
theorem readLE_leBytes : ∀ (w n : Nat) (rest : Bytes), n < 256 ^ w →
    readLE w (leBytes w n ++ rest) = some (n, rest)
  | 0, n, rest, h => by
    have : n = 0 := by simpa using h
    rw [this]; rfl
  | w + 1, n, rest, h => by
    have hdiv : n / 256 < 256 ^ w := by
      rw [Nat.div_lt_iff_lt_mul (by decide)]
      simpa [Nat.pow_succ] using h
    rw [leBytes, List.cons_append, readLE, readLE_leBytes w _ rest hdiv]
    simp only [Option.map_some, Option.some.injEq, Prod.mk.injEq, and_true]
    rw [UInt8.toNat_ofNat']
    omega

/-- A number read from `w` bytes fits them, and they are its bytes. -/
theorem leBytes_readLE : ∀ {w n : Nat} {bs rest : Bytes}, readLE w bs = some (n, rest) →
    n < 256 ^ w ∧ bs = leBytes w n ++ rest
  | 0, n, bs, rest, h => by
    simp only [readLE, Option.some.injEq, Prod.mk.injEq] at h
    obtain ⟨rfl, rfl⟩ := h
    exact ⟨by decide, rfl⟩
  | w + 1, n, [], rest, h => by simp [readLE] at h
  | w + 1, n, b :: bs, rest, h => by
    simp only [readLE, Option.map_eq_some_iff, Prod.mk.injEq] at h
    obtain ⟨⟨m, rest'⟩, hm, rfl, rfl⟩ := h
    obtain ⟨hlt, hbs⟩ := leBytes_readLE hm
    have hb : b.toNat < 256 := b.toNat_lt
    refine ⟨by simp only [Nat.pow_succ]; omega, ?_⟩
    have hdiv : (b.toNat + 256 * m) / 256 = m := by omega
    have hhead : UInt8.ofNat (b.toNat + 256 * m) = b := by
      apply UInt8.toNat_inj.1
      rw [UInt8.toNat_ofNat']
      omega
    rw [leBytes, hdiv, hhead, List.cons_append, ← hbs]

namespace Codec

variable {α β : Type}

/-- An unsigned integer of `w` bytes. -/
def uint (w : Nat) (toNat : α → Nat) (ofNat : Nat → α) (hlt : ∀ a, toNat a < 256 ^ w)
    (hof : ∀ a, ofNat (toNat a) = a) (hto : ∀ n, n < 256 ^ w → toNat (ofNat n) = n) :
    Codec α where
  encode a := some (leBytes w (toNat a))
  decode bs := (readLE w bs).map fun r => (ofNat r.1, r.2)
  decode_encode {a bs} h rest := by
    cases h
    rw [readLE_leBytes _ _ _ (hlt a), Option.map_some, hof]
  encode_decode {bs a rest} h := by
    simp only [Option.map_eq_some_iff, Prod.mk.injEq] at h
    obtain ⟨⟨n, rest'⟩, hn, rfl, rfl⟩ := h
    obtain ⟨hn, hbs⟩ := leBytes_readLE hn
    exact ⟨_, rfl, by rw [hto n hn]; exact hbs⟩

/-- `u8`. -/
def u8 : Codec UInt8 :=
  uint 1 UInt8.toNat UInt8.ofNat (fun a => a.toNat_lt) (fun a => UInt8.ofNat_toNat)
    fun n h => UInt8.toNat_ofNat_of_lt (by simpa using h)

/-- `u16`. -/
def u16 : Codec UInt16 :=
  uint 2 UInt16.toNat UInt16.ofNat (fun a => a.toNat_lt) (fun a => UInt16.ofNat_toNat)
    fun n h => UInt16.toNat_ofNat_of_lt (by simpa using h)

/-- `u32`. -/
def u32 : Codec UInt32 :=
  uint 4 UInt32.toNat UInt32.ofNat (fun a => a.toNat_lt) (fun a => UInt32.ofNat_toNat)
    fun n h => UInt32.toNat_ofNat_of_lt (by simpa using h)

/-- `u64`. -/
def u64 : Codec UInt64 :=
  uint 8 UInt64.toNat UInt64.ofNat (fun a => a.toNat_lt) (fun a => UInt64.ofNat_toNat)
    fun n h => UInt64.toNat_ofNat_of_lt (by simpa using h)

/-! ## Combinators -/

/-- Nothing: the empty struct. -/
def unit : Codec Unit where
  encode _ := some []
  decode bs := some ((), bs)
  decode_encode {a bs} h rest := by cases h; rfl
  encode_decode {bs a rest} h := by cases h; exact ⟨[], rfl, rfl⟩

/-- Two values, one after the other. -/
def pair (c : Codec α) (d : Codec β) : Codec (α × β) where
  encode p := (c.encode p.1).bind fun x => (d.encode p.2).map fun y => x ++ y
  decode bs := (c.decode bs).bind fun r => (d.decode r.2).map fun r' => ((r.1, r'.1), r'.2)
  decode_encode {p bs} h rest := by
    simp only [Option.bind_eq_some_iff, Option.map_eq_some_iff] at h
    obtain ⟨x, hx, y, hy, rfl⟩ := h
    rw [List.append_assoc, c.decode_encode hx, Option.bind_some, d.decode_encode hy]
    rfl
  encode_decode {bs p rest} h := by
    simp only [Option.bind_eq_some_iff, Option.map_eq_some_iff, Prod.mk.injEq] at h
    obtain ⟨⟨a, r⟩, ha, ⟨b, r'⟩, hb, rfl, rfl⟩ := h
    obtain ⟨x, hx, rfl⟩ := c.encode_decode ha
    obtain ⟨y, hy, hr⟩ := d.encode_decode hb
    refine ⟨x ++ y, ?_, ?_⟩
    · simp [hx, hy]
    · simp only at hr
      rw [hr, List.append_assoc]

/-- `bool`: one byte, `0` or `1`. -/
def bool : Codec Bool where
  encode b := some [if b then 1 else 0]
  decode
    | 0 :: rest => some (false, rest)
    | 1 :: rest => some (true, rest)
    | _ => none
  decode_encode {b bs} h rest := by cases h; cases b <;> rfl
  encode_decode {bs b rest} h := by
    split at h
    · cases h; exact ⟨[0], rfl, rfl⟩
    · cases h; exact ⟨[1], rfl, rfl⟩
    · cases h

/-- `Option`: a byte `0`, or a byte `1` and the value. -/
def option (c : Codec α) : Codec (Option α) where
  encode
    | none => some [0]
    | some a => (c.encode a).map (1 :: ·)
  decode
    | 0 :: rest => some (none, rest)
    | 1 :: rest => (c.decode rest).map fun r => (some r.1, r.2)
    | _ => none
  decode_encode {o bs} h rest := by
    cases o with
    | none => cases h; rfl
    | some a =>
      simp only [Option.map_eq_some_iff] at h
      obtain ⟨x, hx, rfl⟩ := h
      simp only [List.cons_append, c.decode_encode hx, Option.map_some]
  encode_decode {bs o rest} h := by
    split at h
    · cases h; exact ⟨[0], rfl, rfl⟩
    · next r =>
      simp only [Option.map_eq_some_iff, Prod.mk.injEq] at h
      obtain ⟨⟨a, r'⟩, ha, rfl, rfl⟩ := h
      obtain ⟨x, hx, rfl⟩ := c.encode_decode ha
      exact ⟨1 :: x, by simp [hx], rfl⟩
    · cases h

/-! ## Vectors -/

/-- The values of a list, one after the other. -/
def encodeAll (c : Codec α) : List α → Option Bytes
  | [] => some []
  | a :: l => (c.encode a).bind fun x => (encodeAll c l).map fun y => x ++ y

/-- Read a given number of values. -/
def decodeAll (c : Codec α) : Nat → Bytes → Option (List α × Bytes)
  | 0, bs => some ([], bs)
  | n + 1, bs => (c.decode bs).bind fun r =>
      (decodeAll c n r.2).map fun r' => (r.1 :: r'.1, r'.2)

theorem decodeAll_encodeAll (c : Codec α) : ∀ {l : List α} {bs : Bytes},
    encodeAll c l = some bs → ∀ rest, decodeAll c l.length (bs ++ rest) = some (l, rest)
  | [], bs, h, rest => by cases h; rfl
  | a :: l, bs, h, rest => by
    simp only [encodeAll, Option.bind_eq_some_iff, Option.map_eq_some_iff] at h
    obtain ⟨x, hx, y, hy, rfl⟩ := h
    rw [List.length_cons, decodeAll, List.append_assoc, c.decode_encode hx, Option.bind_some,
      decodeAll_encodeAll c hy]
    rfl

theorem encodeAll_decodeAll (c : Codec α) : ∀ {n : Nat} {bs : Bytes} {l : List α} {rest : Bytes},
    decodeAll c n bs = some (l, rest) →
      l.length = n ∧ ∃ pre, encodeAll c l = some pre ∧ bs = pre ++ rest
  | 0, bs, l, rest, h => by cases h; exact ⟨rfl, [], rfl, rfl⟩
  | n + 1, bs, l, rest, h => by
    simp only [decodeAll, Option.bind_eq_some_iff, Option.map_eq_some_iff, Prod.mk.injEq] at h
    obtain ⟨⟨a, r⟩, ha, ⟨l', r'⟩, hl, rfl, rfl⟩ := h
    obtain ⟨x, hx, rfl⟩ := c.encode_decode ha
    obtain ⟨hlen, y, hy, hr⟩ := encodeAll_decodeAll c hl
    refine ⟨by simp [hlen], x ++ y, by simp [encodeAll, hx, hy], ?_⟩
    simp only at hr
    rw [hr, List.append_assoc]

/-- `Vec`: the number of values as a `u32`, then the values. -/
def vec (c : Codec α) : Codec (List α) where
  encode l := if l.length < 2 ^ 32 then (encodeAll c l).map (leBytes 4 l.length ++ ·) else none
  decode bs := (readLE 4 bs).bind fun r => decodeAll c r.1 r.2
  decode_encode {l bs} h rest := by
    split at h
    · next hlen =>
      simp only [Option.map_eq_some_iff] at h
      obtain ⟨x, hx, rfl⟩ := h
      rw [List.append_assoc, readLE_leBytes 4 _ _ hlen, Option.bind_some]
      exact decodeAll_encodeAll c hx rest
    · cases h
  encode_decode {bs l rest} h := by
    simp only [Option.bind_eq_some_iff] at h
    obtain ⟨⟨n, r⟩, hn, hl⟩ := h
    obtain ⟨hlt, rfl⟩ := leBytes_readLE hn
    obtain ⟨rfl, x, hx, hr⟩ := encodeAll_decodeAll c hl
    have hlen : l.length < 2 ^ 32 := hlt
    refine ⟨leBytes 4 l.length ++ x, ?_, ?_⟩
    · rw [if_pos hlen, hx]; rfl
    · simp only at hr
      rw [hr, List.append_assoc]

theorem encode_vec_of_lt (c : Codec α) {l : List α} (h : l.length < 2 ^ 32) :
    (vec c).encode l = (encodeAll c l).map (leBytes 4 l.length ++ ·) := if_pos h

theorem encode_vec_of_not_lt (c : Codec α) {l : List α} (h : ¬ l.length < 2 ^ 32) :
    (vec c).encode l = none := if_neg h

end Codec

/-! ## Enums -/

/-- The writers and readers of an enum's variants: a value's bytes come with the index of its
variant, and reading starts from that index. -/
structure Tagged (α : Type) where
  encode : α → Option (Nat × Bytes)
  decode : Nat → Bytes → Option (α × Bytes)
  decode_encode : ∀ {a : α} {k : Nat} {bs : Bytes}, encode a = some (k, bs) →
    ∀ rest, decode k (bs ++ rest) = some (a, rest)
  encode_decode : ∀ {k : Nat} {bs : Bytes} {a : α} {rest : Bytes}, decode k bs = some (a, rest) →
    ∃ pre, encode a = some (k, pre) ∧ bs = pre ++ rest

namespace Tagged

variable {α β : Type}

/-- The enum without variants. -/
def nil : Tagged Empty where
  encode a := a.elim
  decode _ _ := none
  decode_encode {a} := a.elim
  encode_decode {_ _ a} := a.elim

/-- One more variant in front: the indices of the others move up by one. -/
def cons (c : Codec α) (t : Tagged β) : Tagged (α ⊕ β) where
  encode
    | .inl a => (c.encode a).map fun x => (0, x)
    | .inr b => (t.encode b).map fun x => (x.1 + 1, x.2)
  decode
    | 0, bs => (c.decode bs).map fun r => (.inl r.1, r.2)
    | k + 1, bs => (t.decode k bs).map fun r => (.inr r.1, r.2)
  decode_encode {v k bs} h rest := by
    cases v with
    | inl a =>
      simp only [Option.map_eq_some_iff, Prod.mk.injEq] at h
      obtain ⟨x, hx, rfl, rfl⟩ := h
      simp only [c.decode_encode hx, Option.map_some]
    | inr b =>
      simp only [Option.map_eq_some_iff, Prod.mk.injEq] at h
      obtain ⟨⟨j, x⟩, hx, rfl, rfl⟩ := h
      simp only [t.decode_encode hx, Option.map_some]
  encode_decode {k bs v rest} h := by
    cases k with
    | zero =>
      simp only [Option.map_eq_some_iff, Prod.mk.injEq] at h
      obtain ⟨⟨a, r⟩, ha, rfl, rfl⟩ := h
      obtain ⟨x, hx, rfl⟩ := c.encode_decode ha
      exact ⟨x, by simp [hx], rfl⟩
    | succ k =>
      simp only [Option.map_eq_some_iff, Prod.mk.injEq] at h
      obtain ⟨⟨b, r⟩, hb, rfl, rfl⟩ := h
      obtain ⟨x, hx, rfl⟩ := t.encode_decode hb
      exact ⟨x, by simp [hx], rfl⟩

/-- An enum: the index of the variant as a `u8`, then the variant's fields. -/
def toCodec (t : Tagged α) : Codec α where
  encode a := (t.encode a).bind fun x =>
    if x.1 < 256 then some (UInt8.ofNat x.1 :: x.2) else none
  decode
    | [] => none
    | k :: bs => t.decode k.toNat bs
  decode_encode {a bs} h rest := by
    simp only [Option.bind_eq_some_iff] at h
    obtain ⟨⟨k, x⟩, hx, h⟩ := h
    split at h
    · next hk =>
      cases h
      have hto : (UInt8.ofNat k).toNat = k := UInt8.toNat_ofNat_of_lt hk
      show t.decode (UInt8.ofNat k).toNat (x ++ rest) = _
      rw [hto, t.decode_encode hx]
    · cases h
  encode_decode {bs a rest} h := by
    cases bs with
    | nil => cases h
    | cons k bs =>
      obtain ⟨x, hx, rfl⟩ := t.encode_decode h
      refine ⟨k :: x, ?_, rfl⟩
      simp only [hx, Option.bind_some, if_pos k.toNat_lt, UInt8.ofNat_toNat]

end Tagged

end Borsh
