import JupiterAmm.Rust.Outcome
import Mathlib.Algebra.Group.Nat.Defs
import Mathlib.Data.List.Nodup

/-!
# Maps and machine integers

`HashMap` is the extensional reading of `std::collections::HashMap`: a map is what its lookups
answer. A program that builds a map by inserting a list of pairs, whatever the order, builds the
restriction of any map the pairs agree with (`HashMap.ofList_eq_restrict`); that one lemma covers a
map that is filtered, zipped from an answer, or reloaded file by file. The second half is the
unsigned arithmetic between `u64` and `u128` with its two failure modes, an overflowing sum and a
narrowing conversion.
-/

namespace Rust

/-! ## Maps -/

/-- A hash map, as the function its lookups compute. -/
abbrev HashMap (κ β : Type) := κ → Option β

namespace HashMap

variable {κ β : Type} [DecidableEq κ]

/-- `HashMap::default()`. -/
def empty : HashMap κ β := fun _ => none

/-- `HashMap::insert`. -/
def insert (m : HashMap κ β) (k : κ) (v : β) : HashMap κ β :=
  fun k' => if k' = k then some v else m k'

/-- `HashMap::contains_key`. -/
def containsKey (m : HashMap κ β) (k : κ) : Bool := (m k).isSome

/-- Insert every pair of a list, from left to right (`from_iter`, `extend`, and a `fold` of
`insert`). -/
def insertAll (m : HashMap κ β) (l : List (κ × β)) : HashMap κ β :=
  l.foldl (fun m p => m.insert p.1 p.2) m

/-- `HashMap::from_iter`. -/
def ofList (l : List (κ × β)) : HashMap κ β := insertAll empty l

/-- The part of a map on a list of keys. -/
def restrict (m : HashMap κ β) (ks : List κ) : HashMap κ β :=
  fun k => if k ∈ ks then m k else none

omit [DecidableEq κ] in
theorem containsKey_iff {m : HashMap κ β} {k : κ} : m.containsKey k ↔ ∃ v, m k = some v :=
  Option.isSome_iff_exists

@[simp] theorem insert_self (m : HashMap κ β) (k : κ) (v : β) : m.insert k v k = some v := by
  simp [insert]

theorem insert_of_ne (m : HashMap κ β) {k k' : κ} (v : β) (h : k' ≠ k) :
    m.insert k v k' = m k' := by
  simp [insert, h]

@[simp] theorem insertAll_nil (m : HashMap κ β) : m.insertAll [] = m := rfl

@[simp] theorem insertAll_cons (m : HashMap κ β) (p : κ × β) (l : List (κ × β)) :
    m.insertAll (p :: l) = (m.insert p.1 p.2).insertAll l := rfl

theorem insertAll_append (m : HashMap κ β) (l l' : List (κ × β)) :
    m.insertAll (l ++ l') = (m.insertAll l).insertAll l' := List.foldl_append

/-- A key no pair names keeps its entry. -/
theorem insertAll_of_notMem (l : List (κ × β)) (m : HashMap κ β) {k : κ}
    (h : k ∉ l.map Prod.fst) : m.insertAll l k = m k := by
  induction l generalizing m with
  | nil => rfl
  | cons p l ih =>
    simp only [List.map_cons, List.mem_cons, not_or] at h
    rw [insertAll_cons, ih _ h.2, insert_of_ne _ _ h.1]

/-- Inserting pairs that all agree with `full` sets exactly the keys they name, to `full`'s
entries. -/
theorem insertAll_eq_of_agree {full : HashMap κ β} (l : List (κ × β)) (m : HashMap κ β)
    (hl : ∀ p ∈ l, full p.1 = some p.2) (k : κ) :
    m.insertAll l k = if k ∈ l.map Prod.fst then full k else m k := by
  induction l generalizing m with
  | nil => simp
  | cons p l ih =>
    rw [insertAll_cons, ih _ fun q hq => hl q (List.mem_cons_of_mem _ hq)]
    by_cases hmem : k ∈ l.map Prod.fst
    · simp [hmem]
    · rw [if_neg hmem]
      by_cases hk : k = p.1
      · subst hk; simp [hl p (List.mem_cons_self ..)]
      · rw [insert_of_ne _ _ hk, if_neg (by simp [hk, hmem])]

/-- **A map built from pairs of another is its restriction.** The pairs may come in any order and
name a key more than once; what they must cover is the keys of `ks` that `full` has. -/
theorem ofList_eq_restrict {full : HashMap κ β} {l : List (κ × β)} {ks : List κ}
    (hl : ∀ p ∈ l, full p.1 = some p.2) (hks : ∀ p ∈ l, p.1 ∈ ks)
    (hcov : ∀ k ∈ ks, (full k).isSome → k ∈ l.map Prod.fst) : ofList l = full.restrict ks := by
  funext k
  rw [ofList, insertAll_eq_of_agree l empty hl, restrict]
  by_cases hk : k ∈ ks
  · rw [if_pos hk]
    split
    · rfl
    · next hmem =>
      have hnone : full k = none := by
        by_contra hne
        exact hmem (hcov k hk (Option.isSome_iff_ne_none.2 hne))
      rw [hnone, empty]
  · have hmem : k ∉ l.map Prod.fst := fun hmem => by
      obtain ⟨p, hp, rfl⟩ := List.mem_map.1 hmem
      exact hk (hks p hp)
    rw [if_neg hk, if_neg hmem, empty]

/-- An entry of a map built from pairs is one of the pairs. -/
theorem mem_of_insertAll {m : HashMap κ β} {l : List (κ × β)} {k : κ} {v : β}
    (h : m.insertAll l k = some v) : (k, v) ∈ l ∨ m k = some v := by
  induction l generalizing m with
  | nil => exact .inr h
  | cons p l ih =>
    rw [insertAll_cons] at h
    rcases ih h with hmem | hm
    · exact .inl (List.mem_cons_of_mem _ hmem)
    · by_cases hk : k = p.1
      · subst hk
        rw [insert_self] at hm
        cases hm
        exact .inl (List.mem_cons_self ..)
      · rw [insert_of_ne _ _ hk] at hm
        exact .inr hm

theorem mem_of_ofList {l : List (κ × β)} {k : κ} {v : β} (h : ofList l k = some v) : (k, v) ∈ l :=
  (mem_of_insertAll h).resolve_right nofun

/-- A key of the pairs has an entry. -/
theorem isSome_ofList {l : List (κ × β)} {k : κ} (h : k ∈ l.map Prod.fst) :
    (ofList l k).isSome := by
  have hsome : ∀ m : HashMap κ β, (m k).isSome ∨ k ∈ l.map Prod.fst →
      (m.insertAll l k).isSome := by
    clear h
    induction l with
    | nil =>
      rintro m (h | h)
      · exact h
      · cases h
    | cons p l ih =>
      intro m h
      rw [insertAll_cons]
      apply ih
      by_cases hk : k = p.1
      · subst hk
        rw [insert_self]
        exact .inl rfl
      · rw [insert_of_ne _ _ hk]
        rcases h with h | h
        · exact .inl h
        · exact .inr ((List.mem_cons.1 h).resolve_left hk)
  exact hsome empty (.inr h)

/-- What pairs do not set is what was there before. -/
theorem insertAll_eq_or (m : HashMap κ β) (l : List (κ × β)) (k : κ) :
    m.insertAll l k = (ofList l k).or (m k) := by
  induction l generalizing m with
  | nil => rfl
  | cons p l ih =>
    rw [ofList, insertAll_cons, insertAll_cons, ih, ih (empty.insert p.1 p.2), Option.or_assoc]
    by_cases hk : k = p.1
    · subst hk
      rw [insert_self, insert_self, Option.some_or]
    · rw [insert_of_ne _ _ hk, insert_of_ne _ _ hk, empty, Option.none_or]

/-- A pair whose key has no other value among the pairs is an entry. -/
theorem ofList_of_mem {l : List (κ × β)} {k : κ} {v : β} (h : (k, v) ∈ l)
    (hunique : ∀ v', (k, v') ∈ l → v' = v) : ofList l k = some v := by
  obtain ⟨v', hv'⟩ := Option.isSome_iff_exists.1 (isSome_ofList (List.mem_map_of_mem h))
  obtain rfl := hunique v' (mem_of_ofList hv')
  exact hv'

/-- Where no key comes twice, every pair is an entry. -/
theorem ofList_of_nodup {l : List (κ × β)} (hnodup : (l.map Prod.fst).Nodup) {k : κ} {v : β}
    (h : (k, v) ∈ l) : ofList l k = some v := by
  apply ofList_of_mem h
  intro v' h'
  exact (Prod.mk.inj (List.inj_on_of_nodup_map hnodup h' h rfl)).2

/-- Where no key comes twice, a pair is found by its key. -/
theorem find?_of_mem {l : List (κ × β)} (hnodup : (l.map Prod.fst).Nodup) {k : κ} {v : β}
    (h : (k, v) ∈ l) : l.find? (fun p => p.1 = k) = some (k, v) := by
  cases hfound : l.find? fun p => p.1 = k with
  | none => exact absurd (decide_eq_true rfl) (List.find?_eq_none.1 hfound _ h)
  | some p =>
    have hkey : p.1 = k := by simpa using List.find?_some hfound
    have hmem := List.mem_of_find?_eq_some hfound
    rw [List.inj_on_of_nodup_map hnodup hmem h hkey]

/-- Looking up a list of keys and collecting what was found gives the restriction to the list. -/
theorem ofList_filterMap (full : HashMap κ β) (ks : List κ) :
    ofList (ks.filterMap fun k => (full k).map fun v => (k, v)) = full.restrict ks := by
  apply ofList_eq_restrict
  · intro p hp
    obtain ⟨k, -, hk⟩ := List.mem_filterMap.1 hp
    obtain ⟨v, hv, rfl⟩ := Option.map_eq_some_iff.1 hk
    exact hv
  · intro p hp
    obtain ⟨k, hk, hp⟩ := List.mem_filterMap.1 hp
    obtain ⟨v, -, rfl⟩ := Option.map_eq_some_iff.1 hp
    exact hk
  · intro k hk hsome
    obtain ⟨v, hv⟩ := Option.isSome_iff_exists.1 hsome
    exact List.mem_map.2 ⟨(k, v), List.mem_filterMap.2 ⟨k, hk, by rw [hv]; rfl⟩, rfl⟩

end HashMap

/-! ## Machine integers -/

/-- `u64::checked_sub`. -/
def checkedSub (a b : UInt64) : Option UInt64 := if b ≤ a then some (a - b) else none

/-- `+` on `u64` where overflow checks are on. -/
def addU64 {ε : Type} (a b : UInt64) : Outcome ε UInt64 :=
  if a.toNat + b.toNat < 2 ^ 64 then .ok (a + b)
  else .error (.panic "attempt to add with overflow")

/-- `*` on `u64` where overflow checks are on. -/
def mulU64 {ε : Type} (a b : UInt64) : Outcome ε UInt64 :=
  if a.toNat * b.toNat < 2 ^ 64 then .ok (a * b)
  else .error (.panic "attempt to multiply with overflow")

/-- `u128`. -/
abbrev U128 := BitVec 128

/-- `u64::into` at `u128`. -/
def U128.ofU64 (n : UInt64) : U128 := BitVec.ofNat 128 n.toNat

/-- `u64::try_from` at a `u128`: `None` stands for the `TryFromIntError`. -/
def U128.toU64? (n : U128) : Option UInt64 :=
  if n.toNat < 2 ^ 64 then some (UInt64.ofNat n.toNat) else none

/-- `+` on `u128` where overflow checks are on, as they are under the default test profile. -/
def U128.add {ε : Type} (a b : U128) : Outcome ε U128 :=
  if a.toNat + b.toNat < 2 ^ 128 then .ok (a + b)
  else .error (.panic "attempt to add with overflow")

theorem checkedSub_eq_some {a b c : UInt64} : checkedSub a b = some c ↔ b ≤ a ∧ c = a - b := by
  unfold checkedSub
  split
  · next h => rw [Option.some.injEq, and_iff_right h, eq_comm]
  · next h => exact ⟨nofun, fun h' => absurd h'.1 h⟩

theorem addU64_eq_ok {ε : Type} {a b c : UInt64} :
    (addU64 a b : Outcome ε UInt64) = .ok c ↔ a.toNat + b.toNat < 2 ^ 64 ∧ c = a + b := by
  unfold addU64
  split
  · next h => rw [Except.ok.injEq, and_iff_right h, eq_comm]
  · next h => exact ⟨nofun, fun h' => absurd h'.1 h⟩

theorem mulU64_eq_ok {ε : Type} {a b c : UInt64} :
    (mulU64 a b : Outcome ε UInt64) = .ok c ↔ a.toNat * b.toNat < 2 ^ 64 ∧ c = a * b := by
  unfold mulU64
  split
  · next h => rw [Except.ok.injEq, and_iff_right h, eq_comm]
  · next h => exact ⟨nofun, fun h' => absurd h'.1 h⟩

@[simp] theorem U128.toNat_ofU64 (n : UInt64) : (U128.ofU64 n).toNat = n.toNat := by
  have := n.toNat_lt
  rw [U128.ofU64, BitVec.toNat_ofNat, Nat.mod_eq_of_lt (by omega)]

/-- A `u128` below `2 ^ 64` converts to the `u64` of the same value. -/
theorem U128.toU64?_of_lt {n : U128} (h : n.toNat < 2 ^ 64) :
    n.toU64? = some (UInt64.ofNat n.toNat) := if_pos h

/-- A conversion that succeeds keeps the value. -/
theorem U128.toNat_of_toU64? {n : U128} {m : UInt64} (h : n.toU64? = some m) :
    m.toNat = n.toNat := by
  unfold U128.toU64? at h
  split at h
  · next hlt => cases h; exact UInt64.toNat_ofNat_of_lt hlt
  · cases h

/-- Where the sum fits, `+` returns it. -/
theorem U128.add_of_lt {ε : Type} {a b : U128} (h : a.toNat + b.toNat < 2 ^ 128) :
    (U128.add a b : Outcome ε U128) = .ok (a + b) := if_pos h

/-- A sum that `+` returns is the sum of the values. -/
theorem U128.toNat_of_add_ok {ε : Type} {a b c : U128}
    (h : (U128.add a b : Outcome ε U128) = .ok c) : c.toNat = a.toNat + b.toNat := by
  unfold U128.add at h
  split at h
  · next hlt => cases h; rw [BitVec.toNat_add, Nat.mod_eq_of_lt hlt]
  · cases h

end Rust
