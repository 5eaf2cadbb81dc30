import JupiterAmm.SplTokenSwap.Basic
import JupiterAmm.Reference

/-!
# Updating the reserves

`update` reads two token accounts and then, as its last statement, stores both balances. So it
either finds both balances and replaces the reserves by them, or it returns an `Err` and leaves the
AMM as it was; `update_eq` says this in one equation, and every other fact about `update` follows
from it. What it reads of the account map is `reservesIn`, the balances of the pool's two token
accounts.
-/

namespace JupiterAmm

open Rust

namespace SplTokenSwapAmm

variable {crates : Crates}

/-- The balance of a token account in an account map, where there is one that unpacks. -/
def tokenBalance (crates : Crates) (accountMap : AccountMap) (address : Pubkey) : Option UInt64 :=
  match accountMap address with
  | none => none
  | some account => match crates.tokenAccountUnpack account.data with
    | .error _ => none
    | .ok tokenAccount => some tokenAccount.amount

/-- The balances of a pool's token accounts `token_a` and `token_b` in an account map. -/
def reservesIn (self : SplTokenSwapAmm crates) (accountMap : AccountMap) :
    Option (UInt64 × UInt64) :=
  match tokenBalance crates accountMap self.state.tokenA,
    tokenBalance crates accountMap self.state.tokenB with
  | some a, some b => some (a, b)
  | _, _ => none

/-- The AMM with the given balances as its reserves. -/
def withReserves (self : SplTokenSwapAmm crates) (r : UInt64 × UInt64) : SplTokenSwapAmm crates :=
  { self with reserves := (.ofU64 r.1, .ofU64 r.2) }

section
variable (self : SplTokenSwapAmm crates) (r : UInt64 × UInt64)

@[simp] theorem key_withReserves : (self.withReserves r).key = self.key := rfl
@[simp] theorem state_withReserves : (self.withReserves r).state = self.state := rfl

@[simp] theorem reserves_withReserves :
    (self.withReserves r).reserves = (.ofU64 r.1, .ofU64 r.2) := rfl

@[simp] theorem withReserves_withReserves (r' : UInt64 × UInt64) :
    (self.withReserves r).withReserves r' = self.withReserves r' := rfl

@[simp] theorem reservesIn_withReserves :
    (self.withReserves r).reservesIn = self.reservesIn := rfl

theorem reservesIn_withKey (key : Pubkey) :
    SplTokenSwapAmm.reservesIn { self with key } = self.reservesIn := rfl

end

/-- Reading a token account from a map: the balance, or an `Err` where there is none. -/
theorem readTokenAccount (hread : crates.ReadsAccountMap) (m : AccountMap) (k : Pubkey) :
    (∃ data t, crates.tryGetAccountData m k = .ok data ∧
      crates.tokenAccountUnpack data = .ok t ∧ tokenBalance crates m k = some t.amount) ∨
    (∃ data e, crates.tryGetAccountData m k = .ok data ∧
      crates.tokenAccountUnpack data = .error e ∧ tokenBalance crates m k = none) ∨
    (∃ e, crates.tryGetAccountData m k = .error e ∧ tokenBalance crates m k = none) := by
  obtain ⟨missing, hread⟩ := hread
  have hk := hread m k
  unfold tokenBalance
  cases hm : m k with
  | none =>
    rw [hm] at hk
    exact .inr (.inr ⟨missing k, hk, rfl⟩)
  | some account =>
    rw [hm] at hk
    cases hu : crates.tokenAccountUnpack account.data with
    | error e => exact .inr (.inl ⟨account.data, e, hk, hu, by simp only [hu]⟩)
    | ok t => exact .inl ⟨account.data, t, hk, hu, by simp only [hu]⟩

/-- **`update` in one equation.** It stores the two balances of the map when both are there, and
otherwise returns an `Err` without touching the AMM. -/
theorem update_eq (hread : crates.ReadsAccountMap) (m : AccountMap)
    (self : SplTokenSwapAmm crates) :
    (∃ r, self.reservesIn m = some r ∧ update m self = .ok () (self.withReserves r)) ∨
    (self.reservesIn m = none ∧ ∃ e, update m self = .error (.err e) self) := by
  have hget : update m self =
      (RustM.lift (ofExcept (crates.tryGetAccountData m self.state.tokenA)) >>= fun dataA =>
        RustM.lift (ofExcept (crates.tokenAccountUnpack dataA)) >>= fun a =>
        RustM.lift (ofExcept (crates.tryGetAccountData m self.state.tokenB)) >>= fun dataB =>
        RustM.lift (ofExcept (crates.tokenAccountUnpack dataB)) >>= fun b =>
        set (self.withReserves (a.amount, b.amount))) self := rfl
  rw [hget]
  unfold reservesIn
  rcases readTokenAccount hread m self.state.tokenA with
    ⟨dataA, a, hA, hua, hba⟩ | ⟨dataA, e, hA, hua, hba⟩ | ⟨e, hA, hba⟩
  · rw [hA, RustM.try_ok, hua, RustM.try_ok, hba]
    rcases readTokenAccount hread m self.state.tokenB with
      ⟨dataB, b, hB, hub, hbb⟩ | ⟨dataB, e, hB, hub, hbb⟩ | ⟨e, hB, hbb⟩
    · rw [hB, RustM.try_ok, hub, RustM.try_ok, hbb]
      exact .inl ⟨_, rfl, rfl⟩
    · rw [hB, RustM.try_ok, hub, RustM.try_error, hbb]
      exact .inr ⟨rfl, e, rfl⟩
    · rw [hB, RustM.try_error, hbb]
      exact .inr ⟨rfl, e, rfl⟩
  · rw [hA, RustM.try_ok, hua, RustM.try_error, hba]
    exact .inr ⟨rfl, e, rfl⟩
  · rw [hA, RustM.try_error, hba]
    exact .inr ⟨rfl, e, rfl⟩

/-- `update` succeeds exactly on a map that has both balances, and stores them. -/
theorem update_eq_ok (hread : crates.ReadsAccountMap) {m : AccountMap}
    {self self' : SplTokenSwapAmm crates} :
    update m self = .ok () self' ↔
      ∃ r, self.reservesIn m = some r ∧ self' = self.withReserves r := by
  rcases update_eq hread m self with ⟨r, hr, hu⟩ | ⟨hr, e, hu⟩
  · rw [hu, hr]
    simp [eq_comm]
  · rw [hu, hr]
    simp

/-- A failed `update` returns an `Err`, never a panic, and leaves the AMM as it was. -/
theorem update_eq_error (hread : crates.ReadsAccountMap) {m : AccountMap}
    {self self' : SplTokenSwapAmm crates} {f : Fault crates.Error}
    (h : update m self = .error f self') :
    self.reservesIn m = none ∧ self' = self ∧ ∃ e, f = .err e := by
  rcases update_eq hread m self with ⟨r, hr, hu⟩ | ⟨hr, e, hu⟩
  · rw [hu] at h
    cases h
  · rw [hu] at h
    cases h
    exact ⟨hr, rfl, e, rfl⟩

/-- `update` reads of the map only what it answers at the accounts asked for. -/
theorem update_congr (hread : crates.ReadsAccountMap) {self : SplTokenSwapAmm crates}
    {m m' : AccountMap} (h : ∀ k ∈ self.getAccountsToUpdate, m k = m' k) :
    update m self = update m' self := by
  obtain ⟨missing, hread⟩ := hread
  have hA : crates.tryGetAccountData m self.state.tokenA =
      crates.tryGetAccountData m' self.state.tokenA := by
    rw [hread, hread, h _ (by simp [getAccountsToUpdate])]
  have hB : crates.tryGetAccountData m self.state.tokenB =
      crates.tryGetAccountData m' self.state.tokenB := by
    rw [hread, hread, h _ (by simp [getAccountsToUpdate])]
  show (RustM.lift (ofExcept (crates.tryGetAccountData m self.state.tokenA)) >>= fun dataA =>
      RustM.lift (ofExcept (crates.tokenAccountUnpack dataA)) >>= fun a =>
      RustM.lift (ofExcept (crates.tryGetAccountData m self.state.tokenB)) >>= fun dataB =>
      RustM.lift (ofExcept (crates.tokenAccountUnpack dataB)) >>= fun b =>
      set (self.withReserves (a.amount, b.amount)) : RustM crates.Error _ Unit) self = _
  rw [hA, hB]
  rfl

/-- A balance that is found is found in any larger map. -/
theorem tokenBalance_mono {m m' : AccountMap}
    (h : ∀ k account, m k = some account → m' k = some account) {k : Pubkey} {balance : UInt64}
    (hbalance : tokenBalance crates m k = some balance) :
    tokenBalance crates m' k = some balance := by
  unfold tokenBalance at hbalance ⊢
  cases hk : m k with
  | none =>
    rw [hk] at hbalance
    cases hbalance
  | some account =>
    rw [hk] at hbalance
    rw [h k account hk]
    exact hbalance

/-- An update from a map is the update from any larger one. -/
theorem update_mono (hread : crates.ReadsAccountMap) {m m' : AccountMap}
    (h : ∀ k account, m k = some account → m' k = some account)
    {self self' : SplTokenSwapAmm crates}
    (hupdate : update m self = .ok () self') : update m' self = .ok () self' := by
  obtain ⟨r, hr, hself'⟩ := (update_eq_ok hread).1 hupdate
  refine (update_eq_ok hread).2 ⟨r, ?_, hself'⟩
  unfold reservesIn at hr ⊢
  split at hr
  · next a b ha hb =>
    rw [tokenBalance_mono h ha, tokenBalance_mono h hb]
    exact hr
  · cases hr

/-- An update is absorbed by the same update. -/
theorem update_idem (hread : crates.ReadsAccountMap) {m : AccountMap}
    {self self' : SplTokenSwapAmm crates} (h : update m self = .ok () self') :
    update m self' = .ok () self' := by
  obtain ⟨r, hr, rfl⟩ := (update_eq_ok hread).1 h
  exact (update_eq_ok hread).2 ⟨r, by rw [reservesIn_withReserves, hr], by simp⟩

/-! ## The example pool -/

section
open Reference

/-- The example pool finds both balances on the chain. -/
theorem reservesIn_pool : pool.reservesIn chain = some (balanceA, balanceB) := by
  have hA : tokenBalance referenceCrates chain pool.state.tokenA = some balanceA := by
    decide +kernel
  have hB : tokenBalance referenceCrates chain pool.state.tokenB = some balanceB := by
    decide +kernel
  rw [reservesIn, hA, hB]

theorem update_pool : update chain pool = .ok () (pool.withReserves (balanceA, balanceB)) :=
  (update_eq_ok readsAccountMap).2 ⟨_, reservesIn_pool, rfl⟩

end

end SplTokenSwapAmm

end JupiterAmm
