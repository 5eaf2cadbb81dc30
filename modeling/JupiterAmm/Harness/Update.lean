import JupiterAmm.SplTokenSwap.Update
import JupiterAmm.Harness.Basic

/-!
# Updating an AMM in the test harness

The harness updates an AMM in three ways: from a whole account map, from the part of one the AMM
asked for (`update_amm_precise`), and from what the RPC node answers for the accounts the AMM asked
for (`AmmTestHarness::update_amm`). The last two build a restriction of the map to the requested
accounts (`updateAmmPrecise_eq`, `updateAmm_eq`), and an SPL token swap AMM reads nothing else, so
all three do the same to it (`update_depends_only_on_requested`).
-/

namespace JupiterAmm

open Rust

/-! ## The three updates -/

section
variable {crates : Crates} {α : Type} [Amm crates α]

/-- `update_amm_precise`. -/
def updateAmmPrecise (accountMap : AccountMap) : RustM crates.Error α Unit := do
  let amm ← get
  let accountMapRequested := HashMap.ofList <|
    (Amm.getAccountsToUpdate amm).filterMap fun address =>
      (accountMap address).map fun account => (address, account)
  Amm.update accountMapRequested

/-- The `fold` of `update_amm`: the accounts of an answer under the addresses it was asked for,
without those that do not exist. -/
def accountMapOfAnswer (accounts : List (Option Account)) (addresses : List Pubkey) : AccountMap :=
  (accounts.zip addresses).foldl
    (fun m p => match p.1 with
      | some account => m.insert p.2 account
      | none => m)
    HashMap.empty

/-- `AmmTestHarness::update_amm`. -/
def AmmTestHarness.updateAmm (self : AmmTestHarness crates) : RustM crates.Error α Unit := do
  let amm ← get
  let accountsToUpdate := Amm.getAccountsToUpdate amm
  let accounts ← Outcome.unwrap (ofExcept (self.client.getMultipleAccounts accountsToUpdate))
  (Amm.update (accountMapOfAnswer accounts accountsToUpdate)).unwrap

/-! ## The maps they build -/

/-- `update_amm_precise` updates from the part of the map the AMM asked for. -/
theorem updateAmmPrecise_eq (m : AccountMap) (amm : α) :
    updateAmmPrecise m amm = Amm.update (m.restrict (Amm.getAccountsToUpdate amm)) amm := by
  rw [← HashMap.ofList_filterMap]
  rfl

/-- Folding the answer of a chain gives the part of the chain that was asked for. -/
theorem accountMapOfAnswer_map (chain : AccountMap) (addresses : List Pubkey) :
    accountMapOfAnswer (addresses.map chain) addresses = chain.restrict addresses := by
  rw [← HashMap.ofList_filterMap, accountMapOfAnswer, HashMap.ofList]
  generalize HashMap.empty = m
  induction addresses generalizing m with
  | nil => rfl
  | cons k ks ih =>
    rw [List.map_cons, List.zip_cons_cons, List.foldl_cons, ih]
    cases hk : chain k with
    | none => rw [List.filterMap_cons_none (by rw [hk]; rfl)]
    | some account => rw [List.filterMap_cons_some (by rw [hk]; rfl), HashMap.insertAll_cons]

/-- `update_amm` on a chain updates from the part of the chain the AMM asked for, and panics where
the update fails. -/
theorem updateAmm_eq {harness : AmmTestHarness crates} {chain : AccountMap}
    (hchain : harness.client.Serves chain) (amm : α) :
    harness.updateAmm amm =
      (Amm.update (chain.restrict (Amm.getAccountsToUpdate amm))).unwrap amm := by
  have hrun : harness.updateAmm amm =
      (RustM.lift (Outcome.unwrap (ofExcept
          (harness.client.getMultipleAccounts (Amm.getAccountsToUpdate amm)))) >>= fun accounts =>
        (Amm.update (accountMapOfAnswer accounts (Amm.getAccountsToUpdate amm))).unwrap) amm := rfl
  rw [hrun, hchain, ← accountMapOfAnswer_map]
  rfl

end

/-! ## The SPL token swap AMM -/

namespace SplTokenSwapAmm

variable {crates : Crates}

/-- The part of a map an AMM asked for updates it as the map does. -/
theorem update_restrict (hread : crates.ReadsAccountMap) (m : AccountMap)
    (self : SplTokenSwapAmm crates) :
    update (m.restrict self.getAccountsToUpdate) self = update m self := by
  apply update_congr hread
  intro k hk
  rw [HashMap.restrict, if_pos hk]

/-- The reserves of a map are missing exactly where the balance of one of the two accounts is. -/
theorem reservesIn_eq_none {self : SplTokenSwapAmm crates} {m : AccountMap} :
    self.reservesIn m = none ↔
      tokenBalance crates m self.state.tokenA = none ∨
      tokenBalance crates m self.state.tokenB = none := by
  unfold reservesIn
  cases tokenBalance crates m self.state.tokenA <;>
    cases tokenBalance crates m self.state.tokenB <;> simp

/-- An update fails exactly where one of the two balances is missing. -/
theorem not_succeeds_update (hread : crates.ReadsAccountMap) (m : AccountMap)
    (self : SplTokenSwapAmm crates) :
    ¬ (update m).Succeeds self ↔
      tokenBalance crates m self.state.tokenA = none ∨
      tokenBalance crates m self.state.tokenB = none := by
  rw [← reservesIn_eq_none]
  rcases update_eq hread m self with ⟨r, hr, hu⟩ | ⟨hr, e, hu⟩
  · simp [RustM.Succeeds, hu, hr]
  · simp [RustM.Succeeds, hu, hr]

/-- An update that fails leaves the AMM as it was. -/
theorem after_update_of_not_succeeds (hread : crates.ReadsAccountMap) {m : AccountMap}
    {self : SplTokenSwapAmm crates} (h : ¬ (update m).Succeeds self) :
    (update m).after self = self := by
  rcases update_eq hread m self with ⟨r, -, hu⟩ | ⟨-, e, hu⟩
  · exact absurd ⟨_, _, hu⟩ h
  · rw [RustM.after, hu]

/-- The three ways to update an AMM from what a chain holds end alike. -/
theorem updates_agree (hread : crates.ReadsAccountMap) {self : SplTokenSwapAmm crates}
    {m chain : AccountMap} {harness : AmmTestHarness crates} (hserves : harness.client.Serves chain)
    (hchain : ∀ k ∈ self.getAccountsToUpdate, chain k = m k) :
    (∃ self', update m self = .ok () self' ∧ updateAmmPrecise m self = .ok () self' ∧
      harness.updateAmm self = .ok () self') ∨
    (∃ e message, update m self = .error (.err e) self ∧
      updateAmmPrecise m self = .error (.err e) self ∧
      harness.updateAmm self = .error (.panic message) self) := by
  have hprecise : updateAmmPrecise m self = update m self := by
    rw [updateAmmPrecise_eq]
    exact update_restrict hread m self
  have hrpc : harness.updateAmm self = (update m).unwrap self := by
    rw [updateAmm_eq hserves]
    apply RustM.unwrap_congr
    exact (update_restrict hread chain self).trans (update_congr hread hchain)
  rw [hprecise, hrpc]
  rcases update_eq hread m self with ⟨r, -, hu⟩ | ⟨-, e, hu⟩
  · exact .inl ⟨_, hu, hu, RustM.unwrap_of_ok hu⟩
  · obtain ⟨message, hpanic⟩ := RustM.unwrap_of_err hu
    exact .inr ⟨e, message, hu, hu, hpanic⟩

/-- **Updating depends only on the accounts asked for, and is all-or-nothing.** Maps that agree on
the accounts asked for update an AMM alike; a whole map, the requested part of it and a chain that
holds it all end in the same state, or all fail and leave the AMM as it was, which happens exactly
where one of the two balances is missing; an update that succeeds changes only the reserves, and
absorbs any number of repetitions. -/
theorem update_depends_only_on_requested (hread : crates.ReadsAccountMap)
    (self : SplTokenSwapAmm crates) (m : AccountMap) :
    (∀ m' : AccountMap, (∀ k ∈ self.getAccountsToUpdate, m k = m' k) →
      update m self = update m' self) ∧
    (∀ (harness : AmmTestHarness crates) (chain : AccountMap), harness.client.Serves chain →
      (∀ k ∈ self.getAccountsToUpdate, chain k = m k) →
      (∃ self', update m self = .ok () self' ∧ updateAmmPrecise m self = .ok () self' ∧
        harness.updateAmm self = .ok () self') ∨
      (∃ e message, update m self = .error (.err e) self ∧
        updateAmmPrecise m self = .error (.err e) self ∧
        harness.updateAmm self = .error (.panic message) self)) ∧
    ((¬ (update m).Succeeds self ↔
        tokenBalance crates m self.state.tokenA = none ∨
        tokenBalance crates m self.state.tokenB = none) ∧
      (¬ (update m).Succeeds self → (update m).after self = self)) ∧
    (∀ self', update m self = .ok () self' →
      (∃ reserves, self' = { self with reserves }) ∧
      self'.getAccountsToUpdate = self.getAccountsToUpdate ∧
      ∀ n, (update m).times n self' = .ok () self') := by
  refine ⟨fun m' h => update_congr hread h, ?_, ⟨not_succeeds_update hread m self,
    after_update_of_not_succeeds hread⟩, ?_⟩
  · intro harness chain hserves hchain
    exact updates_agree hread hserves hchain
  · intro self' hu
    have hfixed := RustM.times_of_fixed (update_idem hread hu)
    obtain ⟨r, -, rfl⟩ := (update_eq_ok hread).1 hu
    exact ⟨⟨_, rfl⟩, rfl, hfixed⟩

section
open Reference

/-- A harness for the example pool, whose node answers from the chain. -/
def poolHarness : AmmTestHarness referenceCrates where
  client := ⟨fun addresses => .ok (addresses.map chain)⟩
  key := poolKeyedAccount.key
  option := none

/-- The example pool updates alike in all three ways. -/
theorem update_depends_only_on_requested_pool :
    ∃ self', update chain pool = .ok () self' ∧ updateAmmPrecise chain pool = .ok () self' ∧
      poolHarness.updateAmm pool = .ok () self' ∧
      ∀ n, (update chain).times n self' = .ok () self' := by
  obtain ⟨-, hagree, -, hok⟩ := update_depends_only_on_requested readsAccountMap pool chain
  rcases hagree poolHarness chain (fun _ => rfl) (fun _ _ => rfl) with
    ⟨self', hu, hprecise, hrpc⟩ | ⟨e, message, hu, -⟩
  · exact ⟨self', hu, hprecise, hrpc, (hok self' hu).2.2⟩
  · rw [update_pool] at hu
    cases hu

end

end SplTokenSwapAmm

end JupiterAmm
