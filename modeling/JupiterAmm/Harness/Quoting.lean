import JupiterAmm.Harness.Sending
import JupiterAmm.Harness.Store
import JupiterAmm.SplTokenSwap.Load

/-!
# The quoting tests

A test of the repository runs over the pairs of an AMM's mints. For each it loads the snapshot into
a new bank, which also updates the AMM, and compares a quote with a simulated swap. The pairs are
tested independently of each other (`testQuotingWithAmm_iff`), and a test that passes after any
sequence of snapshot commands certifies the chain of the last one that succeeded
(`testQuotingForAmmKey_certifies`).
-/

namespace JupiterAmm

open Rust Borsh

/-! ## The pairs of mints -/

section
variable {α β : Type}

theorem mem_getTwoPermutations {items : List α} {a b : α} :
    (a, b) ∈ getTwoPermutations items ↔
      ∃ i j : Nat, j ≠ i ∧ items[i]? = some a ∧ items[j]? = some b := by
  simp only [getTwoPermutations, List.mem_flatMap, List.mem_map, Prod.mk.injEq, Prod.exists,
    List.mem_zipIdx_iff_getElem?, List.mem_eraseIdx_iff_getElem?]
  constructor
  · rintro ⟨a', i, ha, b', ⟨j, hj, hb⟩, rfl, rfl⟩
    exact ⟨i, j, hj, ha, hb⟩
  · rintro ⟨i, j, hj, ha, hb⟩
    exact ⟨a, i, ha, b, ⟨j, hj, hb⟩, rfl, rfl⟩

/-- Pairs of images are images of pairs. -/
theorem getTwoPermutations_map (f : α → β) (items : List α) :
    getTwoPermutations (items.map f) = (getTwoPermutations items).map (Prod.map f f) := by
  simp only [getTwoPermutations, List.zipIdx_map, List.flatMap_map, List.eraseIdx_map,
    List.map_flatMap, List.map_map]
  rfl

/-- The pairs of ordered items come in lexicographic order. -/
theorem pairwise_getTwoPermutations {r : α → α → Prop} {items : List α} (h : items.Pairwise r) :
    (getTwoPermutations items).Pairwise (Prod.Lex r r) := by
  have hfst : (items.zipIdx.map Prod.fst).Pairwise r := by rwa [List.zipIdx_map_fst]
  refine List.pairwise_flatMap.2 ⟨?_, ?_⟩
  · rintro ⟨a, i⟩ -
    exact List.pairwise_map.2 ((h.sublist (List.eraseIdx_sublist items i)).imp (Prod.Lex.right a))
  · apply List.Pairwise.imp _ (List.pairwise_map.1 hfst)
    rintro ⟨a, i⟩ ⟨a', i'⟩ hlt p hp q hq
    obtain ⟨b, -, rfl⟩ := List.mem_map.1 hp
    obtain ⟨b', -, rfl⟩ := List.mem_map.1 hq
    exact Prod.Lex.left b b' hlt

/-- **The pairs of items are the pairs of two positions**, each once, in lexicographic order. -/
theorem getTwoPermutations_eq (items : List α) :
    ∃ positions : List (Fin items.length × Fin items.length),
      positions.Pairwise (Prod.Lex (· < ·) (· < ·)) ∧ (∀ i j, (i, j) ∈ positions ↔ i ≠ j) ∧
      getTwoPermutations items = positions.map fun p => (items.get p.1, items.get p.2) := by
  refine ⟨getTwoPermutations (List.finRange items.length),
    pairwise_getTwoPermutations (List.pairwise_lt_finRange _), ?_, ?_⟩
  · intro i j
    rw [mem_getTwoPermutations]
    constructor
    · rintro ⟨k, l, hne, hi, hj⟩ rfl
      have hl := (List.getElem?_eq_some_iff.1 hj).1
      exact hne ((List.getElem?_inj hl (List.nodup_finRange _)).1 (hj.trans hi.symm))
    · intro hne
      exact ⟨i, j, fun h => hne (Fin.ext h.symm), by simp, by simp⟩
  · conv_lhs => rw [← List.map_get_finRange items]
    rw [getTwoPermutations_map]
    rfl

end

/-- **The pairs a test runs over.** A one-way AMM has the pair of its two mints, and the search
fails where it has not two. Any other AMM has the pairs of two positions among its mints, each once,
in lexicographic order. -/
theorem getTokenMintsPermutations_eq {crates : Crates} {α : Type} [Amm crates α] (amm : α) :
    if Amm.unidirectional amm then
      ∀ pairs, getTokenMintsPermutations amm = .ok pairs ↔
        ∃ source destination, Amm.getReserveMints amm = [source, destination] ∧
          pairs = [(source, destination)]
    else
      ∃ positions : List (Fin (Amm.getReserveMints amm).length ×
          Fin (Amm.getReserveMints amm).length),
        positions.Pairwise (Prod.Lex (· < ·) (· < ·)) ∧ (∀ i j, (i, j) ∈ positions ↔ i ≠ j) ∧
        getTokenMintsPermutations amm = .ok (positions.map fun p =>
          ((Amm.getReserveMints amm).get p.1, (Amm.getReserveMints amm).get p.2)) := by
  unfold getTokenMintsPermutations
  split
  · intro pairs
    rcases Amm.getReserveMints amm with - | ⟨source, - | ⟨destination, - | ⟨mint, mints⟩⟩⟩
    · exact iff_of_false nofun fun ⟨_, _, h, _⟩ => nomatch h
    · exact iff_of_false nofun fun ⟨_, _, h, _⟩ => nomatch h
    · constructor
      · intro h
        cases h
        exact ⟨source, destination, rfl, rfl⟩
      · rintro ⟨source', destination', hmints, rfl⟩
        cases hmints
        rfl
    · exact iff_of_false nofun fun ⟨_, _, h, _⟩ => nomatch h
  · obtain ⟨positions, hsorted, hmem, heq⟩ := getTwoPermutations_eq (Amm.getReserveMints amm)
    exact ⟨positions, hsorted, hmem, congrArg Except.ok heq⟩

/-! ## The tests -/

section
variable {crates : Crates} (testCrates : ProgramTestCrates crates)

/-- What the repository leaves open in one run of a test: the key pair of the user, and how the bank
answers the swap. -/
structure TestRun (α : Type) where
  keypair : Pubkey
  simulate : Bank → AmmTestHarnessProgramTest → AmmTestSwapParams crates α →
    Simulation testCrates.BanksClientError

/-- The payer and the token accounts of a bank, with no transaction sent yet. -/
def Bank.context (self : Bank) : ProgramTestContext where
  payer := self.payer
  tokenAccounts k := (self.accounts k).bind fun account => testCrates.token2022Unpack account.data
  transactions := []

/-- The arguments of `test_quoting_with_amm`, less the harness and the AMM. -/
structure QuotingParams (crates : Crates) (α : Type) where
  tolerance : UInt64
  useSharedAccounts : Bool
  swapMode : SwapMode
  beforeTestSetup : Option (α → AccountMap → AccountMap)
  expectError : Option crates.Error
  restrictedMintPermutations : Option (List (Pubkey × Pubkey))

variable {α : Type} [Amm crates α] [AmmProgram α] (tables : TokenTables)
  (harness : AmmTestHarness crates) (params : QuotingParams crates α) (t : FileTree String)

/-- The `AmmTestSwapParams` of a pair. -/
def QuotingParams.swapParams (amm : α) (pair : Pubkey × Pubkey) : AmmTestSwapParams crates α where
  amm
  sourceMint := pair.1
  destinationMint := pair.2
  swapMode := params.swapMode
  tolerance := params.tolerance
  useSharedAccounts := params.useSharedAccounts
  expectedError := params.expectError

/-- The body of the loop over the pairs. -/
def testPair (run : TestRun testCrates α) (pair : Pubkey × Pubkey) :
    RustM crates.Error α Unit := do
  let (bank, test) ←
    harness.loadProgramTest testCrates tables params.beforeTestSetup run.keypair t
  let amm ← get
  let swapParams := params.swapParams amm pair
  let _ ← (test.assertQuoteMatchesSimulatedSwap tables swapParams
    (run.simulate bank test swapParams)).on (bank.context testCrates)
  pure ()

/-- The loop over the pairs, with `one_test_passed`. -/
def testPairs : (Nat → TestRun testCrates α) → Bool → List (Pubkey × Pubkey) →
    RustM crates.Error α Bool
  | _, oneTestPassed, [] => pure oneTestPassed
  | runs, _, pair :: pairs => do
    testPair testCrates tables harness params t (runs 0) pair
    testPairs (fun i => runs (i + 1)) true pairs

/-- `test_quoting_with_amm`, for the AMM in the state. The pairs of the AMM are found even where
they are not used. -/
def testQuotingWithAmm (runs : Nat → TestRun testCrates α) : RustM crates.Error α Unit := do
  let amm ← get
  let permutations ← getTokenMintsPermutations amm
  let reserveTokenMintPermutations := params.restrictedMintPermutations.getD permutations
  let oneTestPassed ← testPairs testCrates tables harness params t runs false
    reserveTokenMintPermutations
  (assert (oneTestPassed = true) : crates.Result Unit)

end

/-- `test_quoting_for_amm_key` at `SplTokenSwapAmm`, whose `from_keyed_account` has no use for the
context. -/
def testQuotingForAmmKey {crates : Crates} (testCrates : ProgramTestCrates crates)
    (tables : TokenTables) (network : String → RpcNode crates) (ammKey : Pubkey)
    (option : Option String) (params : QuotingParams crates (SplTokenSwapAmm crates))
    (t : FileTree String) (runs : Nat → TestRun testCrates (SplTokenSwapAmm crates)) :
    crates.Result Unit := do
  let testHarness := AmmTestHarness.newWithRpcUrl network "" ammKey option
  let keyedAccount ← Outcome.unwrap (testHarness.getKeyedAccountFromSnapshot t)
  let _clock ← testHarness.getClock testCrates.toCommandCrates t
  let amm ← Outcome.unwrap (SplTokenSwapAmm.fromKeyedAccount keyedAccount)
  let _ ← (testQuotingWithAmm testCrates tables testHarness params t runs).on amm
  pure ()

/-! ## Each pair for itself -/

section
variable {crates : Crates} {testCrates : ProgramTestCrates crates} {tables : TokenTables}
  {harness : AmmTestHarness crates} {t : FileTree String}

/-- What the test of a pair has done. -/
theorem testPair_eq_ok {α : Type} [Amm crates α] [AmmProgram α] {params : QuotingParams crates α}
    {run : TestRun testCrates α} {pair : Pubkey × Pubkey} {amm amm' : α} :
    testPair testCrates tables harness params t run pair amm = .ok () amm' ↔
      ∃ bank test, harness.loadProgramTest testCrates tables params.beforeTestSetup run.keypair t
          amm = .ok (bank, test) amm' ∧
        (test.assertQuoteMatchesSimulatedSwap tables (params.swapParams amm' pair)
          (run.simulate bank test (params.swapParams amm' pair))).Succeeds
          (bank.context testCrates) := by
  unfold testPair
  rw [RustM.bind_ok]
  constructor
  · rintro ⟨⟨bank, test⟩, amm₁, hload, hrest⟩
    dsimp only at hrest
    rw [RustM.get_bind] at hrest
    obtain ⟨⟨⟨⟩, context⟩, hrun, hpure⟩ := RustM.liftM_bind_ok.1 hrest
    obtain ⟨-, rfl⟩ := RustM.pure_eq_ok.1 hpure
    exact ⟨bank, test, hload, (), context, RustM.on_eq_ok.1 hrun⟩
  · rintro ⟨bank, test, hload, ⟨⟩, context, hrun⟩
    refine ⟨(bank, test), amm', hload, ?_⟩
    dsimp only
    rw [RustM.get_bind]
    exact RustM.liftM_bind_ok.2 ⟨((), context), RustM.on_eq_ok.2 hrun, rfl⟩

/-- `one_test_passed` says that there was a pair. -/
theorem testPairs_value {α : Type} [Amm crates α] [AmmProgram α] {params : QuotingParams crates α}
    {runs : Nat → TestRun testCrates α} {passed passed' : Bool} {pairs : List (Pubkey × Pubkey)}
    {amm amm' : α}
    (h : testPairs testCrates tables harness params t runs passed pairs amm = .ok passed' amm') :
    passed' = true ↔ passed = true ∨ pairs ≠ [] := by
  induction pairs generalizing runs passed amm with
  | nil =>
    obtain ⟨rfl, -⟩ := RustM.pure_eq_ok.1 h
    simp
  | cons pair pairs ih =>
    obtain ⟨⟨⟩, amm₁, -, hrest⟩ := RustM.bind_ok.1 h
    simp [ih hrest]

variable {params : QuotingParams crates (SplTokenSwapAmm crates)}

/-- The change a test makes to the snapshot does not depend on the reserves of the pool. -/
def QuotingParams.IgnoresReserves (params : QuotingParams crates (SplTokenSwapAmm crates)) : Prop :=
  ∀ before, params.beforeTestSetup = some before →
    ∀ (self : SplTokenSwapAmm crates) r m, before (self.withReserves r) m = before self m

theorem QuotingParams.ignoresReserves_of_none (h : params.beforeTestSetup = none) :
    params.IgnoresReserves :=
  fun _ hbefore => nomatch h.symm.trans hbefore

/-- Loading a test replaces the reserves of a pool, whatever they were. -/
theorem loadProgramTest_withReserves (hread : crates.ReadsAccountMap)
    (hignores : params.IgnoresReserves) {keypair : Pubkey} {self amm' : SplTokenSwapAmm crates}
    {bank : Bank} {test : AmmTestHarnessProgramTest} (r : UInt64 × UInt64) :
    harness.loadProgramTest testCrates tables params.beforeTestSetup keypair t
        (self.withReserves r) = .ok (bank, test) amm' ↔
      harness.loadProgramTest testCrates tables params.beforeTestSetup keypair t self =
        .ok (bank, test) amm' := by
  have haccounts : ∀ m, testAccounts params.beforeTestSetup (self.withReserves r) m =
      testAccounts params.beforeTestSetup self m := by
    intro m
    unfold testAccounts
    cases hbefore : params.beforeTestSetup with
    | none => rfl
    | some before => exact hignores before hbefore self r m
  have hfiles : HasProgramFiles testCrates (self.withReserves r) ↔
      HasProgramFiles testCrates self := Iff.rfl
  have hprogram : ∀ m, programTestOf (self.withReserves r) m = programTestOf self m := fun _ => rfl
  have hupdate : ∀ m, (updateAmmPrecise m).unwrap.times 3 (self.withReserves r) = .ok () amm' ↔
      (updateAmmPrecise m).unwrap.times 3 self = .ok () amm' := by
    intro m
    rw [SplTokenSwapAmm.times_updateAmmPrecise_eq_ok hread,
      SplTokenSwapAmm.times_updateAmmPrecise_eq_ok hread, SplTokenSwapAmm.update_eq_ok hread,
      SplTokenSwapAmm.update_eq_ok hread]
    rfl
  rw [AmmTestHarness.loadProgramTest_eq_ok, AmmTestHarness.loadProgramTest_eq_ok]
  simp only [hfiles, haccounts, hprogram, hupdate]

/-- A test that loads leaves the pool as it was, with new reserves. -/
theorem loadProgramTest_reserves (hread : crates.ReadsAccountMap) {keypair : Pubkey}
    {self amm' : SplTokenSwapAmm crates} {bank : Bank} {test : AmmTestHarnessProgramTest}
    (h : harness.loadProgramTest testCrates tables params.beforeTestSetup keypair t self =
      .ok (bank, test) amm') : ∃ r, amm' = self.withReserves r := by
  obtain ⟨-, _, _, _, -, -, hupdate, -⟩ := AmmTestHarness.loadProgramTest_eq_ok.1 h
  rw [SplTokenSwapAmm.times_updateAmmPrecise_eq_ok hread, SplTokenSwapAmm.update_eq_ok hread]
    at hupdate
  obtain ⟨r, -, hr⟩ := hupdate
  exact ⟨r, hr⟩

/-- The test of a pair does not see the reserves the pool has at its start. -/
theorem testPair_withReserves (hread : crates.ReadsAccountMap) (hignores : params.IgnoresReserves)
    {run : TestRun testCrates (SplTokenSwapAmm crates)} {pair : Pubkey × Pubkey}
    {self : SplTokenSwapAmm crates} (r : UInt64 × UInt64) :
    (testPair testCrates tables harness params t run pair).Succeeds (self.withReserves r) ↔
      (testPair testCrates tables harness params t run pair).Succeeds self := by
  constructor
  · rintro ⟨⟨⟩, amm', h⟩
    obtain ⟨bank, test, hload, hrun⟩ := testPair_eq_ok.1 h
    exact ⟨(), amm', testPair_eq_ok.2 ⟨bank, test,
      (loadProgramTest_withReserves hread hignores r).1 hload, hrun⟩⟩
  · rintro ⟨⟨⟩, amm', h⟩
    obtain ⟨bank, test, hload, hrun⟩ := testPair_eq_ok.1 h
    exact ⟨(), amm', testPair_eq_ok.2 ⟨bank, test,
      (loadProgramTest_withReserves hread hignores r).2 hload, hrun⟩⟩

/-- The loop over the pairs succeeds where the test of each pair does, from the pool at the start.
-/
theorem testPairs_succeeds_iff (hread : crates.ReadsAccountMap) (hignores : params.IgnoresReserves)
    {runs : Nat → TestRun testCrates (SplTokenSwapAmm crates)} (passed : Bool)
    {pairs : List (Pubkey × Pubkey)} {self : SplTokenSwapAmm crates} :
    (testPairs testCrates tables harness params t runs passed pairs).Succeeds self ↔
      ∀ i pair, pairs[i]? = some pair →
        (testPair testCrates tables harness params t (runs i) pair).Succeeds self := by
  induction pairs generalizing runs passed self with
  | nil => exact iff_of_true ⟨passed, self, rfl⟩ fun i pair h => nomatch h
  | cons pair pairs ih =>
    -- a test that passed leaves the pool with other reserves, which later tests do not see
    have hleft : ∀ self₁, testPair testCrates tables harness params t (runs 0) pair self =
        .ok () self₁ → ∃ r, self₁ = self.withReserves r := by
      intro self₁ h
      obtain ⟨bank, test, hload, -⟩ := testPair_eq_ok.1 h
      exact loadProgramTest_reserves hread hload
    constructor
    · rintro ⟨passed', self', h⟩
      obtain ⟨⟨⟩, self₁, hpair, hrest⟩ := RustM.bind_ok.1 h
      obtain ⟨r, rfl⟩ := hleft self₁ hpair
      intro i pair' hi
      cases i with
      | zero =>
        obtain rfl := Option.some.inj hi
        exact ⟨(), _, hpair⟩
      | succ i =>
        exact (testPair_withReserves hread hignores r).1
          ((ih true).1 ⟨passed', self', hrest⟩ i pair' hi)
    · intro hall
      obtain ⟨⟨⟩, self₁, hpair⟩ := hall 0 pair rfl
      obtain ⟨r, rfl⟩ := hleft self₁ hpair
      obtain ⟨passed', self', hrest⟩ := (ih true).2 fun i pair' hi =>
        (testPair_withReserves hread hignores r).2 (hall (i + 1) pair' hi)
      exact ⟨passed', self', RustM.bind_ok.2 ⟨(), _, hpair, hrest⟩⟩

/-- The pairs a test of a pool runs over. -/
def QuotingParams.pairs (params : QuotingParams crates (SplTokenSwapAmm crates))
    (self : SplTokenSwapAmm crates) : List (Pubkey × Pubkey) :=
  params.restrictedMintPermutations.getD
    [(self.reserveMints.1, self.reserveMints.2), (self.reserveMints.2, self.reserveMints.1)]

/-- A test that passes has run over its pairs. -/
theorem testPairs_of_testQuotingWithAmm
    {runs : Nat → TestRun testCrates (SplTokenSwapAmm crates)} {self : SplTokenSwapAmm crates}
    (h : (testQuotingWithAmm testCrates tables harness params t runs).Succeeds self) :
    params.pairs self ≠ [] ∧
      (testPairs testCrates tables harness params t runs false (params.pairs self)).Succeeds
        self := by
  have hpairs : getTokenMintsPermutations self = .ok [(self.reserveMints.1, self.reserveMints.2),
      (self.reserveMints.2, self.reserveMints.1)] := rfl
  obtain ⟨⟨⟩, self', h⟩ := h
  unfold testQuotingWithAmm at h
  rw [RustM.get_bind] at h
  obtain ⟨pairs, hfound, h⟩ := RustM.liftM_bind_ok.1 h
  obtain rfl := Except.ok.inj (hpairs.symm.trans hfound)
  obtain ⟨passed, self₁, hloop, hassert⟩ := RustM.bind_ok.1 h
  obtain ⟨hpassed, -⟩ := RustM.liftM_eq_ok.1 hassert
  refine ⟨?_, passed, self₁, hloop⟩
  exact ((testPairs_value hloop).1 (assert_eq_ok.1 hpassed)).resolve_left Bool.false_ne_true

/-- A test passes where it has run over its pairs. -/
theorem testQuotingWithAmm_of_testPairs
    {runs : Nat → TestRun testCrates (SplTokenSwapAmm crates)} {self : SplTokenSwapAmm crates}
    (hne : params.pairs self ≠ [])
    (h : (testPairs testCrates tables harness params t runs false (params.pairs self)).Succeeds
      self) :
    (testQuotingWithAmm testCrates tables harness params t runs).Succeeds self := by
  have hpairs : getTokenMintsPermutations self = .ok [(self.reserveMints.1, self.reserveMints.2),
      (self.reserveMints.2, self.reserveMints.1)] := rfl
  obtain ⟨passed, self', hloop⟩ := h
  have hpassed := (testPairs_value hloop).2 (.inr hne)
  refine ⟨(), self', ?_⟩
  unfold testQuotingWithAmm
  rw [RustM.get_bind]
  refine RustM.liftM_bind_ok.2 ⟨_, hpairs, RustM.bind_ok.2 ⟨passed, self', hloop, ?_⟩⟩
  exact RustM.liftM_eq_ok.2 ⟨assert_eq_ok.2 hpassed, rfl⟩

/-- **A test of a pool is the tests of its pairs.** It passes exactly where there is a pair and the
test of each pair passes for itself, from the pool at the start: no pair's test changes what a later
one sees. -/
theorem testQuotingWithAmm_iff (hread : crates.ReadsAccountMap) (hignores : params.IgnoresReserves)
    {runs : Nat → TestRun testCrates (SplTokenSwapAmm crates)} {self : SplTokenSwapAmm crates} :
    (testQuotingWithAmm testCrates tables harness params t runs).Succeeds self ↔
      params.pairs self ≠ [] ∧ ∀ i pair, (params.pairs self)[i]? = some pair →
        (testPair testCrates tables harness params t (runs i) pair).Succeeds self := by
  rw [← testPairs_succeeds_iff hread hignores false]
  exact ⟨testPairs_of_testQuotingWithAmm, fun h => testQuotingWithAmm_of_testPairs h.1 h.2⟩

end

/-! ## What a test certifies -/

/-- The parameters of `test_exact_in_amms!`. -/
def exactInParams (crates : Crates) (tolerance : UInt64) (useSharedAccounts : Bool) :
    QuotingParams crates (SplTokenSwapAmm crates) where
  tolerance
  useSharedAccounts
  swapMode := .exactIn
  beforeTestSetup := none
  expectError := none
  restrictedMintPermutations := none

/-- The parameters of `test_exact_out_amms!`. -/
def exactOutParams (crates : Crates) (tolerance : UInt64) (useSharedAccounts : Bool) :
    QuotingParams crates (SplTokenSwapAmm crates) :=
  { exactInParams crates tolerance useSharedAccounts with swapMode := .exactOut }

section
variable {crates : Crates} {testCrates : ProgramTestCrates crates} {tables : TokenTables}

/-- What a test for a key has done. -/
theorem testQuotingForAmmKey_eq_ok {network : String → RpcNode crates} {ammKey : Pubkey}
    {option : Option String} {params : QuotingParams crates (SplTokenSwapAmm crates)}
    {t : FileTree String} {runs : Nat → TestRun testCrates (SplTokenSwapAmm crates)} :
    testQuotingForAmmKey testCrates tables network ammKey option params t runs = .ok () ↔
      ∃ keyedAccount clock made,
        (AmmTestHarness.newWithRpcUrl network "" ammKey option).getKeyedAccountFromSnapshot t =
          .ok keyedAccount ∧
        (AmmTestHarness.newWithRpcUrl network "" ammKey option).getClock
          testCrates.toCommandCrates t = .ok clock ∧
        SplTokenSwapAmm.fromKeyedAccount keyedAccount = .ok made ∧
        (testQuotingWithAmm testCrates tables
          (AmmTestHarness.newWithRpcUrl network "" ammKey option) params t runs).Succeeds made := by
  unfold testQuotingForAmmKey
  simp only [Outcome.bind_ok, Outcome.unwrap_eq_ok]
  constructor
  · rintro ⟨keyedAccount, hkeyed, clock, hclock, made, hmade, ⟨⟨⟩, amm⟩, hrun, -⟩
    exact ⟨keyedAccount, clock, made, hkeyed, hclock, hmade, (), amm, RustM.on_eq_ok.1 hrun⟩
  · rintro ⟨keyedAccount, clock, made, hkeyed, hclock, hmade, ⟨⟩, amm, hrun⟩
    exact ⟨keyedAccount, hkeyed, clock, hclock, made, hmade, ((), amm), RustM.on_eq_ok.2 hrun, rfl⟩

open AmmTestHarnessProgramTest in
/-- A run certifies a pair of mints of a pool that is live on a chain: its bank agrees with the
chain, the comparison returns there and has sent one transaction, that of the swap it prepared, the
payer and the user signed for it, the balances of the user move the right way, and the attempt that
was sent, which the pool prices as it is on the chain, is accepted. -/
def Certifies (tables : TokenTables) (params : QuotingParams crates (SplTokenSwapAmm crates))
    (chain : AccountMap) (live : SplTokenSwapAmm crates)
    (run : TestRun testCrates (SplTokenSwapAmm crates)) (pair : Pubkey × Pubkey) : Prop :=
  ∃ bank test initial s accounts swapIx sourceDiff destinationDiff context',
    LoadedBank testCrates tables chain live run.keypair bank test ∧
    test.assertQuoteMatchesSimulatedSwap tables (params.swapParams live pair)
      (run.simulate bank test (params.swapParams live pair)) (bank.context testCrates) =
        .ok () context' ∧
    context'.transactions = [[crates.setComputeUnitLimit 1400000, swapIx]] ∧
    (params.swapParams live pair).initialAmount tables = some initial ∧
    Prepared tables test (params.swapParams live pair) s accounts swapIx ∧
    Signs crates test (bank.context testCrates) swapIx ∧
    Moves (bank.context testCrates) (run.simulate bank test (params.swapParams live pair)) accounts
      sourceDiff destinationDiff ∧
    Accepts (params.swapParams live pair) initial s.amount
      (run.simulate bank test (params.swapParams live pair)).result sourceDiff destinationDiff

/-- A test that passes on the snapshot of a live pool has certified the pool for each pair. -/
theorem Live.certifies (hread : crates.ReadsAccountMap) (hprint : crates.PrintsKeys)
    (hencode : crates.EncodesAccounts) (hvalues : crates.EncodesValues)
    (hglob : crates.MatchesGlobs) (hsetsClock : testCrates.SetsClock)
    (hkeeps : testCrates.KeepsReadonly) (htransfer : testCrates.TransfersBetween)
    (htables : tables.token2022MintAndInAmount = []) {network : String → RpcNode crates}
    {ammKey : Pubkey} {option : Option String}
    {params : QuotingParams crates (SplTokenSwapAmm crates)}
    (hsetup : params.beforeTestSetup = none)
    {chain : AccountMap} {live : SplTokenSwapAmm crates}
    (hlive : Live testCrates.toCommandCrates chain ammKey live)
    (hspares : live.SparesPlaceholder chain)
    (hplain : (AmmTestHarness.newWithRpcUrl network "" ammKey option).PlainOption)
    {t : FileTree String}
    (hfiles : t.subtree (AmmTestHarness.newWithRpcUrl network "" ammKey option).snapshotPath =
      FileTree.dirOf (AmmTestHarness.poolFiles chain live)) {snapshot : AccountMap}
    (hsnapshot : snapshot = (AmmTestHarness.livingAccounts chain).restrict live.snapshotAccounts)
    {runs : Nat → TestRun testCrates (SplTokenSwapAmm crates)}
    (hstart : testCrates.StartsWithAccounts (programTestOf live snapshot))
    (hfresh : ∀ i, FreshKeys testCrates
      (testCrates.startWithContext (programTestOf live snapshot)).payer (runs i).keypair snapshot
      live.getReserveMints)
    (h : testQuotingForAmmKey testCrates tables network ammKey option params t runs = .ok ()) :
    params.pairs live ≠ [] ∧ ∀ i pair, (params.pairs live)[i]? = some pair →
      Certifies tables params chain live (runs i) pair := by
  have hreplaces := FileTree.replacesDir_of_subtree hfiles
  have hrestrict := SplTokenSwapAmm.restrict_collectedAccounts_iff.2 hspares
  have hload := hplain.loadAccountsSnapshot_eq hprint hencode hglob hreplaces
  rw [hrestrict, ← hsnapshot] at hload
  have hchain : ∀ k account, snapshot k = some account → chain k = some account := by
    intro k account hk
    rw [hsnapshot, HashMap.restrict, Option.ite_none_right_eq_some] at hk
    exact (AmmTestHarness.livingAccounts_eq_some.1 hk.2).1
  obtain ⟨keyedAccount, -, made, hkeyed, -, hmade, hrun⟩ := testQuotingForAmmKey_eq_ok.1 h
  -- the pool the test starts from is the one made on the chain
  obtain ⟨account, made', haccount, hfactory, hupdate⟩ := hlive.pool
  rw [AmmTestHarness.getKeyedAccountFromSnapshot_eq _ hprint hencode hvalues hreplaces, hrestrict,
    ← hsnapshot] at hkeyed
  split at hkeyed
  · next account' haccount' =>
    obtain rfl := Except.ok.inj hkeyed
    obtain rfl : account = account' :=
      Option.some.inj (haccount.symm.trans (hchain _ _ haccount'))
    obtain rfl : made = made' := by
      rw [ammFactory] at hfactory
      split at hfactory
      · exact Except.ok.inj (hmade.symm.trans hfactory)
      · cases hfactory
    have hsame : params.pairs made = params.pairs live ∧
        programTestOf made snapshot = programTestOf live snapshot := by
      obtain ⟨r, -, hr⟩ := (SplTokenSwapAmm.update_eq_ok hread).1 hupdate
      rw [hr]
      exact ⟨rfl, rfl⟩
    obtain ⟨hsame, hprogram⟩ := hsame
    rw [← hprogram] at hstart hfresh
    have hignores := QuotingParams.ignoresReserves_of_none hsetup
    obtain ⟨hne, hpairs⟩ := testPairs_of_testQuotingWithAmm hrun
    rw [hsame] at hne hpairs
    refine ⟨hne, fun i pair hi => ?_⟩
    obtain ⟨⟨⟩, amm, hpair⟩ := (testPairs_succeeds_iff hread hignores false).1 hpairs i pair hi
    obtain ⟨bank, test, hbank, hcompare⟩ := testPair_eq_ok.1 hpair
    rw [hsetup] at hbank
    -- what a test has loaded updates the pool as the chain does
    have hloaded : SplTokenSwapAmm.update snapshot made = .ok () live := by
      obtain ⟨-, snapshot', clock, bank₁, hload', -, htimes, -, -⟩ :=
        AmmTestHarness.loadProgramTest_eq_ok.1 hbank
      obtain rfl : snapshot = snapshot' := Except.ok.inj (hload.symm.trans hload')
      have hamm := (SplTokenSwapAmm.times_updateAmmPrecise_eq_ok hread).1 htimes
      cases hupdate.symm.trans (SplTokenSwapAmm.update_mono hread hchain hamm)
      exact hamm
    obtain ⟨rfl, hbank⟩ := AmmTestHarness.loadProgramTest_of_update hread hsetsClock hkeeps
      htransfer htables hload hsnapshot hloaded hstart (hfresh i) hbank
    obtain ⟨⟨⟩, context', hcompare⟩ := hcompare
    obtain ⟨initial, s, accounts, swapIx, sourceDiff, destinationDiff, hinitial, hprepared, hsigns,
      hmoves, haccepts, hcontext⟩ := AmmTestHarnessProgramTest.accepts_of_eq_ok hcompare
    have hsent : context'.transactions = [[crates.setComputeUnitLimit 1400000, swapIx]] := by
      rw [hcontext]
      rfl
    exact ⟨bank, test, initial, s, accounts, swapIx, sourceDiff, destinationDiff, context', hbank,
      hcompare, hsent, hinitial, hprepared, hsigns, hmoves, haccepts⟩
  · cases hkeyed

/-- Without a snapshot, a test finds no account for its AMM. -/
theorem AmmTestHarness.getKeyedAccountFromSnapshot_of_none (hprint : crates.PrintsKeys)
    {self : AmmTestHarness crates} {t : FileTree String} (h : t.node self.snapshotPath = none)
    (keyedAccount : KeyedAccount crates.Value) :
    self.getKeyedAccountFromSnapshot t ≠ .ok keyedAccount := by
  have hpath : FilePath.ofString ("tests/fixtures/accounts/" ++ self.directoryName ++ "/" ++
      accountFile crates self.key) = self.snapshotPath ++ [accountFile crates self.key] := by
    rw [FilePath.ofString_append, ofString_accountFile hprint, snapshotPath]
  have hnone : t.node (self.snapshotPath ++ [accountFile crates self.key]) = none := by
    rw [← Option.not_isSome_iff_eq_none]
    intro hsome
    cases h.symm.trans (t.parent _ _ hsome)
  rw [getKeyedAccountFromSnapshot]
  simp only [hpath, FileTree.readFile, hnone]
  intro hok
  cases hok

/-- **A test that passes certifies the chain of the last snapshot.** From a tree without a snapshot
of a pool, after any sequence of commands, a test for the pool passes only if a command for it
succeeded. Where the last such command spared its placeholder, and the bank starts with the accounts
of its snapshot and for new keys, the test has then, for each pair of the pool that was live at that
command, run on a bank that agrees with its chain, and has seen that pool price the swap it sent
within the tolerance. -/
theorem testQuotingForAmmKey_certifies (hread : crates.ReadsAccountMap)
    (hprint : crates.PrintsKeys) (hencode : crates.EncodesAccounts)
    (hvalues : crates.EncodesValues) (horder : crates.OrdersHashSets)
    (hglob : crates.MatchesGlobs) (hconverts : testCrates.toCommandCrates.ConvertsAccounts)
    (hsetsClock : testCrates.SetsClock) (hkeeps : testCrates.KeepsReadonly)
    (htransfer : testCrates.TransfersBetween) (htables : tables.token2022MintAndInAmount = [])
    (cs : List (Invocation crates)) {t : FileTree String}
    (hfixtures : t.node fixturesPath = some .dir) (id : SnapshotId)
    (hplain : (id.harness crates).PlainOption) (hnone : t.node (id.directory crates) = none)
    {network : String → RpcNode crates}
    {params : QuotingParams crates (SplTokenSwapAmm crates)}
    (hsetup : params.beforeTestSetup = none)
    {runs : Nat → TestRun testCrates (SplTokenSwapAmm crates)}
    (h : testQuotingForAmmKey testCrates tables network id.key id.option params
      (shell testCrates.toCommandCrates tables t cs) runs = .ok ()) :
    ∃ c live snapshot, LastFor testCrates.toCommandCrates tables t cs id c ∧
      Live testCrates.toCommandCrates c.chain id.key live ∧
      snapshot = (AmmTestHarness.livingAccounts c.chain).restrict live.snapshotAccounts ∧
      (live.SparesPlaceholder c.chain →
        testCrates.StartsWithAccounts (programTestOf live snapshot) →
        (∀ i, FreshKeys testCrates
          (testCrates.startWithContext (programTestOf live snapshot)).payer (runs i).keypair
          snapshot live.getReserveMints) →
        params.pairs live ≠ [] ∧ ∀ i pair, (params.pairs live)[i]? = some pair →
          Certifies tables params c.chain live (runs i) pair) := by
  rcases shell_cases tables hread hprint horder hconverts cs hfixtures id with
    ⟨-, hsame⟩ | ⟨c, live, hlast, hlive, hfiles⟩
  · obtain ⟨keyedAccount, -, -, hkeyed, -⟩ := testQuotingForAmmKey_eq_ok.1 h
    have hdirectory : (shell testCrates.toCommandCrates tables t cs).node (id.directory crates) =
        none := by
      have htop := congrFun hsame []
      rw [FileTree.subtree, FileTree.subtree, List.append_nil, hnone] at htop
      exact htop
    exact absurd hkeyed
      (AmmTestHarness.getKeyedAccountFromSnapshot_of_none hprint hdirectory keyedAccount)
  · refine ⟨c, live, _, hlast, hlive, rfl, fun hspares hstart hfresh => ?_⟩
    exact hlive.certifies hread hprint hencode hvalues hglob hsetsClock hkeeps htransfer htables
      hsetup hspares hplain hfiles rfl hstart hfresh h

/-- What a token account of a bank holds is the balance a test reads. -/
theorem Bank.Holds.tokenAccounts (hunpack : testCrates.UnpacksTokenAccounts) {bank : Bank}
    {k owner mint : Pubkey} {balance : UInt64} (h : bank.Holds testCrates k owner mint balance) :
    (bank.context testCrates).tokenAccounts k = some ⟨balance⟩ := by
  obtain ⟨account, haccount, hnew⟩ := h
  obtain ⟨isNative, hdata⟩ := data_newTokenAccount hnew
  simp only [Bank.context, haccount, Option.bind_some, hdata]
  exact hunpack _ nofun

end

/-! ## The example pool -/

section
open Reference AmmTestHarness AmmTestHarnessProgramTest

/-- The amount a bank of the examples is paid, and what it pays. -/
def paid (p : AmmTestSwapParams bankCrates (SplTokenSwapAmm bankCrates)) : UInt64 × UInt64 :=
  let amount := halved ((p.initialAmount tokenTables).getD 0) 1
  match p.quote amount with
  | .ok quote => (amount, quote.outAmount)
  | .error _ => (amount, 0)

/-- A run on a bank that pays what is quoted. -/
def testRun : TestRun referenceTestCrates (SplTokenSwapAmm bankCrates) where
  keypair := user
  simulate bank _ p := {
    result := .ok ()
    tokenAccounts := fun k => ((bank.context referenceTestCrates).tokenAccounts k).map
      fun account =>
        if k = referenceTestCrates.ata user p.sourceMint then ⟨account.amount - (paid p).1⟩
        else if k = referenceTestCrates.ata user p.destinationMint then
          ⟨account.amount + (paid p).2⟩
        else account }

/-- The example pool is made from its account. -/
theorem fromKeyedAccount_testPool :
    (SplTokenSwapAmm.fromKeyedAccount poolKeyedAccount : bankCrates.Result _) = .ok testPool := by
  obtain ⟨version, rest, hdata⟩ : ∃ version rest, poolKeyedAccount.account.data = version :: rest :=
    List.exists_cons_of_length_pos (by decide +kernel)
  have hrest : rest = poolAccount.data.drop 1 := (congrArg (List.drop 1) hdata).symm
  have hlabel : splTokenSwapPrograms poolKeyedAccount.account.owner = some "Orca v2" := by
    decide +kernel
  have hunpack : bankCrates.swapV1Unpack = swapV1Unpack := rfl
  rw [@fromKeyedAccount_of_cons bankCrates poolKeyedAccount _ _ _ hdata hlabel, hunpack,
    hrest, swapV1Unpack_pool]
  rfl

/-- The example pool is live on the example chain. -/
theorem live_testPool : Live referenceTestCrates.toCommandCrates clockChain poolKeyedAccount.key
    (testPool.withReserves (balanceA, balanceB)) := by
  have hmade : (ammFactory poolKeyedAccount : bankCrates.Result _) = .ok testPool := by
    rw [ammFactory_of_supported]
    · exact fromKeyedAccount_testPool
    · exact containsKey_pool
  obtain ⟨clock, hclock⟩ := Option.isSome_iff_exists.1 isSome_clock
  exact ⟨⟨clockAccount, clock, clockChain_clock, hclock⟩, poolAccount, testPool, clockChain_pool,
    hmade, update_testPool⟩

/-- Between the mints of the example pool, a swap is paid as quoted. -/
theorem moves_testRun {bank : Bank} {test : AmmTestHarnessProgramTest}
    (hbank : LoadedBank referenceTestCrates tokenTables clockChain
      (testPool.withReserves (balanceA, balanceB)) user bank test)
    {sourceMint destinationMint : Pubkey} (hsource : sourceMint ∈ [mintA, mintB])
    (hdestination : destinationMint ∈ [mintA, mintB]) (hne : sourceMint ≠ destinationMint)
    {initial : UInt64} {q : Quote bankCrates}
    (hinitial : (testSwap sourceMint destinationMint).initialAmount tokenTables = some initial)
    (hq : (testSwap sourceMint destinationMint).quote (halved initial 1) = .ok q)
    (hout : q.outAmount.toNat ≤ 5000000000) {accounts : TokenAccounts}
    (haccounts : test.tokenAccounts (testSwap sourceMint destinationMint) = some accounts) :
    ∃ sourceDiff, Moves (bank.context referenceTestCrates)
      (testRun.simulate bank test (testSwap sourceMint destinationMint)) accounts sourceDiff
      q.outAmount := by
  have huser : user ∈ [user, findJupiterProgramAuthority bankCrates 0] := List.mem_cons_self ..
  obtain ⟨inAmount, hamount, hfits, hholds⟩ :=
    hbank.setUp.holds rfl nodup_tokenTables huser hsource
  obtain ⟨outAmount, -, hfits', hholds'⟩ :=
    hbank.setUp.holds rfl nodup_tokenTables huser hdestination
  have hbefore := hholds.tokenAccounts unpacksTokenAccounts_referenceTestCrates
  have hbefore' := hholds'.tokenAccounts unpacksTokenAccounts_referenceTestCrates
  obtain rfl : initial = inAmount := Option.some.inj (hinitial.symm.trans hamount)
  have hpaid : paid (testSwap sourceMint destinationMint) = (halved initial 1, q.outAmount) := by
    simp only [paid, hinitial, Option.getD_some, hq]
  have hkeys : referenceTestCrates.ata user destinationMint ≠
      referenceTestCrates.ata user sourceMint := fun heq =>
    hne (freshKeys_testPool.injective _ huser _ huser _ hdestination _ hsource heq).2.symm
  have hafter : (testRun.simulate bank test (testSwap sourceMint destinationMint)).tokenAccounts
      (referenceTestCrates.ata user sourceMint) =
      some ⟨UInt64.ofNat (11 * initial.toNat) - halved initial 1⟩ := by
    simp only [testRun, hbefore, Option.map_some, hpaid]
    exact congrArg some (if_pos rfl)
  have hafter' : (testRun.simulate bank test (testSwap sourceMint destinationMint)).tokenAccounts
      (referenceTestCrates.ata user destinationMint) =
      some ⟨UInt64.ofNat (11 * outAmount.toNat) + q.outAmount⟩ := by
    simp only [testRun, hbefore', Option.map_some, hpaid]
    exact congrArg some ((if_neg hkeys).trans (if_pos rfl))
  have htokens := hbank.setUp.tokenAccounts_eq (p := testSwap sourceMint destinationMint) hsource
    hdestination
  obtain rfl := Option.some.inj (htokens.symm.trans haccounts)
  -- the source has eleven times what the swap starts from, and the destination has room
  have hsmall : 11 * initial.toNat < 2 ^ 64 ∧ 11 * outAmount.toNat < 2 ^ 64 := by omega
  have hbalance : (UInt64.ofNat (11 * initial.toNat)).toNat = 11 * initial.toNat :=
    UInt64.toNat_ofNat_of_lt hsmall.1
  have hbalance' : (UInt64.ofNat (11 * outAmount.toNat)).toNat = 11 * outAmount.toNat :=
    UInt64.toNat_ofNat_of_lt hsmall.2
  have hspent : halved initial 1 ≤ UInt64.ofNat (11 * initial.toNat) := by
    rw [UInt64.le_iff_toNat_le, hbalance, toNat_halved]
    omega
  have hroom : (UInt64.ofNat (11 * outAmount.toNat) + q.outAmount).toNat =
      11 * outAmount.toNat + q.outAmount.toNat := by
    rw [UInt64.toNat_add, hbalance']
    omega
  have hreceived : UInt64.ofNat (11 * outAmount.toNat) ≤
      UInt64.ofNat (11 * outAmount.toNat) + q.outAmount := by
    rw [UInt64.le_iff_toNat_le, hroom, hbalance']
    omega
  have hless : UInt64.ofNat (11 * initial.toNat) - halved initial 1 ≤
      UInt64.ofNat (11 * initial.toNat) := by
    rw [UInt64.le_iff_toNat_le, UInt64.toNat_sub_of_le _ _ hspent]
    omega
  refine ⟨_, _, _, _, _, hbefore, hbefore', hafter, hafter', ⟨hless, rfl⟩, hreceived, ?_⟩
  apply UInt64.toNat_inj.1
  rw [UInt64.toNat_sub_of_le _ _ hreceived, hroom, hbalance']
  omega

/-- The test of a pair of the example pool passes. -/
theorem succeeds_testPair {t : FileTree String}
    (hload : testHarness.loadAccountsSnapshot t = .ok testSnapshot) : ∀ swap ∈ testMints,
    (testPair referenceTestCrates tokenTables testHarness (exactInParams bankCrates 0 true) t
      testRun (swap.1, swap.2.1)).Succeeds testPool := by
  rintro ⟨sourceMint, destinationMint, initial⟩ hmem
  obtain ⟨bank, test, hrun, hbank⟩ := exists_loadedBank hload
  obtain ⟨hinitial, q, hq, hout⟩ := exists_quote_testSwap _ hmem
  dsimp only at hinitial hq
  have hserialize : (bankCrates.swapSerialize bankCrates.swapTokenSwap).isSome := by decide
  have hmints : sourceMint ∈ [mintA, mintB] ∧ destinationMint ∈ [mintA, mintB] ∧
      sourceMint ≠ destinationMint := by
    rcases List.mem_pair.1 hmem with h | h
    · obtain ⟨hsource, h⟩ := Prod.mk.inj h
      obtain ⟨hdestination, -⟩ := Prod.mk.inj h
      rw [hsource, hdestination]
      exact ⟨by simp, by simp, mintB_ne_mintA.symm⟩
    · obtain ⟨hsource, h⟩ := Prod.mk.inj h
      obtain ⟨hdestination, -⟩ := Prod.mk.inj h
      rw [hsource, hdestination]
      exact ⟨by simp, by simp, mintB_ne_mintA⟩
  obtain ⟨hsource, hdestination, hne⟩ := hmints
  obtain ⟨accounts, htokens⟩ : ∃ accounts,
      test.tokenAccounts (testSwap sourceMint destinationMint) = some accounts :=
    ⟨_, hbank.setUp.tokenAccounts_eq hsource hdestination⟩
  obtain ⟨sourceDiff, hmoves⟩ :=
    moves_testRun hbank hsource hdestination hne hinitial hq hout htokens
  have haccepts : Accepts (testSwap sourceMint destinationMint) initial (halved initial 1)
      (testRun.simulate bank test (testSwap sourceMint destinationMint)).result sourceDiff
      q.outAmount := by
    refine ⟨0, q, by decide, fun j hj hj' => absurd hj (by omega), rfl, hq, rfl, ?_⟩
    show (q.outAmount.toNat - q.outAmount.toNat : Int).natAbs ≤ 0
    rw [Int.sub_self]
    rfl
  obtain ⟨swapIx, hbuilds⟩ : ∃ swapIx, Builds tokenTables test (testSwap sourceMint destinationMint)
      accounts (halved initial 1) swapIx := exists_builds_iff.2 ⟨_, rfl, hserialize⟩
  have hsigns : Signs bankCrates test (bank.context referenceTestCrates) swapIx :=
    signsForUser_bankCrates _ _ _
      (hbuilds.signers accountsMatchIdl_bankCrates eventAuthorityMatchesIdl_bankCrates)
  exact ⟨(), _, testPair_eq_ok.2 ⟨bank, test, hrun, (), _,
    eq_ok_of_accepts hinitial htokens hbuilds hsigns hmoves haccepts⟩⟩

/-- The test of the example pool passes for each of its pairs. -/
theorem succeeds_testPairs {t : FileTree String}
    (hload : testHarness.loadAccountsSnapshot t = .ok testSnapshot) (i : Nat)
    (pair : Pubkey × Pubkey)
    (hpair : ((exactInParams bankCrates 0 true).pairs testPool)[i]? = some pair) :
    (testPair referenceTestCrates tokenTables testHarness (exactInParams bankCrates 0 true) t
      testRun pair).Succeeds testPool := by
  have hmem : pair ∈ testMints.map fun swap => (swap.1, swap.2.1) := List.mem_of_getElem? hpair
  obtain ⟨swap, hswap, rfl⟩ := List.mem_map.1 hmem
  exact succeeds_testPair hload swap hswap

/-- The test of the example pool is the tests of its two pairs. -/
theorem testQuotingWithAmm_iff_pool : ∃ t, (testQuotingWithAmm referenceTestCrates tokenTables
    testHarness (exactInParams bankCrates 0 true) t fun _ => testRun).Succeeds testPool := by
  obtain ⟨t, hreplaces⟩ := exists_replacesDir_testHarness
  have hignores : (exactInParams bankCrates 0 true).IgnoresReserves :=
    QuotingParams.ignoresReserves_of_none rfl
  exact ⟨t, (testQuotingWithAmm_iff readsAccountMap_bankCrates hignores).2
    ⟨nofun, succeeds_testPairs (loadAccountsSnapshot_testHarness hreplaces)⟩⟩

/-- The test for the key of the example pool passes. -/
theorem testQuotingForAmmKey_pool {t₀ t : FileTree String}
    (hreplaces : t₀.ReplacesDir t testHarness.snapshotPath
      (poolFiles clockChain (testPool.withReserves (balanceA, balanceB)))) :
    testQuotingForAmmKey referenceTestCrates tokenTables offline poolKeyedAccount.key none
      (exactInParams bankCrates 0 true) t (fun _ => testRun) = .ok () := by
  have hignores : (exactInParams bankCrates 0 true).IgnoresReserves :=
    QuotingParams.ignoresReserves_of_none rfl
  have hload := loadAccountsSnapshot_testHarness hreplaces
  have haccount : testSnapshot testHarness.key = some poolAccount := by
    have hmem := live_testPool.key_mem readsAccountMap_bankCrates
    have hkey : testHarness.key = poolKeyedAccount.key := rfl
    rw [hkey, testSnapshot, HashMap.restrict, if_pos hmem, livingAccounts_eq_some]
    exact ⟨clockChain_pool, rfl⟩
  have hkeyed : testHarness.getKeyedAccountFromSnapshot t = .ok poolKeyedAccount := by
    rw [testSnapshot] at haccount
    rw [testHarness.getKeyedAccountFromSnapshot_eq printsKeys_bankCrates encodesAccounts_bankCrates
      encodesValues_bankCrates hreplaces,
      SplTokenSwapAmm.restrict_collectedAccounts_iff.2 sparesPlaceholder_testPool, haccount]
    rfl
  obtain ⟨clock, hdeserialize⟩ := Option.isSome_iff_exists.1 isSome_clock
  have hclock : testHarness.getClock referenceTestCrates.toCommandCrates t = .ok clock := by
    rw [AmmTestHarness.getClock, hload, Outcome.ok_bind, testSnapshot_clock]
    simp only [hdeserialize]
    rfl
  exact testQuotingForAmmKey_eq_ok.2 ⟨poolKeyedAccount, clock, testPool, hkeyed, hclock,
    fromKeyedAccount_testPool, testQuotingWithAmm_of_testPairs (List.cons_ne_nil _ _)
      ((testPairs_succeeds_iff readsAccountMap_bankCrates hignores false).2
        (succeeds_testPairs hload))⟩

theorem convertsAccounts_referenceTestCrates :
    referenceTestCrates.toCommandCrates.ConvertsAccounts := by
  have hfrom : bankCrates.pubkeyFromStr = pubkeyFromStr := by
    dsimp only [bankCrates, Crates.withProgramAddress, referenceCrates]
  intro pubkey k account params hk
  rw [hfrom] at hk
  simp only [keyedAccountTryFrom, uiAccountDecode_encode, hk, ofExcept_ok, Outcome.ok_bind]
  rfl

/-- The commands leave a directory with the accounts of the example pool. -/
theorem subtree_poolInvocations :
    (shell referenceTestCrates.toCommandCrates tokenTables fixtures
        (poolInvocations bankCrates)).subtree ((poolSnapshot none nofun).directory bankCrates) =
      FileTree.dirOf (poolFiles clockChain (testPool.withReserves (balanceA, balanceB))) := by
  have hid := id_poolInvocation printsKeys_bankCrates none nofun
  rcases shell_cases tokenTables readsAccountMap_bankCrates printsKeys_bankCrates
    ordersHashSets_bankCrates convertsAccounts_referenceTestCrates (poolInvocations bankCrates)
    node_fixturesPath (poolSnapshot none nofun) with
    ⟨hfails, -⟩ | ⟨c, live, hlast, hlive, hfiles⟩
  · have hsucceeds :=
      ((accepts_poolInvocation printsKeys_bankCrates live_testPool hasAmounts_pool).succeeds
        tokenTables readsAccountMap_bankCrates printsKeys_bankCrates ordersHashSets_bankCrates
        convertsAccounts_referenceTestCrates node_fixturesPath hid).1
    exact absurd hsucceeds (hfails [] _ _ rfl hid)
  · have hchain := chain_poolInvocations hlast.mem hlive
    rw [hchain] at hlive hfiles
    obtain rfl := hlive.unique live_testPool
    exact hfiles

/-- The test of the example pool certifies the example chain, after a command for another snapshot
and one that failed. -/
theorem testQuotingForAmmKey_certifies_pool : ∃ c,
    LastFor referenceTestCrates.toCommandCrates tokenTables fixtures (poolInvocations bankCrates)
      (poolSnapshot none nofun) c ∧
    ∀ pair ∈ [(mintA, mintB), (mintB, mintA)],
      Certifies tokenTables (exactInParams bankCrates 0 true) clockChain
        (testPool.withReserves (balanceA, balanceB)) testRun pair := by
  have hplain : ((poolSnapshot none nofun).harness bankCrates).PlainOption := nofun
  have hnone := node_directory_fixtures printsKeys_bankCrates (poolSnapshot none nofun) []
  rw [List.append_nil] at hnone
  have hgreen := testQuotingForAmmKey_pool (FileTree.replacesDir_of_subtree subtree_poolInvocations)
  obtain ⟨c, live, snapshot, hlast, hlive, hsnapshot, hcertifies⟩ := testQuotingForAmmKey_certifies
    readsAccountMap_bankCrates printsKeys_bankCrates encodesAccounts_bankCrates
    encodesValues_bankCrates ordersHashSets_bankCrates matchesGlobs_bankCrates
    convertsAccounts_referenceTestCrates setsClock_referenceTestCrates
    keepsReadonly_referenceTestCrates transfersBetween_referenceTestCrates rfl
    (poolInvocations bankCrates) node_fixturesPath (poolSnapshot none nofun) hplain hnone rfl hgreen
  have hchain := chain_poolInvocations hlast.mem hlive
  rw [hchain] at hlive hsnapshot hcertifies
  obtain rfl := hlive.unique live_testPool
  obtain rfl : snapshot = testSnapshot := hsnapshot
  obtain ⟨-, hpairs⟩ := hcertifies sparesPlaceholder_testPool
    (startsWithAccounts_referenceTestCrates _) fun _ => freshKeys_testPool
  refine ⟨c, hlast, fun pair hpair => ?_⟩
  obtain ⟨i, hi⟩ := List.mem_iff_getElem?.1 hpair
  exact hpairs i pair hi

end

end JupiterAmm
