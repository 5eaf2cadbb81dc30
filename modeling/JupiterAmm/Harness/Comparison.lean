import JupiterAmm.Harness.Simulate

/-!
# When a comparison passes

`assert_quote_matches_simulated_swap` in one equation (`passes_iff`): which attempt it sends, and
what it then asks of the quote, the transaction and the balances, for either kind of expectation.
`assert_out_amount_matches_simulated_swap` does the last part of it for an instruction of the
caller's. Given the instruction the comparison would send, and its quote, both come to the same
verdict (`assertOutAmount_iff`).
-/

namespace JupiterAmm

open Rust Borsh

/-- `ProgramTestUser::get_user_ata`. -/
def ProgramTestUser.getUserAta (crates : Crates) (self : ProgramTestUser) (mint : Pubkey) :
    crates.Result Pubkey := do
  let entry ← unwrap (self.mintToAtaWithProgramId mint)
  pure entry.1

namespace AmmTestHarnessProgramTest

/-- `AmmTestHarnessProgramTest::assert_out_amount_matches_simulated_swap`. -/
def assertOutAmountMatchesSimulatedSwap (crates : Crates) {BanksClientError : Type}
    (self : AmmTestHarnessProgramTest) (simulation : Simulation BanksClientError)
    (swapInstruction : Instruction) (_inputMint outputMint : Pubkey) (_inAmount outAmount : UInt64)
    (tolerance : Option UInt64) : RustM crates.Error ProgramTestContext Unit := do
  let userOutputAccount ← self.programTestUser.getUserAta crates outputMint
  let tokenAccountBefore ← getTokenAccount userOutputAccount
  let processTransactionResult ←
    processTransaction simulation [crates.setComputeUnitLimit 1400000, swapInstruction]
      [self.programTestUser.pubkey]
  (assert (processTransactionResult.isOk = true) : crates.Result Unit)
  let tokenAccountAfter ← getTokenAccount userOutputAccount
  let simulationAmount ← (unwrap (checkedSub tokenAccountAfter.amount
    tokenAccountBefore.amount) : crates.Result UInt64)
  (assert ((outAmount.toNat - simulationAmount.toNat : Int).natAbs ≤
    (tolerance.map UInt64.toNat).getD 0) : crates.Result Unit)

end AmmTestHarnessProgramTest

namespace AmmTestHarnessProgramTest

/-! ## What a comparison prepares -/

section
variable {crates : Crates} {α : Type} [Amm crates α]

/-- What a comparison has made before it sends a transaction: the token accounts, what the retry
loop left, and the swap instruction. -/
structure Prepared (tables : TokenTables) (test : AmmTestHarnessProgramTest)
    (p : AmmTestSwapParams crates α) (s : Attempts crates) (accounts : TokenAccounts)
    (swapIx : Instruction) : Prop where
  tokenAccounts : test.tokenAccounts p = some accounts
  attempts : ∃ initial, p.initialAmount tables = some initial ∧
    Attempts.loop p.quote 10 (Attempts.refused p.quote initial 0) = .ok s
  instruction : Builds tables test p accounts s.amount swapIx

variable {BanksClientError : Type} {tables : TokenTables} {self : AmmTestHarnessProgramTest}
  {p : AmmTestSwapParams crates α} {simulation : Simulation BanksClientError}
  {context context' : ProgramTestContext} {s : Attempts crates} {accounts : TokenAccounts}
  {swapIx : Instruction}

/-- A comparison prepares, signs, sends, and comes to its verdict. -/
theorem eq_ok_iff_prepared :
    self.assertQuoteMatchesSimulatedSwap tables p simulation context = .ok () context' ↔
      ∃ s accounts swapIx sourceDiff destinationDiff, Prepared tables self p s accounts swapIx ∧
        Signs crates self context swapIx ∧
        Moves context simulation accounts sourceDiff destinationDiff ∧
        verdict p s simulation.result sourceDiff destinationDiff = .ok () ∧
        context' = { context with
          tokenAccounts := simulation.tokenAccounts
          transactions :=
            context.transactions ++ [[crates.setComputeUnitLimit 1400000, swapIx]] } := by
  rw [assertQuoteMatchesSimulatedSwap_eq_ok]
  constructor
  · rintro ⟨accounts, initial, s, swapIx, sourceDiff, destinationDiff, haccounts, hinitial, hs,
      hbuilds, hsigns, hmoves, hverdict, hcontext⟩
    exact ⟨s, accounts, swapIx, sourceDiff, destinationDiff, ⟨haccounts, ⟨initial, hinitial, hs⟩,
      hbuilds⟩, hsigns, hmoves, hverdict, hcontext⟩
  · rintro ⟨s, accounts, swapIx, sourceDiff, destinationDiff, ⟨haccounts, ⟨initial, hinitial, hs⟩,
      hbuilds⟩, hsigns, hmoves, hverdict, hcontext⟩
    exact ⟨accounts, initial, s, swapIx, sourceDiff, destinationDiff, haccounts, hinitial, hs,
      hbuilds, hsigns, hmoves, hverdict, hcontext⟩

/-- A comparison prepares one thing only. -/
theorem Prepared.unique {s' : Attempts crates} {accounts' : TokenAccounts} {swapIx' : Instruction}
    (h : Prepared tables self p s accounts swapIx)
    (h' : Prepared tables self p s' accounts' swapIx') :
    s = s' ∧ accounts = accounts' ∧ swapIx = swapIx' := by
  obtain ⟨haccounts, ⟨initial, hinitial, hs⟩, metas, swap, data, hmetas, hswap, hdata, rfl⟩ := h
  obtain ⟨haccounts', ⟨initial', hinitial', hs'⟩, metas', swap', data', hmetas', hswap', hdata',
    rfl⟩ := h'
  obtain rfl := Option.some.inj (haccounts.symm.trans haccounts')
  obtain rfl := Option.some.inj (hinitial.symm.trans hinitial')
  obtain rfl := Except.ok.inj (hs.symm.trans hs')
  obtain rfl := Except.ok.inj (hmetas.symm.trans hmetas')
  obtain rfl := Except.ok.inj (hswap.symm.trans hswap')
  obtain rfl := Except.ok.inj (hdata.symm.trans hdata')
  exact ⟨rfl, rfl, rfl⟩

/-! ## The attempt that is sent -/

variable (p) in
/-- What a comparison asks of the attempt it sends, the one of the given amount. Where no error is
expected: it is the first attempt that is quoted, the transaction succeeded, and the quote agrees
with what was moved. Where one is expected: some attempt was refused with it, as all before it, and
the attempt sent is the next one, which is quoted, or the tenth; and the transaction failed. -/
def Accepts (initial amount : UInt64) (result : Except BanksClientError Unit)
    (sourceDiff destinationDiff : UInt64) : Prop :=
  match p.expectedError with
  | none => ∃ k q, k < 10 ∧ (∀ j, 1 ≤ j → j ≤ k → (p.quote (halved initial j)).IsErr) ∧
    amount = halved initial (k + 1) ∧ p.quote amount = .ok q ∧ result = .ok () ∧
    QuoteAgrees p amount q sourceDiff destinationDiff
  | some expected => ∃ k e, 1 ≤ k ∧ k ≤ 10 ∧
    (∀ j, 1 ≤ j → j ≤ k → (p.quote (halved initial j)).IsErr) ∧
    p.quote (halved initial k) = .error (.err e) ∧ ErrorMatches expected e ∧
    (k = 10 ∧ amount = halved initial 10 ∨
      k < 10 ∧ amount = halved initial (k + 1) ∧ ∃ q, p.quote amount = .ok q) ∧
    ∃ error, result = .error error

/-- What the retry loop leaves passes the verdict exactly where its attempt is accepted. -/
theorem accepts_iff {initial amount : UInt64} {result : Except BanksClientError Unit}
    {sourceDiff destinationDiff : UInt64} :
    (∃ s, Attempts.loop p.quote 10 (Attempts.refused p.quote initial 0) = .ok s ∧
      s.amount = amount ∧ verdict p s result sourceDiff destinationDiff = .ok ()) ↔
    Accepts p initial amount result sourceDiff destinationDiff := by
  unfold Accepts
  constructor
  · rintro ⟨s, hs, rfl, hverdict⟩
    cases hexpected : p.expectedError with
    | none =>
      obtain ⟨hresult, q, hq, hagrees⟩ := verdict_of_none hexpected hverdict
      rcases (Attempts.loop_refused rfl s).1 hs with ⟨k, q', -, hk, hrefused, hq', rfl⟩ | ⟨-, rfl⟩
      · cases hq
        exact ⟨k, q, hk, fun j hj hj' => hrefused j hj hj', rfl, hq', hresult, hagrees⟩
      · cases hq
    | some expected =>
      obtain ⟨⟨e, he, hmatch⟩, hfailed⟩ := (verdict_of_some hexpected).1 hverdict
      rcases (Attempts.loop_refused rfl s).1 hs with
        ⟨k, q, -, hk, hrefused, hq, rfl⟩ | ⟨hrefused, rfl⟩
      · obtain ⟨hk', he⟩ := Attempts.errorAt_eq_some.1 he
        exact ⟨k, e, hk', Nat.le_of_lt hk, fun j hj hj' => hrefused j hj hj', he, hmatch,
          .inr ⟨hk, rfl, q, hq⟩, hfailed⟩
      · have he : Attempts.errorAt p.quote initial 10 = some e := he
        exact ⟨10, e, by decide, Nat.le_refl _, fun j hj hj' => hrefused j hj hj',
          (Attempts.errorAt_eq_some.1 he).2, hmatch, .inl ⟨rfl, rfl⟩, hfailed⟩
  · cases hexpected : p.expectedError with
    | none =>
      rintro ⟨k, q, hk, hrefused, rfl, hq, hresult, hagrees⟩
      have hloop : Attempts.loop p.quote 10 (Attempts.refused p.quote initial 0) =
          .ok (Attempts.quoted p.quote initial k q) :=
        (Attempts.loop_refused rfl _).2
          (.inl ⟨k, q, Nat.zero_le k, hk, fun j hj hj' => hrefused j hj hj', hq, rfl⟩)
      exact ⟨_, hloop, rfl, (verdict_of_quoted hexpected rfl hq).2 ⟨hresult, hagrees⟩⟩
    | some expected =>
      rintro ⟨k, e, hk, hk', hrefused, he, hmatch, hsent, hfailed⟩
      have herror : Attempts.errorAt p.quote initial k = some e :=
        Attempts.errorAt_eq_some.2 ⟨hk, he⟩
      rcases hsent with ⟨rfl, rfl⟩ | ⟨hk', rfl, q, hq⟩
      · have hloop : Attempts.loop p.quote 10 (Attempts.refused p.quote initial 0) =
            .ok (Attempts.refused p.quote initial 10) :=
          (Attempts.loop_refused rfl _).2 (.inr ⟨fun j hj hj' => hrefused j hj hj', rfl⟩)
        exact ⟨_, hloop, rfl, (verdict_of_some hexpected).2 ⟨⟨e, herror, hmatch⟩, hfailed⟩⟩
      · have hloop : Attempts.loop p.quote 10 (Attempts.refused p.quote initial 0) =
            .ok (Attempts.quoted p.quote initial k q) :=
          (Attempts.loop_refused rfl _).2
            (.inl ⟨k, q, Nat.zero_le k, hk', fun j hj hj' => hrefused j hj hj', hq, rfl⟩)
        exact ⟨_, hloop, rfl, (verdict_of_some hexpected).2 ⟨⟨e, herror, hmatch⟩, hfailed⟩⟩

/-- A comparison that returns has signed and sent what it prepared, and accepted its attempt. -/
theorem accepts_of_eq_ok
    (h : self.assertQuoteMatchesSimulatedSwap tables p simulation context = .ok () context') :
    ∃ initial s accounts swapIx sourceDiff destinationDiff,
      p.initialAmount tables = some initial ∧ Prepared tables self p s accounts swapIx ∧
      Signs crates self context swapIx ∧
      Moves context simulation accounts sourceDiff destinationDiff ∧
      Accepts p initial s.amount simulation.result sourceDiff destinationDiff ∧
      context' = { context with
        tokenAccounts := simulation.tokenAccounts
        transactions :=
          context.transactions ++ [[crates.setComputeUnitLimit 1400000, swapIx]] } := by
  obtain ⟨s, accounts, swapIx, sourceDiff, destinationDiff, hprepared, hsigns, hmoves, hverdict,
    hcontext⟩ := eq_ok_iff_prepared.1 h
  obtain ⟨initial, hinitial, hs⟩ := hprepared.attempts
  exact ⟨initial, s, accounts, swapIx, sourceDiff, destinationDiff, hinitial, hprepared, hsigns,
    hmoves, accepts_iff.1 ⟨s, hs, rfl, hverdict⟩, hcontext⟩

/-- A comparison whose attempt is accepted returns, and has sent the instruction of the attempt. -/
theorem eq_ok_of_accepts {initial amount sourceDiff destinationDiff : UInt64}
    (hinitial : p.initialAmount tables = some initial)
    (haccounts : self.tokenAccounts p = some accounts)
    (hbuilds : Builds tables self p accounts amount swapIx)
    (hsigns : Signs crates self context swapIx)
    (hmoves : Moves context simulation accounts sourceDiff destinationDiff)
    (haccepts : Accepts p initial amount simulation.result sourceDiff destinationDiff) :
    self.assertQuoteMatchesSimulatedSwap tables p simulation context = .ok () { context with
      tokenAccounts := simulation.tokenAccounts
      transactions := context.transactions ++ [[crates.setComputeUnitLimit 1400000, swapIx]] } := by
  obtain ⟨s, hs, rfl, hverdict⟩ := accepts_iff.2 haccepts
  exact eq_ok_iff_prepared.2 ⟨s, accounts, swapIx, sourceDiff, destinationDiff,
    ⟨haccounts, ⟨initial, hinitial, hs⟩, hbuilds⟩, hsigns, hmoves, hverdict, rfl⟩

theorem getUserAta_eq_ok {user : ProgramTestUser} {mint k : Pubkey} :
    user.getUserAta crates mint = .ok k ↔
      ∃ program, user.mintToAtaWithProgramId mint = some (k, program) := by
  simp only [ProgramTestUser.getUserAta, Outcome.bind_ok, unwrap_eq_ok]
  constructor
  · rintro ⟨⟨k', program⟩, hentry, hk⟩
    cases hk
    exact ⟨program, hentry⟩
  · rintro ⟨program, hentry⟩
    exact ⟨_, hentry, rfl⟩

/-- When the check of an out amount passes. -/
theorem assertOutAmount_eq_ok {ix : Instruction} {inputMint outputMint : Pubkey}
    {inAmount outAmount : UInt64} {tolerance : Option UInt64} :
    self.assertOutAmountMatchesSimulatedSwap crates simulation ix inputMint outputMint inAmount
        outAmount tolerance context = .ok () context' ↔
      ∃ k program before after,
        self.programTestUser.mintToAtaWithProgramId outputMint = some (k, program) ∧
        context.tokenAccounts k = some before ∧ Signs crates self context ix ∧
        simulation.result = .ok () ∧ simulation.tokenAccounts k = some after ∧
        before.amount ≤ after.amount ∧
        (outAmount.toNat - (after.amount - before.amount).toNat : Int).natAbs ≤
          (tolerance.map UInt64.toNat).getD 0 ∧
        context' = { context with
          tokenAccounts := simulation.tokenAccounts
          transactions := context.transactions ++ [[crates.setComputeUnitLimit 1400000, ix]] } := by
  have hok : simulation.result.isOk = true ↔ simulation.result = .ok () := by
    cases simulation.result <;> simp [Except.isOk, Except.toBool]
  unfold assertOutAmountMatchesSimulatedSwap
  simp only [RustM.liftM_bind_ok, RustM.liftM_eq_ok, getTokenAccount_bind_ok,
    processTransaction_bind_ok, getUserAta_eq_ok, unwrap_eq_ok, checkedSub_eq_some, assert_eq_ok]
  constructor
  · rintro ⟨k, ⟨program, hk⟩, before, hbefore, hsigned, ⟨⟩, hresult, after, hafter, diff,
      ⟨hle, rfl⟩, hagrees, rfl⟩
    exact ⟨k, program, before, after, hk, hbefore, hsigned, hok.1 (assert_eq_ok.1 hresult), hafter,
      hle, hagrees, rfl⟩
  · rintro ⟨k, program, before, after, hk, hbefore, hsigned, hresult, hafter, hle, hagrees, rfl⟩
    exact ⟨k, ⟨program, hk⟩, before, hbefore, hsigned, (), assert_eq_ok.2 (hok.2 hresult), after,
      hafter, _, ⟨hle, rfl⟩, hagrees, rfl⟩

omit [Amm crates α] in
/-- The destination of a swap is the user's token account for the mint. -/
theorem userDestination_of_tokenAccounts (h : self.tokenAccounts p = some accounts) :
    ∃ program, self.programTestUser.mintToAtaWithProgramId p.destinationMint =
      some (accounts.userDestination, program) := by
  simp only [AmmTestHarnessProgramTest.tokenAccounts, Option.bind_eq_bind,
    Option.bind_eq_some_iff] at h
  obtain ⟨source, -, ⟨k, program⟩, hdestination, programSource, -, programDestination, -,
    haccounts⟩ := h
  cases haccounts
  exact ⟨program, hdestination⟩

/-- A quote the retry loop found is the quote of the amount it left. -/
theorem Prepared.quote_eq_ok (h : Prepared tables self p s accounts swapIx) {q : Quote crates}
    (hq : s.quoteResult = some q) : p.quote s.amount = .ok q := by
  obtain ⟨initial, -, hs⟩ := h.attempts
  rcases (Attempts.loop_refused rfl s).1 hs with ⟨k, q', -, -, -, hq', rfl⟩ | ⟨-, rfl⟩
  · cases hq
    exact hq'
  · cases hq

/-- **The two checks agree.** In exact-in mode, with no error expected and a balance of the source
that does not grow, checking the out amount of the instruction the comparison would send, against
the quote it found, is the comparison. -/
theorem assertOutAmount_iff (hmode : p.swapMode = .exactIn) (hexpected : p.expectedError = none)
    (hprepared : Prepared tables self p s accounts swapIx) {q : Quote crates}
    (hq : s.quoteResult = some q) {before after : TokenAccount}
    (hbefore : context.tokenAccounts accounts.userSource = some before)
    (hafter : simulation.tokenAccounts accounts.userSource = some after)
    (hle : after.amount ≤ before.amount) (inputMint : Pubkey) (inAmount : UInt64) :
    self.assertOutAmountMatchesSimulatedSwap crates simulation swapIx inputMint p.destinationMint
        inAmount q.outAmount (some p.tolerance) context = .ok () context' ↔
      self.assertQuoteMatchesSimulatedSwap tables p simulation context = .ok () context' := by
  have hquote := hprepared.quote_eq_ok hq
  obtain ⟨program, hdestination⟩ := userDestination_of_tokenAccounts hprepared.tokenAccounts
  have hagrees : ∀ sourceDiff destinationDiff,
      QuoteAgrees p s.amount q sourceDiff destinationDiff ↔
        (q.outAmount.toNat - destinationDiff.toNat : Int).natAbs ≤ p.tolerance.toNat := by
    intro sourceDiff destinationDiff
    rw [QuoteAgrees, hmode]
  rw [assertOutAmount_eq_ok, eq_ok_iff_prepared]
  constructor
  · rintro ⟨k, program', destinationBefore, destinationAfter, hk, hdestinationBefore, hsigns,
      hresult, hdestinationAfter, hle', hwithin, rfl⟩
    obtain ⟨rfl, -⟩ := Prod.mk.inj (Option.some.inj (hdestination.symm.trans hk))
    exact ⟨s, accounts, swapIx, _, _, hprepared, hsigns, ⟨before, destinationBefore, after,
      destinationAfter, hbefore, hdestinationBefore, hafter, hdestinationAfter, ⟨hle, rfl⟩, hle',
      rfl⟩, (verdict_of_quoted hexpected hq hquote).2 ⟨hresult, (hagrees _ _).2 hwithin⟩, rfl⟩
  · rintro ⟨s', accounts', swapIx', sourceDiff, destinationDiff, hprepared', hsigns, hmoves,
      hverdict, rfl⟩
    obtain ⟨rfl, rfl, rfl⟩ := hprepared.unique hprepared'
    obtain ⟨hresult, hquoteAgrees⟩ := (verdict_of_quoted hexpected hq hquote).1 hverdict
    obtain ⟨-, destinationBefore, -, destinationAfter, -, hdestinationBefore, -, hdestinationAfter,
      -, hle', rfl⟩ := hmoves
    exact ⟨_, program, destinationBefore, destinationAfter, hdestination, hdestinationBefore,
      hsigns, hresult, hdestinationAfter, hle', (hagrees _ _).1 hquoteAgrees, rfl⟩

end

end AmmTestHarnessProgramTest

section
open Reference AmmTestHarnessProgramTest

/-- The two checks agree on the example comparison, which passes both where it is paid as quoted. -/
theorem assertOutAmount_iff_comparison : ∃ swapIx, ∃ q : Quote referenceCrates, ∃ context',
    programTest.assertOutAmountMatchesSimulatedSwap referenceCrates (paidSimulation q.outAmount)
        swapIx mintA mintB 6250000000 q.outAmount (some 0) bank = .ok () context' ∧
      programTest.assertQuoteMatchesSimulatedSwap tokenTables (comparison none)
        (paidSimulation q.outAmount) bank = .ok () context' := by
  obtain ⟨q, hq, hout⟩ := quote_comparison_quarter none
  obtain ⟨context', hrun⟩ := runs_comparison hq hout
  obtain ⟨swapIx, hbuilds, -⟩ := builds_comparison none (halved 25000000000 2)
  have hprepared : Prepared tokenTables programTest (comparison none)
      (Attempts.quoted (comparison none).quote 25000000000 1 q) ⟨5, 6, 2, 3⟩ swapIx :=
    ⟨tokenAccounts_comparison none, ⟨_, initialAmount_comparison none, loop_comparison none hq⟩,
      hbuilds⟩
  obtain ⟨before, -, after, -, hbefore, -, hafter, -, ⟨hle, -⟩, -⟩ := moves_paidSimulation hout
  exact ⟨swapIx, q, context', (assertOutAmount_iff rfl rfl hprepared rfl hbefore hafter hle mintA
    6250000000).2 hrun, hrun⟩

end

end JupiterAmm
