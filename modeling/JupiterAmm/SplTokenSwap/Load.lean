import JupiterAmm.SplTokenSwap.Basic
import JupiterAmm.Reference

/-!
# Loading a pool

`amm_factory` looks at the owner of an account and hands the accounts of the swap programs to
`from_keyed_account`, which drops the version byte, unpacks the state and looks the owner's label
up. It ends in one of four ways (`ammFactory_cases`): the owner is unknown, there is no version
byte, the state is refused, or there is a pool. The label is always there, since the owner was
checked; the version byte was not, and the slice behind it panics on empty data
(`loadsSafely_iff`).
-/

namespace JupiterAmm

open Rust

variable {crates : Crates}

section
variable (keyedAccount : KeyedAccount crates.Value)

/-! ## What loading promises -/

/-- The account is one of a pool: its owner is a swap program, and its data is a version byte and a
state that is accepted. -/
def HoldsPool : Prop :=
  splTokenSwapPrograms.containsKey keyedAccount.account.owner ∧
    ∃ version data state, keyedAccount.account.data = version :: data ∧
      crates.swapV1Unpack data = .ok state

/-- Loading the account never panics, gives an `Ok` exactly where the account is one of a pool, and
an `Err` everywhere else. -/
structure LoadsSafely : Prop where
  noPanic : ∀ message, ammFactory keyedAccount ≠ .error (.panic message)
  ok_iff : (∃ amm, ammFactory keyedAccount = .ok amm) ↔ HoldsPool keyedAccount
  err_iff : (ammFactory keyedAccount).IsErr ↔ ¬ HoldsPool keyedAccount

/-! ## How `amm_factory` ends -/

/-- The error `amm_factory` returns for an owner it does not know. -/
def unsupportedPool : crates.Error :=
  crates.anyhow ("Unsupported pool " ++ crates.pubkeyToString keyedAccount.key ++
    ", from owner " ++ crates.pubkeyToString keyedAccount.account.owner)

variable {keyedAccount}

/-- Reading an account without data panics, whatever its owner. -/
theorem fromKeyedAccount_of_nil (hdata : keyedAccount.account.data = []) :
    ∃ message, SplTokenSwapAmm.fromKeyedAccount keyedAccount = .error (.panic message) := by
  rw [SplTokenSwapAmm.fromKeyedAccount, hdata]
  exact ⟨_, rfl⟩

/-- Behind a version byte, the state decides. -/
theorem fromKeyedAccount_of_cons {version : UInt8} {data : List UInt8} {label : String}
    (hdata : keyedAccount.account.data = version :: data)
    (hlabel : splTokenSwapPrograms keyedAccount.account.owner = some label) :
    SplTokenSwapAmm.fromKeyedAccount keyedAccount =
      match crates.swapV1Unpack data with
      | .ok state => .ok {
          key := keyedAccount.key
          label
          state
          reserveMints := (state.tokenAMint, state.tokenBMint)
          programId := keyedAccount.account.owner
          reserves := (0, 0) }
      | .error e => .error (.err e) := by
  rw [SplTokenSwapAmm.fromKeyedAccount, hdata, hlabel]
  show (ofExcept (crates.swapV1Unpack data) >>= _) = _
  cases crates.swapV1Unpack data <;> rfl

/-- An owner that has no label is no swap program. -/
theorem not_containsKey_of_none (howner : splTokenSwapPrograms keyedAccount.account.owner = none) :
    ¬ splTokenSwapPrograms.containsKey keyedAccount.account.owner := by
  intro hcontains
  obtain ⟨label, hlabel⟩ := HashMap.containsKey_iff.1 hcontains
  rw [howner] at hlabel
  cases hlabel

theorem ammFactory_of_none (howner : splTokenSwapPrograms keyedAccount.account.owner = none) :
    ammFactory keyedAccount = .error (.err (unsupportedPool keyedAccount)) :=
  if_neg (not_containsKey_of_none howner)

theorem ammFactory_of_some {label : String}
    (howner : splTokenSwapPrograms keyedAccount.account.owner = some label) :
    ammFactory keyedAccount = SplTokenSwapAmm.fromKeyedAccount keyedAccount :=
  if_pos (HashMap.containsKey_iff.2 ⟨label, howner⟩)

variable (keyedAccount)

/-- **The four ways `amm_factory` ends.** -/
theorem ammFactory_cases :
    (splTokenSwapPrograms keyedAccount.account.owner = none ∧
      ammFactory keyedAccount = .error (.err (unsupportedPool keyedAccount))) ∨
    ∃ label, splTokenSwapPrograms keyedAccount.account.owner = some label ∧
      ((keyedAccount.account.data = [] ∧
          ∃ message, ammFactory keyedAccount = .error (.panic message)) ∨
        ∃ version data, keyedAccount.account.data = version :: data ∧
          ((∃ e, crates.swapV1Unpack data = .error e ∧
              ammFactory keyedAccount = .error (.err e)) ∨
            ∃ state, crates.swapV1Unpack data = .ok state ∧
              ammFactory keyedAccount = .ok {
                key := keyedAccount.key
                label
                state
                reserveMints := (state.tokenAMint, state.tokenBMint)
                programId := keyedAccount.account.owner
                reserves := (0, 0) })) := by
  cases howner : splTokenSwapPrograms keyedAccount.account.owner with
  | none => exact .inl ⟨rfl, ammFactory_of_none howner⟩
  | some label =>
    refine .inr ⟨label, rfl, ?_⟩
    rw [ammFactory_of_some howner]
    cases hdata : keyedAccount.account.data with
    | nil => exact .inl ⟨rfl, fromKeyedAccount_of_nil hdata⟩
    | cons version data =>
      refine .inr ⟨version, data, rfl, ?_⟩
      rw [fromKeyedAccount_of_cons hdata howner]
      cases crates.swapV1Unpack data with
      | error e => exact .inl ⟨e, rfl, rfl⟩
      | ok state => exact .inr ⟨state, rfl, rfl⟩

/-! ## Safe and unsafe ends -/

section
variable {keyedAccount}

/-- An `Err` for an account that is not one of a pool is safe. -/
theorem loadsSafely_of_err {e : crates.Error} (herr : ammFactory keyedAccount = .error (.err e))
    (hpool : ¬ HoldsPool keyedAccount) : LoadsSafely keyedAccount := by
  refine ⟨?_, iff_of_false ?_ hpool, iff_of_true ⟨e, herr⟩ hpool⟩
  · intro message hpanic
    rw [herr] at hpanic
    cases hpanic
  · rintro ⟨amm, hok⟩
    rw [herr] at hok
    cases hok

/-- An `Ok` for an account that is one of a pool is safe. -/
theorem loadsSafely_of_ok {amm : SplTokenSwapAmm crates} (hok : ammFactory keyedAccount = .ok amm)
    (hpool : HoldsPool keyedAccount) : LoadsSafely keyedAccount := by
  refine ⟨?_, iff_of_true ⟨amm, hok⟩ hpool, iff_of_false ?_ (not_not_intro hpool)⟩
  · intro message hpanic
    rw [hok] at hpanic
    cases hpanic
  · rintro ⟨e, herr⟩
    rw [hok] at herr
    cases herr

end

/-- **An account is loaded safely exactly when it is not an empty account of a swap program.** -/
theorem loadsSafely_iff :
    LoadsSafely keyedAccount ↔
      ¬ (splTokenSwapPrograms.containsKey keyedAccount.account.owner ∧
        keyedAccount.account.data = []) := by
  rcases ammFactory_cases keyedAccount with ⟨howner, herr⟩ | ⟨label, howner, ⟨hdata, message,
    hpanic⟩ | ⟨version, data, hdata, ⟨e, hunpack, herr⟩ | ⟨state, hunpack, hok⟩⟩⟩
  · -- the owner is unknown
    have hunknown := not_containsKey_of_none howner
    exact iff_of_true (loadsSafely_of_err herr fun hpool => hunknown hpool.1)
      fun hempty => hunknown hempty.1
  · -- there is no version byte
    refine iff_of_false ?_ (not_not_intro ⟨HashMap.containsKey_iff.2 ⟨label, howner⟩, hdata⟩)
    rintro ⟨hnoPanic, -, -⟩
    exact hnoPanic message hpanic
  · -- the state is refused
    have hrefused : ¬ HoldsPool keyedAccount := by
      rintro ⟨-, version', data', state, hdata', hunpack'⟩
      rw [hdata] at hdata'
      cases hdata'
      rw [hunpack] at hunpack'
      cases hunpack'
    have hnonempty : keyedAccount.account.data ≠ [] := hdata ▸ List.cons_ne_nil version data
    exact iff_of_true (loadsSafely_of_err herr hrefused) fun hempty => hnonempty hempty.2
  · -- there is a pool
    have hpool : HoldsPool keyedAccount :=
      ⟨HashMap.containsKey_iff.2 ⟨label, howner⟩, version, data, state, hdata, hunpack⟩
    have hnonempty : keyedAccount.account.data ≠ [] := hdata ▸ List.cons_ne_nil version data
    exact iff_of_true (loadsSafely_of_ok hok hpool) fun hempty => hnonempty hempty.2

end

section
open Reference

/-- An account of a swap program without data. -/
def emptyKeyedAccount : KeyedAccount referenceCrates.Value :=
  { poolKeyedAccount with account := { poolAccount with data := [] } }

/-- **Loading a pool may panic.** An account without data, whose owner is a swap program. -/
theorem not_loadsSafely : ¬ @LoadsSafely referenceCrates emptyKeyedAccount := by
  rintro ⟨hnoPanic, -, -⟩
  have hlabel : splTokenSwapPrograms emptyKeyedAccount.account.owner = some "Orca v2" := by
    decide +kernel
  obtain ⟨message, hpanic⟩ := @fromKeyedAccount_of_nil referenceCrates emptyKeyedAccount rfl
  exact hnoPanic message ((ammFactory_of_some hlabel).trans hpanic)

end

end JupiterAmm
