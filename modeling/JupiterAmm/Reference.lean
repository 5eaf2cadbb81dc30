import JupiterAmm.BuildSwap.Basic
import JupiterAmm.SplTokenSwap.Basic
import JupiterAmm.Idl
import JupiterAmm.Base64
import JupiterAmm.Glob
import Mathlib.Data.List.Dedup
import Mathlib.Data.Rat.Defs
import Mathlib.Algebra.Order.Ring.Rat

/-!
# Reference crates

A concrete choice of the crates, which computes what the real ones do on the values the examples of
this development use: pools with a constant-product curve, token accounts, exact decimals, and the
generated code of the interface description. The assumptions that theorems make about the crates
are facts about it, so they are not vacuous.
-/

namespace JupiterAmm

open Rust Borsh

namespace Reference

/-! ## Errors -/

/-- `anyhow::Error`, with the name of the anchor error it may wrap. -/
abbrev Error := AnyhowError String

/-! ## Accounts -/

/-- The curve of a pool: a constant product, which has no parameters. -/
inductive Curve where
  | constantProduct
  deriving DecidableEq, Repr

/-- The key stored at an offset. -/
def keyAt (data : Bytes) (i : Nat) : Pubkey :=
  BitVec.ofNat 256 (((data.drop i).take 32).foldl (fun n b => 256 * n + b.toNat) 0)

/-- The `u64` stored at an offset. -/
def u64At (data : Bytes) (i : Nat) : UInt64 :=
  UInt64.ofNat (((readLE 8 (data.drop i)).map Prod.fst).getD 0)

/-- `SwapV1::unpack`. -/
def swapV1Unpack (data : Bytes) : Except Error (SwapV1 Curve Unit) :=
  if data.length ≠ 323 ∨ 1 < data.getD 0 0 ∨ data.getD 290 0 ≠ 0 then
    .error ⟨"An account's data contents was invalid", none⟩
  else if data.getD 0 0 = 0 then
    .error ⟨"An attempt to operate on an account that hasn't been initialized", none⟩
  else
    .ok {
      isInitialized := true
      bumpSeed := data.getD 1 0
      tokenProgramId := keyAt data 2
      tokenA := keyAt data 34
      tokenB := keyAt data 66
      poolMint := keyAt data 98
      tokenAMint := keyAt data 130
      tokenBMint := keyAt data 162
      poolFeeAccount := keyAt data 194
      fees := {
        tradeFeeNumerator := u64At data 226
        tradeFeeDenominator := u64At data 234
        ownerTradeFeeNumerator := u64At data 242
        ownerTradeFeeDenominator := u64At data 250 }
      swapCurve := { curveType := .constantProduct, calculator := () } }

/-- `spl_token::state::Account::unpack`. -/
def tokenAccountUnpack (data : Bytes) : Except Error TokenAccount :=
  if data.length ≠ 165 ∨ 2 < data.getD 108 0 then
    .error ⟨"An account's data contents was invalid", none⟩
  else if data.getD 108 0 = 0 then
    .error ⟨"An attempt to operate on an account that hasn't been initialized", none⟩
  else
    .ok ⟨u64At data 64⟩

/-- `try_get_account_data`. -/
def tryGetAccountData (accountMap : AccountMap) (address : Pubkey) : Except Error Bytes :=
  match accountMap address with
  | some account => .ok account.data
  | none => .error ⟨"Could not find address: " ++ Base58.encode 32 address.toNat, none⟩

/-! ## The constant-product curve -/

/-- The ceiling of a quotient. -/
def ceilDiv (a b : Nat) : Nat := (a + b - 1) / b

/-- `ConstantProductCurve::swap_without_fees`: the amount taken and the amount paid. -/
def swapWithoutFees (amount source destination : Nat) : Option (Nat × Nat) :=
  let invariant := source * destination
  let newDestination := ceilDiv invariant (source + amount)
  let newSource := ceilDiv invariant newDestination
  if invariant / (source + amount) = 0 ∨ newDestination ≥ destination ∨ newSource < source ∨
      2 ^ 128 ≤ invariant ∨ 2 ^ 128 ≤ source + amount then
    none
  else
    some (newSource - source, destination - newDestination)

/-- `SwapCurve::swap`. -/
def swapCurveSwap (_curve : SwapCurve Curve Unit) (amount source destination : U128)
    (_direction : TradeDirection) (fees : TokenSwapFees) : Option CurveResult := do
  let tradeFee ← calculateFee amount.toNat fees.tradeFeeNumerator.toNat
    fees.tradeFeeDenominator.toNat
  let ownerFee ← calculateFee amount.toNat fees.ownerTradeFeeNumerator.toNat
    fees.ownerTradeFeeDenominator.toNat
  if amount.toNat < tradeFee + ownerFee then none
  else
    let (taken, paid) ←
      swapWithoutFees (amount.toNat - (tradeFee + ownerFee)) source.toNat destination.toNat
    some {
      sourceAmountSwapped := BitVec.ofNat 128 (taken + (tradeFee + ownerFee))
      destinationAmountSwapped := BitVec.ofNat 128 paid
      tradeFee := BitVec.ofNat 128 tradeFee
      ownerFee := BitVec.ofNat 128 ownerFee }

/-- Dividing up twice gives no more than the divisor. -/
theorem ceilDiv_ceilDiv_le {n b : Nat} (hb : 0 < b) (hn : 0 < n) :
    ceilDiv n (ceilDiv n b) ≤ b := by
  have hle : n ≤ b * ceilDiv n b := by
    have h := Nat.lt_mul_div_succ (n + b - 1) hb
    have hsucc : b * ((n + b - 1) / b + 1) = b * ((n + b - 1) / b) + b := Nat.mul_succ _ _
    unfold ceilDiv
    omega
  have hpos : 0 < ceilDiv n b := by
    by_contra hzero
    rw [Nat.eq_zero_of_not_pos hzero, Nat.mul_zero] at hle
    omega
  have hlt : n + ceilDiv n b - 1 < (b + 1) * ceilDiv n b := by
    rw [Nat.add_mul, Nat.one_mul]
    omega
  exact Nat.le_of_lt_succ ((Nat.div_lt_iff_lt_mul hpos).2 hlt)

/-- A swap takes no more than it is given and pays less than the destination has. -/
theorem swapWithoutFees_le {amount source destination taken paid : Nat}
    (h : swapWithoutFees amount source destination = some (taken, paid)) :
    taken ≤ amount ∧ paid ≤ destination := by
  simp only [swapWithoutFees] at h
  split at h
  · cases h
  · next hcond =>
    cases h
    have hquot : source * destination / (source + amount) ≠ 0 := fun h => hcond (.inl h)
    have hpos : 0 < source + amount := by
      by_contra hzero
      rw [Nat.eq_zero_of_not_pos hzero, Nat.div_zero] at hquot
      exact hquot rfl
    have hinv : 0 < source * destination := by
      by_contra hzero
      rw [Nat.eq_zero_of_not_pos hzero, Nat.zero_div] at hquot
      exact hquot rfl
    have := ceilDiv_ceilDiv_le hpos hinv
    omega

/-- What a swap is made of: its two fees and a swap of the rest. -/
theorem swapCurveSwap_eq_some {curve : SwapCurve Curve Unit} {amount source destination : U128}
    {direction : TradeDirection} {fees : TokenSwapFees} {c : CurveResult}
    (h : swapCurveSwap curve amount source destination direction fees = some c) :
    calculateFee amount.toNat fees.tradeFeeNumerator.toNat fees.tradeFeeDenominator.toNat =
      some c.tradeFee.toNat ∧
    calculateFee amount.toNat fees.ownerTradeFeeNumerator.toNat
      fees.ownerTradeFeeDenominator.toNat = some c.ownerFee.toNat ∧
    c.tradeFee.toNat + c.ownerFee.toNat ≤ c.sourceAmountSwapped.toNat ∧
    c.sourceAmountSwapped.toNat ≤ amount.toNat ∧
    c.destinationAmountSwapped.toNat ≤ destination.toNat := by
  simp only [swapCurveSwap, Option.bind_eq_bind, Option.bind_eq_some_iff] at h
  obtain ⟨tradeFee, htrade, ownerFee, howner, h⟩ := h
  split at h
  · cases h
  · next hfees =>
    simp only [Option.bind_eq_some_iff, Option.some.injEq] at h
    obtain ⟨⟨taken, paid⟩, hswap, rfl⟩ := h
    obtain ⟨htaken, hpaid⟩ := swapWithoutFees_le hswap
    have hamount := amount.isLt
    have hdestination := destination.isLt
    have htradeNat : (BitVec.ofNat 128 tradeFee).toNat = tradeFee := by
      rw [BitVec.toNat_ofNat, Nat.mod_eq_of_lt (by omega)]
    have hownerNat : (BitVec.ofNat 128 ownerFee).toNat = ownerFee := by
      rw [BitVec.toNat_ofNat, Nat.mod_eq_of_lt (by omega)]
    have hsourceNat : (BitVec.ofNat 128 (taken + (tradeFee + ownerFee))).toNat =
        taken + (tradeFee + ownerFee) := by
      rw [BitVec.toNat_ofNat, Nat.mod_eq_of_lt (by omega)]
    have hpaidNat : (BitVec.ofNat 128 paid).toNat = paid := by
      rw [BitVec.toNat_ofNat, Nat.mod_eq_of_lt (by omega)]
    simp only [htradeNat, hownerNat, hsourceNat, hpaidNat]
    exact ⟨htrade, howner, by omega, by omega, hpaid⟩

/-! ## Decimals -/

/-- A decimal result, where it is not too large. -/
def representable (x : ℚ) : Option ℚ := if |x| ≤ 2 ^ 96 - 1 then some x else none

/-- `Decimal::checked_div`. -/
def decimalCheckedDiv (x y : ℚ) : Option ℚ := if y = 0 then none else representable (x / y)

/-! ## Generated code and derived addresses -/

/-- `Pubkey::find_program_address` at the two places it is called: the event authority of the
aggregator, and the authority of the example pool. -/
def findProgramAddress (seeds : List Bytes) (_programId : Pubkey) : Pubkey :=
  if seeds = [asciiBytes "__event_authority"] then
    pubkey "D8cy77BBepLMngZx6ZukaTff5hCt1HrWyKk3Hnd9oitf"
  else
    pubkey "JU8kmKzDHF9sXWsnoznaFDFezLsE5uomX2JkRMbmsQP"

/-- The discriminator of a route instruction. -/
def discriminator (name : String) : Bytes :=
  match Idl.instruction? name with
  | some ix => ix.discriminator
  | none => []

/-- `to_account_metas` of a route instruction. -/
def toAccountMetas (name : String) (fields : List (String × Pubkey)) : List AccountMeta :=
  match Idl.instruction? name with
  | some ix => ix.accounts.map fun item =>
      ⟨(fields.lookup item.name).getD 0, item.signer, item.writable⟩
  | none => []

/-! ## Transactions -/

/-- The keys that have to sign a transaction. -/
def requiredSigners (instructions : List Instruction) (payer : Pubkey) : List Pubkey :=
  payer :: instructions.flatMap fun ix => (ix.accounts.filter (·.isSigner)).map (·.pubkey)

/-- `Transaction::new_signed_with_payer`. -/
def newSignedWithPayer (instructions : List Instruction) (payer : Pubkey) (signers : List Pubkey) :
    Outcome Error Unit :=
  if ¬ signers ⊆ requiredSigners instructions payer then
    .error (.panic "Transaction::sign failed with error KeypairPubkeyMismatch")
  else if ¬ requiredSigners instructions payer ⊆ signers then
    .error (.panic "Transaction::sign failed with error NotEnoughSigners")
  else
    .ok ()

/-- The payer and another key sign for an instruction that names the other key as its signer. -/
theorem newSignedWithPayer_of_signer {budget ix : Instruction} {payer k : Pubkey}
    (hbudget : budget.accounts = [])
    (hsigner : ix.accounts.filter (·.isSigner) = [⟨k, true, false⟩]) :
    newSignedWithPayer [budget, ix] payer [payer, k] = .ok () := by
  have hrequired : requiredSigners [budget, ix] payer = [payer, k] := by
    simp [requiredSigners, hbudget, hsigner]
  rw [newSignedWithPayer, hrequired, if_neg, if_neg] <;> simp

/-! ## Texts -/

/-- The text of a public key. -/
def pubkeyToString (k : Pubkey) : String := Base58.encode 32 k.toNat

/-- The key a text denotes, where it is the text of one. -/
def pubkeyFromStr (s : String) : Option Pubkey :=
  let k := BitVec.ofNat 256 (Base58.decode s)
  if pubkeyToString k = s then some k else none

/-- The decimal text of a `u64`. -/
def u64ToChars (n : UInt64) : List Char := Nat.toDigits 10 n.toNat

/-- The `u64` of a decimal text. -/
def u64OfChars (cs : List Char) : UInt64 := UInt64.ofNat (Nat.ofDigitChars 10 cs 0)

/-- `serde_json::Value`, as far as the examples go. -/
inductive Value where
  | null
  | bool (b : Bool)
  | number (n : UInt64)
  deriving DecidableEq

/-- `Value::to_string`. -/
def Value.toString : Value → String
  | .null => "null"
  | .bool true => "true"
  | .bool false => "false"
  | .number n => String.ofList (u64ToChars n)

/-- `serde_json::from_reader` at a `Value`. -/
def Value.fromStr (s : String) : Option Value :=
  if s = "null" then some .null
  else if s = "true" then some (.bool true)
  else if s = "false" then some (.bool false)
  else
    let n := u64OfChars s.toList
    if s.toList = u64ToChars n then some (.number n) else none

/-- `UiAccount` with its data in Base64. -/
structure UiAccount where
  lamports : UInt64
  data : List Char
  owner : String
  executable : Bool
  rentEpoch : UInt64
  space : UInt64
  deriving DecidableEq

/-- `encode_ui_account` at Base64. -/
def encodeUiAccount (_address : Pubkey) (account : Account) : UiAccount where
  lamports := account.lamports
  data := Base64.encode account.data
  owner := pubkeyToString account.owner
  executable := account.executable
  rentEpoch := account.rentEpoch
  space := UInt64.ofNat account.data.length

/-- `UiAccount::decode`. -/
def uiAccountDecode (account : UiAccount) : Option Account := do
  let data ← Base64.decode account.data
  let owner ← pubkeyFromStr account.owner
  pure { account with data, owner }

/-- The JSON text of an `RpcKeyedAccount`, cut at its quotes. -/
def jsonSegments (p : String × UiAccount) : List (List Char) := [
  "\x7b".toList, "account".toList, ":\x7b".toList,
  "data".toList, ":[".toList, p.2.data, ",".toList, "base64".toList, "],".toList,
  "executable".toList, if p.2.executable then ":true,".toList else ":false,".toList,
  "lamports".toList, ':' :: (u64ToChars p.2.lamports ++ [',']),
  "owner".toList, ":".toList, p.2.owner.toList, ",".toList,
  "rentEpoch".toList, ':' :: (u64ToChars p.2.rentEpoch ++ [',']),
  "space".toList, ':' :: (u64ToChars p.2.space ++ ['}', ',']),
  "pubkey".toList, ":".toList, p.1.toList, "\x7d".toList]

/-- The JSON text of an `RpcKeyedAccount`. -/
def rpcKeyedAccountToString (p : String × UiAccount) : String :=
  String.ofList (List.intercalate ['"'] (jsonSegments p))

/-- What segments cut at quotes say, if they are those of an `RpcKeyedAccount`. -/
def ofJsonSegments : List (List Char) → Option (String × UiAccount)
  | [_, _, _, _, _, data, _, _, _, _, executable, _, lamports, _, _, owner, _, _, rentEpoch, _,
      space, _, _, pubkey, _] =>
    some (String.ofList pubkey, {
      lamports := u64OfChars lamports.tail.dropLast
      data
      owner := String.ofList owner
      executable := executable = ":true,".toList
      rentEpoch := u64OfChars rentEpoch.tail.dropLast
      space := u64OfChars space.tail.dropLast.dropLast })
  | _ => none

/-- `serde_json::from_reader` at `RpcKeyedAccount`, on texts as they are printed. -/
def rpcKeyedAccountFromStr (s : String) : Option (String × UiAccount) :=
  (ofJsonSegments (s.toList.splitOn '"')).filter fun p => rpcKeyedAccountToString p = s

/-! ### They read back -/

theorem pubkeyFromStr_toString (k : Pubkey) : pubkeyFromStr (pubkeyToString k) = some k := by
  have hdecode : Base58.decode (pubkeyToString k) = k.toNat := Base58.decode_encode 32 k.toNat
  rw [pubkeyFromStr, hdecode, BitVec.ofNat_toNat, BitVec.setWidth_eq]
  exact if_pos rfl

theorem uiAccountDecode_encode (k : Pubkey) (account : Account) :
    uiAccountDecode (encodeUiAccount k account) = some account := by
  simp only [uiAccountDecode, encodeUiAccount, Base64.decode_encode, pubkeyFromStr_toString]
  rfl

theorem u64OfChars_toChars (n : UInt64) : u64OfChars (u64ToChars n) = n := by
  rw [u64OfChars, u64ToChars, Nat.ofDigitChars_toDigits (by decide) (by decide),
    UInt64.ofNat_toNat]

theorem isDigit_of_mem_u64ToChars {n : UInt64} {c : Char} (h : c ∈ u64ToChars n) : c.isDigit :=
  Nat.isDigit_of_mem_toDigits (by decide) (by decide) h

theorem Value.fromStr_toString (v : Value) : Value.fromStr v.toString = some v := by
  match v with
  | .null => rfl
  | .bool true => rfl
  | .bool false => rfl
  | .number n =>
    -- a number starts with a digit, so it is none of the words
    have hne : ∀ word : String, (∃ c ∈ word.toList, ¬ c.isDigit) →
        String.ofList (u64ToChars n) ≠ word := by
      rintro word ⟨c, hc, hdigit⟩ rfl
      rw [String.toList_ofList] at hc
      exact hdigit (isDigit_of_mem_u64ToChars hc)
    rw [Value.toString, Value.fromStr, if_neg (hne "null" ⟨'n', by decide, by decide⟩),
      if_neg (hne "true" ⟨'t', by decide, by decide⟩),
      if_neg (hne "false" ⟨'f', by decide, by decide⟩)]
    simp only [String.toList_ofList, u64OfChars_toChars, if_true]

/-- The text of an account reads back, where its key and its data have no quote. -/
theorem rpcKeyedAccountFromStr_toString {p : String × UiAccount} (hkey : '"' ∉ p.1.toList)
    (howner : '"' ∉ p.2.owner.toList) (hdata : '"' ∉ p.2.data) :
    rpcKeyedAccountFromStr (rpcKeyedAccountToString p) = some p := by
  have hnumber : ∀ n : UInt64, '"' ∉ u64ToChars n := fun n h =>
    absurd (isDigit_of_mem_u64ToChars h) (by decide)
  have hexecutable :
      '"' ∉ if p.2.executable then ":true,".toList else ":false,".toList := by
    split <;> decide
  have hsegments : ∀ cs ∈ jsonSegments p, '"' ∉ cs := by
    simp only [jsonSegments, List.forall_mem_cons]
    refine ⟨by decide, by decide, by decide, by decide, by decide, hdata, by decide, by decide,
      by decide, by decide, hexecutable, by decide, ?_, by decide, by decide, howner, by decide,
      by decide, ?_, by decide, ?_, by decide, by decide, hkey, by decide, nofun⟩
    · simp [hnumber]
    · simp [hnumber]
    · simp [hnumber]
  have hsplit : (rpcKeyedAccountToString p).toList.splitOn '"' = jsonSegments p := by
    rw [rpcKeyedAccountToString, String.toList_ofList]
    exact List.splitOn_intercalate _ hsegments (List.cons_ne_nil _ _)
  have hof : ofJsonSegments (jsonSegments p) = some p := by
    obtain ⟨key, lamports, data, owner, executable, rentEpoch, space⟩ := p
    have hspace : (u64ToChars space ++ ['}', ',']).dropLast = u64ToChars space ++ ['}'] := by
      simp
    simp only [jsonSegments, ofJsonSegments, List.tail_cons, List.dropLast_concat, hspace,
      u64OfChars_toChars, String.ofList_toList]
    cases executable <;> rfl
  rw [rpcKeyedAccountFromStr, hsplit, hof]
  simp

end Reference

/-! ## The crates -/

open Reference in
/-- The reference crates. -/
abbrev referenceCrates : Crates where
  AnchorError := String
  anchorErrorEq a b := a = b
  Decimal := ℚ
  decimalZero := 0
  decimalFromU64 n := some n.toNat
  decimalCheckedDiv := decimalCheckedDiv
  decimalCheckedAdd x y := representable (x + y)
  Swap := Idl.swap.denote
  swapTokenSwap := .inr (.inr (.inr (.inl ())))
  swapSerialize := Idl.swap.codec.encode
  tryGetAccountData := tryGetAccountData
  CurveType := Curve
  Calculator := Unit
  swapV1Unpack := swapV1Unpack
  tokenAccountUnpack := tokenAccountUnpack
  swapCurveSwap := swapCurveSwap
  findProgramAddress := findProgramAddress
  discriminator := discriminator
  toAccountMetas := toAccountMetas
  Value := Value
  valueIsNull v := v = .null
  valueToString := Value.toString
  valueFromStr := Value.fromStr
  UiAccount := UiAccount
  encodeUiAccount := encodeUiAccount
  uiAccountDecode := uiAccountDecode
  rpcKeyedAccountToString := rpcKeyedAccountToString
  rpcKeyedAccountFromStr := rpcKeyedAccountFromStr
  pubkeyToString := pubkeyToString
  pubkeyFromStr := pubkeyFromStr
  newUnique := BitVec.ofNat 256 (2 ^ 192)
  hashSetOrder := List.dedup
  glob := Glob.glob
  ioError := ⟨"No such file or directory (os error 2)", none⟩
  setComputeUnitLimit units := {
    programId := pubkey "ComputeBudget111111111111111111111111111111"
    accounts := []
    data := 2 :: Borsh.leBytes 4 units.toNat }
  newSignedWithPayer := newSignedWithPayer

/-! ## An example pool -/

namespace Reference

/-- The token accounts of the example pool, and its two mints. -/
def vaultA : Pubkey := pubkey "ANP74VNsHwSrq9uUSjiSNyNWvf6ZPrKTmE4gHoNd13Lg"
def vaultB : Pubkey := pubkey "75HgnSvXbWKZBpZHveX68ZzAhDqMzNDS29X6BGLtxMo1"
def mintA : Pubkey := pubkey "So11111111111111111111111111111111111111112"
def mintB : Pubkey := pubkey "EPjFWdd5AufqSSqeM2qN1xzybapC8G4wEGGkZwyTDt1v"

/-- The state of the example pool. -/
def poolState : SwapV1 Curve Unit where
  isInitialized := true
  bumpSeed := 252
  tokenProgramId := splTokenId
  tokenA := vaultA
  tokenB := vaultB
  poolMint := pubkey "APDFRM3HMr8CAGXwKHiu2f5ePSpaiEJhaURwhsRrUUt9"
  tokenAMint := mintA
  tokenBMint := mintB
  poolFeeAccount := pubkey "8JnSiuvQq3BVuCU3n4DrSTw9chBSPvEMswrhtifVkr1o"
  fees := {
    tradeFeeNumerator := 25
    tradeFeeDenominator := 10000
    ownerTradeFeeNumerator := 5
    ownerTradeFeeDenominator := 10000 }
  swapCurve := { curveType := .constantProduct, calculator := () }

/-- The account data of a pool with a constant-product curve: a version byte, then the state. -/
def packPool (state : SwapV1 Curve Unit) : Bytes :=
  [1, 1, state.bumpSeed] ++ state.tokenProgramId.toBytes ++ state.tokenA.toBytes ++
    state.tokenB.toBytes ++ state.poolMint.toBytes ++ state.tokenAMint.toBytes ++
    state.tokenBMint.toBytes ++ state.poolFeeAccount.toBytes ++
    leBytes 8 state.fees.tradeFeeNumerator.toNat ++
    leBytes 8 state.fees.tradeFeeDenominator.toNat ++
    leBytes 8 state.fees.ownerTradeFeeNumerator.toNat ++
    leBytes 8 state.fees.ownerTradeFeeDenominator.toNat ++ List.replicate 65 0

/-- The account of the example pool. -/
def poolAccount : Account where
  lamports := 3145920
  data := packPool poolState
  owner := SplTokenSwapPrograms.orcaV2
  executable := false
  rentEpoch := 0

/-- The keyed account of the example pool. -/
def poolKeyedAccount : KeyedAccount Value where
  key := pubkey "EGZ7tiLeH62TPV1gL8WwbXGzEPa9zmcpVnnkPKKnrE2U"
  account := poolAccount
  params := none

/-- A token account with a balance. -/
def tokenAccount (mint owner : Pubkey) (amount : UInt64) : Account where
  lamports := 2039280
  data := mint.toBytes ++ owner.toBytes ++ leBytes 8 amount.toNat ++ List.replicate 36 0 ++ [1] ++
    List.replicate 56 0
  owner := splTokenId
  executable := false
  rentEpoch := 0

/-- The example pool, as `from_keyed_account` makes it. -/
def pool : SplTokenSwapAmm referenceCrates where
  key := poolKeyedAccount.key
  label := "Orca v2"
  state := poolState
  reserveMints := (mintA, mintB)
  reserves := (0, 0)
  programId := SplTokenSwapPrograms.orcaV2

/-- Two balances for the vaults of the example pool. -/
def balanceA : UInt64 := 5000000000
def balanceB : UInt64 := 750000000

/-- A request for a quote of the example pool. -/
def quoteParams (inputMint outputMint : Pubkey) (amount : UInt64) : QuoteParams where
  amount
  inputMint
  outputMint
  swapMode := .exactIn

/-- A request for a swap instruction of the example pool. -/
def swapParams (sourceMint destinationMint : Pubkey) (amount : UInt64) : SwapParams where
  swapMode := .exactIn
  inAmount := amount
  outAmount := amount
  sourceMint
  destinationMint
  sourceTokenAccount := 1
  destinationTokenAccount := 2
  tokenTransferAuthority := 3
  quoteMintToReferrer := none
  jupiterProgramId := jupiterId
  missingDynamicAccountsAsDefault := false

/-- A chain with the example pool and its two vaults. -/
def chain : AccountMap := .ofList [
  (poolKeyedAccount.key, poolAccount),
  (vaultA, tokenAccount mintA (pubkey "JU8kmKzDHF9sXWsnoznaFDFezLsE5uomX2JkRMbmsQP") balanceA),
  (vaultB, tokenAccount mintB (pubkey "JU8kmKzDHF9sXWsnoznaFDFezLsE5uomX2JkRMbmsQP") balanceB)]

/-- The pool's own account is on the chain. -/
theorem chain_pool : chain poolKeyedAccount.key = some poolAccount := by decide +kernel

theorem swapV1Unpack_pool : swapV1Unpack (poolAccount.data.drop 1) = .ok poolState := by
  decide +kernel

/-- The example pool is made from its account, wherever that lies. -/
theorem fromKeyedAccount_poolAccount (key : Pubkey) :
    SplTokenSwapAmm.fromKeyedAccount { poolKeyedAccount with key } = .ok { pool with key } := by
  have hlength : 1 ≤ poolAccount.data.length := by decide +kernel
  have hslice : (sliceFrom 1 poolAccount.data : referenceCrates.Result Bytes) =
      .ok (poolAccount.data.drop 1) := if_pos hlength
  have hunpack : referenceCrates.swapV1Unpack = swapV1Unpack := rfl
  have hlabel : splTokenSwapPrograms SplTokenSwapPrograms.orcaV2 = some "Orca v2" := by
    decide +kernel
  show (sliceFrom 1 poolAccount.data >>= fun data =>
    ofExcept (referenceCrates.swapV1Unpack data) >>= fun state =>
    unwrap (splTokenSwapPrograms SplTokenSwapPrograms.orcaV2) >>= fun label => _) = _
  rw [hslice, Outcome.ok_bind, hunpack, swapV1Unpack_pool, ofExcept_ok, Outcome.ok_bind, hlabel,
    unwrap_some, Outcome.ok_bind]
  rfl

theorem fromKeyedAccount_pool : SplTokenSwapAmm.fromKeyedAccount poolKeyedAccount = .ok pool :=
  fromKeyedAccount_poolAccount _

theorem signsForUser_referenceCrates : referenceCrates.SignsForUser := by
  intro swapIx payer user hsigner
  exact newSignedWithPayer_of_signer rfl hsigner

theorem readsAccountMap : referenceCrates.ReadsAccountMap := by
  refine ⟨fun k => ⟨"Could not find address: " ++ Base58.encode 32 k.toNat, none⟩, fun m k => ?_⟩
  show tryGetAccountData m k = _
  unfold tryGetAccountData
  cases m k <;> rfl

end Reference

end JupiterAmm
