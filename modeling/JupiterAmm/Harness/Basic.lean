import JupiterAmm.Interface

/-!
# The test harness

What the parts of the test harness share: the tables of token mints, the pairs of mints of an AMM,
the RPC client, and the harness itself. The tables are a parameter of the functions that read them,
so that what is proved of these holds for any tokens and amounts; `tokenTables` has the ones of the
repository.
-/

namespace JupiterAmm

open Rust

/-! ## Token tables -/

/-- The tables of token mints, each with an amount to swap. -/
structure TokenTables where
  tokenMintAndInAmount : List (Pubkey × UInt64)
  token2022MintAndInAmount : List (Pubkey × UInt64)
  tokenMintAndOutAmount : List (Pubkey × UInt64)

namespace TokenTables

/-- `TOKEN_MINT_TO_IN_AMOUNT`. -/
def tokenMintToInAmount (tables : TokenTables) : HashMap Pubkey UInt64 :=
  (HashMap.ofList tables.tokenMintAndInAmount).insertAll tables.token2022MintAndInAmount

/-- `TOKEN_MINT_TO_OUT_AMOUNT`. -/
def tokenMintToOutAmount (tables : TokenTables) : HashMap Pubkey UInt64 :=
  HashMap.ofList tables.tokenMintAndOutAmount

end TokenTables

/-- `TOKEN_MINT_AND_IN_AMOUNT`, `TOKEN2022_MINT_AND_IN_AMOUNT` and `TOKEN_MINT_AND_OUT_AMOUNT`. -/
def tokenTables : TokenTables where
  tokenMintAndInAmount := [
    (pubkey "So11111111111111111111111111111111111111112", 25000000000),
    (pubkey "J1toso1uCk3RLmjorhTtrVwY9HJ7X8V9yYac6Y7kGCPn", 8000000000),
    (pubkey "bSo13r4TkiE4KumL71LsHTPpL2euBYLFx6h9HP3piy1", 100000000000),
    (pubkey "EPjFWdd5AufqSSqeM2qN1xzybapC8G4wEGGkZwyTDt1v", 1110000000),
    (pubkey "Es9vMFrzaCERmJfrF4H2FYD4KCoNkY11McCe8BenwNYB", 1110000000)]
  token2022MintAndInAmount := []
  tokenMintAndOutAmount := []

/-! ## Pairs of mints -/

/-- `route::get_two_permutations`: the items at two different positions. -/
def getTwoPermutations {α : Type} (items : List α) : List (α × α) :=
  items.zipIdx.flatMap fun (a, i) => (items.eraseIdx i).map fun b => (a, b)

/-- `route::get_token_mints_permutations`. -/
def getTokenMintsPermutations {crates : Crates} {α : Type} [Amm crates α] (amm : α) :
    crates.Result (List (Pubkey × Pubkey)) :=
  if Amm.unidirectional amm then
    -- `collect_tuple` wants exactly two items
    match Amm.getReserveMints amm with
    | [source, destination] => .ok [(source, destination)]
    | _ => .error (.panic "called `Option::unwrap()` on a `None` value")
  else
    .ok (getTwoPermutations (Amm.getReserveMints amm))

/-! ## The harness -/

/-- `solana_client::rpc_client::RpcClient`, the method the harness calls. -/
structure RpcClient (crates : Crates) where
  getMultipleAccounts : List Pubkey → Except crates.Error (List (Option Account))

/-- The node answers from one chain state: in the order of the request, with `None` for an account
that does not exist. -/
def RpcClient.Serves {crates : Crates} (client : RpcClient crates) (chain : AccountMap) : Prop :=
  ∀ addresses, client.getMultipleAccounts addresses = .ok (addresses.map chain)

/-- `AmmTestHarness`. -/
structure AmmTestHarness (crates : Crates) where
  client : RpcClient crates
  key : Pubkey
  option : Option String

end JupiterAmm
