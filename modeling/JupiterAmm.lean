import JupiterAmm.Rust.Outcome
import JupiterAmm.Rust.Collections
import JupiterAmm.Borsh.Codec
import JupiterAmm.Borsh.Schema
import JupiterAmm.Base58
import JupiterAmm.Base64
import JupiterAmm.FileTree
import JupiterAmm.Cells
import JupiterAmm.Glob
import JupiterAmm.Refresh
import JupiterAmm.Interface
import JupiterAmm.Math
import JupiterAmm.Idl
import JupiterAmm.BuildSwap.Basic
import JupiterAmm.SplTokenSwap.Basic
import JupiterAmm.Reference
import JupiterAmm.SplTokenSwap.Load
import JupiterAmm.SplTokenSwap.Update
import JupiterAmm.SplTokenSwap.Runs
import JupiterAmm.SplTokenSwap.Quote
import JupiterAmm.SplTokenSwap.Mode
import JupiterAmm.BuildSwap.Data
import JupiterAmm.BuildSwap.Accounts
import JupiterAmm.Harness.Basic
import JupiterAmm.Harness.Update
import JupiterAmm.Harness.Simulate
import JupiterAmm.Harness.Snapshot
import JupiterAmm.Harness.Load
import JupiterAmm.Harness.Replace
import JupiterAmm.Harness.Rebuild
import JupiterAmm.Harness.Replay
import JupiterAmm.Harness.Isolate
import JupiterAmm.Harness.Command
import JupiterAmm.Harness.Store
import JupiterAmm.Harness.ProgramTest
import JupiterAmm.Harness.Bank
import JupiterAmm.Harness.Comparison
import JupiterAmm.Harness.Sending
import JupiterAmm.Harness.Quoting
