import Mathlib.Tactic.Common

/-!
# A value refreshed from fallible reads

A component that caches a value and refreshes it from sources that may fail to yield one: a source
that yields a value replaces the cached one, a source that does not leaves it alone. After any
sequence of refreshes the cache holds what the most recent good source yields (`run_of_latest`), all
of it from that one source, and what it started with if there was none (`run_of_latest_none`).
-/

namespace Refresh

section
variable {χ α : Type} (read : χ → Option α)

/-- One refresh. -/
def step (cached : α) (source : χ) : α := (read source).getD cached

/-- A sequence of refreshes. -/
def run (cached : α) (sources : List χ) : α := sources.foldl (step read) cached

/-- The most recent source of a sequence that yields a value. -/
def latest : List χ → Option χ
  | [] => none
  | source :: sources => (latest sources).or (if (read source).isSome then some source else none)

@[simp] theorem run_nil (cached : α) : run read cached [] = cached := rfl

@[simp] theorem run_cons (cached : α) (source : χ) (sources : List χ) :
    run read cached (source :: sources) = run read (step read cached source) sources := rfl

/-- The most recent good source yields a value. -/
theorem isSome_of_latest {sources : List χ} {source : χ} (h : latest read sources = some source) :
    (read source).isSome := by
  induction sources with
  | nil => cases h
  | cons c cs ih =>
    rw [latest, Option.or_eq_some_iff] at h
    rcases h with h | ⟨-, h⟩
    · exact ih h
    · split at h
      · next hc => cases h; exact hc
      · cases h

/-- Without a good source the cache keeps what it started with. -/
theorem run_of_latest_none {sources : List χ} (h : latest read sources = none) (cached : α) :
    run read cached sources = cached := by
  induction sources generalizing cached with
  | nil => rfl
  | cons c cs ih =>
    rw [latest, Option.or_eq_none_iff] at h
    have hc : read c = none := by simpa using h.2
    rw [run_cons, ih h.1, step, hc, Option.getD_none]

/-- **The cache holds what the most recent good source yields**, whatever it held before. -/
theorem run_of_latest {sources : List χ} {source : χ} {a : α}
    (h : latest read sources = some source) (hread : read source = some a) (cached : α) :
    run read cached sources = a := by
  induction sources generalizing cached with
  | nil => cases h
  | cons c cs ih =>
    rw [run_cons]
    rw [latest, Option.or_eq_some_iff] at h
    rcases h with h | ⟨hnone, h⟩
    · exact ih h _
    · split at h
      · cases h
        rw [run_of_latest_none read hnone, step, hread, Option.getD_some]
      · cases h

end

end Refresh
