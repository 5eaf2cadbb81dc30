import Mathlib.Tactic.Common

/-!
# Rust computations

A Rust function that returns `Result<α, ε>` ends in one of three ways: an `Ok` value, an `Err`
value, or a panic. `Outcome` keeps the three apart, because a caller sees an `Err` and never sees a
panic. A function on `&mut self`, or one that works on a file system or a ledger, is a `RustM`: it
carries a state that survives a fault, since Rust rolls nothing back when a function stops early.
The lemmas invert one step of such a computation (`RustM.bind_ok`, `Outcome.bind_ok`), so that the
proofs about a program peel it one statement at a time.
-/

namespace Rust

/-- Why a computation stopped before its end: an `Err` value, or a panic. -/
inductive Fault (ε : Type) where
  | err (e : ε)
  | panic (message : String)
  deriving DecidableEq, Repr

/-- How a function returning `Result<α, ε>` ends. -/
abbrev Outcome (ε α : Type) := Except (Fault ε) α

/-- A computation on a mutable state `σ`. The state a fault leaves behind is part of its result. -/
abbrev RustM (ε σ α : Type) := EStateM (Fault ε) σ α

/-! ## Outcomes -/

section
variable {ε α β : Type}

/-- `Result::unwrap`: an `Err` becomes a panic. -/
def Outcome.unwrap : Outcome ε α → Outcome ε α
  | .error (.err _) => .error (.panic "called `Result::unwrap()` on an `Err` value")
  | x => x

/-- `Option::unwrap`: `None` becomes a panic. -/
def unwrap : Option α → Outcome ε α
  | some a => .ok a
  | none => .error (.panic "called `Option::unwrap()` on a `None` value")

/-- The `?` operator on a `Result` without panics: an `Err` is returned as an `Err`. -/
def ofExcept : Except ε α → Outcome ε α
  | .ok a => .ok a
  | .error e => .error (.err e)

/-- `Option::ok_or`, the shape `context` has on an `Option`: `None` becomes the given `Err`. -/
def okOr (e : ε) : Option α → Outcome ε α
  | some a => .ok a
  | none => .error (.err e)

/-- `Result::unwrap` on a `Result` whose error is only printed. -/
def unwrapOk {δ : Type} : Except δ α → Outcome ε α
  | .ok a => .ok a
  | .error _ => .error (.panic "called `Result::unwrap()` on an `Err` value")

/-- `Result::expect`: an `Err` becomes a panic with the given text. -/
def expect {δ : Type} (message : String) : Except δ α → Outcome ε α
  | .ok a => .ok a
  | .error _ => .error (.panic message)

/-- `Result::unwrap_err`: an `Ok` value becomes a panic. -/
def unwrapErr {δ : Type} : Except δ α → Outcome ε δ
  | .ok _ => .error (.panic "called `Result::unwrap_err()` on an `Ok` value")
  | .error e => .ok e

/-- `assert!`. -/
def assert (condition : Prop) [Decidable condition] : Outcome ε Unit :=
  if condition then .ok () else .error (.panic "assertion failed")

/-- The slice `l[start..]`, which panics where it starts behind the end. -/
def sliceFrom (start : Nat) (l : List α) : Outcome ε (List α) :=
  if start ≤ l.length then .ok (l.drop start)
  else .error (.panic ("range start index " ++ toString start ++
    " out of range for slice of length " ++ toString l.length))

/-- The outcome is an `Err`. -/
def Outcome.IsErr (x : Outcome ε α) : Prop := ∃ e, x = .error (.err e)

/-- A bind succeeds exactly when both of its steps do. -/
theorem Outcome.bind_ok {x : Outcome ε α} {f : α → Outcome ε β} {b : β} :
    (x >>= f) = .ok b ↔ ∃ a, x = .ok a ∧ f a = .ok b := by
  cases x <;> simp [bind, Except.bind]

/-- A bind at an `Ok` goes on with the value. -/
theorem Outcome.ok_bind {a : α} {f : α → Outcome ε β} : ((.ok a : Outcome ε α) >>= f) = f a := rfl

theorem Outcome.unwrap_eq_ok {x : Outcome ε α} {a : α} : x.unwrap = .ok a ↔ x = .ok a := by
  rcases x with (e | m) | b <;> simp [Outcome.unwrap]

@[simp] theorem unwrap_some {a : α} : unwrap (ε := ε) (some a) = .ok a := rfl

theorem unwrap_eq_ok {x : Option α} {a : α} : unwrap (ε := ε) x = .ok a ↔ x = some a := by
  cases x <;> simp [unwrap]

@[simp] theorem ofExcept_ok {a : α} : ofExcept (.ok a : Except ε α) = .ok a := rfl

theorem unwrapOk_eq_ok {δ : Type} {x : Except δ α} {a : α} :
    unwrapOk (ε := ε) x = .ok a ↔ x = .ok a := by
  cases x <;> simp [unwrapOk]

theorem expect_eq_ok {δ : Type} {message : String} {x : Except δ α} {a : α} :
    expect (ε := ε) message x = .ok a ↔ x = .ok a := by
  cases x <;> simp [expect]

theorem ofExcept_eq_ok {x : Except ε α} {a : α} : ofExcept x = .ok a ↔ x = .ok a := by
  cases x <;> simp [ofExcept]

theorem unwrapErr_eq_ok {δ : Type} {x : Except δ α} {e : δ} :
    unwrapErr (ε := ε) x = .ok e ↔ x = .error e := by
  cases x <;> simp [unwrapErr]

theorem assert_eq_ok {condition : Prop} [Decidable condition] :
    assert (ε := ε) condition = .ok () ↔ condition := by
  unfold assert
  split <;> simp_all

theorem okOr_eq_ok {e : ε} {x : Option α} {a : α} : okOr e x = .ok a ↔ x = some a := by
  cases x <;> simp [okOr]

end

/-! ## Computations on a state -/

section
variable {ε σ α β : Type}

/-- An outcome that does not touch the state, as a step of a computation that has one. -/
def RustM.lift (x : Outcome ε α) : RustM ε σ α := fun s =>
  match x with
  | .ok a => .ok a s
  | .error e => .error e s

instance : MonadLift (Outcome ε) (RustM ε σ) := ⟨RustM.lift⟩

/-- The state a run ends in, whether it returned or stopped at a fault. -/
def RustM.after (x : RustM ε σ α) (s : σ) : σ :=
  match x s with
  | .ok _ s' => s'
  | .error _ s' => s'

/-- The run returned. -/
def RustM.Succeeds (x : RustM ε σ α) (s : σ) : Prop := ∃ a s', x s = .ok a s'

/-- `Result::unwrap` on what a call returned: an `Err` becomes a panic. -/
def RustM.unwrap (x : RustM ε σ α) : RustM ε σ α := fun s =>
  match x s with
  | .error (.err _) s' => .error (.panic "called `Result::unwrap()` on an `Err` value") s'
  | r => r

/-- A computation on a value of its own: what it returns, and the value it leaves. -/
def RustM.on (x : RustM ε σ α) (s : σ) : Outcome ε (α × σ) :=
  match x s with
  | .ok a s' => .ok (a, s')
  | .error e _ => .error e

/-- A loop that runs its body a fixed number of times. -/
def RustM.times (x : RustM ε σ Unit) : Nat → RustM ε σ Unit
  | 0 => pure ()
  | n + 1 => do
    x
    times x n

/-- A bind succeeds exactly when both of its steps do, the second in the state the first left. -/
theorem RustM.bind_ok {x : RustM ε σ α} {f : α → RustM ε σ β} {s s' : σ} {b : β} :
    (x >>= f) s = .ok b s' ↔ ∃ a s₁, x s = .ok a s₁ ∧ f a s₁ = .ok b s' := by
  show EStateM.bind x f s = _ ↔ _
  unfold EStateM.bind
  cases x s <;> simp

/-- A bind whose first step succeeds continues in the state that step left. -/
theorem RustM.bind_of_ok {x : RustM ε σ α} {f : α → RustM ε σ β} {s s₁ : σ} {a : α}
    (h : x s = .ok a s₁) : (x >>= f) s = f a s₁ := by
  show EStateM.bind x f s = _
  simp only [EStateM.bind, h]

/-- A bind whose first step stops at a fault stops there, in the state that step left. -/
theorem RustM.bind_of_error {x : RustM ε σ α} {f : α → RustM ε σ β} {s s₁ : σ} {e : Fault ε}
    (h : x s = .error e s₁) : (x >>= f) s = .error e s₁ := by
  show EStateM.bind x f s = _
  simp only [EStateM.bind, h]

@[simp] theorem RustM.lift_ok {a : α} {s : σ} :
    RustM.lift (.ok a : Outcome ε α) s = .ok a s := rfl

/-- A statement `let a = x?;` at an `Ok`. -/
theorem RustM.try_ok {a : α} {f : α → RustM ε σ β} {s : σ} :
    (RustM.lift (ofExcept (.ok a : Except ε α)) >>= f) s = f a s := rfl

/-- A statement `let a = x?;` at an `Err`. -/
theorem RustM.try_error {e : ε} {f : α → RustM ε σ β} {s : σ} :
    (RustM.lift (ofExcept (.error e : Except ε α)) >>= f) s = .error (.err e) s := rfl

theorem RustM.unwrap_congr {x y : RustM ε σ α} {s : σ} (h : x s = y s) :
    x.unwrap s = y.unwrap s := by
  rw [RustM.unwrap, RustM.unwrap, h]

theorem RustM.unwrap_eq_ok {x : RustM ε σ α} {s s' : σ} {a : α} :
    x.unwrap s = .ok a s' ↔ x s = .ok a s' := by
  rw [RustM.unwrap]
  rcases x s with ⟨b, s₁⟩ | ⟨e | message, s₁⟩ <;> simp

theorem RustM.unwrap_of_ok {x : RustM ε σ α} {s s' : σ} {a : α} (h : x s = .ok a s') :
    x.unwrap s = .ok a s' := by
  rw [RustM.unwrap, h]

theorem RustM.unwrap_of_err {x : RustM ε σ α} {s s' : σ} {e : ε} (h : x s = .error (.err e) s') :
    ∃ message, x.unwrap s = .error (.panic message) s' := by
  rw [RustM.unwrap, h]
  exact ⟨_, rfl⟩

theorem RustM.on_eq_ok {x : RustM ε σ α} {s s' : σ} {a : α} :
    x.on s = .ok (a, s') ↔ x s = .ok a s' := by
  rw [RustM.on]
  cases x s <;> simp

/-- `unwrap` leaves the state it finds. -/
theorem RustM.after_unwrap (x : RustM ε σ α) (s : σ) : x.unwrap.after s = x.after s := by
  rw [RustM.after, RustM.after, RustM.unwrap]
  rcases x s with ⟨b, s₁⟩ | ⟨e | message, s₁⟩ <;> rfl

/-- A loop whose body leaves the state alone leaves it alone. -/
theorem RustM.times_of_fixed {x : RustM ε σ Unit} {s : σ} (h : x s = .ok () s) :
    ∀ n, x.times n s = .ok () s
  | 0 => rfl
  | n + 1 => by
    rw [RustM.times, RustM.bind_of_ok h]
    exact times_of_fixed h n

/-- A loop of runs that change nothing behind a first one is that first run. -/
theorem RustM.times_succ_eq_ok {x : RustM ε σ Unit}
    (hidem : ∀ s s', x s = .ok () s' → x s' = .ok () s') {n : Nat} {s s' : σ} :
    x.times (n + 1) s = .ok () s' ↔ x s = .ok () s' := by
  rw [RustM.times, RustM.bind_ok]
  constructor
  · rintro ⟨⟨⟩, s₁, hfirst, hrest⟩
    rw [RustM.times_of_fixed (hidem s s₁ hfirst)] at hrest
    cases hrest
    exact hfirst
  · intro h
    exact ⟨(), s', h, RustM.times_of_fixed (hidem s s' h) n⟩

/-- A lifted outcome succeeds where the outcome does, and leaves the state alone. -/
theorem RustM.lift_eq_ok {x : Outcome ε α} {s s' : σ} {a : α} :
    RustM.lift x s = .ok a s' ↔ x = .ok a ∧ s' = s := by
  cases x <;> simp [RustM.lift, eq_comm]

theorem RustM.liftM_eq_ok {x : Outcome ε α} {s s' : σ} {a : α} :
    (liftM x : RustM ε σ α) s = .ok a s' ↔ x = .ok a ∧ s' = s := RustM.lift_eq_ok

/-- A bind behind `get` goes on with the state. -/
theorem RustM.get_bind {f : σ → RustM ε σ β} {s : σ} :
    ((get : RustM ε σ σ) >>= f) s = f s s := rfl

/-- A bind behind `modify` goes on in the modified state. -/
theorem RustM.modify_bind {g : σ → σ} {f : PUnit → RustM ε σ β} {s : σ} :
    ((modify g : RustM ε σ PUnit) >>= f) s = f ⟨⟩ (g s) := rfl

theorem RustM.pure_eq_ok {a b : α} {s s' : σ} :
    (pure a : RustM ε σ α) s = .ok b s' ↔ a = b ∧ s = s' := by
  show EStateM.Result.ok a s = _ ↔ _
  rw [EStateM.Result.ok.injEq]

/-- A bind behind a lifted outcome goes on in the same state. -/
theorem RustM.liftM_bind_ok {x : Outcome ε α} {f : α → RustM ε σ β} {s s' : σ} {b : β} :
    ((liftM x : RustM ε σ α) >>= f) s = .ok b s' ↔ ∃ a, x = .ok a ∧ f a s = .ok b s' := by
  rw [RustM.bind_ok]
  constructor
  · rintro ⟨a, s₁, hlift, hf⟩
    obtain ⟨hx, rfl⟩ := RustM.liftM_eq_ok.1 hlift
    exact ⟨a, hx, hf⟩
  · rintro ⟨a, hx, hf⟩
    exact ⟨a, s, RustM.liftM_eq_ok.2 ⟨hx, rfl⟩, hf⟩

end

end Rust
