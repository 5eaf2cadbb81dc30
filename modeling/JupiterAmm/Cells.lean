import Mathlib.Logic.Function.Basic
import Mathlib.Data.List.Induction

/-!
# Independent cells

A component that keeps a value for each key, under commands that each address one key and are
accepted or refused by what is kept there. A cell holds what the commands that address it make of
it, whatever others stand between them (`run_apply`), so the order of commands for different keys
does not matter (`run_congr`). It holds what the last command it accepted has written, or what it
held at first if it accepted none (`run_cases`). A system whose every step looks, through some view
of its states, like a step of the cells is one (`view_foldl`).
-/

namespace Cells

section
variable {κ α γ : Type} [DecidableEq κ] (address : γ → κ) (write : γ → α → Option α)

/-- The value of a cell after a command that addresses it. A command that is refused leaves it. -/
def apply (a : α) (c : γ) : α := (write c a).getD a

/-- One command. -/
def step (s : κ → α) (c : γ) : κ → α :=
  Function.update s (address c) (apply write (s (address c)) c)

/-- A sequence of commands. -/
def run (s : κ → α) (cs : List γ) : κ → α := cs.foldl (step address write) s

/-- The commands of a sequence that address a key. -/
def commandsAt (k : κ) (cs : List γ) : List γ := cs.filter fun c => address c = k

theorem run_cons (s : κ → α) (c : γ) (cs : List γ) :
    run address write s (c :: cs) = run address write (step address write s c) cs := rfl

theorem run_append (s : κ → α) (cs ds : List γ) :
    run address write s (cs ++ ds) = run address write (run address write s cs) ds :=
  List.foldl_append

theorem run_concat (s : κ → α) (c : γ) (cs : List γ) :
    run address write s (cs ++ [c]) = step address write (run address write s cs) c :=
  run_append address write s cs [c]

theorem step_of_ne {c : γ} {k : κ} (h : address c ≠ k) (s : κ → α) :
    step address write s c k = s k :=
  Function.update_of_ne (Ne.symm h) _ _

theorem step_of_none {c : γ} {k : κ} {s : κ → α} (h : address c = k)
    (hwrite : write c (s k) = none) :
    step address write s c k = s k := by
  rw [step, h, Function.update_self, apply, hwrite, Option.getD_none]

theorem step_of_some {c : γ} {k : κ} {s : κ → α} {a : α} (h : address c = k)
    (hwrite : write c (s k) = some a) : step address write s c k = a := by
  rw [step, h, Function.update_self, apply, hwrite, Option.getD_some]

theorem commandsAt_cons_of_eq {k : κ} {c : γ} (h : address c = k) (cs : List γ) :
    commandsAt address k (c :: cs) = c :: commandsAt address k cs :=
  List.filter_cons_of_pos (decide_eq_true h)

theorem commandsAt_cons_of_ne {k : κ} {c : γ} (h : address c ≠ k) (cs : List γ) :
    commandsAt address k (c :: cs) = commandsAt address k cs :=
  List.filter_cons_of_neg (by simpa using h)

/-- **A cell sees only the commands that address it.** -/
theorem run_apply (s : κ → α) (cs : List γ) (k : κ) :
    run address write s cs k = (commandsAt address k cs).foldl (apply write) (s k) := by
  induction cs generalizing s with
  | nil => rfl
  | cons c cs ih =>
    rw [run_cons, ih]
    by_cases hk : address c = k
    · rw [commandsAt_cons_of_eq address hk, List.foldl_cons, step, hk, Function.update_self]
    · rw [commandsAt_cons_of_ne address hk, step_of_ne address write hk]

/-- **Interleavings agree**: sequences with the same commands for a key, in the same order, leave
the same in its cell. -/
theorem run_congr {cs ds : List γ} {k : κ} (h : commandsAt address k cs = commandsAt address k ds)
    (s : κ → α) : run address write s cs k = run address write s ds k := by
  rw [run_apply, run_apply, h]

/-- No command of a sequence that addresses the key is accepted when its turn comes. -/
def Refused (s : κ → α) (k : κ) (cs : List γ) : Prop :=
  ∀ before c after, cs = before ++ c :: after → address c = k →
    write c (run address write s before k) = none

/-- A sequence is refused with its last command. -/
theorem refused_concat {s : κ → α} {k : κ} {cs : List γ} {e : γ} :
    Refused address write s k (cs ++ [e]) ↔ Refused address write s k cs ∧
      (address e = k → write e (run address write s cs k) = none) := by
  constructor
  · intro h
    constructor
    · rintro before c after rfl hc
      exact h before c (after ++ [e]) (by simp) hc
    · exact h cs e [] rfl
  · rintro ⟨hcs, he⟩ before c after hsplit hc
    rcases List.eq_nil_or_concat after with rfl | ⟨after, e', rfl⟩
    · obtain ⟨rfl, hlast⟩ := List.append_inj' hsplit rfl
      cases hlast
      exact he hc
    · rw [List.concat_eq_append, ← List.cons_append, ← List.append_assoc] at hsplit
      obtain ⟨rfl, -⟩ := List.append_inj' hsplit rfl
      exact hcs before c after rfl hc

/-- **The last writer wins.** A cell that accepts no command keeps what it held at first. Elsewhere
there is a last command that it accepts, and it holds what that command has written. -/
theorem run_cases (s : κ → α) (cs : List γ) (k : κ) :
    (Refused address write s k cs ∧ run address write s cs k = s k) ∨
    ∃ before c after, cs = before ++ c :: after ∧ address c = k ∧
      write c (run address write s before k) = some (run address write s cs k) ∧
      Refused address write (run address write s (before ++ [c])) k after := by
  induction cs using List.reverseRecOn with
  | nil => exact .inl ⟨fun before c after h => absurd h (by simp), rfl⟩
  | append_singleton cs e ih =>
    by_cases hwrite : address e = k ∧ (write e (run address write s cs k)).isSome
    · obtain ⟨he, hsome⟩ := hwrite
      obtain ⟨a, ha⟩ := Option.isSome_iff_exists.1 hsome
      refine .inr ⟨cs, e, [], rfl, he, ?_, fun before c after h => absurd h (by simp)⟩
      rw [run_concat, step_of_some address write he ha, ha]
    · have hrefused : address e = k → write e (run address write s cs k) = none := by
        intro he
        rw [← Option.not_isSome_iff_eq_none]
        exact fun hsome => hwrite ⟨he, hsome⟩
      have hkeep : run address write s (cs ++ [e]) k = run address write s cs k := by
        rw [run_concat]
        by_cases he : address e = k
        · exact step_of_none address write he (hrefused he)
        · exact step_of_ne address write he _
      rw [hkeep]
      rcases ih with ⟨hnone, hrun⟩ | ⟨before, c, after, rfl, hc, hwritten, hlater⟩
      · exact .inl ⟨(refused_concat address write).2 ⟨hnone, hrefused⟩, hrun⟩
      · refine .inr ⟨before, c, after ++ [e], by simp, hc, hwritten,
          (refused_concat address write).2 ⟨hlater, ?_⟩⟩
        have hrun : run address write (run address write s (before ++ [c])) after =
            run address write s (before ++ c :: after) := by
          rw [← run_append, List.append_assoc, List.singleton_append]
        rw [hrun]
        exact hrefused

/-- **Simulation.** Where every step of a system, from a state with an invariant, keeps the
invariant and is a step of the cells its state is viewed as, every run of the system is a run of the
cells. -/
theorem view_foldl {σ : Type} (invariant : σ → Prop) {next : σ → γ → σ} {view : σ → κ → α}
    (hkeeps : ∀ s c, invariant s → invariant (next s c))
    (hview : ∀ s c, invariant s → view (next s c) = step address write (view s) c) (cs : List γ)
    {s : σ} (hs : invariant s) :
    invariant (cs.foldl next s) ∧ view (cs.foldl next s) = run address write (view s) cs := by
  induction cs generalizing s with
  | nil => exact ⟨hs, rfl⟩
  | cons c cs ih =>
    rw [List.foldl_cons, run_cons, ← hview s c hs]
    exact ih (hkeeps s c hs)

end

end Cells
