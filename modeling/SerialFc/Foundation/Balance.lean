import SerialFc.Foundation.Ledger
import Mathlib.Algebra.Order.BigOperators.Group.List
import Mathlib.Algebra.Order.Pi
import Mathlib.Tactic.Abel

/-! # What a program adds to a ledger

Whether an acquisition fails does not depend on what is held. So a program
adds the same to every ledger, and what two programs add comes together.
-/

namespace SerialFc

variable {Resource α β : Type} [DecidableEq Resource]

namespace Ledger

def one (resource : Resource) : Ledger Resource := Pi.single resource 1

theorem nonneg_one (resource : Resource) : 0 ≤ one resource :=
  Pi.single_nonneg.mpr zero_le_one

theorem one_of_ne {resource other : Resource} (different : resource ≠ other) :
    one other resource = 0 :=
  Pi.single_eq_of_ne different 1

variable (ledger : Ledger Resource) (resource : Resource)

theorem acquire_eq_add : ledger.acquire resource = ledger + one resource := by
  funext other
  by_cases same : other = resource
  · subst same
    simp [one]
  · simp [one, same]

theorem release_eq_sub : ledger.release resource = ledger - one resource := by
  funext other
  by_cases same : other = resource
  · subst same
    simp [one, release]
  · simp [one, same]

end Ledger

/-- Run on any ledger, the program comes to the value and adds the balance. -/
def Adds (fails : Resource → Bool) (program : Acquisition Resource α)
    (value : Option α) (balance : Ledger Resource) : Prop :=
  ∀ ledger, (ledgerMachine fails).run program ledger = (value, ledger + balance)

namespace Adds

variable {fails : Resource → Bool} {resource : Resource}
  {program : Acquisition Resource α} {continuation : α → Acquisition Resource β}
  {first second : Ledger Resource}

theorem pure (value : α) :
    Adds fails (Pure.pure value : Acquisition Resource α) (some value) 0 := by
  intro ledger
  rw [add_zero, Machine.run_pure]

theorem acquire (succeeds : fails resource = false) :
    Adds fails (SerialFc.acquire resource) (some true) (Ledger.one resource) := by
  intro ledger
  rw [run_acquire_of_not_fails succeeds, Ledger.acquire_eq_add]

theorem acquire_of_fails (failed : fails resource = true) :
    Adds fails (SerialFc.acquire resource) (some false) 0 := by
  intro ledger
  rw [run_acquire_of_fails failed, add_zero]

theorem release :
    Adds fails (SerialFc.release resource) (some ()) (-Ledger.one resource) := by
  intro ledger
  rw [run_release, Ledger.release_eq_sub, sub_eq_add_neg]

theorem bind {value : α} {result : Option β}
    (early : Adds fails program (some value) first)
    (late : Adds fails (continuation value) result second) :
    Adds fails (program >>= continuation) result (first + second) := by
  intro ledger
  simp only [Machine.run_bind, early ledger]
  rw [late, add_assoc]

theorem congr {value : Option α} (adds : Adds fails program value first)
    (same : first = second) : Adds fails program value second := same ▸ adds

end Adds

end SerialFc
