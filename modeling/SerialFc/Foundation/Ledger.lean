import SerialFc.Foundation.Program

/-! # Resources that programs hold

A ledger counts what is held of each resource. Acquiring one can fail, in a
pattern that is fixed beforehand.
-/

namespace SerialFc

variable {Resource α β : Type}

inductive ResourceCall (Resource : Type)
  | acquire (resource : Resource)
  | release (resource : Resource)

namespace ResourceCall

@[reducible] def Response : ResourceCall Resource → Type
  | .acquire _ => Bool
  | .release _ => Unit

def resource : ResourceCall Resource → Resource
  | .acquire resource | .release resource => resource

end ResourceCall

abbrev Acquisition (Resource : Type) :=
  Program (ResourceCall Resource) ResourceCall.Response

def acquire (resource : Resource) : Acquisition Resource Bool :=
  .perform (.acquire resource) .done

def release (resource : Resource) : Acquisition Resource Unit :=
  .perform (.release resource) .done

abbrev Ledger (Resource : Type) := Resource → Int

variable [DecidableEq Resource]

namespace Ledger

variable (ledger : Ledger Resource) {resource other : Resource}

def acquire (resource : Resource) : Ledger Resource :=
  Function.update ledger resource (ledger resource + 1)

def release (resource : Resource) : Ledger Resource :=
  Function.update ledger resource (ledger resource - 1)

@[simp] theorem acquire_self : ledger.acquire resource resource =
    ledger resource + 1 := by
  simp [acquire]

@[simp] theorem acquire_of_ne (different : other ≠ resource) :
    ledger.acquire resource other = ledger other :=
  Function.update_of_ne different _ _

@[simp] theorem release_of_ne (different : other ≠ resource) :
    ledger.release resource other = ledger other :=
  Function.update_of_ne different _ _

@[simp] theorem release_acquire_self :
    (ledger.acquire resource).release resource = ledger := by
  simp [acquire, release]

end Ledger

/-- The machine on which the acquisitions of a pattern fail. -/
def ledgerMachine (fails : Resource → Bool) :
    Machine (ResourceCall Resource) ResourceCall.Response (Ledger Resource) where
  execute ledger
    | .acquire resource =>
        if fails resource then (false, ledger)
        else (true, ledger.acquire resource)
    | .release resource => ((), ledger.release resource)

section Runs

variable {fails : Resource → Bool} {ledger : Ledger Resource}
  {resource : Resource} {program : Acquisition Resource α}

theorem run_acquire :
    (ledgerMachine fails).run (acquire resource) ledger =
      if fails resource then (some false, ledger)
      else (some true, ledger.acquire resource) := by
  cases failed : fails resource <;> simp [acquire, ledgerMachine, failed]

@[simp] theorem run_acquire_of_fails (failed : fails resource = true) :
    (ledgerMachine fails).run (acquire resource) ledger =
      (some false, ledger) := by
  rw [run_acquire, if_pos failed]

@[simp] theorem run_acquire_of_not_fails (succeeds : fails resource = false) :
    (ledgerMachine fails).run (acquire resource) ledger =
      (some true, ledger.acquire resource) := by
  rw [run_acquire, succeeds]
  rfl

@[simp] theorem run_release :
    (ledgerMachine fails).run (release resource) ledger =
      (some (), ledger.release resource) := rfl

theorem run_ledger_of_performs
    (others : program.Performs fun call => call.resource ≠ resource)
    {value : Option α} {after : Ledger Resource}
    (run : (ledgerMachine fails).run program ledger = (value, after)) :
    after resource = ledger resource := by
  induction program generalizing ledger with
  | done _ => exact (congrFun (congrArg Prod.snd run) resource).symm
  | perform call next induction =>
      rw [induction _ (others.2 _) run]
      cases call with
      | acquire other =>
          have different : resource ≠ other := Ne.symm others.1
          cases failed : fails other <;>
            simp [ledgerMachine, failed, different]
      | release other =>
          have different : resource ≠ other := Ne.symm others.1
          simp [ledgerMachine, different]
  | trap => exact (congrFun (congrArg Prod.snd run) resource).symm

end Runs

end SerialFc
