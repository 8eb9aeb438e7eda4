import SerialFc.Lifecycle.Discovery

/-! # What a failed initialisation leaves behind

Every exit of `serialfc_init` undoes what was done so far, except the one in
the loop over the devices.
-/

namespace SerialFc.Lifecycle

/-- When initialisation fails, nothing that it set up is left: no class, no
registration, no card and no enabled device. -/
def InitCleansUp (devices : List PciFunction) (answers : Answers) : Prop :=
  ∀ status cards setup,
    (initMachine devices answers).run (serialfcInit devices []) .none =
      (some (status, cards), setup) →
    status ≠ 0 → cards = [] ∧ setup = .none

def Answers.Registers (answers : Answers) : Prop :=
  answers.classCreate = none ∧ 0 ≤ answers.registerChrdev ∧
    answers.pciRegisterDriver = 0

section Exits

variable {devices : List PciFunction} {answers : Answers}

theorem execute_classCreate (setup : Setup) :
    (initMachine devices answers).execute setup .classCreate =
      (answers.classCreate,
        { setup with hasClass := answers.classCreate.isNone }) := rfl

theorem execute_registerChrdev (setup : Setup) :
    (initMachine devices answers).execute setup .registerChrdev =
      (answers.registerChrdev,
        { setup with hasChrdev := decide (0 ≤ answers.registerChrdev) }) := rfl

theorem execute_pciRegisterDriver (setup : Setup) (cards : List CardRecord)
    (registers : answers.pciRegisterDriver = 0) :
    (initMachine devices answers).execute setup (.pciRegisterDriver cards) =
      ((0, (probeAll answers.probe (probed devices) cards
          { setup with hasDriver := true }).1),
        (probeAll answers.probe (probed devices) cards
          { setup with hasDriver := true }).2) :=
  if_pos registers

theorem execute_pciRegisterDriver_of_ne (setup : Setup)
    (cards : List CardRecord) (fails : answers.pciRegisterDriver ≠ 0) :
    (initMachine devices answers).execute setup (.pciRegisterDriver cards) =
      ((answers.pciRegisterDriver, cards), setup) :=
  if_neg fails

def Setup.registered : Setup := ⟨true, true, true, fun _ => 0, []⟩

theorem run_serialfcInit_of_registers (registers : answers.Registers)
    (cards : List CardRecord) :
    (initMachine devices answers).run (serialfcInit devices cards) .none =
      (initMachine devices answers).run
        (initFallback devices
          (probeAll answers.probe (probed devices) cards .registered).1)
        (probeAll answers.probe (probed devices) cards .registered).2 := by
  rcases registers with ⟨noError, chrdev, driver⟩
  have notNegative : ¬answers.registerChrdev < 0 := by omega
  simp only [serialfcInit, Machine.run_bind, Machine.run_perform_done,
    execute_classCreate, noError, execute_registerChrdev, if_neg notNegative,
    execute_pciRegisterDriver _ _ driver]
  simp [Setup.registered, Setup.none, chrdev]

/-- The exits before the loop have no card, and undo what was done where they
fail. -/
theorem run_serialfcInit_of_not_registers (fails : ¬answers.Registers) :
    let result := (initMachine devices answers).run (serialfcInit devices []) .none
    ∃ status, result.1 = some (status, []) ∧
      (status ≠ 0 → result.2 = .none) ∧
      (status = 0 ↔ answers.classCreate = some 0 ∨
        answers.classCreate = none ∧ 0 ≤ answers.registerChrdev ∧
          0 < answers.pciRegisterDriver) := by
  intro result
  cases noError : answers.classCreate with
  | some error =>
      refine ⟨error, ?_, fun _ => ?_, by simp⟩ <;>
        simp only [result, serialfcInit, Machine.run_bind,
          Machine.run_perform_done, execute_classCreate, noError] <;>
        rfl
  | none =>
      simp only [reduceCtorEq, false_or, true_and]
      by_cases chrdev : answers.registerChrdev < 0
      · refine ⟨answers.registerChrdev, ?_, fun _ => ?_, by omega⟩ <;>
          simp only [result, serialfcInit, Machine.run_bind,
            Machine.run_perform_done, execute_classCreate, noError,
            execute_registerChrdev, if_pos chrdev]
        · rfl
        · simp [initMachine, Setup.none, chrdev]
      · have driver : answers.pciRegisterDriver ≠ 0 := by
          intro registered
          exact fails ⟨noError, by omega, registered⟩
        by_cases negative : answers.pciRegisterDriver < 0
        · refine ⟨answers.pciRegisterDriver, ?_, fun _ => ?_, by omega⟩ <;>
            simp only [result, serialfcInit, Machine.run_bind,
              Machine.run_perform_done, execute_classCreate, noError,
              execute_registerChrdev, if_neg chrdev,
              execute_pciRegisterDriver_of_ne _ _ driver, if_pos negative] <;>
            rfl
        · refine ⟨0, ?_, fun failed => absurd rfl failed, by omega⟩
          simp only [result, serialfcInit, Machine.run_bind,
            Machine.run_perform_done, execute_classCreate, noError,
            execute_registerChrdev, if_neg chrdev,
            execute_pciRegisterDriver_of_ne _ _ driver, if_neg negative,
            if_neg driver]
          rfl

theorem probed_eq_nil (none : fallbackDevices devices = []) :
    probed devices = [] := by
  apply List.filter_eq_nil_iff.mpr
  intro device member
  simp only [fallbackDevices, commtechDevices, List.filter_filter,
    List.filter_eq_nil_iff] at none
  have notBoth := none device member
  simp only [matchesIdTable]
  cases isOurs : isSerialfcDevice device with
  | false => simp
  | true =>
      have notVendor : ¬device.pciDev.vendor = commtechVendorId := by
        simpa [isOurs] using notBoth
      simp [notVendor]

theorem run_initDevices_of_none (setup : Setup) (enumerated : List PciFunction)
    (numDevices : Nat) (cards : List CardRecord)
    (none : enumerated.filter isSerialfcDevice = []) :
    (initMachine devices answers).run
        (initDevices enumerated numDevices cards) setup =
      (some (some numDevices, cards), setup) := by
  induction enumerated with
  | nil => rfl
  | cons device enumerated induction =>
      have isOurs : isSerialfcDevice device = false := by
        cases isOurs : isSerialfcDevice device with
        | false => rfl
        | true =>
            rw [List.filter_cons_of_pos isOurs] at none
            cases none
      rw [List.filter_cons_of_neg (by simp [isOurs])] at none
      rw [initDevices, isOurs]
      exact induction none

theorem run_initFallback_of_none (none : fallbackDevices devices = []) :
    (initMachine devices answers).run (initFallback devices []) .registered =
      (some (-enodev, []), .none) := by
  simp only [initFallback, Machine.run_bind, run_initDevices_of_none _ _ _ _ none]
  simp [Machine.run_bind, initMachine, removeAll, Setup.registered, Setup.none]

theorem run_initFallback_of_enable (setup : Setup) (cards : List CardRecord)
    (enable : AllEnable answers (fallbackDevices devices))
    (present : fallbackDevices devices ≠ []) :
    ∃ next : Setup,
      (initMachine devices answers).run (initFallback devices cards) setup =
        (some (0, cards ++ (fallbackDevices devices).flatMap
          (made answers.fallback)), next) := by
  rcases run_initDevices devices answers setup (commtechDevices devices) 0 cards
    enable with ⟨next, _, run⟩
  refine ⟨next, ?_⟩
  have positive : 0 < (fallbackDevices devices).length :=
    List.length_pos_of_ne_nil present
  have notZero : ¬0 + (fallbackDevices devices).length = 0 := by omega
  simp only [initFallback, Machine.run_bind, run]
  exact congrArg (fun program => (initMachine devices answers).run program next)
    (if_neg notZero)

/-- A device that cannot be enabled: the class is still there. -/
theorem run_initFallback_of_fails (setup : Setup) (cards : List CardRecord)
    (fails : ¬AllEnable answers (fallbackDevices devices)) :
    ∃ (left : List CardRecord) (next : Setup), next.hasClass = setup.hasClass ∧
      (initMachine devices answers).run (initFallback devices cards) setup =
        (some (-eio, left), next) := by
  rcases run_initDevices_of_fails devices answers setup
    (commtechDevices devices) 0 cards fails with ⟨left, next, same, run⟩
  refine ⟨left, next, same, ?_⟩
  simp only [initFallback, Machine.run_bind, run]
  rfl

theorem not_initCleansUp_of_fails (registers : answers.Registers)
    (fails : ¬AllEnable answers (fallbackDevices devices)) :
    ¬InitCleansUp devices answers := by
  intro cleansUp
  rcases run_initFallback_of_fails
    (probeAll answers.probe (probed devices) [] .registered).2
    (probeAll answers.probe (probed devices) [] .registered).1 fails with
    ⟨left, next, same, run⟩
  rw [← run_serialfcInit_of_registers registers] at run
  rcases cleansUp _ _ _ run (by decide) with ⟨_, isNone⟩
  rw [probeAll_hasClass, isNone] at same
  cases same

end Exits

/-- Initialisation cleans up after itself exactly when it does not come to a
device that cannot be enabled. -/
theorem initCleansUp_iff (devices : List PciFunction) (answers : Answers) :
    InitCleansUp devices answers ↔
      (answers.Registers → AllEnable answers (fallbackDevices devices)) := by
  constructor
  · intro cleansUp registers
    by_contra fails
    exact not_initCleansUp_of_fails registers fails cleansUp
  · intro enable
    by_cases registers : answers.Registers
    · intro status cards setup run failed
      rw [run_serialfcInit_of_registers registers] at run
      by_cases none : fallbackDevices devices = []
      · rw [probed_eq_nil none] at run
        have exit := (run_initFallback_of_none none).symm.trans run
        obtain ⟨⟨-, rfl⟩, rfl⟩ := by simpa using exit
        exact ⟨rfl, rfl⟩
      · rcases run_initFallback_of_enable _ _ (enable registers) none with
          ⟨next, success⟩
        rw [success] at run
        obtain ⟨⟨rfl, -⟩, -⟩ := by simpa using run
        exact absurd rfl failed
    · intro status cards setup run failed
      rcases run_serialfcInit_of_not_registers registers with
        ⟨returned, exit, undone, _⟩
      rw [run] at exit undone
      obtain ⟨rfl, rfl⟩ := by simpa using exit
      exact ⟨rfl, undone failed⟩

theorem fallbackDevices_fscc (pdev : Nat) :
    fallbackDevices [fsccFunction pdev] = [fsccFunction pdev] := rfl

/-- All goes well but the second `pci_enable_device`, which the fallback calls
for a device that the probe has enabled. -/
def enabledOnce : Answers where
  classCreate := none
  registerChrdev := 240
  pciRegisterDriver := 0
  probe device := ⟨true, some ⟨device.pdev, .valid, [0, 1]⟩⟩
  fallback _ := ⟨false, none⟩

theorem not_initCleansUp :
    ¬∀ devices answers, InitCleansUp devices answers := by
  intro cleansUp
  have fails : ¬AllEnable enabledOnce (fallbackDevices [fsccFunction 0]) := by
    rw [fallbackDevices_fscc]
    intro enable
    exact absurd (enable _ List.mem_cons_self) (by decide)
  have registers : enabledOnce.Registers := ⟨rfl, by decide, rfl⟩
  exact not_initCleansUp_of_fails registers fails (cleansUp _ _)

end SerialFc.Lifecycle
