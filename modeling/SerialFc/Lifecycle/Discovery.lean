import SerialFc.Lifecycle.Module
import Mathlib.Data.List.Nodup

/-! # Where the cards come from

The cards that initialisation leaves in `serialfc_cards` are those that its
probes made and, after them, those that its fallback made.
-/

namespace SerialFc.Lifecycle

def made (attempt : PciFunction → Attempt) (device : PciFunction) :
    List CardRecord :=
  if (attempt device).enables then
    ((attempt device).card.map fun card =>
      { card with pdev := device.pdev }).toList
  else []

def MakesCard (attempt : PciFunction → Attempt) (device : PciFunction) : Prop :=
  (attempt device).enables = true ∧ (attempt device).card.isSome = true

instance (attempt : PciFunction → Attempt) (device : PciFunction) :
    Decidable (MakesCard attempt device) :=
  inferInstanceAs (Decidable (_ ∧ _))

def cardDevices (cards : List CardRecord) : List Nat :=
  cards.map CardRecord.pdev

theorem cardDevices_append (first second : List CardRecord) :
    cardDevices (first ++ second) = cardDevices first ++ cardDevices second :=
  List.map_append

theorem cardDevices_made (attempt : PciFunction → Attempt)
    (device : PciFunction) :
    cardDevices (made attempt device) =
      if MakesCard attempt device then [device.pdev] else [] := by
  cases enables : (attempt device).enables with
  | false => simp [made, MakesCard, enables, cardDevices]
  | true =>
      cases card : (attempt device).card with
      | none => simp [made, MakesCard, enables, card, cardDevices]
      | some card => simp_all [made, MakesCard, cardDevices]

theorem cardDevices_flatMap_made (attempt : PciFunction → Attempt)
    (devices : List PciFunction) :
    cardDevices (devices.flatMap (made attempt)) =
      (devices.filter fun device => MakesCard attempt device).map
        PciFunction.pdev := by
  induction devices with
  | nil => rfl
  | cons device devices induction =>
      rw [List.flatMap_cons, cardDevices_append, cardDevices_made, induction]
      by_cases makes : MakesCard attempt device <;> simp [makes]

/-! ## Probing -/

section Probes

variable (attempt : PciFunction → Attempt)

theorem run_fcProbe (device : PciFunction) (cards : List CardRecord)
    (enabled : Enabled) :
    ∃ next, (deviceMachine attempt).run (fcProbe device cards) enabled =
      (some (if (attempt device).enables then 0 else -eio,
        cards ++ made attempt device), next) := by
  cases enables : (attempt device).enables with
  | false =>
      refine ⟨enabled, ?_⟩
      simp [fcProbe, Machine.run_bind, deviceMachine, made, enables]
  | true =>
      refine ⟨Function.update enabled device.pdev (enabled device.pdev + 1), ?_⟩
      simp [fcProbe, Machine.run_bind, deviceMachine, made, enables]

theorem probeAll_cards (devices : List PciFunction) (cards : List CardRecord)
    (setup : Setup) :
    (probeAll attempt devices cards setup).1 =
      cards ++ devices.flatMap (made attempt) := by
  induction devices generalizing cards setup with
  | nil => exact (List.append_nil cards).symm
  | cons device devices induction =>
      rcases run_fcProbe attempt device cards setup.enabled with ⟨next, run⟩
      rw [probeAll, run]
      simp only
      rw [induction, List.flatMap_cons, List.append_assoc]

theorem probeAll_hasClass (devices : List PciFunction) (cards : List CardRecord)
    (setup : Setup) :
    (probeAll attempt devices cards setup).2.hasClass = setup.hasClass := by
  induction devices generalizing cards setup with
  | nil => rfl
  | cons device devices induction =>
      rcases run_fcProbe attempt device cards setup.enabled with ⟨next, run⟩
      rw [probeAll, run]
      exact induction _ _

end Probes

/-! ## The fallback -/

section Fallback

variable (devices : List PciFunction) (answers : Answers) (setup : Setup)
  {device : PciFunction}

def Setup.enable (setup : Setup) (device : PciFunction) : Setup :=
  { setup with
    enabled := Function.update setup.enabled device.pdev
      (setup.enabled device.pdev + 1) }

theorem execute_enable (enables : (answers.fallback device).enables = true) :
    (initMachine devices answers).execute setup
        (.device (.pciEnableDevice device)) =
      (true, setup.enable device) := by
  simp [initMachine, deviceMachine, enables, Setup.enable]

theorem execute_enable_of_fails
    (fails : (answers.fallback device).enables = false) :
    (initMachine devices answers).execute setup
        (.device (.pciEnableDevice device)) = (false, setup) := by
  simp [initMachine, deviceMachine, fails]

theorem execute_cardNew (enables : (answers.fallback device).enables = true) :
    ∃ card : Option CardRecord, card.toList = made answers.fallback device ∧
      (initMachine devices answers).execute setup
        (.device (.serialfcCardNew device)) = (card, setup) :=
  ⟨_, (if_pos enables).symm, rfl⟩

def fallbackDevices (devices : List PciFunction) : List PciFunction :=
  (commtechDevices devices).filter isSerialfcDevice

def AllEnable (answers : Answers) (devices : List PciFunction) : Prop :=
  ∀ device ∈ devices, (answers.fallback device).enables = true

theorem run_initDevices_cons (isOurs : isSerialfcDevice device = true)
    (enables : (answers.fallback device).enables = true)
    (enumerated : List PciFunction) (numDevices : Nat)
    (cards : List CardRecord) :
    (initMachine devices answers).run
        (initDevices (device :: enumerated) numDevices cards) setup =
      (initMachine devices answers).run
        (initDevices enumerated (numDevices + 1)
          (cards ++ made answers.fallback device)) (setup.enable device) := by
  rcases execute_cardNew devices answers (setup.enable device) enables with
    ⟨card, isMade, execute⟩
  rw [initDevices, if_pos isOurs]
  simp only [Machine.run_bind, Machine.run_perform_done,
    execute_enable devices answers setup enables, if_true]
  rw [execute, ← isMade]

theorem run_initDevices (enumerated : List PciFunction) (numDevices : Nat)
    (cards : List CardRecord)
    (enable : AllEnable answers (enumerated.filter isSerialfcDevice)) :
    ∃ next : Setup, next.hasClass = setup.hasClass ∧
      (initMachine devices answers).run
          (initDevices enumerated numDevices cards) setup =
        (some (some (numDevices +
            (enumerated.filter isSerialfcDevice).length),
          cards ++ (enumerated.filter isSerialfcDevice).flatMap
            (made answers.fallback)), next) := by
  induction enumerated generalizing numDevices cards setup with
  | nil => exact ⟨setup, rfl, by simp [initDevices]⟩
  | cons device enumerated induction =>
      cases isOurs : isSerialfcDevice device with
      | false =>
          rw [List.filter_cons_of_neg (by simp [isOurs])] at enable ⊢
          rcases induction setup numDevices cards enable with ⟨next, same, run⟩
          refine ⟨next, same, ?_⟩
          rw [initDevices, isOurs]
          exact run
      | true =>
          rw [List.filter_cons_of_pos isOurs] at enable ⊢
          have enables := enable device List.mem_cons_self
          have later : AllEnable answers (enumerated.filter isSerialfcDevice) :=
            fun other member => enable other (List.mem_cons_of_mem _ member)
          rcases induction (setup.enable device) (numDevices + 1)
            (cards ++ made answers.fallback device) later with
            ⟨next, same, run⟩
          refine ⟨next, same, ?_⟩
          rw [run_initDevices_cons _ _ _ isOurs enables, run,
            List.length_cons, List.flatMap_cons, List.append_assoc]
          have count : numDevices + 1 +
              (enumerated.filter isSerialfcDevice).length =
            numDevices + ((enumerated.filter isSerialfcDevice).length + 1) := by
            omega
          rw [count]

theorem run_initDevices_of_fails (enumerated : List PciFunction)
    (numDevices : Nat) (cards : List CardRecord)
    (fails : ¬AllEnable answers (enumerated.filter isSerialfcDevice)) :
    ∃ (left : List CardRecord) (next : Setup),
      next.hasClass = setup.hasClass ∧
      (initMachine devices answers).run
          (initDevices enumerated numDevices cards) setup =
        (some (none, left), next) := by
  induction enumerated generalizing numDevices cards setup with
  | nil =>
      exfalso
      apply fails
      intro device member
      cases member
  | cons device enumerated induction =>
      cases isOurs : isSerialfcDevice device with
      | false =>
          rw [List.filter_cons_of_neg (by simp [isOurs])] at fails
          rw [initDevices, isOurs]
          exact induction setup numDevices cards fails
      | true =>
          cases enables : (answers.fallback device).enables with
          | false =>
              refine ⟨cards, setup, rfl, ?_⟩
              rw [initDevices, if_pos isOurs]
              simp [Machine.run_bind,
                execute_enable_of_fails devices answers setup enables]
          | true =>
              rw [run_initDevices_cons _ _ _ isOurs enables]
              apply induction (setup.enable device)
              intro later
              apply fails
              rw [List.filter_cons_of_pos isOurs]
              intro other member
              rcases List.mem_cons.mp member with rfl | inLater
              · exact enables
              · exact later other inLater

end Fallback

end SerialFc.Lifecycle
