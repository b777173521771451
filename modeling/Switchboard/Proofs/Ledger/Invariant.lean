import Switchboard.Proofs.Ledger.Closing
import Switchboard.Proofs.Ledger.Counts
import Switchboard.Proofs.Ledger.Coherence
import Switchboard.Proofs.Ledger.Simulation

/-! # Every reachable machine has a sound ledger

The ledger of a new machine is sound, and every move keeps it so: `Machine.Reachable.sound`. What
is to be shown of all reachable machines can then be shown of the steps of sound ledgers. -/

namespace Switchboard

namespace Ledger

/-- The ledger stays sound whatever is done next. -/
theorem Sound.step {s t : Ledger} {mv : Move} {o : Outcome} (h : s.Sound) (step : Step s mv o t)
    (blank : t.Blank) : t.Sound where
  blank := blank
  devices := h.devices.change step.devices
  appls := h.appls.change step.appls
  fits := h.fits_step step
  paired := h.paired_step step
  counted := h.counted_step step
  closed := h.closed_step step

end Ledger

namespace Machine

/-- Records that have not arrived are blank. -/
theorem ledger_blank (m : Machine) : m.ledger.Blank where
  deviceRefs d hd := by
    show (m.registry.devices.get d).lifecycle.refs = 0
    rw [m.registry.devices.get_of_size_le hd]
    rfl
  applRefs a ha := by
    show (m.registry.appls.get a).lifecycle.refs = 0
    rw [m.registry.appls.get_of_size_le ha]
    rfl
  links a ha := by
    show (m.registry.appls.get a).links = .empty 0
    rw [m.registry.appls.get_of_size_le ha]
    rfl

/-- The ledger of a new machine is sound. -/
theorem sound_new (config : Config) : (new config).ledger.Sound where
  blank := ledger_blank _
  devices := Directory.sound_new config.maxDevices _
  appls := Directory.sound_new config.maxApplications _
  fits := ⟨rfl, fun _ hd => absurd hd (Nat.not_lt_zero _), fun _ ha => absurd ha (Nat.not_lt_zero _)⟩
  paired := ⟨fun _ => Links.coherent_empty 0, fun _ _ he => absurd he List.not_mem_nil, fun _ _ => rfl⟩
  counted := ⟨fun _ => rfl, fun _ => rfl⟩
  closed := ⟨fun _ _ _ => rfl, fun _ _ _ => ⟨rfl, rfl⟩⟩

variable {config : Config} {m : Machine}

/-- The ledger of a reachable machine is sound. -/
theorem Reachable.sound (h : Reachable config m) : m.ledger.Sound := by
  refine h.induction (P := fun m => m.ledger.Sound) (sound_new config) fun m mv _ ih admitted => ?_
  exact ih.step (step_ledger ih.ranged admitted) (ledger_blank _)

/-- A move of a reachable machine is a step of its ledger. -/
theorem Reachable.step (h : Reachable config m) {mv : Move} (admitted : m.admits mv = true) :
    Ledger.Step m.ledger mv (m.make mv).2 (m.make mv).1.ledger :=
  step_ledger h.sound.ranged admitted

/-! ## Records keep their numbers -/

/-- A device that has arrived keeps its number. -/
theorem Reachable.deviceId_make (h : Reachable config m) {mv : Move} (admitted : m.admits mv = true)
    {d : Nat} (hd : d < m.registry.devices.size) :
    d < (m.make mv).1.registry.devices.size ∧
      ((m.make mv).1.registry.devices.get d).id = (m.registry.devices.get d).id := by
  obtain ⟨hlt, hnumber⟩ := (h.step admitted).devices.number_eq hd
  exact ⟨hlt, Links.number_inj hnumber⟩

/-- An application number is known by its number. -/
theorem applId_inj {id id' : ApplId} (h : id.number = id'.number) : id = id' := by
  cases id
  cases id'
  cases h
  rfl

/-- An application that has arrived keeps its number. -/
theorem Reachable.applId_make (h : Reachable config m) {mv : Move} (admitted : m.admits mv = true)
    {a : Nat} (ha : a < m.registry.appls.size) :
    a < (m.make mv).1.registry.appls.size ∧
      ((m.make mv).1.registry.appls.get a).id = (m.registry.appls.get a).id := by
  obtain ⟨hlt, hnumber⟩ := (h.step admitted).appls.number_eq ha
  exact ⟨hlt, applId_inj hnumber⟩

end Machine

end Switchboard
