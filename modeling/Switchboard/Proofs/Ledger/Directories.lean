import Mathlib.Data.List.Perm.Basic
import Switchboard.Proofs.Directory
import Switchboard.Proofs.Ledger.Unlinking

/-! # Directories of a ledger

The devices and the applications of a ledger are each a directory. A record is closing while its
removal or release goes on in a call or waits. Main statements: a step of the ledger is a change of
each of the two, `Ledger.Step.devices` and `Ledger.Step.appls`. -/

namespace Switchboard

open Function (update)

namespace Teardown

/-- The device that a teardown is about. -/
def device? : Teardown → Option Nat
  | device d => some d
  | appl _ _ => none

/-- The application that a teardown is about. -/
def appl? : Teardown → Option Nat
  | device _ => none
  | appl a _ => some a

/-- A removal tears down its device. -/
@[simp] theorem device?_device (d : Nat) : (device d).device? = some d := rfl

/-- A release tears down no device. -/
@[simp] theorem device?_appl (a : Nat) (o : Origin) : (appl a o).device? = none := rfl

/-- A removal tears down no application. -/
@[simp] theorem appl?_device (d : Nat) : (device d).appl? = none := rfl

/-- A release tears down its application. -/
@[simp] theorem appl?_appl (a : Nat) (o : Origin) : (appl a o).appl? = some a := rfl

end Teardown

namespace Ledger

/-- How many removals of a device go on or wait. -/
def removals (s : Ledger) (d : Nat) : Nat :=
  s.frames.countP (fun f => f.removing? = some d) + s.waiting.countP fun t => t.device? = some d

/-- How many releases of an application go on or wait. -/
def releases (s : Ledger) (a : Nat) : Nat :=
  s.frames.countP (fun f => f.unwinding? = some a) + s.waiting.countP fun t => t.appl? = some a

/-- The devices of a ledger. -/
def devices (s : Ledger) : Directory where
  table := s.deviceTable
  pool := s.devicePool
  size := s.deviceCount
  number d := (s.deviceId d).number
  active := s.deviceActive
  closing := s.removals

/-- The applications of a ledger. -/
def appls (s : Ledger) : Directory where
  table := s.applTable
  pool := s.applPool
  size := s.applCount
  number a := (s.applId a).number
  active := s.applActive
  closing := s.releases

/-- Equal tables, pools, records and teardowns make equal directories of devices. -/
theorem devices_congr {s t : Ledger} (table : t.deviceTable = s.deviceTable)
    (pool : t.devicePool = s.devicePool) (count : t.deviceCount = s.deviceCount)
    (id : t.deviceId = s.deviceId) (active : t.deviceActive = s.deviceActive)
    (removals : ∀ d, t.removals d = s.removals d) : t.devices = s.devices := by
  simp only [devices, table, pool, count, id, active, funext removals]

/-- Equal tables, pools, records and teardowns make equal directories of applications. -/
theorem appls_congr {s t : Ledger} (table : t.applTable = s.applTable)
    (pool : t.applPool = s.applPool) (count : t.applCount = s.applCount)
    (id : t.applId = s.applId) (active : t.applActive = s.applActive)
    (releases : ∀ a, t.releases a = s.releases a) : t.appls = s.appls := by
  simp only [appls, table, pool, count, id, active, funext releases]

/-! ## Steps -/

/-- A teardown that is taken out of those that wait. -/
theorem countP_eraseIdx {α : Type} (p : α → Bool) {l : List α} {i : Nat} {t : α}
    (h : l[i]? = some t) : l.countP p = (l.eraseIdx i).countP p + if p t then 1 else 0 := by
  obtain ⟨hi, rfl⟩ := List.getElem?_eq_some_iff.1 h
  rw [← (List.getElem_cons_eraseIdx_perm hi).countP_eq, List.countP_cons]

variable {s t : Ledger} {mv : Move} {o : Outcome}

/-- An application that waits to be unwound is closing. -/
theorem closing_of_waiting {i a : Nat} {origin : Origin}
    (waits : s.waiting[i]? = some (.appl a origin)) : s.appls.closing a ≠ 0 := by
  show s.releases a ≠ 0
  simp [releases, countP_eraseIdx _ waits]

/-- A step is a change of the devices. -/
theorem Step.devices (h : Step s mv o t) : s.devices.Change t.devices := by
  cases h with
  | still | wake | woken | register | release | releaseLater | send | ask | skip | installed
      | registered | accept | decline | announced | passOver | bid | bidden | released | sent =>
    refine Directory.Change.same.of_eq (devices_congr rfl rfl rfl rfl rfl fun d => ?_)
    simp [removals, *]
  | @tell d news _ _ _ _ _ _ _ frames =>
    refine Directory.Change.same.of_eq (devices_congr rfl rfl rfl rfl rfl fun d => ?_)
    cases news <;> simp [removals, List.countP_cons, frames]
  | unwound waits =>
    refine Directory.Change.same.of_eq (devices_congr rfl rfl rfl rfl rfl fun d => ?_)
    simp [removals, countP_eraseIdx _ waits]
  | install allocated inserted =>
    refine (Directory.Change.add (s := s.devices) allocated inserted).of_eq ?_
    refine Directory.ext rfl rfl rfl ?_ rfl ?_
    · exact Function.comp_update DeviceId.number s.deviceId s.deviceCount _
    · funext d
      simp [Ledger.devices, Directory.add, removals]
  | @remove _ d _ removed rest =>
    refine (Directory.Change.retire (s := s.devices) removed).of_eq ?_
    refine Directory.ext rfl rfl rfl rfl rfl (Directory.closing_succ fun d' => ?_)
    simp [Ledger.devices, removals, List.countP_cons]
    omega
  | @removed d fs frames unheld =>
    have hd : s.devices.closing d ≠ 0 := by simp [Ledger.devices, removals, frames]
    refine (Directory.Change.free hd).of_eq ?_
    rw [unlinkAll_eq]
    refine Directory.ext rfl rfl rfl rfl rfl (Directory.closing_pred fun d' => ?_)
    simp [Ledger.devices, removals, frames, List.countP_cons]
    omega
  | @removeLater d fs frames held =>
    rw [unlinkAll_eq]
    refine Directory.Change.same.of_eq (devices_congr rfl rfl rfl rfl rfl fun d' => ?_)
    -- the call that tells the news of a removal ends, and the removal waits in its place
    simp [removals, frames, List.countP_cons]
    omega
  | @freed i d waits unheld =>
    have hd : s.devices.closing d ≠ 0 := by
      simp [Ledger.devices, removals, countP_eraseIdx _ waits]
    refine (Directory.Change.free hd).of_eq ?_
    refine Directory.ext rfl rfl rfl rfl rfl (Directory.closing_pred fun d' => ?_)
    simp [Ledger.devices, removals, countP_eraseIdx _ waits]
    omega

/-- A step is a change of the applications. -/
theorem Step.appls (h : Step s mv o t) : s.appls.Change t.appls := by
  cases h with
  | still | wake | woken | install | remove | send | ask | skip | installed | registered | accept
      | decline | tell | announced | sent =>
    refine Directory.Change.same.of_eq (appls_congr rfl rfl rfl rfl rfl fun a => ?_)
    simp [releases, *]
  | passOver frames | bid frames | bidden frames =>
    refine Directory.Change.same.of_eq (appls_congr rfl rfl rfl rfl rfl fun a => ?_)
    simp [releases, List.countP_cons, frames]
  | removed frames | removeLater frames =>
    rw [unlinkAll_eq]
    refine Directory.Change.same.of_eq (appls_congr rfl rfl rfl rfl rfl fun a => ?_)
    simp [releases, frames]
  | freed waits =>
    refine Directory.Change.same.of_eq (appls_congr rfl rfl rfl rfl rfl fun a => ?_)
    simp [releases, countP_eraseIdx _ waits]
  | register allocated inserted =>
    refine (Directory.Change.add (s := s.appls) allocated inserted).of_eq ?_
    refine Directory.ext rfl rfl rfl ?_ rfl ?_
    · exact Function.comp_update ApplId.number s.applId s.applCount _
    · funext a
      simp [Ledger.appls, Directory.add, releases]
  | @release _ a _ removed unheld _ origin =>
    refine (Directory.Change.retire (s := s.appls) removed).of_eq ?_
    refine Directory.ext rfl rfl rfl rfl rfl (Directory.closing_succ fun a' => ?_)
    simp [Ledger.appls, releases, List.countP_cons]
    omega
  | @releaseLater _ a _ removed =>
    refine (Directory.Change.retire (s := s.appls) removed).of_eq ?_
    refine Directory.ext rfl rfl rfl rfl rfl (Directory.closing_succ fun a' => ?_)
    simp [Ledger.appls, releases, List.countP_cons]
    omega
  | @released a origin fs frames =>
    have ha : s.appls.closing a ≠ 0 := by simp [Ledger.appls, releases, frames]
    refine (Directory.Change.free ha).of_eq ?_
    refine Directory.ext rfl rfl rfl rfl rfl (Directory.closing_pred fun a' => ?_)
    simp [Ledger.appls, releases, frames, List.countP_cons]
    omega
  | @unwound i a origin waits unheld =>
    refine Directory.Change.same.of_eq (appls_congr rfl rfl rfl rfl rfl fun a' => ?_)
    -- the release waits no longer, and a call unwinds the links in its place
    simp [releases, countP_eraseIdx _ waits, List.countP_cons]
    omega

end Ledger

end Switchboard
