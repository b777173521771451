import Mathlib.Logic.Function.Basic
import Mathlib.Tactic.Simps.Basic
import Switchboard.Machine.Run

/-! # The ledger of a machine

Who is there and who refers to whom: a `Ledger` keeps of a machine the identities, reference counts,
links, tables and pools of its records together with the calls in progress and the teardowns that
wait, each as a function of keys, and leaves out queues, counters, latches, handlers and observers.
`Ledger.Step` lists all that one move can do to a ledger; that a move of the machine is such a step
is shown in `Switchboard.Proofs.Ledger.Simulation`. -/

namespace Switchboard

/-! ## Walks -/

/-- A walk that binds: a device goes through the applications, or an application through the
devices. -/
inductive Walk where
  | ofDevice (d : Nat)
  | ofAppl (a : Nat) (origin : Origin)

namespace Walk

/-- The call in progress that makes a walk. -/
def frame : Walk → Cursor → Option Nat → Frame
  | ofDevice d, c, asking => .installing d c asking
  | ofAppl a origin, c, asking => .registering a origin c asking

/-- The device of the pair that a walk makes with the record it has come to. -/
def device : Walk → Nat → Nat
  | ofDevice d, _ => d
  | ofAppl _ _, k => k

/-- The application of the pair that a walk makes with the record it has come to. -/
def appl : Walk → Nat → Nat
  | ofDevice _, k => k
  | ofAppl a _, _ => a

/-- The walk of a device is always about the device. -/
@[simp] theorem device_ofDevice (d k : Nat) : (ofDevice d).device k = d := rfl

/-- The walk of an application comes to one device after the other. -/
@[simp] theorem device_ofAppl (a k : Nat) (o : Origin) : (ofAppl a o).device k = k := rfl

/-- The walk of a device comes to one application after the other. -/
@[simp] theorem appl_ofDevice (d k : Nat) : (ofDevice d).appl k = k := rfl

/-- The walk of an application is always about the application. -/
@[simp] theorem appl_ofAppl (a k : Nat) (o : Origin) : (ofAppl a o).appl k = a := rfl

end Walk

/-! ## References held by calls -/

namespace Frame

/-- The pair that a call is binding: the driver of the device is asked about the application. -/
def asking? : Frame → Option (Nat × Nat)
  | installing d _ (some a) => some (d, a)
  | registering a _ _ (some d) => some (d, a)
  | _ => none

/-- The pair that a call hands a message between. -/
def sending? : Frame → Option (Nat × Nat)
  | sending d a _ _ => some (d, a)
  | _ => none

/-- The device whose removal a call tells the news of. -/
def removing? : Frame → Option Nat
  | announcing d .removed _ _ _ => some d
  | _ => none

/-- The application whose links a call unwinds. -/
def unwinding? : Frame → Option Nat
  | releasing a _ _ _ => some a
  | _ => none

/-- The devices whose references a call has taken out of the links of an application and not given
up yet. -/
def taken : Frame → List Nat
  | releasing _ _ telling rest => telling.toList ++ rest
  | _ => []

/-- A walk that waits for an answer asks about its pair. -/
@[simp] theorem asking?_walk (w : Walk) (c : Cursor) (k : Nat) :
    (w.frame c (some k)).asking? = some (w.device k, w.appl k) := by
  cases w <;> rfl

/-- A walk that waits for nothing asks about no pair. -/
@[simp] theorem asking?_walk_none (w : Walk) (c : Cursor) : (w.frame c none).asking? = none := by
  cases w <;> rfl

/-- A walk sends nothing. -/
@[simp] theorem sending?_walk (w : Walk) (c : Cursor) (k : Option Nat) :
    (w.frame c k).sending? = none := by
  cases w <;> rfl

/-- A walk removes no device. -/
@[simp] theorem removing?_walk (w : Walk) (c : Cursor) (k : Option Nat) :
    (w.frame c k).removing? = none := by
  cases w <;> rfl

/-- A walk unwinds no application. -/
@[simp] theorem unwinding?_walk (w : Walk) (c : Cursor) (k : Option Nat) :
    (w.frame c k).unwinding? = none := by
  cases w <;> rfl

/-- A walk has taken no links. -/
@[simp] theorem taken_walk (w : Walk) (c : Cursor) (k : Option Nat) : (w.frame c k).taken = [] := by
  cases w <;> rfl

/-- A walk that waits for an answer has asked the driver to register the application. -/
@[simp] theorem callback?_walk (w : Walk) (c : Cursor) (k : Nat) :
    (w.frame c (some k)).callback? = some (.register (w.device k) (w.appl k)) := by
  cases w <;> rfl

/-- A walk that waits for nothing has called nobody back. -/
@[simp] theorem callback?_walk_none (w : Walk) (c : Cursor) :
    (w.frame c none).callback? = none := by
  cases w <;> rfl

/-- A call that tells news asks no driver. -/
@[simp] theorem asking?_announcing (d : Nat) (news : News) (l : Option Listener) (ns : List Notice)
    (os : List Observer) : (announcing d news l ns os).asking? = none := rfl

/-- A call that releases an application asks no driver to register one. -/
@[simp] theorem asking?_releasing (a : Nat) (o : Origin) (l : Option Nat) (ds : List Nat) :
    (releasing a o l ds).asking? = none := rfl

/-- A call that sends a message asks no driver to register an application. -/
@[simp] theorem asking?_sending (d a : Nat) (o : Origin) (m : Message) :
    (sending d a o m).asking? = none := rfl

/-- A call that wakes an application asks no driver. -/
@[simp] theorem asking?_waking (a : Nat) (h : SignalHandler) (w : Wake) :
    (waking a h w).asking? = none := rfl

/-- A call that tells news sends nothing. -/
@[simp] theorem sending?_announcing (d : Nat) (news : News) (l : Option Listener) (ns : List Notice)
    (os : List Observer) : (announcing d news l ns os).sending? = none := rfl

/-- A call that releases an application sends nothing. -/
@[simp] theorem sending?_releasing (a : Nat) (o : Origin) (l : Option Nat) (ds : List Nat) :
    (releasing a o l ds).sending? = none := rfl

/-- A call that sends a message holds the device and the application. -/
@[simp] theorem sending?_sending (d a : Nat) (o : Origin) (m : Message) :
    (sending d a o m).sending? = some (d, a) := rfl

/-- A call that wakes an application sends nothing. -/
@[simp] theorem sending?_waking (a : Nat) (h : SignalHandler) (w : Wake) :
    (waking a h w).sending? = none := rfl

/-- A call that tells of an installation removes no device. -/
@[simp] theorem removing?_announcing_added (d : Nat) (l : Option Listener) (ns : List Notice)
    (os : List Observer) : (announcing d .added l ns os).removing? = none := rfl

/-- A call that tells of a removal removes the device. -/
@[simp] theorem removing?_announcing_removed (d : Nat) (l : Option Listener) (ns : List Notice)
    (os : List Observer) : (announcing d .removed l ns os).removing? = some d := rfl

/-- A call that releases an application removes no device. -/
@[simp] theorem removing?_releasing (a : Nat) (o : Origin) (l : Option Nat) (ds : List Nat) :
    (releasing a o l ds).removing? = none := rfl

/-- A call that sends a message removes no device. -/
@[simp] theorem removing?_sending (d a : Nat) (o : Origin) (m : Message) :
    (sending d a o m).removing? = none := rfl

/-- A call that wakes an application removes no device. -/
@[simp] theorem removing?_waking (a : Nat) (h : SignalHandler) (w : Wake) :
    (waking a h w).removing? = none := rfl

/-- A call that tells news unwinds no application. -/
@[simp] theorem unwinding?_announcing (d : Nat) (news : News) (l : Option Listener) (ns : List Notice)
    (os : List Observer) : (announcing d news l ns os).unwinding? = none := rfl

/-- A call that releases an application unwinds it. -/
@[simp] theorem unwinding?_releasing (a : Nat) (o : Origin) (l : Option Nat) (ds : List Nat) :
    (releasing a o l ds).unwinding? = some a := rfl

/-- A call that sends a message unwinds no application. -/
@[simp] theorem unwinding?_sending (d a : Nat) (o : Origin) (m : Message) :
    (sending d a o m).unwinding? = none := rfl

/-- A call that wakes an application unwinds none. -/
@[simp] theorem unwinding?_waking (a : Nat) (h : SignalHandler) (w : Wake) :
    (waking a h w).unwinding? = none := rfl

/-- A call that tells news has taken no links. -/
@[simp] theorem taken_announcing (d : Nat) (news : News) (l : Option Listener) (ns : List Notice)
    (os : List Observer) : (announcing d news l ns os).taken = [] := rfl

/-- A call that releases an application has taken the links to the devices that are still to be
told, the one that is told now included. -/
@[simp] theorem taken_releasing (a : Nat) (o : Origin) (l : Option Nat) (ds : List Nat) :
    (releasing a o l ds).taken = l.toList ++ ds := rfl

/-- A call that sends a message has taken no links. -/
@[simp] theorem taken_sending (d a : Nat) (o : Origin) (m : Message) :
    (sending d a o m).taken = [] := rfl

/-- A call that wakes an application has taken no links. -/
@[simp] theorem taken_waking (a : Nat) (h : SignalHandler) (w : Wake) :
    (waking a h w).taken = [] := rfl

variable {f : Frame} {d a : Nat}

/-- A call whose register callback is in progress is binding the pair. -/
theorem asking?_of_callback? (h : f.callback? = some (.register d a)) :
    f.asking? = some (d, a) := by
  cases f with
  | installing d' c asking | registering a' o c asking => cases asking <;> cases h; rfl
  | announcing d' news telling ns os => cases telling <;> cases h
  | releasing a' o telling rest => cases telling <;> cases h
  | sending | waking => cases h

/-- A call whose send callback is in progress hands over a message. -/
theorem sending?_of_callback? {m : Message} (h : f.callback? = some (.send d a m)) :
    f.sending? = some (d, a) := by
  cases f with
  | installing d' c asking | registering a' o c asking => cases asking <;> cases h
  | announcing d' news telling ns os => cases telling <;> cases h
  | releasing a' o telling rest => cases telling <;> cases h
  | sending => cases h; rfl
  | waking => cases h

/-- A call whose release callback is in progress unwinds the links of the application. -/
theorem unwinding?_of_callback? (h : f.callback? = some (.release d a)) :
    f.unwinding? = some a := by
  cases f with
  | installing d' c asking | registering a' o c asking => cases asking <;> cases h
  | announcing d' news telling ns os => cases telling <;> cases h
  | releasing a' o telling rest => cases telling <;> cases h; rfl
  | sending | waking => cases h

/-- A call whose release callback is in progress has taken the reference to the device. -/
theorem mem_taken_of_callback? (h : f.callback? = some (.release d a)) : d ∈ f.taken := by
  cases f with
  | installing d' c asking | registering a' o c asking => cases asking <;> cases h
  | announcing d' news telling ns os => cases telling <;> cases h
  | releasing a' o telling rest =>
    cases telling <;> cases h
    exact List.mem_cons_self ..
  | sending | waking => cases h

end Frame

/-! ## Calls that register and release -/

namespace Call

/-- The origin through which a call registers an application. -/
def registrar? : Call → Option Origin
  | register _ => some .direct
  | facade k (.register _) => some (.facade k)
  | _ => none

/-- The origin through which a call releases an application, and the number of the application. -/
def releases? : Call → Option (Origin × UInt16)
  | release id => some (.direct, id.number)
  | facade k (.release n) => some (.facade k, n)
  | _ => none

end Call

/-! ## Ledgers -/

/-- What a machine records about presence and references. -/
structure Ledger where
  limit : UInt16
  deviceCount : Nat
  deviceId : Nat → DeviceId
  deviceRefs : Nat → Nat
  deviceActive : Nat → Bool
  deviceTable : Roster Nat
  devicePool : NumberPool
  applCount : Nat
  applId : Nat → ApplId
  applRefs : Nat → Nat
  applActive : Nat → Bool
  links : Nat → Links
  applTable : Roster Nat
  applPool : NumberPool
  frames : List Frame
  waiting : List Teardown

/-- The ledger of a registry with calls in progress and teardowns that wait. -/
def Registry.ledger (r : Registry) (frames : List Frame) (waiting : List Teardown) : Ledger where
  limit := r.config.maxDevices
  deviceCount := r.devices.size
  deviceId d := (r.devices.get d).id
  deviceRefs d := (r.devices.get d).lifecycle.refs
  deviceActive d := !(r.devices.get d).isRetiring
  deviceTable := r.deviceTable
  devicePool := r.devicePool
  applCount := r.appls.size
  applId a := (r.appls.get a).id
  applRefs a := (r.appls.get a).lifecycle.refs
  applActive a := !(r.appls.get a).isRetiring
  links a := (r.appls.get a).links
  applTable := r.applTable
  applPool := r.applPool
  frames := frames
  waiting := waiting

/-- The ledger of a machine. -/
def Machine.ledger (m : Machine) : Ledger := m.registry.ledger m.frames m.waiting

namespace Ledger

open Function (update update_self update_of_ne)

/-- The table that a walk goes through. -/
def tableOf (s : Ledger) : Walk → Roster Nat
  | .ofDevice _ => s.applTable
  | .ofAppl _ _ => s.deviceTable

/-- Whether a reference to a device is to be had. -/
def DeviceJoins (s : Ledger) (d : Nat) : Prop :=
  d < s.deviceCount ∧ s.deviceActive d = true ∧ s.deviceRefs d ≠ 0

/-- Whether a reference to an application is to be had. -/
def ApplJoins (s : Ledger) (a : Nat) : Prop :=
  a < s.applCount ∧ s.applActive a = true ∧ s.applRefs a ≠ 0

/-- The ledger with another reference to a device. -/
@[simps] def joinDevice (s : Ledger) (d : Nat) : Ledger :=
  { s with deviceRefs := update s.deviceRefs d (s.deviceRefs d + 1) }

/-- The ledger with another reference to an application. -/
@[simps] def joinAppl (s : Ledger) (a : Nat) : Ledger :=
  { s with applRefs := update s.applRefs a (s.applRefs a + 1) }

/-- The ledger with a reference to a device given up. -/
@[simps] def leaveDevice (s : Ledger) (d : Nat) : Ledger :=
  { s with deviceRefs := update s.deviceRefs d (s.deviceRefs d - 1) }

/-- The ledger with a reference to an application given up. -/
@[simps] def leaveAppl (s : Ledger) (a : Nat) : Ledger :=
  { s with applRefs := update s.applRefs a (s.applRefs a - 1) }

/-- The ledger with the links of an application replaced. -/
@[simps] def setLinks (s : Ledger) (a : Nat) (l : Links) : Ledger := { s with links := update s.links a l }

/-- The ledger with the calls in progress replaced. -/
@[simps] def withFrames (s : Ledger) (frames : List Frame) : Ledger := { s with frames := frames }

/-- The ledger with the waiting teardowns replaced. -/
@[simps] def withWaiting (s : Ledger) (waiting : List Teardown) : Ledger := { s with waiting := waiting }

/-- The ledger with the link that an application has under a number dropped, and its reference. -/
def unlink (s : Ledger) (id : DeviceId) (a : Nat) : Ledger :=
  match (s.links a).unlink? id with
  | none => s
  | some (d, l) => (s.setLinks a l).leaveDevice d

/-- The ledger with the links under a number dropped that the applications in the table have. -/
def unlinkAll (s : Ledger) (id : DeviceId) : Ledger :=
  s.applTable.values.foldl (fun s a => s.unlink id a) s

/-- The ledger with a new device. -/
@[simps] def addDevice (s : Ledger) (id : DeviceId) (pool : NumberPool) (table : Roster Nat) : Ledger :=
  { s with
    deviceCount := s.deviceCount + 1
    deviceId := update s.deviceId s.deviceCount id
    deviceRefs := update s.deviceRefs s.deviceCount 1
    deviceActive := update s.deviceActive s.deviceCount true
    devicePool := pool
    deviceTable := table }

/-- The ledger with a new application. -/
@[simps] def addAppl (s : Ledger) (id : ApplId) (pool : NumberPool) (table : Roster Nat) : Ledger :=
  { s with
    applCount := s.applCount + 1
    applId := update s.applId s.applCount id
    applRefs := update s.applRefs s.applCount 1
    applActive := update s.applActive s.applCount true
    links := update s.links s.applCount (.empty s.limit)
    applPool := pool
    applTable := table }

/-- The ledger with a device retired. -/
@[simps] def retireDevice (s : Ledger) (d : Nat) (table : Roster Nat) : Ledger :=
  { s with deviceActive := update s.deviceActive d false, deviceTable := table }

/-- The ledger with an application retired and the reference of the registry to it given up. -/
@[simps] def retireAppl (s : Ledger) (a : Nat) (table : Roster Nat) : Ledger :=
  { s with
    applActive := update s.applActive a false
    applRefs := update s.applRefs a (s.applRefs a - 1)
    applTable := table }

/-- The ledger with the number of a device given back. -/
@[simps] def freeDevice (s : Ledger) (d : Nat) : Ledger :=
  { s with devicePool := s.devicePool.free (s.deviceId d).number }

/-- The ledger with the number of an application given back. -/
@[simps] def freeAppl (s : Ledger) (a : Nat) : Ledger :=
  { s with applPool := s.applPool.free (s.applId a).number }

/-- The ledger once the links of an application have been taken to be unwound. -/
@[simps] def unwind (s : Ledger) (a : Nat) (origin : Origin) : Ledger :=
  { s with
    links := update s.links a (s.links a).clear
    frames := .releasing a origin none (s.links a).keys :: s.frames }

/-- One device has one more reference, and no other device has. -/
theorem deviceRefs_joinDevice (s : Ledger) (d d' : Nat) :
    (s.joinDevice d).deviceRefs d' = s.deviceRefs d' + if d = d' then 1 else 0 := by
  rw [joinDevice_deviceRefs]
  by_cases h : d' = d
  · subst h
    rw [update_self, if_pos rfl]
  · rw [update_of_ne h, if_neg (Ne.symm h), Nat.add_zero]

/-- One device has one reference less, and no other device has. -/
theorem deviceRefs_leaveDevice (s : Ledger) (d d' : Nat) :
    (s.leaveDevice d).deviceRefs d' = s.deviceRefs d' - if d = d' then 1 else 0 := by
  rw [leaveDevice_deviceRefs]
  by_cases h : d' = d
  · subst h
    rw [update_self, if_pos rfl]
  · rw [update_of_ne h, if_neg (Ne.symm h), Nat.sub_zero]

/-- One application has one more reference, and no other application has. -/
theorem applRefs_joinAppl (s : Ledger) (a a' : Nat) :
    (s.joinAppl a).applRefs a' = s.applRefs a' + if a = a' then 1 else 0 := by
  rw [joinAppl_applRefs]
  by_cases h : a' = a
  · subst h
    rw [update_self, if_pos rfl]
  · rw [update_of_ne h, if_neg (Ne.symm h), Nat.add_zero]

/-- One application has one reference less, and no other application has. -/
theorem applRefs_leaveAppl (s : Ledger) (a a' : Nat) :
    (s.leaveAppl a).applRefs a' = s.applRefs a' - if a = a' then 1 else 0 := by
  rw [leaveAppl_applRefs]
  by_cases h : a' = a
  · subst h
    rw [update_self, if_pos rfl]
  · rw [update_of_ne h, if_neg (Ne.symm h), Nat.sub_zero]

/-- To give up a reference to a device is to take none. -/
theorem deviceRefs_leaveDevice_le (s : Ledger) (d d' : Nat) :
    (s.leaveDevice d).deviceRefs d' ≤ s.deviceRefs d' := by
  rw [deviceRefs_leaveDevice]
  exact Nat.sub_le _ _

/-- To give up a reference to an application is to take none. -/
theorem applRefs_leaveAppl_le (s : Ledger) (a a' : Nat) :
    (s.leaveAppl a).applRefs a' ≤ s.applRefs a' := by
  rw [applRefs_leaveAppl]
  exact Nat.sub_le _ _

/-! ## Steps -/

/-- What one move can do to a ledger, and what it leads to. -/
inductive Step (s : Ledger) : Move → Outcome → Ledger → Prop where
  /-- A call ends at once and leaves the ledger as it is. -/
  | still (c : Call) (reply : Reply) : Step s (.call c) (.ends reply) s
  /-- A call wakes an application. -/
  | wake (c : Call) (a : Nat) (h : SignalHandler) (w : Wake) :
      Step s (.call c) (.asks (.wake a h)) (s.withFrames (.waking a h w :: s.frames))
  /-- A handler returns. -/
  | woken {a : Nat} {h : SignalHandler} {w : Wake} {fs : List Frame}
      (frames : s.frames = .waking a h w :: fs) (ans : Answer) (reply : Reply) :
      Step s (.answer ans) (.ends reply) (s.withFrames fs)
  /-- A device is installed, and its walk begins. -/
  | install {id : DeviceId} {pool : NumberPool} {table : Roster Nat}
      (allocated : s.devicePool.allocate = .ok (id.number, pool))
      (inserted : s.deviceTable.insert? id.number s.deviceCount = some table)
      (info : DeviceInfo) (driver : Driver) :
      Step s (.call (.install info driver)) .works
        ((s.addDevice id pool table).withFrames
          ((Walk.ofDevice s.deviceCount).frame .start none :: s.frames))
  /-- An application is registered, and its walk begins. -/
  | register {id : ApplId} {pool : NumberPool} {table : Roster Nat}
      (allocated : s.applPool.allocate = .ok (id.number, pool))
      (inserted : s.applTable.insert? id.number s.applCount = some table)
      (c : Call) (origin : Origin) (registers : c.registrar? = some origin) :
      Step s (.call c) .works
        ((s.addAppl id pool table).withFrames
          ((Walk.ofAppl s.applCount origin).frame .start none :: s.frames))
  /-- A device is retired, and the news of its removal begin. -/
  | remove {id : DeviceId} {d : Nat} {table : Roster Nat}
      (removed : s.deviceTable.remove? id.number = some (d, table)) (rest : List Observer) :
      Step s (.call (.remove id)) .works
        ((s.retireDevice d table).withFrames (.announcing d .removed none [] rest :: s.frames))
  /-- An application is retired that nothing else refers to, and its links are taken. -/
  | release {id : ApplId} {a : Nat} {table : Roster Nat}
      (removed : s.applTable.remove? id.number = some (a, table))
      (unheld : s.applRefs a - 1 = 0) (c : Call) (origin : Origin)
      (releases : c.releases? = some (origin, id.number)) :
      Step s (.call c) .works ((s.retireAppl a table).unwind a origin)
  /-- An application is retired, and its release waits for others to give it up. -/
  | releaseLater {id : ApplId} {a : Nat} {table : Roster Nat}
      (removed : s.applTable.remove? id.number = some (a, table))
      (held : s.applRefs a - 1 ≠ 0) (c : Call) (origin : Origin)
      (releases : c.releases? = some (origin, id.number)) :
      Step s (.call c) (.ends .deferred)
        ((s.retireAppl a table).withWaiting (s.waiting ++ [.appl a origin]))
  /-- A message is handed to the driver of a device that the sender is linked to. -/
  | send {id : ApplId} {target : DeviceId} {d a : Nat}
      (appl : s.applTable.get? id.number = some a) (applJoins : s.ApplJoins a)
      (device : s.deviceTable.get? target.number = some d) (deviceJoins : s.DeviceJoins d)
      (bound : (s.links a).isBound target = true) (c : Call) (origin : Origin) (msg : Message) :
      Step s (.call c) (.asks (.send d a msg))
        (((s.joinDevice d).joinAppl a).withFrames (.sending d a origin msg :: s.frames))
  /-- A walk comes to a record, and the driver of the pair is asked. -/
  | ask {w : Walk} {c c' : Cursor} {n : UInt16} {k : Nat} {l : Links} {fs : List Frame}
      (frames : s.frames = w.frame c none :: fs)
      (next : (s.tableOf w).next? c = some (c', n, k))
      (deviceJoins : s.DeviceJoins (w.device k)) (applJoins : s.ApplJoins (w.appl k))
      (reserved : (s.links (w.appl k)).reserve? (s.deviceId (w.device k)) = some l) :
      Step s .advance (.asks (.register (w.device k) (w.appl k)))
        ((((s.joinDevice (w.device k)).joinAppl (w.appl k)).setLinks (w.appl k) l).withFrames
          (w.frame c' (some k) :: fs))
  /-- A walk comes to a record and passes it over: a reference is not to be had, or the pair is
  linked or reserved already. -/
  | skip {w : Walk} {c c' : Cursor} {n : UInt16} {k : Nat} {fs : List Frame}
      (frames : s.frames = w.frame c none :: fs)
      (next : (s.tableOf w).next? c = some (c', n, k))
      (refused : s.DeviceJoins (w.device k) → s.ApplJoins (w.appl k) →
        (s.links (w.appl k)).reserve? (s.deviceId (w.device k)) = none) :
      Step s .advance .works (s.withFrames (w.frame c' none :: fs))
  /-- The walk of a device ends, and the news of its installation begin. -/
  | installed {d : Nat} {c : Cursor} {fs : List Frame}
      (frames : s.frames = (Walk.ofDevice d).frame c none :: fs)
      (next : s.applTable.next? c = none) (rest : List Observer) :
      Step s .advance .works (s.withFrames (.announcing d .added none [] rest :: fs))
  /-- The walk of an application ends, and with it its registration. -/
  | registered {a : Nat} {origin : Origin} {c : Cursor} {fs : List Frame}
      (frames : s.frames = (Walk.ofAppl a origin).frame c none :: fs)
      (next : s.deviceTable.next? c = none) (reply : Reply) :
      Step s .advance (.ends reply) (s.withFrames fs)
  /-- A driver accepts an application while its device is active, and the pair is linked. -/
  | accept {w : Walk} {c : Cursor} {k : Nat} {fs : List Frame}
      (frames : s.frames = w.frame c (some k) :: fs) {ans : Answer}
      (accepted : ans.isAccepted = true) (active : s.deviceActive (w.device k) = true) :
      Step s (.answer ans) .works
        (((s.setLinks (w.appl k) ((s.links (w.appl k)).confirm (s.deviceId (w.device k))
          (w.device k) false).2).leaveAppl (w.appl k)).withFrames (w.frame c none :: fs))
  /-- A driver refuses an application, or its device has been retired meanwhile. -/
  | decline {w : Walk} {c : Cursor} {k : Nat} {fs : List Frame}
      (frames : s.frames = w.frame c (some k) :: fs) {ans : Answer}
      (declined : ans.isAccepted = true → s.deviceActive (w.device k) = false) :
      Step s (.answer ans) .works
        ((((s.setLinks (w.appl k) ((s.links (w.appl k)).cancel (s.deviceId (w.device k)))).leaveDevice
          (w.device k)).leaveAppl (w.appl k)).withFrames (w.frame c none :: fs))
  /-- News about a device go on. -/
  | tell {d : Nat} {news : News} {telling telling' : Option Listener} {notices notices' : List Notice}
      {rest rest' : List Observer} {fs : List Frame}
      (frames : s.frames = .announcing d news telling notices rest :: fs) {mv : Move} {o : Outcome}
      (goesOn : mv = .advance ∨ ∃ ans, mv = .answer ans)
      (outcome : o = .works ∨ ∃ l, o = .asks (.news l news d)) :
      Step s mv o (s.withFrames (.announcing d news telling' notices' rest' :: fs))
  /-- The news of an installation have been told, and it ends. -/
  | announced {d : Nat} {fs : List Frame}
      (frames : s.frames = .announcing d .added none [] [] :: fs) (reply : Reply) :
      Step s .advance (.ends reply) (s.withFrames fs)
  /-- A device that nothing refers to any more once its links are dropped is removed for good. -/
  | removed {d : Nat} {fs : List Frame}
      (frames : s.frames = .announcing d .removed none [] [] :: fs)
      (unheld : (s.unlinkAll (s.deviceId d)).deviceRefs d - 1 = 0) :
      Step s .advance (.ends (.removed (.ok ())))
        ((((s.unlinkAll (s.deviceId d)).leaveDevice d).freeDevice d).withFrames fs)
  /-- A device has its links dropped, and its removal waits for others to give it up. -/
  | removeLater {d : Nat} {fs : List Frame}
      (frames : s.frames = .announcing d .removed none [] [] :: fs)
      (held : (s.unlinkAll (s.deviceId d)).deviceRefs d - 1 ≠ 0) :
      Step s .advance (.ends .deferred)
        ((((s.unlinkAll (s.deviceId d)).leaveDevice d).withFrames fs).withWaiting
          (s.waiting ++ [.device d]))
  /-- A retired device is not told that an application is released. -/
  | passOver {a : Nat} {origin : Origin} {d : Nat} {rest : List Nat} {fs : List Frame}
      (frames : s.frames = .releasing a origin none (d :: rest) :: fs)
      (retired : s.deviceActive d = false) :
      Step s .advance .works
        ((s.leaveDevice d).withFrames (.releasing a origin none rest :: fs))
  /-- The driver of an active device is told that an application is released. -/
  | bid {a : Nat} {origin : Origin} {d : Nat} {rest : List Nat} {fs : List Frame}
      (frames : s.frames = .releasing a origin none (d :: rest) :: fs)
      (active : s.deviceActive d = true) :
      Step s .advance (.asks (.release d a))
        (s.withFrames (.releasing a origin (some d) rest :: fs))
  /-- A driver that was told of a release returns. -/
  | bidden {a : Nat} {origin : Origin} {d : Nat} {rest : List Nat} {fs : List Frame}
      (frames : s.frames = .releasing a origin (some d) rest :: fs) (ans : Answer) :
      Step s (.answer ans) .works
        ((s.leaveDevice d).withFrames (.releasing a origin none rest :: fs))
  /-- An application is unwound, and its release ends. -/
  | released {a : Nat} {origin : Origin} {fs : List Frame}
      (frames : s.frames = .releasing a origin none [] :: fs) (reply : Reply) :
      Step s .advance (.ends reply) ((s.freeAppl a).withFrames fs)
  /-- A driver that was handed a message returns. -/
  | sent {d a : Nat} {origin : Origin} {msg : Message} {fs : List Frame}
      (frames : s.frames = .sending d a origin msg :: fs) (ans : Answer) (reply : Reply) :
      Step s (.answer ans) (.ends reply) (((s.leaveDevice d).leaveAppl a).withFrames fs)
  /-- A removal that has waited ends. -/
  | freed {i d : Nat} (waits : s.waiting[i]? = some (.device d)) (unheld : s.deviceRefs d = 0) :
      Step s (.resume i) (.ends (.removed (.ok ())))
        ((s.freeDevice d).withWaiting (s.waiting.eraseIdx i))
  /-- A release that has waited goes on to the links. -/
  | unwound {i a : Nat} {origin : Origin} (waits : s.waiting[i]? = some (.appl a origin))
      (unheld : s.applRefs a = 0) :
      Step s (.resume i) .works ((s.withWaiting (s.waiting.eraseIdx i)).unwind a origin)

/-- A step may lead to a ledger that is written in another way. -/
theorem Step.of_eq {s t u : Ledger} {mv : Move} {o : Outcome} (h : Step s mv o t) (e : u = t) :
    Step s mv o u := e ▸ h

/-- The applications that drivers are being asked about are there. -/
def Ranged (s : Ledger) : Prop := ∀ f ∈ s.frames, ∀ d a, f.asking? = some (d, a) → a < s.applCount

end Ledger

end Switchboard
