import Mathlib.Algebra.GroupWithZero.Nat
import Mathlib.Algebra.Order.BigOperators.Group.Finset
import Mathlib.Algebra.Order.BigOperators.Group.List
import Switchboard.Proofs.Ledger.Directories
import Switchboard.Proofs.Links

/-! # Sound ledgers

What is true of the ledger of every reachable machine. Devices and applications are sound
directories; links are coherent and lead to the records they name; every reference that is counted
has a holder, and only one; and what has been torn down is referred to no more. The parts depend on
each other, so that a step of the ledger is shown to keep each of them from all of them together. -/

namespace Switchboard

namespace Frame

/-- How many references to a device a call in progress holds: one each for binding it, handing it a
message or telling the news of its removal, and those it has taken out of links. -/
def deviceHolds (f : Frame) (d : Nat) : Nat :=
  (f.asking?.toList.countP fun p => p.1 = d) + (f.sending?.toList.countP fun p => p.1 = d) +
    f.removing?.toList.count d + f.taken.count d

/-- How many references to an application a call in progress holds: one each for binding it and
sending for it. -/
def applHolds (f : Frame) (a : Nat) : Nat :=
  (f.asking?.toList.countP fun p => p.2 = a) + (f.sending?.toList.countP fun p => p.2 = a)

variable (w : Walk) (c : Cursor) (k d a d' a' : Nat) (l : Option Listener) (ns : List Notice)
  (os : List Observer) (o : Origin)

/-- A walk that asks about a pair keeps a reference to the pair's device. -/
@[simp] theorem deviceHolds_asking :
    (w.frame c (some k)).deviceHolds d = if w.device k = d then 1 else 0 := by
  simp [deviceHolds]

/-- A walk between two candidates keeps no device. -/
@[simp] theorem deviceHolds_walk : (w.frame c none).deviceHolds d = 0 := by
  simp [deviceHolds]

/-- The announcement that a device was added keeps no device. -/
@[simp] theorem deviceHolds_added : (announcing d' .added l ns os).deviceHolds d = 0 := rfl

/-- The announcement that a device was removed keeps the device that was taken out. -/
@[simp] theorem deviceHolds_removed :
    (announcing d' .removed l ns os).deviceHolds d = if d' = d then 1 else 0 := by
  simp [deviceHolds, List.count_singleton]

/-- A release keeps the device it is telling now and every device it has yet to tell. -/
@[simp] theorem deviceHolds_releasing (t : Option Nat) (rest : List Nat) :
    (releasing a o t rest).deviceHolds d = t.toList.count d + rest.count d := by
  simp [deviceHolds]

/-- A message under way keeps the device it goes to. -/
@[simp] theorem deviceHolds_sending (m : Message) :
    (sending d' a o m).deviceHolds d = if d' = d then 1 else 0 := by
  simp [deviceHolds]

/-- A wake-up keeps no device. -/
@[simp] theorem deviceHolds_waking (h : SignalHandler) (w : Wake) :
    (waking a h w).deviceHolds d = 0 := rfl

/-- A walk that asks about a pair keeps a reference to the pair's application. -/
@[simp] theorem applHolds_asking :
    (w.frame c (some k)).applHolds a = if w.appl k = a then 1 else 0 := by
  simp [applHolds]

/-- A walk between two candidates keeps no application. -/
@[simp] theorem applHolds_walk : (w.frame c none).applHolds a = 0 := by
  simp [applHolds]

/-- An announcement keeps no application. -/
@[simp] theorem applHolds_announcing (news : News) :
    (announcing d news l ns os).applHolds a = 0 := rfl

/-- A release keeps no application: it took the links out and let the record go. -/
@[simp] theorem applHolds_releasing (t : Option Nat) (rest : List Nat) :
    (releasing a' o t rest).applHolds a = 0 := rfl

/-- A message under way keeps the application it comes from. -/
@[simp] theorem applHolds_sending (m : Message) :
    (sending d a' o m).applHolds a = if a' = a then 1 else 0 := by
  simp [applHolds]

/-- A wake-up keeps the application whose handler runs. -/
@[simp] theorem applHolds_waking (h : SignalHandler) (w : Wake) :
    (waking a' h w).applHolds a = 0 := rfl

end Frame

namespace Ledger

/-- How many links lead to a device. -/
def linkCount (s : Ledger) (d : Nat) : Nat :=
  ∑ a ∈ Finset.range s.applCount, (s.links a).keys.count d

/-- How many references to a device the calls in progress hold. -/
def deviceHolds (s : Ledger) (d : Nat) : Nat := (s.frames.map (·.deviceHolds d)).sum

/-- How many references to an application the calls in progress hold. -/
def applHolds (s : Ledger) (a : Nat) : Nat := (s.frames.map (·.applHolds a)).sum

/-- The pairs that calls in progress are binding. -/
def asked (s : Ledger) : List (Nat × Nat) := s.frames.filterMap Frame.asking?

/-- How many devices with a number are being asked about an application. -/
def askings (s : Ledger) (a : Nat) (id : DeviceId) : Nat :=
  s.asked.countP fun p => p.2 = a ∧ s.deviceId p.1 = id

/-- Records that have not arrived are blank. -/
structure Blank (s : Ledger) : Prop where
  deviceRefs : ∀ d, s.deviceCount ≤ d → s.deviceRefs d = 0
  applRefs : ∀ a, s.applCount ≤ a → s.applRefs a = 0
  links : ∀ a, s.applCount ≤ a → s.links a = .empty 0

/-- Device numbers fit into the sets of numbers that are kept of them. -/
structure Fits (s : Ledger) : Prop where
  pool : s.devicePool.inUse.capacity = s.limit
  number : ∀ d, d < s.deviceCount → (s.deviceId d).number.toNat ≤ s.limit.toNat
  bound : ∀ a, a < s.applCount → (s.links a).bound.capacity = s.limit

/-- Links are coherent, a link leads to the device with its number, and a number is reserved exactly
while the driver of such a device is being asked. -/
structure Paired (s : Ledger) : Prop where
  coherent : ∀ a, (s.links a).Coherent
  keyed : ∀ a, ∀ e ∈ (s.links a).linked, s.deviceId e.2 = e.1
  reserved : ∀ a id, (s.links a).pending.count id = s.askings a id

/-- Counted references are those of the owner, of links and of calls in progress. -/
structure Counted (s : Ledger) : Prop where
  devices : ∀ d, s.deviceRefs d = (s.deviceActive d).toNat + s.linkCount d + s.deviceHolds d
  appls : ∀ a, s.applRefs a = (s.applActive a).toNat + s.applHolds a

/-- What has been torn down is not referred to. -/
structure Closed (s : Ledger) : Prop where
  devices : ∀ d, s.deviceActive d = false → s.removals d = 0 → s.deviceRefs d = 0
  appls : ∀ a, s.applActive a = false → (s.waiting.countP fun t => t.appl? = some a) = 0 →
    s.applRefs a = 0 ∧ (s.links a).linked = []

/-- What is true of the ledger of every reachable machine. -/
structure Sound (s : Ledger) : Prop where
  blank : s.Blank
  devices : s.devices.Sound
  appls : s.appls.Sound
  fits : s.Fits
  paired : s.Paired
  counted : s.Counted
  closed : s.Closed

variable {s t : Ledger}

/-- Blank records stay blank when links are dropped. -/
theorem Blank.unlink (h : s.Blank) (id : DeviceId) (a : Nat) : (s.unlink id a).Blank := by
  rw [unlink_eq]
  constructor
  · intro d hd
    exact Nat.le_zero.1 ((s.deviceRefs_unlink_le id a d).trans (h.deviceRefs d hd).le)
  · exact h.applRefs
  · intro a' ha'
    refine s.links_unlink_of id (P := fun a l => s.applCount ≤ a → l = .empty 0) h.links ?_ a a' ha'
    intro b l hl hb
    rw [hl hb]
    rfl

/-! ## What calls in progress hold -/

/-- What the frames hold of a device splits into the top frame's share and the rest. -/
theorem deviceHolds_cons {f : Frame} {fs : List Frame} (h : s.frames = f :: fs) (d : Nat) :
    s.deviceHolds d = f.deviceHolds d + (fs.map (·.deviceHolds d)).sum := by
  rw [deviceHolds, h, List.map_cons, List.sum_cons]

/-- What the frames hold of an application splits into the top frame's share and the rest. -/
theorem applHolds_cons {f : Frame} {fs : List Frame} (h : s.frames = f :: fs) (a : Nat) :
    s.applHolds a = f.applHolds a + (fs.map (·.applHolds a)).sum := by
  rw [applHolds, h, List.map_cons, List.sum_cons]

/-- A call in progress holds no more than all of them. -/
theorem deviceHolds_le {f : Frame} (h : f ∈ s.frames) (d : Nat) :
    f.deviceHolds d ≤ s.deviceHolds d :=
  List.le_sum_of_mem (List.mem_map_of_mem h)

/-- A frame holds no more of an application than the stack does. -/
theorem applHolds_le {f : Frame} (h : f ∈ s.frames) (a : Nat) : f.applHolds a ≤ s.applHolds a :=
  List.le_sum_of_mem (List.mem_map_of_mem h)

/-- A link to a device is counted. -/
theorem keys_count_le (s : Ledger) {a : Nat} (ha : a < s.applCount) (d : Nat) :
    (s.links a).keys.count d ≤ s.linkCount d :=
  Finset.single_le_sum (f := fun a => (s.links a).keys.count d) (fun _ _ => Nat.zero_le _)
    (Finset.mem_range.2 ha)

namespace Sound

/-- An application that is referred to has arrived. -/
theorem appl_lt (h : s.Sound) {a : Nat} (ha : s.applRefs a ≠ 0) : a < s.applCount := by
  by_contra hge
  exact ha (h.blank.applRefs a (Nat.not_lt.1 hge))

/-- A device that is referred to has arrived. -/
theorem device_lt (h : s.Sound) {d : Nat} (hd : s.deviceRefs d ≠ 0) : d < s.deviceCount := by
  by_contra hge
  exact hd (h.blank.deviceRefs d (Nat.not_lt.1 hge))

/-- While a driver is asked, the call holds both sides of the pair. -/
theorem asking_refs (h : s.Sound) {f : Frame} (hf : f ∈ s.frames) {d a : Nat}
    (hask : f.asking? = some (d, a)) : s.deviceRefs d ≠ 0 ∧ s.applRefs a ≠ 0 := by
  have hd := deviceHolds_le hf d
  have ha := applHolds_le hf a
  have hd1 : 1 ≤ f.deviceHolds d := by simp [Frame.deviceHolds, hask]; omega
  have ha1 : 1 ≤ f.applHolds a := by simp [Frame.applHolds, hask]
  have hcd := h.counted.devices d
  have hca := h.counted.appls a
  constructor <;> omega

/-- Both records of an asked pair are still referred to. -/
theorem asked_refs (h : s.Sound) {d a : Nat} (hp : (d, a) ∈ s.asked) :
    s.deviceRefs d ≠ 0 ∧ s.applRefs a ≠ 0 := by
  obtain ⟨f, hf, hask⟩ := List.mem_filterMap.1 hp
  exact h.asking_refs hf hask

/-- While a driver is handed a message, the call holds both sides of the pair. -/
theorem sending_refs (h : s.Sound) {f : Frame} (hf : f ∈ s.frames) {d a : Nat}
    (hsend : f.sending? = some (d, a)) : s.deviceRefs d ≠ 0 ∧ s.applRefs a ≠ 0 := by
  have hd := deviceHolds_le hf d
  have ha := applHolds_le hf a
  have hd1 : 1 ≤ f.deviceHolds d := by simp [Frame.deviceHolds, hsend]; omega
  have ha1 : 1 ≤ f.applHolds a := by simp [Frame.applHolds, hsend]
  have hcd := h.counted.devices d
  have hca := h.counted.appls a
  constructor <;> omega

/-- A device whose reference a release has taken is referred to. -/
theorem taken_refs (h : s.Sound) {f : Frame} (hf : f ∈ s.frames) {d : Nat} (hd : d ∈ f.taken) :
    s.deviceRefs d ≠ 0 := by
  have hle := deviceHolds_le hf d
  have hone : 1 ≤ f.taken.count d := List.one_le_count_iff.2 hd
  have hholds : f.taken.count d ≤ f.deviceHolds d := Nat.le_add_left ..
  have hcd := h.counted.devices d
  omega

/-- An application that has links has arrived. -/
theorem appl_lt_of_linked (h : s.Sound) {a : Nat} {e : DeviceId × Nat}
    (he : e ∈ (s.links a).linked) : a < s.applCount := by
  by_contra hge
  rw [h.blank.links a (Nat.not_lt.1 hge)] at he
  cases he

/-- A device that is linked is referred to. -/
theorem linked_refs (h : s.Sound) {a : Nat} {e : DeviceId × Nat} (he : e ∈ (s.links a).linked) :
    s.deviceRefs e.2 ≠ 0 := by
  have hle := s.keys_count_le (h.appl_lt_of_linked he) e.2
  have hmem : e.2 ∈ (s.links a).keys := List.mem_map_of_mem he
  have hpos := List.count_pos_iff.2 hmem
  have hcd := h.counted.devices e.2
  omega

/-- The applications that drivers are asked about have arrived. -/
theorem ranged (h : s.Sound) : s.Ranged := fun _ hf _ _ hask =>
  h.appl_lt (h.asking_refs hf hask).2

/-- The number of a device that is being asked is reserved, and no link has it. -/
theorem asking_pending (h : s.Sound) {f : Frame} (hf : f ∈ s.frames) {d a : Nat}
    (hask : f.asking? = some (d, a)) : s.deviceId d ∈ (s.links a).pending := by
  rw [← List.count_pos_iff, h.paired.reserved]
  exact List.countP_pos_iff.2 ⟨(d, a), List.mem_filterMap.2 ⟨f, hf, hask⟩, by simp⟩

/-- A pair that is being asked is not linked yet. -/
theorem asking_not_linked (h : s.Sound) {f : Frame} (hf : f ∈ s.frames) {d a : Nat}
    (hask : f.asking? = some (d, a)) : ∀ e ∈ (s.links a).linked, e.1 ≠ s.deviceId d := by
  intro e he heq
  exact (h.paired.coherent a).apart e he (heq ▸ h.asking_pending hf hask)

/-! ## Numbers in use -/

/-- A device that is referred to has its number still. -/
theorem device_inUse (h : s.Sound) {d : Nat} (hd : s.deviceRefs d ≠ 0) : s.devices.InUse d := by
  by_contra hno
  obtain ⟨hactive, hremovals⟩ := not_or.1 hno
  exact hd (h.closed.devices d (Bool.eq_false_iff.2 hactive) (not_not.1 hremovals))

/-- An application that is referred to has its number still. -/
theorem appl_inUse (h : s.Sound) {a : Nat} (ha : s.applRefs a ≠ 0) : s.appls.InUse a := by
  by_contra hno
  obtain ⟨hactive, hreleases⟩ := not_or.1 hno
  have hwaits := Nat.eq_zero_of_add_eq_zero_left (not_not.1 hreleases)
  exact ha (h.closed.appls a (Bool.eq_false_iff.2 hactive) hwaits).1

/-- An application that is linked has its number still. -/
theorem appl_inUse_of_linked (h : s.Sound) {a : Nat} {e : DeviceId × Nat}
    (he : e ∈ (s.links a).linked) : s.appls.InUse a := by
  by_contra hno
  obtain ⟨hactive, hreleases⟩ := not_or.1 hno
  have hwaits := Nat.eq_zero_of_add_eq_zero_left (not_not.1 hreleases)
  rw [(h.closed.appls a (Bool.eq_false_iff.2 hactive) hwaits).2] at he
  cases he

/-- A device whose removal is told is retired, and has its number still. -/
theorem retired_of_removing (h : s.Sound) {d : Nat} {fs : List Frame}
    (frames : s.frames = .announcing d .removed none [] [] :: fs) :
    s.deviceActive d = false ∧ s.devices.InUse d := by
  have hclosing : s.devices.closing d ≠ 0 := by
    show s.removals d ≠ 0
    simp [removals, frames]
  exact ⟨h.devices.apart d hclosing, Or.inr hclosing⟩

/-- An application whose links are unwound has its number still, is retired and does not wait to be
unwound. -/
theorem of_unwinding (h : s.Sound) {f : Frame} (hf : f ∈ s.frames) {a : Nat}
    (hunwind : f.unwinding? = some a) :
    s.appls.InUse a ∧ s.applActive a = false ∧ (s.waiting.countP fun t => t.appl? = some a) = 0 := by
  have hpos : 0 < s.frames.countP fun f => f.unwinding? = some a :=
    List.countP_pos_iff.2 ⟨f, hf, by simpa using hunwind⟩
  have hle : s.releases a ≤ 1 := h.appls.closing_le a
  have hclosing : s.releases a ≠ 0 := by
    rw [releases]
    omega
  rw [releases] at hle
  exact ⟨Or.inr hclosing, h.appls.apart a hclosing, by omega⟩

/-- A link under the number of a device that has it still leads to that device. -/
theorem linked_eq (h : s.Sound) {a d k : Nat} {id : DeviceId} (he : (id, k) ∈ (s.links a).linked)
    (hd : s.devices.InUse d) (hid : s.deviceId d = id) : k = d := by
  refine h.devices.number_inj k d (h.device_inUse (h.linked_refs he)) hd ?_
  exact congrArg DeviceId.number ((h.paired.keyed a _ he).trans hid.symm)

/-- An application has one link to a device at most. -/
theorem nodup_keys (h : s.Sound) (a : Nat) : (s.links a).keys.Nodup := by
  refine List.pairwise_map.2 ((h.paired.coherent a).ascending.imp_of_mem fun he hf hlt heq => ?_)
  -- links to one device would stand under one number
  have hid := (h.paired.keyed a _ he).symm.trans
    ((congrArg s.deviceId heq).trans (h.paired.keyed a _ hf))
  rw [hid] at hlt
  exact UInt16.lt_irrefl _ hlt

/-- The link to a device is found among the keys. -/
theorem mem_keys (h : s.Sound) {a d : Nat} :
    d ∈ (s.links a).keys ↔ (s.deviceId d, d) ∈ (s.links a).linked := by
  constructor
  · intro hd
    obtain ⟨e, he, rfl⟩ := List.mem_map.1 hd
    rwa [h.paired.keyed a e he]
  · exact fun he => List.mem_map_of_mem he

end Sound

end Ledger

end Switchboard
