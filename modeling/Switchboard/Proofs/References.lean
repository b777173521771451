import Mathlib.Algebra.BigOperators.Group.Finset.Piecewise
import Switchboard.Proofs.Ledger.Invariant
import Switchboard.Proofs.Runs

/-! # References are exact

Whoever refers to a record is one of a few: the registry itself, an application that is linked to a
device, and calls in progress. This module names them on machines, and shows that in every reachable
machine, also while callbacks are waited for, the counted references of a record are those and no
others. -/

namespace Switchboard

namespace Machine

/-! ## Who refers to a record -/

/-- The registry has a reference of its own to a device that is installed, and to one whose removal
is still being told. -/
def OwnsDevice (m : Machine) (d : Nat) : Prop :=
  d ∈ m.registry.deviceTable.values ∨ ∃ f ∈ m.frames, f.removing? = some d

instance (m : Machine) (d : Nat) : Decidable (m.OwnsDevice d) :=
  inferInstanceAs (Decidable (_ ∨ _))

/-- The registry has a reference of its own to an application that is registered. -/
def OwnsAppl (m : Machine) (a : Nat) : Prop := a ∈ m.registry.applTable.values

instance (m : Machine) (a : Nat) : Decidable (m.OwnsAppl a) := inferInstanceAs (Decidable (_ ∈ _))

/-- An application is draining that has been released and waits for its links to be unwound. -/
def Draining (m : Machine) (a : Nat) : Prop := ∃ t ∈ m.waiting, t.appl? = some a

instance (m : Machine) (a : Nat) : Decidable (m.Draining a) :=
  inferInstanceAs (Decidable (∃ t ∈ m.waiting, _))

/-- The applications, registered or draining, that have a link to a device. -/
def linkHolders (m : Machine) (d : Nat) : Finset Nat :=
  {a ∈ Finset.range m.registry.appls.size |
    (m.OwnsAppl a ∨ m.Draining a) ∧ d ∈ (m.registry.appls.get a).links.keys}

/-- How many calls in progress are binding a device. -/
def bindsDevice (m : Machine) (d : Nat) : Nat :=
  m.frames.countP fun f => f.asking?.any fun p => p.1 = d

/-- How many calls in progress are binding an application. -/
def bindsAppl (m : Machine) (a : Nat) : Nat :=
  m.frames.countP fun f => f.asking?.any fun p => p.2 = a

/-- How many calls in progress hand a message to a device. -/
def sendsToDevice (m : Machine) (d : Nat) : Nat :=
  m.frames.countP fun f => f.sending?.any fun p => p.1 = d

/-- How many calls in progress hand over a message of an application. -/
def sendsOfAppl (m : Machine) (a : Nat) : Nat :=
  m.frames.countP fun f => f.sending?.any fun p => p.2 = a

/-- How many references to a device have been taken out of links by releases in progress and not
been given up yet. -/
def takenOfDevice (m : Machine) (d : Nat) : Nat := (m.frames.map fun f => f.taken.count d).sum

/-! ## The parts of the count -/

variable {config : Config} {m : Machine}

/-- The table of the devices holds the active ones. -/
theorem mem_deviceTable_values (h : m.ledger.Sound) (d : Nat) :
    d ∈ m.registry.deviceTable.values ↔ m.ledger.deviceActive d = true :=
  h.devices.mem_table d

/-- The table of the applications holds the active ones. -/
theorem mem_applTable_values (h : m.ledger.Sound) (a : Nat) :
    a ∈ m.registry.applTable.values ↔ m.ledger.applActive a = true :=
  h.appls.mem_table a

/-- What the calls in progress hold of a device, kind by kind. -/
theorem deviceHolds_eq (m : Machine) (d : Nat) : m.ledger.deviceHolds d =
    m.bindsDevice d + m.sendsToDevice d + (m.frames.countP fun f => f.removing? = some d) +
      m.takenOfDevice d := by
  show (m.frames.map (·.deviceHolds d)).sum = _
  unfold bindsDevice sendsToDevice takenOfDevice
  induction m.frames with
  | nil => rfl
  | cons f fs ih =>
    have hask : (f.asking?.toList.countP fun p => p.1 = d) =
        if f.asking?.any fun p => p.1 = d then 1 else 0 := by
      cases f.asking? <;> simp
    have hsend : (f.sending?.toList.countP fun p => p.1 = d) =
        if f.sending?.any fun p => p.1 = d then 1 else 0 := by
      cases f.sending? <;> simp
    have hremove : f.removing?.toList.count d = if f.removing? = some d then 1 else 0 := by
      cases f.removing? <;> simp [List.count_singleton]
    rw [List.map_cons, List.sum_cons, ih, Frame.deviceHolds, hask, hsend, hremove]
    simp only [List.map_cons, List.sum_cons, List.countP_cons, decide_eq_true_eq]
    omega

/-- What the calls in progress hold of an application, kind by kind. -/
theorem applHolds_eq (m : Machine) (a : Nat) :
    m.ledger.applHolds a = m.bindsAppl a + m.sendsOfAppl a := by
  show (m.frames.map (·.applHolds a)).sum = _
  unfold bindsAppl sendsOfAppl
  induction m.frames with
  | nil => rfl
  | cons f fs ih =>
    have hask : (f.asking?.toList.countP fun p => p.2 = a) =
        if f.asking?.any fun p => p.2 = a then 1 else 0 := by
      cases f.asking? <;> simp
    have hsend : (f.sending?.toList.countP fun p => p.2 = a) =
        if f.sending?.any fun p => p.2 = a then 1 else 0 := by
      cases f.sending? <;> simp
    rw [List.map_cons, List.sum_cons, ih, Frame.applHolds, hask, hsend]
    simp only [List.countP_cons]
    omega

/-- The reference of the registry itself: no device is active and being removed, and no removal is
told twice. -/
theorem owner_eq (h : m.ledger.Sound) (d : Nat) :
    (m.ledger.deviceActive d).toNat + (m.frames.countP fun f => f.removing? = some d) =
      if m.OwnsDevice d then 1 else 0 := by
  have hle := h.devices.closing_le d
  have hclosing : m.ledger.devices.closing d = (m.frames.countP fun f => f.removing? = some d) +
      m.waiting.countP fun t => t.device? = some d := rfl
  have hmem : (∃ f ∈ m.frames, f.removing? = some d) ↔
      (m.frames.countP fun f => f.removing? = some d) ≠ 0 := by
    rw [← Nat.pos_iff_ne_zero, List.countP_pos_iff]
    simp
  have howns : m.OwnsDevice d ↔ m.ledger.deviceActive d = true ∨
      (m.frames.countP fun f => f.removing? = some d) ≠ 0 :=
    or_congr (mem_deviceTable_values h d) hmem
  have hapart := h.devices.apart d
  rw [show m.ledger.devices.active d = m.ledger.deviceActive d from rfl] at hapart
  -- an active device is not being removed
  cases hd : m.ledger.deviceActive d with
  | true =>
    have hzero : m.ledger.devices.closing d = 0 := by
      by_contra hne
      rw [hapart hne] at hd
      cases hd
    rw [if_pos (howns.2 (Or.inl hd)), Bool.toNat_true]
    omega
  -- a retired device is told of by one removal at most
  | false =>
    rw [Bool.toNat_false]
    by_cases hremoving : (m.frames.countP fun f => f.removing? = some d) = 0
    · rw [if_neg, hremoving]
      rw [howns, hd]
      simp [hremoving]
    · rw [if_pos (howns.2 (Or.inr hremoving))]
      omega

/-- An application that is linked is registered or draining: the links of all others have been
taken. -/
theorem owns_or_drains (h : m.ledger.Sound) {a d : Nat}
    (linked : d ∈ (m.registry.appls.get a).links.keys) : m.OwnsAppl a ∨ m.Draining a := by
  by_contra hno
  obtain ⟨howns, hdrains⟩ := not_or.1 hno
  have hretired : m.ledger.applActive a = false := by
    rw [OwnsAppl, mem_applTable_values h] at howns
    exact Bool.eq_false_iff.2 howns
  have hwaits : (m.waiting.countP fun t => t.appl? = some a) = 0 := by
    refine List.countP_eq_zero.2 fun t ht hta => hdrains ⟨t, ht, ?_⟩
    simpa using hta
  have hlinked : (m.registry.appls.get a).links.linked = [] := (h.closed.appls a hretired hwaits).2
  rw [Links.keys, hlinked] at linked
  cases linked

/-- The links to a device are those of registered and of draining applications. -/
theorem linkCount_eq (h : m.ledger.Sound) (d : Nat) :
    m.ledger.linkCount d = (m.linkHolders d).card := by
  rw [linkHolders, Finset.card_filter]
  refine Finset.sum_congr rfl fun a _ => ?_
  rw [show m.ledger.links a = (m.registry.appls.get a).links from rfl]
  by_cases hd : d ∈ (m.registry.appls.get a).links.keys
  · rw [if_pos ⟨owns_or_drains h hd, hd⟩]
    exact List.count_eq_one_of_mem (h.nodup_keys a) hd
  · rw [if_neg fun hboth => hd hboth.2]
    exact List.count_eq_zero.2 hd

/-! ## The count -/

/-- **Reference counts are exact.** In every reachable machine the counted references to a device
are the one of the registry, those of the applications that are linked to it, and those that calls
in progress hold: for binding it, for handing it a message, and for unwinding links to it. Those to
an application are the one of the registry and those of the calls that bind it or send for it. -/
theorem refs_exact (h : Reachable config m) :
    (∀ d, (m.registry.devices.get d).lifecycle.refs =
      (if m.OwnsDevice d then 1 else 0) + (m.linkHolders d).card + m.bindsDevice d +
        m.sendsToDevice d + m.takenOfDevice d) ∧
    ∀ a, (m.registry.appls.get a).lifecycle.refs =
      (if m.OwnsAppl a then 1 else 0) + m.bindsAppl a + m.sendsOfAppl a := by
  have hs := h.sound
  constructor
  · intro d
    have hcount : (m.registry.devices.get d).lifecycle.refs = (m.ledger.deviceActive d).toNat +
        m.ledger.linkCount d + m.ledger.deviceHolds d := hs.counted.devices d
    rw [hcount, m.deviceHolds_eq, ← linkCount_eq hs, ← owner_eq hs]
    omega
  · intro a
    have hcount : (m.registry.appls.get a).lifecycle.refs =
        (m.ledger.applActive a).toNat + m.ledger.applHolds a := hs.counted.appls a
    have howner : (m.ledger.applActive a).toNat = if m.OwnsAppl a then 1 else 0 := by
      have howns : m.OwnsAppl a ↔ m.ledger.applActive a = true := mem_applTable_values hs a
      rw [if_congr howns rfl rfl]
      cases m.ledger.applActive a <;> rfl
    rw [hcount, m.applHolds_eq, howner]
    omega

/-- While a driver is asked about an application, the registry and the call refer to both. -/
theorem refs_exact_while_asked :
    let m := (Machine.new ⟨2, 2⟩).after binding
    Reachable ⟨2, 2⟩ m ∧ m.callback? = some (.register 0 0) ∧
      (m.registry.devices.get 0).lifecycle.refs = 1 + 0 + 1 + 0 + 0 ∧
      (m.registry.appls.get 0).lifecycle.refs = 1 + 1 + 0 := by
  have hreach : Reachable ⟨2, 2⟩ ((Machine.new ⟨2, 2⟩).after binding) :=
    ⟨_, Run.of_moves ⟨2, 2⟩ binding (by decide +kernel)⟩
  refine ⟨hreach, by decide +kernel, ?_, ?_⟩
  · rw [(refs_exact hreach).1 0]
    decide +kernel
  · rw [(refs_exact hreach).2 0]
    decide +kernel

end Machine

end Switchboard
