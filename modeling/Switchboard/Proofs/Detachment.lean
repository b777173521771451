import Switchboard.Proofs.Ledger.Linking
import Switchboard.Proofs.Removal
import Switchboard.Proofs.References

/-! # What a removal waits for

When the news of a removal have been told, the applications in the table drop their links to the
device and the registry its reference. Applications that have been released and wait to be unwound
are not in the table and keep their links, so that a removal may wait for one of them. Nothing else
has a link to the device from then on, and where no application was draining with one, only calls in
progress hold the device. -/

namespace Switchboard

namespace Ledger

variable {s t : Ledger} {mv : Move} {o : Outcome} {d : Nat}

/-- A device is retired, its removal is not being told, and only certain retired applications are
linked to it. -/
structure Detached (s : Ledger) (d : Nat) (left : Nat → Prop) : Prop where
  retired : s.Retired d
  told : ∀ f ∈ s.frames, f.removing? ≠ some d
  links : ∀ a, (s.deviceId d, d) ∈ (s.links a).linked → left a ∧ s.applActive a = false

/-- A call that tells the removal of a device told it before, unless the device was active. -/
theorem Sound.removing_before (h : s.Sound) (step : Step s mv o t)
    (removing : ∃ f ∈ t.frames, f.removing? = some d) :
    (∃ f ∈ s.frames, f.removing? = some d) ∨ s.deviceActive d = true := by
  cases step with
  | still => exact Or.inl removing
  -- a removal begins with an active device
  | @remove id d' table removed rest =>
    have hcases : d' = d ∨ ∃ f ∈ s.frames, f.removing? = some d := by simpa using removing
    rcases hcases with rfl | hbefore
    · exact Or.inr (h.devices.of_removed removed).1
    · exact Or.inl hbefore
  | @tell d' news _ _ _ _ _ _ fs frames =>
    left
    cases news <;> simpa [frames] using removing
  | wake | install | register | release | releaseLater | send | freed | unwound =>
    left
    simpa using removing
  | woken frames | ask frames | skip frames | installed frames | registered frames | accept frames
      | decline frames | announced frames | passOver frames | bid frames | bidden frames
      | released frames | sent frames =>
    left
    simpa [frames] using removing
  | removed frames | removeLater frames =>
    left
    obtain ⟨f, hf, hd⟩ := removing
    exact ⟨f, frames ▸ List.mem_cons_of_mem _ hf, hd⟩

/-- A device that is detached stays so. -/
theorem Sound.detached_step (h : s.Sound) (step : Step s mv o t) {left : Nat → Prop}
    (detached : s.Detached d left) : t.Detached d left where
  retired := step.device_retired detached.retired
  told f hf hd := by
    rcases h.removing_before step ⟨f, hf, hd⟩ with ⟨f', hf', hd'⟩ | hactive
    · exact detached.told f' hf' hd'
    · exact absurd (detached.retired.2.symm.trans hactive) Bool.false_ne_true
  links a linked := by
    have hid : t.deviceId d = s.deviceId d :=
      Links.number_inj (step.devices.number_eq detached.retired.1).2
    rcases h.linked_before step linked with hbefore | ⟨-, -, hactive⟩
    · obtain ⟨hleft, hretired⟩ := detached.links a (hid ▸ hbefore)
      exact ⟨hleft, (step.appl_retired (h.appl_lt_of_linked hbefore) hretired).2⟩
    · -- no application is linked to a retired device
      exact absurd (detached.retired.2.symm.trans hactive) Bool.false_ne_true

/-- The last piece of a removal detaches the device from the applications in the table. -/
theorem Sound.detached_of_told (h : s.Sound) {fs : List Frame} {reply : Reply}
    (frames : s.frames = .announcing d .removed none [] [] :: fs)
    (step : Step s .advance (.ends reply) t) :
    t.Detached d fun a => s.applActive a = false ∧ (s.deviceId d, d) ∈ (s.links a).linked := by
  have hretired : s.Retired d :=
    ⟨h.devices.inUse_lt d (h.retired_of_removing frames).2, (h.retired_of_removing frames).1⟩
  have htold : ∀ f ∈ fs, f.removing? ≠ some d := by
    have hle : s.removals d ≤ 1 := h.devices.closing_le d
    have hzero : (fs.countP fun f => f.removing? = some d) = 0 := by
      rw [removals, frames, List.countP_cons, Frame.removing?_announcing_removed,
        if_pos (decide_eq_true rfl)] at hle
      omega
    intro f hf hd
    exact List.countP_eq_zero.1 hzero f hf (decide_eq_true hd)
  -- links are left to applications that are not in the table
  have hlinks : ∀ a, (s.deviceId d, d) ∈ ((s.unlinkAll (s.deviceId d)).links a).linked →
      (s.applActive a = false ∧ (s.deviceId d, d) ∈ (s.links a).linked) ∧
        s.applActive a = false := by
    intro a linked
    rw [linked_unlinkAll] at linked
    split at linked
    · simp at linked
    · rename_i hout
      have happl := Bool.eq_false_iff.2 fun hactive => hout ((h.appls.mem_table a).2 hactive)
      exact ⟨⟨happl, linked⟩, happl⟩
  have hstep := step.device_retired hretired
  cases step with
  | removed frames' | removeLater frames' =>
    obtain ⟨⟨rfl, -⟩, rfl⟩ := List.cons.inj (frames.symm.trans frames')
    refine ⟨hstep, htold, ?_⟩
    rw [unlinkAll_eq]
    exact hlinks
  | registered frames' | announced frames' | released frames' =>
    rw [frames] at frames'
    cases frames'
  | tell _ _ outcome => rcases outcome with ho | ⟨l, ho⟩ <;> cases ho

end Ledger

namespace Machine

/-- The last piece of the call that removes a device: the applications in the table drop their links
to it, and the registry its reference. -/
def Event.Detaches (e : Event) (d : Nat) : Prop :=
  e.move = .advance ∧ ∃ fs, e.before.frames = .announcing d .removed none [] [] :: fs

/-- A released application that waits to be unwound is linked to a device. -/
def DrainsWith (m : Machine) (d a : Nat) : Prop :=
  m.Draining a ∧ d ∈ (m.registry.appls.get a).links.keys

/-- The links to a device and the references that are left once it has been detached: they are those
of applications that were draining with a link to it, and those of calls in progress. -/
structure DetachedSince (m start : Machine) (d : Nat) : Prop where
  links : ∀ a, d ∈ (m.registry.appls.get a).links.keys → m.Draining a ∧ start.DrainsWith d a
  refs : (m.registry.devices.get d).lifecycle.refs =
    (m.linkHolders d).card + m.bindsDevice d + m.sendsToDevice d + m.takenOfDevice d

/-- No application is linked to a device, and only calls in progress that bind it, hand it a message
or unwind links to it refer to it. -/
structure HeldByCalls (m : Machine) (d : Nat) : Prop where
  links : ∀ a, d ∉ (m.registry.appls.get a).links.keys
  refs : (m.registry.devices.get d).lifecycle.refs =
    m.bindsDevice d + m.sendsToDevice d + m.takenOfDevice d

variable {config : Config} {history h₁ h₂ : List Event} {m start : Machine} {e : Event} {d : Nat}

/-- The last piece of a removal ends the call. -/
theorem Event.Detaches.ends (detaches : e.Detaches d) :
    ∃ reply, (e.before.make e.move).2 = .ends reply := by
  obtain ⟨hmove, fs, hframes⟩ := detaches
  rw [hmove]
  simp only [make, advance, hframes, work]
  unfold closeDevice
  dsimp only
  split
  · exact ⟨_, rfl⟩
  · exact ⟨_, rfl⟩

/-- The last piece of a removal detaches the device. -/
theorem Event.Detaches.detached (detaches : e.Detaches d) (h : Reachable config e.before)
    (admitted : e.before.admits e.move = true) :
    (e.before.make e.move).1.ledger.Detached d (e.before.DrainsWith d) := by
  obtain ⟨reply, hends⟩ := detaches.ends
  obtain ⟨hmove, fs, hframes⟩ := detaches
  have hstep := h.step admitted
  rw [hends, hmove] at hstep
  rw [hmove]
  obtain ⟨hretired, htold, hlinks⟩ := h.sound.detached_of_told hframes hstep
  refine ⟨hretired, htold, fun a linked => ?_⟩
  obtain ⟨⟨happl, hlinked⟩, hout⟩ := hlinks a linked
  have hkey : d ∈ (e.before.registry.appls.get a).links.keys := List.mem_map_of_mem hlinked
  refine ⟨⟨(owns_or_drains h.sound hkey).resolve_left fun howns => ?_, hkey⟩, hout⟩
  exact absurd (happl.symm.trans ((mem_applTable_values h.sound a).1 howns)) Bool.false_ne_true

/-- What a detached device is still linked to and referred to by. -/
theorem detachedSince (h : m.ledger.Sound) (detached : m.ledger.Detached d (start.DrainsWith d)) :
    m.DetachedSince start d where
  links a hkey := by
    obtain ⟨hleft, hretired⟩ := detached.links a (h.mem_keys.1 hkey)
    refine ⟨(owns_or_drains h hkey).resolve_left fun howns => ?_, hleft⟩
    exact absurd (hretired.symm.trans ((mem_applTable_values h a).1 howns)) Bool.false_ne_true
  refs := by
    have hcount : (m.registry.devices.get d).lifecycle.refs = (m.ledger.deviceActive d).toNat +
        m.ledger.linkCount d + m.ledger.deviceHolds d := h.counted.devices d
    have htold : (m.frames.countP fun f => f.removing? = some d) = 0 :=
      List.countP_eq_zero.2 fun f hf hd => detached.told f hf (of_decide_eq_true hd)
    rw [hcount, detached.retired.2, linkCount_eq h, m.deviceHolds_eq, htold]
    simp only [Bool.toNat_false]
    omega

/-- A device that no draining application was linked to is held by calls alone. -/
theorem DetachedSince.heldByCalls (since : m.DetachedSince start d)
    (none_drains : ∀ a, ¬start.DrainsWith d a) : m.HeldByCalls d := by
  have hlinks : ∀ a, d ∉ (m.registry.appls.get a).links.keys := fun a hkey =>
    none_drains a (since.links a hkey).2
  have hholders : m.linkHolders d = ∅ :=
    Finset.filter_eq_empty_iff.2 fun a _ hboth => hlinks a hboth.2
  refine ⟨hlinks, ?_⟩
  rw [since.refs, hholders, Finset.card_empty, Nat.zero_add]

/-- **What a removal waits for.** Once the news of a removal have been told and the registry has
dropped its reference, only applications that were draining with a link to the device are linked to
it, as long as they drain, and all other references are those of calls in progress. Where no
application was draining with a link, none is linked any more, and the removal waits for calls on
the device alone. -/
theorem removal_detaches (run : Run config history m) (split : history = h₁ ++ e :: h₂)
    (detaches : e.Detaches d) :
    (m.DetachedSince e.before d ∧ ∀ e' ∈ h₂, e'.before.DetachedSince e.before d) ∧
      ((∀ a, ¬e.before.DrainsWith d a) →
        m.HeldByCalls d ∧ ∀ e' ∈ h₂, e'.before.HeldByCalls d) := by
  obtain ⟨hreach, hadmitted, -⟩ := run.event (e := e) (by simp [split])
  have hsince := run.since (P := fun m => m.ledger.Detached d (e.before.DrainsWith d)) split
    (detaches.detached hreach hadmitted)
    fun m mv h admitted hm => h.sound.detached_step (h.step admitted) hm
  have hend := detachedSince run.reachable.sound hsince.1
  have hlater : ∀ e' ∈ h₂, e'.before.DetachedSince e.before d := fun e' he' =>
    detachedSince (run.event (by simp [split, he'])).1.sound (hsince.2 e' he')
  exact ⟨⟨hend, hlater⟩, fun none_drains => ⟨hend.heldByCalls none_drains,
    fun e' he' => (hlater e' he').heldByCalls none_drains⟩⟩

/-- A device is removed while its driver is asked about an application: the call that asks is all
that the removal waits for. -/
theorem removal_detaches_while_asked :
    let m := (Machine.new ⟨2, 2⟩).after (binding ++ [.call (.remove default)])
    Event.Detaches ⟨m, .advance, (m.make .advance).2⟩ 0 ∧ (∀ a, ¬m.DrainsWith 0 a) ∧
      (m.make .advance).1.waiting = [.device 0] ∧ (m.make .advance).1.HeldByCalls 0 := by
  intro m
  have hrun := Run.of_moves ⟨2, 2⟩ ((binding ++ [.call (.remove default)]) ++ [.advance])
    (by decide +kernel)
  rw [after_append_cons, events_append_cons] at hrun
  have hdetaches : Event.Detaches ⟨m, .advance, (m.make .advance).2⟩ 0 :=
    ⟨rfl, m.frames.tail, by decide +kernel⟩
  have hnone : ∀ a, ¬m.DrainsWith 0 a := by
    have hwaiting : m.waiting = [] := by decide +kernel
    rintro a ⟨⟨t, ht, -⟩, -⟩
    rw [hwaiting] at ht
    cases ht
  exact ⟨hdetaches, hnone, by decide +kernel, ((removal_detaches hrun rfl hdetaches).2 hnone).1⟩

/-- Two devices are installed, and an application is linked to both. While it sends a message to the
first it is released and waits for the call, and the second device is removed meanwhile. -/
def holdingUp : List Move :=
  let info : DeviceInfo := ⟨"maker", "serial", "profile", default, default⟩
  [.call (.install info 0), .advance, .advance, .call (.install info 1), .advance, .advance,
    .call (.register ⟨1, 1, 128⟩), .advance, .answer .agree, .advance, .answer .agree, .advance,
    .call (.send default (.build 1 2 128 1 1 [] [])), .call (.release default),
    .call (.remove ⟨2, by decide⟩)]

/-- A removal waits for an application that drains: the second device has been detached, no call
binds it, hands it a message or unwinds a link to it, and yet it is referred to by the application
that is still linked to it. -/
theorem removal_waits_for_draining :
    let start := (Machine.new ⟨2, 2⟩).after holdingUp
    let m := (start.make .advance).1
    Run ⟨2, 2⟩ ((Machine.new ⟨2, 2⟩).events (holdingUp ++ [.advance])) m ∧
      Event.Detaches ⟨start, .advance, (start.make .advance).2⟩ 1 ∧
      m.waiting = [.appl 0 .direct, .device 1] ∧ 1 ∈ (m.registry.appls.get 0).links.keys ∧
      (m.registry.devices.get 1).lifecycle.refs = 1 ∧
      m.bindsDevice 1 + m.sendsToDevice 1 + m.takenOfDevice 1 = 0 := by
  intro start m
  have hrun := Run.of_moves ⟨2, 2⟩ (holdingUp ++ [.advance]) (by decide +kernel)
  rw [after_append_cons] at hrun
  exact ⟨hrun, ⟨rfl, start.frames.tail, by decide +kernel⟩, by decide +kernel, by decide +kernel,
    by decide +kernel, by decide +kernel⟩

end Machine

end Switchboard
