import Switchboard.Proofs.Ledger.Sound

/-! # References are counted

Every step of a sound ledger keeps the counts of references exact: `Ledger.Sound.counted_step`. What
a step takes and gives up is compared with what the owner, the links and the calls in progress hold
before and after it. -/

namespace Switchboard

namespace Ledger

variable {s t : Ledger} {mv : Move} {o : Outcome}

/-! ## Links -/

/-- The links to a device once those of one application have been replaced. -/
theorem linkCount_setLinks (s : Ledger) {a : Nat} (ha : a < s.applCount) (l : Links) (d : Nat) :
    (s.setLinks a l).linkCount d + (s.links a).keys.count d = s.linkCount d + l.keys.count d := by
  have hmem : a ∈ Finset.range s.applCount := Finset.mem_range.2 ha
  have hnew := Finset.add_sum_erase _ (fun a' => ((s.setLinks a l).links a').keys.count d) hmem
  have hold := Finset.add_sum_erase _ (fun a' => (s.links a').keys.count d) hmem
  -- the links of the others are the same
  have hrest : ∑ a' ∈ (Finset.range s.applCount).erase a, ((s.setLinks a l).links a').keys.count d =
      ∑ a' ∈ (Finset.range s.applCount).erase a, (s.links a').keys.count d := by
    refine Finset.sum_congr rfl fun a' ha' => ?_
    rw [setLinks_links, Function.update_of_ne (Finset.ne_of_mem_erase ha')]
  have hself : ((s.setLinks a l).links a).keys.count d = l.keys.count d := by
    rw [setLinks_links, Function.update_self]
  show (∑ a' ∈ Finset.range s.applCount, ((s.setLinks a l).links a').keys.count d) + _ =
    (∑ a' ∈ Finset.range s.applCount, (s.links a').keys.count d) + _
  omega

/-- A change of reservations does not change the count of links. -/
theorem linkCount_setLinks_same (s : Ledger) {a : Nat} (ha : a < s.applCount) {l : Links}
    (hl : l.keys = (s.links a).keys) (d : Nat) : (s.setLinks a l).linkCount d = s.linkCount d := by
  have h := s.linkCount_setLinks ha l d
  rw [hl] at h
  omega

/-- A driver that accepts an application adds a link to its device. -/
theorem Sound.linkCount_confirm (h : s.Sound) {w : Walk} {c : Cursor} {k : Nat} {fs : List Frame}
    (frames : s.frames = w.frame c (some k) :: fs) (d : Nat) :
    (s.setLinks (w.appl k) ((s.links (w.appl k)).confirm (s.deviceId (w.device k)) (w.device k)
      false).2).linkCount d = s.linkCount d + if w.device k = d then 1 else 0 := by
  have hf : w.frame c (some k) ∈ s.frames := frames ▸ List.mem_cons_self ..
  have hask := Frame.asking?_walk w c k
  have hlinks := s.linkCount_setLinks (h.ranged _ hf _ _ hask)
    ((s.links (w.appl k)).confirm (s.deviceId (w.device k)) (w.device k) false).2 d
  rw [(Links.perm_keys_confirm _ (h.asking_not_linked hf hask)).count_eq d, List.count_cons] at hlinks
  simp only [beq_iff_eq] at hlinks
  omega

/-- An application arrives without links. -/
theorem linkCount_addAppl (s : Ledger) (id : ApplId) (pool : NumberPool) (table : Roster Nat)
    (d : Nat) : (s.addAppl id pool table).linkCount d = s.linkCount d := by
  have hold : ∑ a ∈ Finset.range s.applCount, ((s.addAppl id pool table).links a).keys.count d =
      s.linkCount d := by
    refine Finset.sum_congr rfl fun a ha => ?_
    rw [addAppl_links, Function.update_of_ne (Finset.mem_range.1 ha).ne]
  have hnew : ((s.addAppl id pool table).links s.applCount).keys.count d = 0 := by
    rw [addAppl_links, Function.update_self]
    rfl
  rw [linkCount, addAppl_applCount, Finset.sum_range_succ, hold, hnew, Nat.add_zero]

/-- A link that is dropped gives up the reference that came with it. -/
theorem Counted.unlink (h : s.Counted) (blank : s.Blank) (id : DeviceId) {a : Nat}
    (coherent : (s.links a).Coherent) : (s.unlink id a).Counted := by
  unfold Ledger.unlink
  cases hu : (s.links a).unlink? id with
  | none => exact h
  | some e =>
    obtain ⟨d, l⟩ := e
    obtain ⟨hmem, hpend, hlinked, -⟩ := Links.unlink?_eq_some hu
    -- an application with a link has arrived
    have ha : a < s.applCount := by
      by_contra hge
      rw [blank.links a (Nat.not_lt.1 hge)] at hmem
      cases hmem
    -- the keys that are left and the one dropped are those of before
    have hkeys : (s.links a).keys.Perm (d :: l.keys) := by
      have := (Links.perm_filter coherent.ascending hmem).map Prod.snd
      rwa [List.map_cons, ← hlinked] at this
    constructor
    · intro d'
      have hc := h.devices d'
      have hl := s.linkCount_setLinks ha l d'
      rw [hkeys.count_eq d', List.count_cons] at hl
      have hlink : ((s.setLinks a l).leaveDevice d).linkCount d' =
          (s.setLinks a l).linkCount d' := rfl
      have hhold : ((s.setLinks a l).leaveDevice d).deviceHolds d' = s.deviceHolds d' := rfl
      rw [hlink, hhold, deviceRefs_leaveDevice]
      simp at hl ⊢
      omega
    · exact h.appls

/-- Dropping the links under a number gives up the references that came with them. -/
theorem Counted.unlinkAll (h : s.Counted) (blank : s.Blank)
    (coherent : ∀ a, (s.links a).Coherent) (id : DeviceId) : (s.unlinkAll id).Counted := by
  refine (unlinkAll_induction s id (P := fun t => t.Counted ∧ t.Blank ∧ ∀ a, (t.links a).Coherent)
    ⟨h, blank, coherent⟩ fun t a ht => ?_).1
  obtain ⟨hcounted, hblank, hcoherent⟩ := ht
  exact ⟨hcounted.unlink hblank id (hcoherent a), hblank.unlink id a,
    t.links_unlink_of id (P := fun _ l => l.Coherent) hcoherent (fun _ _ hl => hl.drop id) a⟩

/-- Links that are taken to be unwound are held by the call that unwinds them. -/
theorem Counted.unwind (h : s.Counted) {a : Nat} (ha : a < s.applCount) (origin : Origin) :
    (s.unwind a origin).Counted := by
  constructor
  · intro d
    have hc := h.devices d
    have hl := s.linkCount_setLinks ha (s.links a).clear d
    have hlink : (s.unwind a origin).linkCount d = (s.setLinks a (s.links a).clear).linkCount d :=
      rfl
    rw [deviceHolds_cons (unwind_frames s a origin), hlink]
    simp [deviceHolds] at hl hc ⊢
    omega
  · intro a'
    rw [applHolds_cons (unwind_frames s a origin)]
    simpa [applHolds] using h.appls a'

/-- The owner of an active application gives up its reference. -/
theorem Counted.retireAppl (h : s.Counted) {a : Nat} (active : s.applActive a = true)
    (table : Roster Nat) : (s.retireAppl a table).Counted := by
  constructor
  · exact h.devices
  · intro a'
    have hc := h.appls a'
    have hhold : (s.retireAppl a table).applHolds a' = s.applHolds a' := rfl
    rw [hhold]
    by_cases e : a' = a
    · subst e
      rw [active] at hc
      simp at hc ⊢
      omega
    · simpa [e] using hc

/-- A device that has been unlinked gives up the reference of its owner, and of the call that told
the news of its removal. -/
theorem Counted.leave_removed (h : s.Counted) {d : Nat} {fs : List Frame}
    (frames : s.frames = .announcing d .removed none [] [] :: fs) :
    ((s.leaveDevice d).withFrames fs).Counted := by
  constructor
  · intro d'
    have hd := h.devices d'
    rw [deviceHolds_cons frames] at hd
    simp [deviceHolds, linkCount, deviceRefs_leaveDevice, -leaveDevice_deviceRefs] at hd ⊢
    omega
  · intro a
    have ha := h.appls a
    rw [applHolds_cons frames] at ha
    simpa [applHolds] using ha

/-- A device whose removal has been told is unlinked, and its owner gives up its reference. -/
theorem Sound.counted_removed (h : s.Sound) {d : Nat} {fs : List Frame}
    (frames : s.frames = .announcing d .removed none [] [] :: fs) :
    (((s.unlinkAll (s.deviceId d)).leaveDevice d).withFrames fs).Counted := by
  have hframes : (s.unlinkAll (s.deviceId d)).frames = .announcing d .removed none [] [] :: fs := by
    rw [unlinkAll_eq]
    exact frames
  exact (h.counted.unlinkAll h.blank h.paired.coherent _).leave_removed hframes

/-! ## Steps -/

/-- Every step keeps the count of the references to a device: what it takes and gives up is what the
owner, the links and the calls in progress come to hold and hold no longer. -/
theorem Sound.deviceRefs_step (h : s.Sound) (step : Step s mv o t) (d' : Nat) :
    t.deviceRefs d' = (t.deviceActive d').toNat + t.linkCount d' + t.deviceHolds d' := by
  have hd := h.counted.devices d'
  cases step with
  | still | freed => exact hd
  | wake | releaseLater => simpa [deviceHolds, linkCount] using hd
  | woken frames | skip frames | installed frames | registered frames | announced frames
      | released frames | bid frames =>
    rw [deviceHolds_cons frames] at hd
    simpa [deviceHolds, linkCount, List.count_cons, Nat.add_comm] using hd
  | @tell _ news _ _ _ _ _ _ _ frames =>
    rw [deviceHolds_cons frames] at hd
    cases news <;> simpa [deviceHolds, linkCount] using hd
  | install =>
    by_cases e : d' = s.deviceCount
    · -- nothing refers to a device that has not arrived
      subst e
      rw [h.blank.deviceRefs s.deviceCount (Nat.le_refl _)] at hd
      simp [deviceHolds, linkCount] at hd ⊢
      omega
    · simpa [deviceHolds, linkCount, e] using hd
  | @register id pool table =>
    have hlinks := s.linkCount_addAppl id pool table d'
    show _ = _ + (s.addAppl id pool table).linkCount d' + _
    rw [hlinks]
    simpa [deviceHolds] using hd
  | @remove _ d _ removed _ =>
    -- the reference of the owner goes over to the call that tells the news
    have hactive : s.deviceActive d = true := (h.devices.of_removed removed).1
    by_cases e : d' = d
    · subst e
      rw [hactive] at hd
      simp [deviceHolds, linkCount] at hd ⊢
      omega
    · simpa [deviceHolds, linkCount, e, Ne.symm e] using hd
  | @release _ a table removed =>
    -- the references of the links go over to the call that unwinds them, here and in `unwound`
    have hactive : s.applActive a = true := (h.appls.of_removed removed).1
    exact ((h.counted.retireAppl hactive table).unwind (h.appls.inUse_lt a (Or.inl hactive)) _).devices
      d'
  | @unwound i a _ waits =>
    have hwait : (s.withWaiting (s.waiting.eraseIdx i)).Counted :=
      ⟨h.counted.devices, h.counted.appls⟩
    exact (hwait.unwind (h.appls.inUse_lt a (Or.inr (closing_of_waiting waits))) _).devices d'
  | send =>
    -- the call takes the reference that it holds while the driver runs
    simp [deviceHolds, linkCount, deviceRefs_joinDevice, -joinDevice_deviceRefs] at hd ⊢
    omega
  | @ask w _ _ _ k l _ frames _ deviceJoins applJoins reserved =>
    -- a reservation is not a link yet, so that the reference taken is the call's
    obtain ⟨-, -, hl⟩ := Links.reserve?_eq_some reserved
    have hlinks := s.linkCount_setLinks_same applJoins.1 (l := l) (by rw [hl]; rfl) d'
    rw [deviceHolds_cons frames] at hd
    show _ = _ + (s.setLinks (w.appl k) l).linkCount d' + _
    simp [deviceHolds, deviceRefs_joinDevice, -joinDevice_deviceRefs] at hd ⊢
    omega
  | @accept w c k fs frames =>
    -- the reference that the call held goes over to the link
    have hlinks := h.linkCount_confirm frames d'
    rw [deviceHolds_cons frames] at hd
    show _ = _ + (s.setLinks (w.appl k) _).linkCount d' + _
    simp [deviceHolds] at hd hlinks ⊢
    omega
  | @decline w c k fs frames =>
    -- the call gives up its reference with the reservation
    have hf : w.frame c (some k) ∈ s.frames := frames ▸ List.mem_cons_self ..
    have hlinks := s.linkCount_setLinks_same (h.ranged _ hf _ _ (Frame.asking?_walk w c k))
      (l := (s.links (w.appl k)).cancel (s.deviceId (w.device k))) rfl d'
    rw [deviceHolds_cons frames] at hd
    show _ = _ + (s.setLinks (w.appl k) _).linkCount d' + _
    simp [deviceHolds, deviceRefs_leaveDevice, -leaveDevice_deviceRefs] at hd ⊢
    omega
  | removed frames | removeLater frames => exact (h.counted_removed frames).devices d'
  | passOver frames | bidden frames =>
    -- the call gives up one of the references that it has taken out of links
    rw [deviceHolds_cons frames] at hd
    simp [deviceHolds, linkCount, List.count_cons, deviceRefs_leaveDevice,
      -leaveDevice_deviceRefs] at hd ⊢
    omega
  | sent frames =>
    rw [deviceHolds_cons frames] at hd
    simp [deviceHolds, linkCount, deviceRefs_leaveDevice, -leaveDevice_deviceRefs] at hd ⊢
    omega

/-- Every step keeps the count of the references to an application. -/
theorem Sound.applRefs_step (h : s.Sound) (step : Step s mv o t) (a' : Nat) :
    t.applRefs a' = (t.applActive a').toNat + t.applHolds a' := by
  have ha := h.counted.appls a'
  cases step with
  | still | freed => exact ha
  | wake | install | remove => simpa [applHolds] using ha
  | woken frames | skip frames | installed frames | registered frames | tell frames
      | announced frames | passOver frames | bid frames | bidden frames | released frames =>
    rw [applHolds_cons frames] at ha
    simpa [applHolds] using ha
  | register =>
    by_cases e : a' = s.applCount
    · -- nothing refers to an application that has not arrived
      subst e
      rw [h.blank.applRefs s.applCount (Nat.le_refl _)] at ha
      simp [applHolds] at ha ⊢
      omega
    · simpa [applHolds, e] using ha
  | @release _ a table removed =>
    have hactive : s.applActive a = true := (h.appls.of_removed removed).1
    exact ((h.counted.retireAppl hactive table).unwind (h.appls.inUse_lt a (Or.inl hactive)) _).appls
      a'
  | @releaseLater _ a table removed =>
    have hactive : s.applActive a = true := (h.appls.of_removed removed).1
    exact (h.counted.retireAppl hactive table).appls a'
  | @unwound i a _ waits =>
    have hwait : (s.withWaiting (s.waiting.eraseIdx i)).Counted :=
      ⟨h.counted.devices, h.counted.appls⟩
    exact (hwait.unwind (h.appls.inUse_lt a (Or.inr (closing_of_waiting waits))) _).appls a'
  | send =>
    simp [applHolds, applRefs_joinAppl, -joinAppl_applRefs] at ha ⊢
    omega
  | ask frames =>
    rw [applHolds_cons frames] at ha
    simp [applHolds, applRefs_joinAppl, -joinAppl_applRefs] at ha ⊢
    omega
  | accept frames | decline frames | sent frames =>
    rw [applHolds_cons frames] at ha
    simp [applHolds, applRefs_leaveAppl, -leaveAppl_applRefs] at ha ⊢
    omega
  | removed frames | removeLater frames => exact (h.counted_removed frames).appls a'

/-- Every step keeps the counts of references. -/
theorem Sound.counted_step (h : s.Sound) (step : Step s mv o t) : t.Counted :=
  ⟨h.deviceRefs_step step, h.applRefs_step step⟩

end Ledger

end Switchboard
