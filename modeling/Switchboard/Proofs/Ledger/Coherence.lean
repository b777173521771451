import Switchboard.Proofs.Ledger.Sound

/-! # Pairs stay coherent

Every step of a sound ledger keeps links coherent, and reservations in step with the drivers that
are being asked: `Ledger.Sound.paired_step`. It also keeps device numbers within the sets that are
made for them: `Ledger.Sound.fits_step`. -/

namespace Switchboard

namespace Links

variable (l : Links) (id : DeviceId)

/-- A reservation that is given up counts no more. -/
theorem count_pending_cancel (p : DeviceId) :
    (l.cancel id).pending.count p = if p = id then 0 else l.pending.count p := by
  unfold cancel
  split
  · rename_i hp
    subst hp
    exact List.count_eq_zero.2 fun hmem => by simpa using (List.mem_filter.1 hmem).2
  · rename_i hp
    exact List.count_filter (by simpa using hp)

/-- The capacity stays when the links are taken. -/
theorem capacity_clear : l.clear.bound.capacity = l.bound.capacity := by
  show (l.linked.foldl (fun s e => s.erase e.1.number) l.bound).capacity = l.bound.capacity
  generalize l.bound = bound
  induction l.linked generalizing bound with
  | nil => rfl
  | cons e rest ih => rw [List.foldl_cons, ih, NumberSet.capacity_erase]

end Links

namespace Ledger

open Function (forall_update_iff)

variable {s t : Ledger} {mv : Move} {o : Outcome}

/-! ## Drivers that are being asked -/

/-- Links that do not change, with the same askings, keep pairs coherent. -/
theorem Paired.congr (h : s.Paired) (links : t.links = s.links) (id : t.deviceId = s.deviceId)
    (asked : t.asked = s.asked) : t.Paired := by
  constructor
  · rw [links]
    exact h.coherent
  · rw [links, id]
    exact h.keyed
  · intro a i
    rw [links, askings, asked, id]
    exact h.reserved a i

/-- Links from which some have been dropped, with the same askings, keep pairs coherent. -/
theorem Paired.sub (h : s.Paired) (coherent : ∀ a, (t.links a).Coherent)
    (linked : ∀ a, ∀ e ∈ (t.links a).linked, e ∈ (s.links a).linked)
    (pending : ∀ a, (t.links a).pending = (s.links a).pending) (id : t.deviceId = s.deviceId)
    (asked : t.asked = s.asked) : t.Paired := by
  constructor
  · exact coherent
  · intro a e he
    rw [id]
    exact h.keyed a e (linked a e he)
  · intro a i
    rw [pending, askings, asked, id]
    exact h.reserved a i

/-- The links of an application that is unwound are gone, its reservations stay. -/
theorem Paired.unwind (h : s.Paired) (a : Nat) (origin : Origin) : (s.unwind a origin).Paired := by
  refine h.sub ?_ ?_ ?_ rfl (by simp [asked, List.filterMap_cons])
  · exact (forall_update_iff s.links fun _ l => l.Coherent).2
      ⟨(h.coherent a).clear, fun a _ => h.coherent a⟩
  · refine (forall_update_iff s.links fun a l => ∀ e ∈ l.linked, e ∈ (s.links a).linked).2
      ⟨?_, fun _ _ _ he => he⟩
    simp [Links.clear]
  · exact (forall_update_iff s.links fun a l => l.pending = (s.links a).pending).2
      ⟨rfl, fun _ _ => rfl⟩

/-- A driver that is being asked holds the only reservation of its number, which is given up with
the answer, whatever becomes of the link. -/
theorem Sound.paired_settled (h : s.Sound) {w : Walk} {c : Cursor} {k : Nat} {fs : List Frame}
    (frames : s.frames = w.frame c (some k) :: fs) {l : Links} (coherent : l.Coherent)
    (keyed : ∀ e ∈ l.linked, s.deviceId e.2 = e.1)
    (pending : l.pending = ((s.links (w.appl k)).cancel (s.deviceId (w.device k))).pending) :
    ((s.setLinks (w.appl k) l).withFrames (w.frame c none :: fs)).Paired := by
  have hasked : s.asked = (w.device k, w.appl k) :: fs.filterMap Frame.asking? := by
    simp [asked, frames]
  constructor
  case coherent =>
    exact (forall_update_iff s.links fun _ l => l.Coherent).2
      ⟨coherent, fun a _ => h.paired.coherent a⟩
  case keyed =>
    exact (forall_update_iff s.links fun _ l => ∀ e ∈ l.linked, s.deviceId e.2 = e.1).2
      ⟨keyed, fun a _ => h.paired.keyed a⟩
  case reserved =>
    intro a id
    have hold := h.paired.reserved a id
    rw [askings, hasked, List.countP_cons] at hold
    rw [withFrames_links, setLinks_links]
    by_cases e : a = w.appl k
    · subst e
      rw [Function.update_self, pending, Links.count_pending_cancel]
      -- a number is reserved once at most, so that no one else asks under it
      have hle := (List.nodup_iff_count_le_one.1 (h.paired.coherent (w.appl k)).pending_nodup) id
      by_cases hid : id = s.deviceId (w.device k)
      · subst hid
        simp [askings, asked] at hold ⊢
        omega
      · simpa [askings, asked, hid, Ne.symm hid] using hold
    · rw [Function.update_of_ne e]
      simpa [askings, asked, Ne.symm e] using hold

/-- No call asks a device that has not arrived, and no link leads to one. -/
theorem Sound.paired_addDevice (h : s.Sound) (id : DeviceId) (pool : NumberPool)
    (table : Roster Nat) : (s.addDevice id pool table).Paired := by
  have hid : ∀ d, s.deviceRefs d ≠ 0 → Function.update s.deviceId s.deviceCount id d =
      s.deviceId d := fun d hd => Function.update_of_ne (h.device_lt hd).ne _ _
  constructor
  case coherent => exact h.paired.coherent
  case keyed =>
    intro a e he
    exact (hid e.2 (h.linked_refs he)).trans (h.paired.keyed a e he)
  case reserved =>
    intro a i
    refine (h.paired.reserved a i).trans (List.countP_congr fun p hp => ?_)
    simp [hid p.1 (h.asked_refs hp).1]

/-- An application that has not arrived has neither links nor reservations. -/
theorem Sound.paired_addAppl (h : s.Sound) (id : ApplId) (pool : NumberPool)
    (table : Roster Nat) : (s.addAppl id pool table).Paired := by
  have hblank := h.blank.links s.applCount (Nat.le_refl _)
  constructor
  case coherent =>
    exact (forall_update_iff s.links fun _ l => l.Coherent).2
      ⟨Links.coherent_empty s.limit, fun a _ => h.paired.coherent a⟩
  case keyed =>
    refine (forall_update_iff s.links fun _ l => ∀ e ∈ l.linked, s.deviceId e.2 = e.1).2
      ⟨?_, fun a _ => h.paired.keyed a⟩
    simp [Links.empty]
  case reserved =>
    refine (forall_update_iff s.links fun a l => ∀ i, l.pending.count i = s.askings a i).2
      ⟨fun i => ?_, fun a _ => h.paired.reserved a⟩
    rw [← h.paired.reserved, hblank]
    rfl

/-- A driver that is asked reserves the number of its device. -/
theorem Paired.ask (h : s.Paired) {w : Walk} {c c' : Cursor} {k : Nat} {l : Links}
    {fs : List Frame} (frames : s.frames = w.frame c none :: fs)
    (reserved : (s.links (w.appl k)).reserve? (s.deviceId (w.device k)) = some l) :
    ((s.setLinks (w.appl k) l).withFrames (w.frame c' (some k) :: fs)).Paired := by
  have hcoherent := (h.coherent (w.appl k)).reserve? reserved
  obtain ⟨-, -, rfl⟩ := Links.reserve?_eq_some reserved
  constructor
  case coherent =>
    exact (forall_update_iff s.links fun _ l => l.Coherent).2 ⟨hcoherent, fun a _ => h.coherent a⟩
  case keyed =>
    exact (forall_update_iff s.links fun _ l => ∀ e ∈ l.linked, s.deviceId e.2 = e.1).2
      ⟨h.keyed _, fun a _ => h.keyed a⟩
  case reserved =>
    intro a id
    have hold := h.reserved a id
    rw [withFrames_links, setLinks_links]
    by_cases e : a = w.appl k
    · subst e
      simp [askings, asked, frames, List.countP_cons, List.count_singleton] at hold ⊢
      exact hold
    · rw [Function.update_of_ne e]
      simpa [askings, asked, frames, List.filterMap_cons, List.countP_cons, Ne.symm e] using hold

/-- The number of a device that is being asked fits into the set of the application. -/
theorem Sound.inRange_asking (h : s.Sound) {f : Frame} (hf : f ∈ s.frames) {d a : Nat}
    (hask : f.asking? = some (d, a)) : (s.links a).bound.InRange (s.deviceId d).number := by
  obtain ⟨hd, ha⟩ := h.asking_refs hf hask
  refine ⟨(s.deviceId d).number_ne_zero, ?_⟩
  rw [h.fits.bound a (h.appl_lt ha)]
  exact h.fits.number d (h.device_lt hd)

/-! ## Steps -/

/-- Links and reservations stay paired whatever is done next. -/
theorem Sound.paired_step (h : s.Sound) (step : Step s mv o t) : t.Paired := by
  have hp := h.paired
  cases step with
  -- no link, no reservation and no question changes
  | still | freed | releaseLater => exact hp.congr rfl rfl rfl
  | wake | remove | send => exact hp.congr rfl rfl (by simp [asked, List.filterMap_cons])
  | woken frames | skip frames | installed frames | registered frames | announced frames
      | bid frames | released frames | tell frames | passOver frames | bidden frames | sent frames =>
    exact hp.congr rfl rfl (by simp [asked, frames, List.filterMap_cons])
  | @install id pool table =>
    exact (h.paired_addDevice id pool table).congr rfl rfl (by simp [asked])
  | @register id pool table =>
    exact (h.paired_addAppl id pool table).congr rfl rfl (by simp [asked])
  | @release _ a table =>
    have hretire : (s.retireAppl a table).Paired := hp.congr rfl rfl rfl
    exact hretire.unwind _ _
  | ask frames _ _ _ reserved => exact (hp.ask frames reserved).congr rfl rfl rfl
  -- the reservation of the device becomes a link
  | @accept w c k fs frames =>
    have hf : w.frame c (some k) ∈ s.frames := frames ▸ List.mem_cons_self ..
    have hfresh := h.asking_not_linked hf (Frame.asking?_walk w c k)
    obtain ⟨-, hpending, hlinked⟩ := Links.confirm_active (w.device k) hfresh
    have hcoherent := (hp.coherent (w.appl k)).confirm (w.device k) hfresh
      (h.inRange_asking hf (Frame.asking?_walk w c k))
    have hsettled := h.paired_settled frames hcoherent (fun e he => ?_) hpending
    · exact hsettled.congr rfl rfl rfl
    · -- the new link leads to the device that was asked
      rcases List.mem_cons.1 (hlinked.mem_iff.1 he) with rfl | he
      · rfl
      · exact hp.keyed _ e he
  -- the reservation is given up
  | @decline w c k fs frames =>
    have hsettled := h.paired_settled frames (l := (s.links (w.appl k)).cancel
      (s.deviceId (w.device k))) ((hp.coherent _).cancel _) (hp.keyed _) rfl
    exact hsettled.congr rfl rfl rfl
  -- links are dropped, and no driver is asked
  | removed frames | removeLater frames =>
    rw [unlinkAll_eq]
    exact hp.sub (s.coherent_unlinkAll _ hp.coherent) (s.linked_of_linked_unlinkAll _)
      (s.pending_unlinkAll _) rfl (by simp [asked, frames, List.filterMap_cons])
  | @unwound i =>
    have hwait : (s.withWaiting (s.waiting.eraseIdx i)).Paired := hp.congr rfl rfl rfl
    exact hwait.unwind _ _

/-- Capacities that do not change, with numbers that do not either, keep numbers fitting. -/
theorem Fits.congr (h : s.Fits) (limit : t.limit = s.limit)
    (pool : t.devicePool.inUse.capacity = s.devicePool.inUse.capacity)
    (count : t.deviceCount = s.deviceCount) (id : t.deviceId = s.deviceId)
    (applCount : t.applCount = s.applCount)
    (bound : ∀ a, (t.links a).bound.capacity = (s.links a).bound.capacity) : t.Fits := by
  constructor
  · rw [pool, limit]
    exact h.pool
  · rw [count, id, limit]
    exact h.number
  · intro a ha
    rw [bound, limit]
    exact h.bound a (applCount ▸ ha)

/-- Numbers still fit when an application gets links whose set has the capacity of before. -/
theorem Fits.setLinks (h : s.Fits) (a : Nat) {l : Links}
    (same : l.bound.capacity = (s.links a).bound.capacity) : (s.setLinks a l).Fits := by
  refine h.congr rfl rfl rfl rfl rfl ?_
  exact (forall_update_iff s.links fun a l => l.bound.capacity = (s.links a).bound.capacity).2
    ⟨same, fun _ _ => rfl⟩

/-- Numbers still fit when links are taken to be unwound. -/
theorem Fits.unwind (h : s.Fits) (a : Nat) (origin : Origin) : (s.unwind a origin).Fits :=
  (h.setLinks a (Links.capacity_clear _)).congr rfl rfl rfl rfl rfl fun _ => rfl

/-- Numbers still fit whatever is done next. -/
theorem Sound.fits_step (h : s.Sound) (step : Step s mv o t) : t.Fits := by
  -- the number given out is in range, and the set that the pool keeps of them has its capacity
  -- still
  have hf := h.fits
  cases step with
  | still | wake | woken | remove | releaseLater | send | skip | installed | registered | tell
      | announced | passOver | bid | bidden | released | sent =>
    exact hf.congr rfl rfl rfl rfl rfl fun _ => rfl
  | install allocated =>
    obtain ⟨hrange, -, rfl⟩ := Directory.allocate_eq_ok allocated
    constructor
    · exact (NumberSet.capacity_insert ..).trans hf.pool
    -- the set of a new application has the limit for its capacity
    · refine (forall_update_iff s.deviceId fun d id =>
        d < s.deviceCount + 1 → id.number.toNat ≤ s.limit.toNat).2 ⟨fun _ => ?_, fun d hd hlt => ?_⟩
      · exact hf.pool ▸ hrange.2
      · exact hf.number d (by omega)
    · exact hf.bound
  | register =>
    constructor
    · exact hf.pool
    · exact hf.number
    · refine (forall_update_iff s.links fun a l =>
        a < s.applCount + 1 → l.bound.capacity = s.limit).2 ⟨fun _ => rfl, fun a ha hlt => ?_⟩
      exact hf.bound a (by omega)
  | @release _ a table =>
    have hretire : (s.retireAppl a table).Fits := hf.congr rfl rfl rfl rfl rfl fun _ => rfl
    exact hretire.unwind _ _
  | @ask w c c' n k l fs _ _ _ _ reserved =>
    -- a reservation and its withdrawal leave the capacity alone, and so does the number of a link
    have hreserved := hf.setLinks (w.appl k) (l := l) (by
      obtain ⟨-, -, rfl⟩ := Links.reserve?_eq_some reserved
      rfl)
    exact hreserved.congr rfl rfl rfl rfl rfl fun _ => rfl
  | @accept w c k =>
    have hlinked := hf.setLinks (w.appl k)
      (l := ((s.links (w.appl k)).confirm (s.deviceId (w.device k)) (w.device k) false).2)
      (NumberSet.capacity_insert ..)
    exact hlinked.congr rfl rfl rfl rfl rfl fun _ => rfl
  | @decline w c k =>
    have hdeclined := hf.setLinks (w.appl k)
      (l := (s.links (w.appl k)).cancel (s.deviceId (w.device k))) rfl
    exact hdeclined.congr rfl rfl rfl rfl rfl fun _ => rfl
  | removed =>
    rw [unlinkAll_eq]
    exact hf.congr rfl (NumberSet.capacity_erase ..) rfl rfl rfl (s.capacity_unlinkAll _)
  | removeLater =>
    rw [unlinkAll_eq]
    exact hf.congr rfl rfl rfl rfl rfl (s.capacity_unlinkAll _)
  | freed => exact hf.congr rfl (NumberSet.capacity_erase ..) rfl rfl rfl fun _ => rfl
  | @unwound i =>
    have hwait : (s.withWaiting (s.waiting.eraseIdx i)).Fits :=
      hf.congr rfl rfl rfl rfl rfl fun _ => rfl
    exact hwait.unwind _ _

end Ledger

end Switchboard
