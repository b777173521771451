import Switchboard.Proofs.Ledger.Closing

/-! # How links come and go

A link is made when a driver accepts an application, and in no other way; while the device and the
application are active it lasts. A driver is asked before it accepts. -/

namespace Switchboard

namespace Ledger

open Function (update_self update_of_ne)

variable {s t : Ledger} {mv : Move} {o : Outcome}

/-! ## Links that last -/

/-- A link lasts when the links of an application are replaced by more. -/
theorem linked_setLinks {a a' : Nat} {l : Links} {e : DeviceId × Nat}
    (more : ∀ e ∈ (s.links a').linked, e ∈ l.linked) (he : e ∈ (s.links a).linked) :
    e ∈ ((s.setLinks a' l).links a).linked := by
  rw [setLinks_links]
  by_cases h : a = a'
  · subst h
    rw [update_self]
    exact more e he
  · rwa [update_of_ne h]

/-- An application that waits to be unwound is retired. -/
theorem Sound.retired_of_waiting (h : s.Sound) {i a : Nat} {origin : Origin}
    (waits : s.waiting[i]? = some (.appl a origin)) : s.applActive a = false :=
  h.appls.apart a (closing_of_waiting waits)

/-- A link lasts while the device and the application are active. -/
theorem Sound.linked_step (h : s.Sound) (step : Step s mv o t) {d a : Nat}
    (linked : (s.deviceId d, d) ∈ (s.links a).linked) (device : t.deviceActive d = true)
    (appl : t.applActive a = true) : (t.deviceId d, d) ∈ (t.links a).linked := by
  have hd : d < s.deviceCount := h.device_lt (h.linked_refs linked)
  have ha : a < s.applCount := h.appl_lt_of_linked linked
  -- links are dropped only when the application is unwound or the device is removed
  cases step with
  | still | wake | woken | remove | releaseLater | send | skip | installed | registered | tell
      | announced | passOver | bid | bidden | released | sent | freed => exact linked
  | install => simpa [update_of_ne (Nat.ne_of_lt hd)] using linked
  | register => simpa [update_of_ne (Nat.ne_of_lt ha)] using linked
  -- an active application is not unwound
  | @release _ a' =>
    have e : a ≠ a' := by
      rintro rfl
      simp at appl
    simpa [update_of_ne e] using linked
  -- what is reserved or withdrawn is no link
  | ask _ _ _ _ reserved =>
    obtain ⟨-, -, rfl⟩ := Links.reserve?_eq_some reserved
    exact linked_setLinks (s := s) (fun _ he => he) linked
  -- a link that is entered leaves the others
  | @accept w c k fs frames =>
    have hfresh := h.asking_not_linked (frames ▸ List.mem_cons_self ..) (Frame.asking?_walk w c k)
    have hperm := (Links.confirm_active (w.device k) hfresh).2.2
    exact linked_setLinks (s := s) (fun _ he => hperm.mem_iff.2 (List.mem_cons_of_mem _ he)) linked
  | decline => exact linked_setLinks (s := s) (fun _ he => he) linked
  | @removed d' fs frames | @removeLater d' fs frames =>
    obtain ⟨hretired, hinUse⟩ := h.retired_of_removing frames
    rw [unlinkAll_eq] at device
    -- the device has another number than the one that is removed
    have hne : s.deviceId d ≠ s.deviceId d' := fun hid => by
      rw [h.linked_eq linked hinUse hid.symm] at device
      exact absurd (hretired.symm.trans device) Bool.false_ne_true
    rw [unlinkAll_eq]
    show (s.deviceId d, d) ∈ ((s.unlinkAll _).links a).linked
    rw [linked_unlinkAll]
    split
    · exact List.mem_filter.2 ⟨linked, by simpa using hne⟩
    · exact linked
  | @unwound i a' origin waits =>
    have e : a ≠ a' := by
      rintro rfl
      exact absurd ((h.retired_of_waiting waits).symm.trans appl) Bool.false_ne_true
    simpa [update_of_ne e] using linked

/-! ## Where links come from -/

/-- The callback that the innermost call waits for. -/
def callback? (s : Ledger) : Option Callback := s.frames.head?.bind Frame.callback?

/-- A link was there before, or the driver of an active device has accepted the application now. -/
theorem Sound.linked_before (h : s.Sound) (step : Step s mv o t) {a : Nat} {e : DeviceId × Nat}
    (linked : e ∈ (t.links a).linked) :
    e ∈ (s.links a).linked ∨
      (∃ ans, mv = .answer ans ∧ ans.isAccepted = true) ∧
        s.callback? = some (.register e.2 a) ∧ s.deviceActive e.2 = true := by
  cases step with
  | still | wake | woken | install | remove | releaseLater | send | skip | installed | registered
      | tell | announced | passOver | bid | bidden | released | sent | freed => exact Or.inl linked
  | register =>
    -- an application arrives without links, and is left without them when it is unwound
    by_cases e : a = s.applCount
    · subst e
      simp [Links.empty] at linked
    · exact Or.inl (by simpa [update_of_ne e] using linked)
  | @release _ a' | @unwound _ a' =>
    by_cases e : a = a'
    · subst e
      simp [Links.clear] at linked
    · exact Or.inl (by simpa [update_of_ne e] using linked)
  -- what is reserved or withdrawn is no link
  | @ask w c c' n k l fs frames _ _ _ reserved =>
    obtain ⟨-, -, rfl⟩ := Links.reserve?_eq_some reserved
    left
    by_cases e : a = w.appl k
    · subst e
      simpa using linked
    · simpa [update_of_ne e] using linked
  | @decline w c k =>
    left
    by_cases e : a = w.appl k
    · subst e
      simpa using linked
    · simpa [update_of_ne e] using linked
  -- the links after an acceptance are those of before and one to the device that was asked
  | @accept w c k fs frames ans accepted active =>
    by_cases e : a = w.appl k
    · subst e
      have hfresh := h.asking_not_linked (frames ▸ List.mem_cons_self ..) (Frame.asking?_walk w c k)
      have hperm := (Links.confirm_active (w.device k) hfresh).2.2
      rcases List.mem_cons.1 (hperm.mem_iff.1 (by simpa using linked)) with rfl | he
      · exact Or.inr ⟨⟨ans, rfl, accepted⟩, by simp [callback?, frames], active⟩
      · exact Or.inl he
    · exact Or.inl (by simpa [update_of_ne e] using linked)
  | removed | removeLater => exact Or.inl (s.linked_of_linked_unlinkAll _ a _ linked)

/-- A pair that a driver is being asked about was so before, or the driver is asked now. -/
theorem Step.asked_before (step : Step s mv o t) {p : Nat × Nat} (asked : p ∈ t.asked) :
    p ∈ s.asked ∨ o = .asks (.register p.1 p.2) := by
  cases step with
  | still => exact Or.inl asked
  | @ask w c c' n k l fs frames =>
    have hcases : p = (w.device k, w.appl k) ∨ ∃ f ∈ fs, f.asking? = some p := by
      simpa [Ledger.asked] using asked
    rcases hcases with rfl | hp
    · exact Or.inr rfl
    · exact Or.inl (by simpa [Ledger.asked, frames] using hp)
  | wake | install | register | remove | release | releaseLater | send | freed | unwound =>
    left
    simpa [Ledger.asked] using asked
  | accept frames | decline frames =>
    left
    simp only [Ledger.asked, frames, List.filterMap_cons, Frame.asking?_walk]
    exact List.mem_cons_of_mem _ (by simpa [Ledger.asked] using asked)
  | woken frames | skip frames | installed frames | registered frames | tell frames
      | announced frames | removed frames | removeLater frames | passOver frames | bid frames
      | bidden frames | released frames | sent frames =>
    left
    simpa [Ledger.asked, frames] using asked

/-- An active device whose driver accepts an application is linked. -/
theorem Sound.linked_of_accepted (h : s.Sound) {ans : Answer} (step : Step s (.answer ans) o t)
    {d a : Nat} (asking : s.callback? = some (.register d a)) (accepted : ans.isAccepted = true)
    (active : t.deviceActive d = true) : (t.deviceId d, d) ∈ (t.links a).linked := by
  cases step with
  | woken frames | bidden frames | sent frames =>
    simp [callback?, frames, Frame.callback?] at asking
  | @tell _ _ telling _ _ _ _ _ _ frames =>
    cases telling <;> simp [callback?, frames, Frame.callback?] at asking
  | @accept w c k fs frames =>
    obtain ⟨rfl, rfl⟩ : w.device k = d ∧ w.appl k = a := by simpa [callback?, frames] using asking
    have hfresh := h.asking_not_linked (frames ▸ List.mem_cons_self ..) (Frame.asking?_walk w c k)
    have hperm := (Links.confirm_active (w.device k) hfresh).2.2
    simpa using hperm.mem_iff.2 (List.mem_cons_self ..)
  | @decline w c k fs frames _ declined =>
    obtain ⟨rfl, rfl⟩ : w.device k = d ∧ w.appl k = a := by simpa [callback?, frames] using asking
    exact absurd ((declined accepted).symm.trans active) Bool.false_ne_true

end Ledger

end Switchboard
