import Switchboard.Proofs.Ledger.Sound

/-! # What has been torn down

A device that has been retired is never active again, and no reference to it is taken any more; so
is an application, which makes no link any more either. A teardown ends only when nothing refers to
the record, so that what has been torn down is not referred to:
`Ledger.Sound.closed_step`. -/

namespace Switchboard

namespace Ledger

variable {s t : Ledger} {mv : Move} {o : Outcome}

/-! ## Devices -/

/-- Whether a device has arrived and been retired. -/
def Retired (s : Ledger) (d : Nat) : Prop := d < s.deviceCount ∧ s.deviceActive d = false

instance (s : Ledger) (d : Nat) : Decidable (s.Retired d) := inferInstanceAs (Decidable (_ ∧ _))

/-- A retired device stays retired. -/
theorem Step.device_retired (step : Step s mv o t) {d : Nat} (retired : s.Retired d) :
    t.Retired d :=
  step.devices.retired retired.1 retired.2

/-- No reference to a retired device is taken. -/
theorem Step.deviceRefs_le (step : Step s mv o t) {d : Nat} (before : s.deviceActive d = false)
    (after : t.deviceActive d = false) : t.deviceRefs d ≤ s.deviceRefs d := by
  have hne : ∀ d', s.deviceActive d' = true → d ≠ d' := by
    rintro d' hd' rfl
    rw [before] at hd'
    cases hd'
  cases step with
  | still | wake | woken | register | remove | release | releaseLater | skip | installed | registered
      | accept | tell | announced | bid | released | freed | unwound => exact Nat.le_refl _
  | install =>
    -- a device that arrives is not retired
    have hd : d ≠ s.deviceCount := by
      rintro rfl
      simp at after
    simp [hd]
  | send _ _ _ deviceJoins => simp [hne _ deviceJoins.2.1]
  | ask _ _ deviceJoins => simp [hne _ deviceJoins.2.1]
  | decline => exact deviceRefs_leaveDevice_le (s.setLinks _ _) _ d
  | passOver | bidden | sent => exact s.deviceRefs_leaveDevice_le _ d
  | removed | removeLater =>
    exact (deviceRefs_leaveDevice_le _ _ d).trans (s.deviceRefs_unlinkAll_le _ d)

/-- A removal that is no longer under way has ended when nothing refers to the device. -/
theorem Step.removals_ended (step : Step s mv o t) {d : Nat} (after : t.removals d = 0) :
    s.removals d = 0 ∨ t.deviceRefs d = 0 := by
  cases step with
  | still | wake | woken | register | release | releaseLater | send | ask | skip | installed
      | registered | accept | decline | announced | passOver | bid | bidden | released | sent
      | install =>
    left
    simpa [removals, *] using after
  | @tell _ news _ _ _ _ _ _ _ frames =>
    left
    cases news <;> simpa [removals, List.countP_cons, frames] using after
  -- a removal begins, so that this is not the device that is removed
  | remove =>
    left
    simp [removals, List.countP_cons] at after ⊢
    exact ⟨after.1.1, after.2⟩
  | @removed d' fs frames unheld =>
    -- the removal that ends is that of this device, and there are no references, or of another
    by_cases e : d = d'
    · right
      subst e
      exact (Function.update_self ..).trans unheld
    · left
      rw [unlinkAll_eq] at after
      simpa [removals, frames, Ne.symm e] using after
  | @removeLater d' fs frames held =>
    -- the removal that begins to wait is that of another device
    left
    rw [unlinkAll_eq] at after
    have e : d' ≠ d := by
      rintro rfl
      simp [removals] at after
    simpa [removals, frames, e] using after
  -- a device that nothing refers to is freed: this one, or another
  | @freed i d' waits unheld =>
    by_cases e : d = d'
    · right
      subst e
      exact unheld
    · left
      simpa [removals, countP_eraseIdx _ waits, Ne.symm e] using after
  | unwound waits =>
    left
    simpa [removals, countP_eraseIdx _ waits] using after

/-! ## Applications -/

/-- Whether an application is active no longer, and neither referred to nor linked. -/
structure ApplGone (s : Ledger) (a : Nat) : Prop where
  retired : s.applActive a = false
  refs : s.applRefs a = 0
  linked : (s.links a).linked = []

/-- How many releases of an application wait. -/
def waitingReleases (s : Ledger) (a : Nat) : Nat := s.waiting.countP fun t => t.appl? = some a

/-- A retired application stays retired. -/
theorem Step.appl_retired (step : Step s mv o t) {a : Nat} (ha : a < s.applCount)
    (retired : s.applActive a = false) : a < t.applCount ∧ t.applActive a = false :=
  step.appls.retired ha retired

/-- An application that is gone stays so. -/
theorem Sound.applGone_step (h : s.Sound) (step : Step s mv o t) {a : Nat} (gone : s.ApplGone a)
    (hret : t.applActive a = false) : t.ApplGone a := by
  -- an application that is active or referred to is another one
  have hne : ∀ a', s.applActive a' = true → a ≠ a' := by
    rintro a' ha' rfl
    rw [gone.retired] at ha'
    cases ha'
  have href : ∀ a', s.applRefs a' ≠ 0 → a ≠ a' := by
    rintro a' ha' rfl
    exact ha' gone.refs
  obtain ⟨-, hrefs, hlinked⟩ := gone
  cases step with
  | still | wake | woken | install | remove | skip | installed | registered | tell
      | announced | passOver | bid | bidden | released | freed => exact ⟨hret, hrefs, hlinked⟩
  -- the application that arrives is active
  | register =>
    have e : a ≠ s.applCount := by
      rintro rfl
      simp at hret
    exact ⟨hret, (Function.update_of_ne e ..).trans hrefs, by simpa [e] using hlinked⟩
  | release removed =>
    have e := hne _ (h.appls.of_removed removed).1
    exact ⟨hret, (Function.update_of_ne e ..).trans hrefs, by simpa [e] using hlinked⟩
  | releaseLater removed =>
    have e := hne _ (h.appls.of_removed removed).1
    exact ⟨hret, (Function.update_of_ne e ..).trans hrefs, hlinked⟩
  | send _ applJoins =>
    have e := hne _ applJoins.2.1
    exact ⟨hret, (Function.update_of_ne e ..).trans hrefs, hlinked⟩
  | ask _ _ _ applJoins =>
    have e := hne _ applJoins.2.1
    exact ⟨hret, (Function.update_of_ne e ..).trans hrefs, by simpa [e] using hlinked⟩
  | accept frames | decline frames =>
    -- an application that a driver is being asked about is referred to
    have e := href _ (h.asking_refs (frames ▸ List.mem_cons_self ..) (Frame.asking?_walk ..)).2
    exact ⟨hret, (Function.update_of_ne e ..).trans hrefs, by simpa [e] using hlinked⟩
  | removed | removeLater =>
    refine ⟨hret, ?_, ?_⟩
    · rw [unlinkAll_eq]
      exact hrefs
    · show ((s.unlinkAll _).links a).linked = []
      rw [linked_unlinkAll, hlinked]
      split <;> rfl
  -- a message that is over gives a reference up
  | sent =>
    exact ⟨hret, Nat.le_zero.1 ((applRefs_leaveAppl_le _ _ a).trans hrefs.le), hlinked⟩
  -- links are taken away and not given
  | @unwound _ a' =>
    refine ⟨hret, hrefs, ?_⟩
    rw [unwind_links]
    by_cases e : a = a'
    · subst e
      rw [Function.update_self]
      rfl
    · rw [Function.update_of_ne e]
      exact hlinked

/-- An application that is retired and waits no longer has been unwound. -/
theorem Step.releases_ended (step : Step s mv o t) {a : Nat}
    (retired : t.applActive a = false) (after : t.waitingReleases a = 0) :
    (s.applActive a = false ∧ s.waitingReleases a = 0) ∨ t.ApplGone a := by
  cases step with
  | still | wake | woken | install | remove | send | ask | skip | installed | registered | accept
      | decline | tell | announced | passOver | bid | bidden | released | sent =>
    exact Or.inl ⟨retired, after⟩
  | freed waits =>
    left
    simpa [waitingReleases, countP_eraseIdx _ waits] using And.intro retired after
  | removed | removeLater =>
    left
    rw [unlinkAll_eq] at retired after
    simpa [waitingReleases] using And.intro retired after
  -- an application that arrives is active
  | register =>
    left
    refine ⟨?_, after⟩
    by_cases e : a = s.applCount
    · subst e
      simp at retired
    · simpa [e] using retired
  -- an application that nothing refers to is unwound at once: this one, or another
  | @release _ a' _ removed unheld =>
    by_cases e : a = a'
    · right
      subst e
      exact ⟨retired, (Function.update_self ..).trans unheld, by simp [Links.clear]⟩
    · left
      exact ⟨(Function.update_of_ne e ..).symm.trans retired, after⟩
  -- an application that begins to wait is another one
  | @releaseLater _ a' _ _ _ _ origin =>
    have e : a' ≠ a := by
      rintro rfl
      simp [waitingReleases] at after
    left
    simpa [waitingReleases, Ne.symm e, e] using And.intro retired after
  | @unwound i a' _ waits unheld =>
    by_cases e : a = a'
    · right
      subst e
      exact ⟨retired, unheld, by simp [Links.clear]⟩
    · left
      simpa [waitingReleases, countP_eraseIdx _ waits, Ne.symm e] using And.intro retired after

/-- An application whose links are unwound is gone. -/
theorem Sound.applGone_of_unwinding (h : s.Sound) {f : Frame} (hf : f ∈ s.frames) {a : Nat}
    (hunwind : f.unwinding? = some a) : s.ApplGone a := by
  obtain ⟨-, hretired, hwaits⟩ := h.of_unwinding hf hunwind
  obtain ⟨hrefs, hlinked⟩ := h.closed.appls a hretired hwaits
  exact ⟨hretired, hrefs, hlinked⟩

/-! ## Teardowns -/

/-- What has been torn down stays without references. -/
theorem Sound.closed_step (h : s.Sound) (step : Step s mv o t) : t.Closed := by
  constructor
  case devices =>
    intro d retired ended
    rcases step.removals_ended ended with hs | hrefs
    · -- the device was torn down before, and no reference to it has been taken since
      have hret : s.deviceActive d = false := step.devices.retired_before retired ended
      have hle := step.deviceRefs_le hret retired
      rw [h.closed.devices d hret hs] at hle
      exact Nat.le_zero.1 hle
    · exact hrefs
  case appls =>
    intro a retired ended
    rcases step.releases_ended retired ended with ⟨hret, hwait⟩ | hgone
    · obtain ⟨hrefs, hlinked⟩ := h.closed.appls a hret hwait
      have hgone := h.applGone_step step ⟨hret, hrefs, hlinked⟩ retired
      exact ⟨hgone.refs, hgone.linked⟩
    · exact ⟨hgone.refs, hgone.linked⟩

end Ledger

end Switchboard
