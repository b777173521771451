import Switchboard.Proofs.Ledger.Sound

/-! # Pairs that walks have still to come to

A device and an application are covered while a walk of one of them has the other still ahead. Two
records that are both there are covered from the moment the later of them arrives. A walk that comes
to a pair asks the driver about it or finds the pair linked or reserved, and all other pairs stay
covered: `Ledger.Sound.covered_step`. -/

namespace Switchboard

/-- The walk that a call makes, and where it is. -/
def Frame.walk? : Frame → Option (Walk × Cursor)
  | installing d c _ => some (.ofDevice d, c)
  | registering a o c _ => some (.ofAppl a o, c)
  | _ => none

namespace Frame

/-- A walk in progress is walked, from its cursor. -/
@[simp] theorem walk?_frame (w : Walk) (c : Cursor) (k : Option Nat) :
    (w.frame c k).walk? = some (w, c) := by
  cases w <;> rfl

/-- An announcement walks over nothing. -/
@[simp] theorem walk?_announcing (d : Nat) (news : News) (l : Option Listener) (ns : List Notice)
    (os : List Observer) : (announcing d news l ns os).walk? = none := rfl

/-- An unwinding walks over nothing. -/
@[simp] theorem walk?_releasing (a : Nat) (o : Origin) (t : Option Nat) (rest : List Nat) :
    (releasing a o t rest).walk? = none := rfl

/-- A message under way walks over nothing. -/
@[simp] theorem walk?_sending (d a : Nat) (o : Origin) (m : Message) :
    (sending d a o m).walk? = none := rfl

/-- A wake-up walks over nothing. -/
@[simp] theorem walk?_waking (a : Nat) (h : SignalHandler) (w : Wake) :
    (waking a h w).walk? = none := rfl

end Frame

namespace Ledger

/-- The walks in progress. -/
def walks (s : Ledger) : List (Walk × Cursor) := s.frames.filterMap Frame.walk?

/-- Whether a walk at a position has still to come to a pair. -/
def Meets (s : Ledger) (d a : Nat) (w : Walk) (c : Cursor) : Prop :=
  ∃ k, w.device k = d ∧ w.appl k = a ∧ (s.tableOf w).Ahead c k

/-- Whether a walk in progress has still to come to a pair. -/
def Covered (s : Ledger) (d a : Nat) : Prop := ∃ w c, (w, c) ∈ s.walks ∧ s.Meets d a w c

variable {s t : Ledger} {mv : Move} {o : Outcome} {d a : Nat}

/-- The table that a walk goes through is in order. -/
theorem Sound.ordered (h : s.Sound) (w : Walk) : (s.tableOf w).Ordered := by
  cases w with
  | ofDevice => exact h.appls.ordered
  | ofAppl => exact h.devices.ordered

/-- A pair is covered while a walk in progress has still to come to it. -/
theorem Covered.mono (covered : s.Covered d a) (walks : ∀ p ∈ s.walks, p ∈ t.walks)
    (tables : ∀ w c, s.Meets d a w c → t.Meets d a w c) : t.Covered d a := by
  obtain ⟨w, c, hw, hmeets⟩ := covered
  exact ⟨w, c, walks _ hw, tables w c hmeets⟩

/-! ## Arrival -/

/-- Two records that are there were there before, or they are covered. -/
theorem Sound.arrived_step (h : s.Sound) (step : Step s mv o t) (device : t.deviceActive d = true)
    (appl : t.applActive a = true) :
    (s.deviceActive d = true ∧ s.applActive a = true) ∨ t.Covered d a := by
  cases step with
  | still | wake | woken | send | ask | skip | installed | registered | accept | decline | tell
      | announced | passOver | bid | bidden | released | sent | freed | unwound =>
    exact Or.inl ⟨device, appl⟩
  | removed | removeLater =>
    rw [unlinkAll_eq] at device appl
    exact Or.inl ⟨device, appl⟩
  | @remove _ d' =>
    by_cases e : d = d'
    · subst e
      simp at device
    · exact Or.inl ⟨by simpa [e] using device, appl⟩
  | @release _ a' | @releaseLater _ a' =>
    by_cases e : a = a'
    · subst e
      simp at appl
    · exact Or.inl ⟨device, by simpa [e] using appl⟩
  | @install id pool table allocated inserted =>
    by_cases e : d = s.deviceCount
    · -- the walk of the new device begins before all that is in the table
      subst e
      right
      have hlisted := (h.appls.listed _ a).2 ⟨appl, rfl⟩
      refine ⟨.ofDevice s.deviceCount, .start, by simp [walks], a, rfl, rfl, ?_⟩
      exact h.appls.ordered.ahead_start hlisted
    · exact Or.inl ⟨by simpa [e] using device, appl⟩
  | @register id pool table allocated inserted _ origin =>
    by_cases e : a = s.applCount
    · subst e
      right
      have hlisted := (h.devices.listed _ d).2 ⟨device, rfl⟩
      refine ⟨.ofAppl s.applCount origin, .start, by simp [walks], d, rfl, rfl, ?_⟩
      exact h.devices.ordered.ahead_start hlisted
    · exact Or.inl ⟨device, by simpa [e] using appl⟩

/-! ## Progress -/

/-- A reference is to be had to an active device. -/
theorem Sound.deviceJoins (h : s.Sound) (active : s.deviceActive d = true) : s.DeviceJoins d := by
  have hcount := h.counted.devices d
  rw [active, Bool.toNat_true] at hcount
  exact ⟨h.devices.inUse_lt d (Or.inl active), active, by omega⟩

/-- A reference is to be had to an active application. -/
theorem Sound.applJoins (h : s.Sound) (active : s.applActive a = true) : s.ApplJoins a := by
  have hcount := h.counted.appls a
  rw [active, Bool.toNat_true] at hcount
  exact ⟨h.appls.inUse_lt a (Or.inl active), active, by omega⟩

/-- A walk that goes on has still to come to a pair, unless it has come to it. -/
theorem Sound.meets_next (h : s.Sound) {w : Walk} {c c' : Cursor} {n : UInt16} {k : Nat}
    (next : (s.tableOf w).next? c = some (c', n, k)) (meets : s.Meets d a w c) :
    w.device k = d ∧ w.appl k = a ∨ s.Meets d a w c' := by
  obtain ⟨k', hd, ha, hahead⟩ := meets
  rcases (h.ordered w).ahead_next? next hahead with rfl | hahead'
  · exact Or.inl ⟨hd, ha⟩
  · exact Or.inr ⟨k', hd, ha, hahead'⟩

/-- A walk that ends has no pair left to come to. -/
theorem Sound.not_meets (h : s.Sound) {w : Walk} {c : Cursor} (next : (s.tableOf w).next? c = none) :
    ¬s.Meets d a w c :=
  fun ⟨k, _, _, hahead⟩ => (h.ordered w).not_ahead next k hahead

/-- When the innermost walk goes on, a pair stays covered, unless the walk has come to it. -/
theorem Sound.covered_next (h : s.Sound) {w : Walk} {c c' : Cursor} {n : UInt16} {k : Nat}
    {ws : List (Walk × Cursor)} (walks : s.walks = (w, c) :: ws)
    (next : (s.tableOf w).next? c = some (c', n, k)) (covered : s.Covered d a) :
    w.device k = d ∧ w.appl k = a ∨ ∃ w' c₁, (w', c₁) ∈ (w, c') :: ws ∧ s.Meets d a w' c₁ := by
  obtain ⟨w', c₁, hw, hmeets⟩ := covered
  rw [walks] at hw
  rcases List.mem_cons.1 hw with e | hw
  · cases e
    exact (h.meets_next next hmeets).imp id fun hmeets' => ⟨w, c', List.mem_cons_self .., hmeets'⟩
  · exact Or.inr ⟨w', c₁, List.mem_cons_of_mem _ hw, hmeets⟩

/-- A pair of records that are there stays covered until a walk comes to it, which asks the driver
or finds that the pair is linked or reserved. -/
theorem Sound.covered_step (h : s.Sound) (step : Step s mv o t) (device : t.deviceActive d = true)
    (appl : t.applActive a = true) (covered : s.Covered d a) :
    t.Covered d a ∨ o = .asks (.register d a) ∨
      (s.links a).reserve? (s.deviceId d) = none := by
  -- the cursors stay where they are in all steps but those of a walk
  cases step with
  | still => exact Or.inl covered
  | wake | send | freed | unwound =>
    exact Or.inl (covered.mono (by simp [walks]) fun _ _ hmeets => hmeets)
  | woken frames | accept frames | decline frames | tell frames | announced frames | passOver frames
      | bid frames | bidden frames | released frames | sent frames =>
    exact Or.inl (covered.mono (by simp [walks, frames]) fun _ _ hmeets => hmeets)
  | removed frames | removeLater frames =>
    rw [unlinkAll_eq]
    exact Or.inl (covered.mono (by simp [walks, frames]) fun _ _ hmeets => hmeets)
  | install _ inserted =>
    -- what is entered comes after all that a walk has ahead
    refine Or.inl (covered.mono (by simp +contextual [walks]) fun w c hmeets => ?_)
    obtain ⟨k, hd, ha, hahead⟩ := hmeets
    cases w with
    | ofDevice => exact ⟨k, hd, ha, hahead⟩
    | ofAppl => exact ⟨k, hd, ha, hahead.insert? inserted⟩
  -- here it is the application that is entered
  | register _ inserted =>
    refine Or.inl (covered.mono (by simp +contextual [walks]) fun w c hmeets => ?_)
    obtain ⟨k, hd, ha, hahead⟩ := hmeets
    cases w with
    | ofDevice => exact ⟨k, hd, ha, hahead.insert? inserted⟩
    | ofAppl => exact ⟨k, hd, ha, hahead⟩
  | remove removed =>
    -- a device that leaves the table is retired, so that it is not the one of the pair
    refine Or.inl (covered.mono (by simp [walks]) fun w c hmeets => ?_)
    obtain ⟨k, hd, ha, hahead⟩ := hmeets
    cases w with
    | ofDevice => exact ⟨k, hd, ha, hahead⟩
    | ofAppl =>
      refine ⟨k, hd, ha, hahead.remove? removed ?_⟩
      rintro rfl
      obtain rfl : k = d := hd
      simp at device
  -- an application that leaves the table is retired, so that it is not the one of the pair
  | release removed | releaseLater removed =>
    refine Or.inl (covered.mono (by simp [walks]) fun w c hmeets => ?_)
    obtain ⟨k, hd, ha, hahead⟩ := hmeets
    cases w with
    | ofDevice =>
      refine ⟨k, hd, ha, hahead.remove? removed ?_⟩
      rintro rfl
      obtain rfl : k = a := ha
      simp at appl
    | ofAppl => exact ⟨k, hd, ha, hahead⟩
  -- the walk moves to the next record: it comes to the pair or has it still ahead
  | @ask w c c' n k l fs frames next =>
    have hwalks : s.walks = (w, c) :: fs.filterMap Frame.walk? := by simp [walks, frames]
    rcases h.covered_next hwalks next covered with ⟨rfl, rfl⟩ | ⟨w', c₁, hw, hmeets⟩
    · exact Or.inr (Or.inl rfl)
    · exact Or.inl ⟨w', c₁, by simpa [walks] using hw, hmeets⟩
  -- a pair that is passed over though both are there is linked or reserved
  | @skip w c c' n k fs frames next refused =>
    have hwalks : s.walks = (w, c) :: fs.filterMap Frame.walk? := by simp [walks, frames]
    rcases h.covered_next hwalks next covered with ⟨rfl, rfl⟩ | ⟨w', c₁, hw, hmeets⟩
    · exact Or.inr (Or.inr (refused (h.deviceJoins device) (h.applJoins appl)))
    · exact Or.inl ⟨w', c₁, by simpa [walks] using hw, hmeets⟩
  | @installed _ c fs frames next | @registered _ _ c fs frames next =>
    -- the walk that ends has nothing ahead, so that another one has still to come to the pair
    obtain ⟨w', c₁, hw, hmeets⟩ := covered
    simp only [walks, frames, List.filterMap_cons, Frame.walk?_frame, List.mem_cons] at hw
    rcases hw with e | hw
    · cases e
      exact absurd hmeets (h.not_meets next)
    · exact Or.inl ⟨w', c₁, by simpa [walks] using hw, hmeets⟩

end Ledger

end Switchboard
