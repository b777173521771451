import Switchboard.Proofs.Ledger.Invariant
import Switchboard.Proofs.Runs

/-! # The removal of a device

From the moment a device has been retired its driver is asked nothing more, and once its removal has
ended nothing refers to it any more: no callback of its driver is in progress, and no application
has a link to it. Both hold from then on for the rest of the run. -/

namespace Switchboard

/-! ## Callbacks and events of a device -/

/-- The device whose driver is called back, if it is a driver. -/
def Callback.device? : Callback → Option Nat
  | register d _ => some d
  | release d _ => some d
  | send d _ _ => some d
  | news _ _ _ => none
  | wake _ _ => none

namespace Machine

/-- A move that retires a device: its removal is called for while it is installed. -/
def Event.Retires (e : Event) (d : Nat) : Prop :=
  ∃ id, e.move = .call (.remove id) ∧ e.before.registry.device? id = some d

/-- A move that starts a callback of the driver of a device. -/
def Event.StartsDriver (e : Event) (d : Nat) : Prop :=
  ∃ cb, e.outcome = .asks cb ∧ cb.device? = some d

/-- A move with which the removal of a device ends: the last piece of the call that removes it, or
the resumption of a removal that has waited. -/
def Event.EndsRemoval (e : Event) (d : Nat) : Prop :=
  e.outcome = .ends (.removed (.ok ())) ∧
    ((e.move = .advance ∧ ∃ fs, e.before.frames = .announcing d .removed none [] [] :: fs) ∨
      ∃ i, e.move = .resume i ∧ e.before.waiting[i]? = some (.device d))

/-- Nothing refers to a device: no callback of its driver is in progress, no reference is counted,
and no application has a link to it. -/
structure Quiescent (m : Machine) (d : Nat) : Prop where
  callback : ∀ f ∈ m.frames, ∀ cb, f.callback? = some cb → cb.device? ≠ some d
  refs : (m.registry.devices.get d).lifecycle.refs = 0
  links : ∀ a, d ∉ (m.registry.appls.get a).links.keys

end Machine

/-- A callback of a driver that is in progress holds a reference to the device. -/
theorem Frame.deviceHolds_of_callback {f : Frame} {cb : Callback} {d : Nat}
    (hcb : f.callback? = some cb) (hd : cb.device? = some d) : 1 ≤ f.deviceHolds d := by
  unfold Frame.deviceHolds
  cases cb with
  | register d' a =>
    cases hd
    rw [Frame.asking?_of_callback? hcb]
    simp
    omega
  | release d' a =>
    cases hd
    have htaken := List.count_pos_iff.2 (Frame.mem_taken_of_callback? hcb)
    omega
  | send d' a m =>
    cases hd
    rw [Frame.sending?_of_callback? hcb]
    simp
    omega
  | news | wake => cases hd

/-- Drivers are called back about active devices only. -/
theorem Ledger.Step.active_of_asks {s t : Ledger} {mv : Move} {cb : Callback} {d : Nat}
    (step : Ledger.Step s mv (.asks cb) t) (hd : cb.device? = some d) :
    s.deviceActive d = true := by
  cases step with
  | wake => cases hd
  | send _ _ _ deviceJoins =>
    cases hd
    exact deviceJoins.2.1
  | ask _ _ deviceJoins =>
    cases hd
    exact deviceJoins.2.1
  | tell _ _ outcome =>
    rcases outcome with h | ⟨l, h⟩
    · cases h
    · cases h
      cases hd
  | bid _ active =>
    cases hd
    exact active

/-- The removal of a device ends with nothing that refers to it. -/
theorem Ledger.Step.refs_of_removed {s t : Ledger} {mv : Move} {d : Nat}
    (step : Ledger.Step s mv (.ends (.removed (.ok ()))) t)
    (ends : (mv = .advance ∧ ∃ fs, s.frames = .announcing d .removed none [] [] :: fs) ∨
      ∃ i, mv = .resume i ∧ s.waiting[i]? = some (.device d)) : t.deviceRefs d = 0 := by
  rcases ends with ⟨rfl, fs, hf⟩ | ⟨i, rfl, hwaits⟩
  -- the removal ends with its news
  · cases step with
    | @registered a origin c fs' frames =>
      rw [hf] at frames
      cases frames
    | announced frames =>
      rw [hf] at frames
      cases frames
    | tell _ _ outcome => rcases outcome with h | ⟨l, h⟩ <;> cases h
    | released frames =>
      rw [hf] at frames
      cases frames
    | removed frames unheld =>
      rw [hf] at frames
      cases frames
      exact (Function.update_self ..).trans unheld
  -- the removal has waited
  · cases step with
    | tell _ goesOn => rcases goesOn with h | ⟨ans, h⟩ <;> cases h
    | freed waits unheld =>
      rw [hwaits] at waits
      cases waits
      exact unheld

namespace Machine

variable {config : Config} {history : List Event} {m : Machine} {e : Event} {d : Nat}

/-! ## Retired devices -/

/-- Whether a device has been retired. -/
def IsRetired (m : Machine) (d : Nat) : Prop := m.ledger.Retired d

instance (m : Machine) (d : Nat) : Decidable (m.IsRetired d) :=
  inferInstanceAs (Decidable (m.ledger.Retired d))

/-- A retired device stays retired. -/
theorem isRetired_make (h : Reachable config m) {mv : Move} (admitted : m.admits mv = true)
    (retired : m.IsRetired d) : (m.make mv).1.IsRetired d :=
  (h.step admitted).device_retired retired

/-- The removal of an installed device retires it. -/
theorem Event.Retires.isRetired (h : Reachable config e.before) (retires : e.Retires d) :
    (e.before.make e.move).1.IsRetired d := by
  obtain ⟨id, hmove, hdevice⟩ := retires
  obtain ⟨table, hremove⟩ := Roster.remove?_of_get? hdevice
  have hactive := (h.sound.devices.of_removed hremove).1
  have hlt : d < e.before.ledger.deviceCount := h.sound.devices.inUse_lt d (Or.inl hactive)
  obtain ⟨r, hr⟩ : ∃ r, e.before.registry.retireDevice? id = some (d, r) := by
    rw [Registry.retireDevice?, hremove]
    exact ⟨_, rfl⟩
  obtain ⟨table', -, hledger⟩ :=
    e.before.registry.retireDevice?_eq_some e.before.frames e.before.waiting hr
  rw [hmove]
  simp only [make, call, hr]
  constructor
  · exact (congrArg Ledger.deviceCount hledger).symm ▸ hlt
  · have hactive' : (fun d => !(r.devices.get d).isRetiring) =
        Function.update e.before.ledger.deviceActive d false := congrArg Ledger.deviceActive hledger
    exact (congrFun hactive' d).trans (Function.update_self ..)

/-- Nothing starts a callback of the driver of a retired device. -/
theorem IsRetired.not_startsDriver (retired : e.before.IsRetired d)
    (h : Reachable config e.before) (admitted : e.before.admits e.move = true)
    (outcome : e.outcome = (e.before.make e.move).2) : ¬e.StartsDriver d := by
  rintro ⟨cb, hcb, hd⟩
  have hstep := h.step admitted
  rw [← outcome, hcb] at hstep
  have hactive := hstep.active_of_asks hd
  rw [retired.2] at hactive
  cases hactive

/-! ## Removed devices -/

/-- Whether a device is retired and not referred to. -/
def IsGone (m : Machine) (d : Nat) : Prop := m.IsRetired d ∧ m.ledger.deviceRefs d = 0

/-- A device that is gone stays gone. -/
theorem isGone_make (h : Reachable config m) {mv : Move} (admitted : m.admits mv = true)
    (gone : m.IsGone d) : (m.make mv).1.IsGone d := by
  obtain ⟨hretired, hrefs⟩ := gone
  have hretired' := isRetired_make h admitted hretired
  have hle := (h.step admitted).deviceRefs_le hretired.2 hretired'.2
  rw [hrefs] at hle
  exact ⟨hretired', Nat.le_zero.1 hle⟩

/-- The removal of a device ends when nothing refers to it. -/
theorem Event.EndsRemoval.refs_eq_zero (h : Reachable config e.before)
    (admitted : e.before.admits e.move = true) (outcome : e.outcome = (e.before.make e.move).2)
    (ends : e.EndsRemoval d) : (e.before.make e.move).1.ledger.deviceRefs d = 0 := by
  obtain ⟨hend, hmove⟩ := ends
  have hstep := h.step admitted
  rw [← outcome, hend] at hstep
  exact hstep.refs_of_removed hmove

/-- A removal that has waited ends when it is resumed. -/
theorem endsRemoval_resume {i : Nat} (waits : m.waiting[i]? = some (.device d))
    (unheld : (m.registry.devices.get d).lifecycle.refs = 0) :
    Event.EndsRemoval ⟨m, .resume i, (m.make (.resume i)).2⟩ d := by
  refine ⟨?_, Or.inr ⟨i, rfl, waits⟩⟩
  simp [make, resume, waits, Teardown.holders, unheld, finish]

/-- Nothing refers to a device that is gone. -/
theorem IsGone.quiescent (gone : m.IsGone d) (h : m.ledger.Sound) : m.Quiescent d where
  callback f hf cb hcb hd := by
    have hle := Ledger.deviceHolds_le (s := m.ledger) hf d
    have hone := Frame.deviceHolds_of_callback hcb hd
    have hcount := h.counted.devices d
    rw [gone.2] at hcount
    omega
  refs := gone.2
  links a hd := by
    obtain ⟨e, he, rfl⟩ := List.mem_map.1 hd
    exact h.linked_refs (a := a) he gone.2

/-! ## The rest of the run -/

/-- **The removal of a device is quiescent.** Once a device has been retired no callback of its
driver starts any more, whatever calls are in progress; and once its removal has ended no such
callback is in progress, no reference to the device is counted and no application has a link to it,
then and for the rest of the run. -/
theorem removal_quiescent {h₁ h₂ : List Event} (run : Run config history m)
    (split : history = h₁ ++ e :: h₂) (retires : e.Retires d) :
    (∀ e' ∈ h₂, ¬e'.StartsDriver d) ∧
      ∀ h₃ h₄ e', h₂ = h₃ ++ e' :: h₄ → e'.EndsRemoval d →
        m.Quiescent d ∧ ∀ e'' ∈ h₄, e''.before.Quiescent d := by
  obtain ⟨hreach, -, -⟩ := run.event (e := e) (by simp [split])
  have hretired := run.since (P := fun m => m.IsRetired d) split (retires.isRetired hreach)
    fun m mv h admitted hm => isRetired_make h admitted hm
  constructor
  · intro e' he'
    obtain ⟨h', admitted, outcome⟩ := run.event (e := e') (by simp [split, he'])
    exact (hretired.2 e' he').not_startsDriver h' admitted outcome
  · rintro h₃ h₄ e' rfl ends
    obtain ⟨h', admitted, outcome⟩ := run.event (e := e') (by simp [split])
    have hgone : (e'.before.make e'.move).1.IsGone d :=
      ⟨isRetired_make h' admitted (hretired.2 e' (by simp)), ends.refs_eq_zero h' admitted outcome⟩
    have hsplit : history = (h₁ ++ e :: h₃) ++ e' :: h₄ := by simp [split]
    have hsince := run.since (P := fun m => m.IsGone d) hsplit hgone
      fun m mv h admitted hm => isGone_make h admitted hm
    refine ⟨hsince.1.quiescent run.reachable.sound, fun e'' he'' => ?_⟩
    exact (hsince.2 e'' he'').quiescent (run.event (by simp [split, he''])).1.sound

/-- A device is removed while its driver is asked about an application: the removal waits for the
driver, and ends once the driver has returned. -/
theorem removal_quiescent_while_asked :
    let m := (Machine.new ⟨2, 2⟩).after binding
    let m' := (m.make (.call (.remove default))).1
    let rest := [.advance, .answer .agree, .advance, .advance, .resume 0]
    Event.Retires ⟨m, .call (.remove default), (m.make (.call (.remove default))).2⟩ 0 ∧
      (∀ e ∈ m'.events rest, ¬e.StartsDriver 0) ∧ (m'.after rest).Quiescent 0 := by
  intro m m' rest
  have hrun := Run.of_moves ⟨2, 2⟩ (binding ++ .call (.remove default) :: rest) (by decide +kernel)
  rw [after_append_cons, events_append_cons] at hrun
  have hretires : Event.Retires ⟨m, .call (.remove default),
      (m.make (.call (.remove default))).2⟩ 0 := ⟨default, rfl, by decide +kernel⟩
  obtain ⟨hsilent, hended⟩ := removal_quiescent hrun rfl hretires
  refine ⟨hretires, hsilent, ?_⟩
  exact (hended _ _ _ (events_append_cons m' [.advance, .answer .agree, .advance, .advance] [] _)
    (endsRemoval_resume (by decide +kernel) (by decide +kernel))).1

end Machine

end Switchboard
