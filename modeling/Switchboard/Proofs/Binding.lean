import Switchboard.Proofs.Ledger.Coverage
import Switchboard.Proofs.Ledger.Linking
import Switchboard.Proofs.References
import Switchboard.Proofs.Runs

/-! # Every pair is settled

Whichever of a device and an application arrives later walks through the others; walks run into each
other, and tables change while they go on. Once no call is in progress and no teardown waits, every
driver has been asked about every application, and an application is linked to the devices whose
drivers have accepted it, and to no others. -/

namespace Switchboard

namespace Machine

/-- An event with which the driver of a device is asked about an application. -/
def Event.Asks (e : Event) (d a : Nat) : Prop := e.outcome = .asks (.register d a)

/-- An event with which the driver of a device accepts an application. -/
def Event.Accepts (e : Event) (d a : Nat) : Prop :=
  (∃ ans, e.move = .answer ans ∧ ans.isAccepted = true) ∧
    e.before.callback? = some (.register d a)

variable {config : Config} {history : List Event} {m : Machine} {d a : Nat}

/-- The ledger knows the callback that is awaited. -/
theorem ledger_callback? (m : Machine) : m.ledger.callback? = m.callback? := by
  rw [callback?, Ledger.callback?]
  show m.frames.head?.bind Frame.callback? = _
  cases m.frames <;> rfl

/-! ## What has been asked and accepted -/

/-- A driver that is being asked has been asked. -/
theorem Run.asks_of_asked (run : Run config history m) (asked : (d, a) ∈ m.ledger.asked) :
    ∃ e ∈ history, e.Asks d a := by
  induction run with
  | new => cases asked
  | @move history m mv run admitted ih =>
    rcases (run.reachable.step admitted).asked_before asked with hasked | hasks
    · obtain ⟨e, he, hasks⟩ := ih hasked
      exact ⟨e, List.mem_append_left _ he, hasks⟩
    · exact ⟨_, List.mem_append_right _ (List.mem_singleton_self _), hasks⟩

/-- A pair that is linked has been asked about and accepted. -/
theorem Run.accepts_of_linked (run : Run config history m) {id : DeviceId}
    (linked : (id, d) ∈ (m.ledger.links a).linked) :
    (∃ e ∈ history, e.Asks d a) ∧ ∃ e ∈ history, e.Accepts d a := by
  induction run with
  | new => cases linked
  | @move history m mv run admitted ih =>
    rcases run.reachable.sound.linked_before (run.reachable.step admitted) linked with hlinked |
      ⟨hanswer, hcallback, -⟩
    · obtain ⟨⟨e, he, hasks⟩, e', he', haccepts⟩ := ih hlinked
      exact ⟨⟨e, List.mem_append_left _ he, hasks⟩, e', List.mem_append_left _ he', haccepts⟩
    · have hasked : (d, a) ∈ m.ledger.asked := by
        obtain ⟨f, hf, hcb⟩ := Option.bind_eq_some_iff.1 hcallback
        exact List.mem_filterMap.2 ⟨f, List.mem_of_head? hf, Frame.asking?_of_callback? hcb⟩
      obtain ⟨e, he, hasks⟩ := run.asks_of_asked hasked
      refine ⟨⟨e, List.mem_append_left _ he, hasks⟩, _,
        List.mem_append_right _ (List.mem_singleton_self _), hanswer, ?_⟩
      rw [← hcallback, ledger_callback?]

/-- A pair of active records that is linked or reserved has been asked about. -/
theorem Run.asks_of_reserve?_eq_none (run : Run config history m)
    (device : m.ledger.deviceActive d = true)
    (refused : (m.ledger.links a).reserve? (m.ledger.deviceId d) = none) :
    ∃ e ∈ history, e.Asks d a := by
  have h := run.reachable.sound
  have hinUse : m.ledger.devices.InUse d := Or.inl device
  rcases Links.reserve?_eq_none refused with ⟨k, hk⟩ | hpending
  · obtain rfl := h.linked_eq hk hinUse rfl
    exact (run.accepts_of_linked hk).1
  · rw [← List.count_pos_iff, h.paired.reserved] at hpending
    obtain ⟨p, hp, hmatch⟩ := List.countP_pos_iff.1 hpending
    obtain ⟨rfl, hid⟩ : p.2 = a ∧ m.ledger.deviceId p.1 = m.ledger.deviceId d := by
      simpa using hmatch
    -- the driver that is being asked is that of the device, since no other has its number
    have hinUse' := h.device_inUse (h.asked_refs (d := p.1) (a := p.2) hp).1
    have heq : p.1 = d := h.devices.number_inj p.1 d hinUse' hinUse (congrArg DeviceId.number hid)
    exact heq ▸ run.asks_of_asked hp

/-- A pair of records that are there has been asked about, or a walk has still to come to it. -/
theorem Run.asks_or_covered (run : Run config history m) (device : m.ledger.deviceActive d = true)
    (appl : m.ledger.applActive a = true) :
    (∃ e ∈ history, e.Asks d a) ∨ m.ledger.Covered d a := by
  induction run with
  | new =>
    have hd : d < 0 := (sound_new config).devices.inUse_lt d (Or.inl device)
    exact absurd hd (Nat.not_lt_zero d)
  | @move history m mv run admitted ih =>
    have hstep := run.reachable.step admitted
    have hearlier : (∃ e ∈ history, e.Asks d a) →
        ∃ e ∈ history ++ [⟨m, mv, (m.make mv).2⟩], e.Asks d a :=
      fun ⟨e, he, hasks⟩ => ⟨e, List.mem_append_left _ he, hasks⟩
    rcases run.reachable.sound.arrived_step hstep device appl with ⟨hdevice, happl⟩ | hcovered
    · -- both were there before, and the driver had been asked or a walk had still to come
      rcases ih hdevice happl with hasks | hcovered
      · exact Or.inl (hearlier hasks)
      · rcases run.reachable.sound.covered_step hstep device appl hcovered with
          hcovered' | hasks | hrefused
        · exact Or.inr hcovered'
        · exact Or.inl ⟨_, List.mem_append_right _ (List.mem_singleton_self _), hasks⟩
        · exact Or.inl (hearlier (run.asks_of_reserve?_eq_none hdevice hrefused))
    · exact Or.inr hcovered

/-! ## What stays linked -/

/-- Whether a device and an application have arrived, and are linked while they are active. -/
structure Bound (m : Machine) (d a : Nat) : Prop where
  device : d < m.ledger.deviceCount
  appl : a < m.ledger.applCount
  linked : m.ledger.deviceActive d = true → m.ledger.applActive a = true →
    (m.ledger.deviceId d, d) ∈ (m.ledger.links a).linked

/-- A pair that is bound stays so. -/
theorem bound_make (h : Reachable config m) {mv : Move} (admitted : m.admits mv = true)
    (bound : m.Bound d a) : (m.make mv).1.Bound d a := by
  have hstep := h.step admitted
  refine ⟨(hstep.devices.number_eq bound.device).1, (hstep.appls.number_eq bound.appl).1, ?_⟩
  intro hdevice happl
  -- what is active now was active before
  have hdevice' : m.ledger.deviceActive d = true := by
    by_contra hno
    have hretired := hstep.device_retired ⟨bound.device, Bool.eq_false_iff.2 hno⟩
    exact absurd (hretired.2.symm.trans hdevice) Bool.false_ne_true
  have happl' : m.ledger.applActive a = true := by
    by_contra hno
    have hretired := hstep.appl_retired bound.appl (Bool.eq_false_iff.2 hno)
    exact absurd (hretired.2.symm.trans happl) Bool.false_ne_true
  exact h.sound.linked_step hstep (bound.linked hdevice' happl') hdevice happl

/-- A pair that a driver accepts is bound. -/
theorem Event.Accepts.bound {e : Event} (accepts : e.Accepts d a) (h : Reachable config e.before)
    (admitted : e.before.admits e.move = true) : (e.before.make e.move).1.Bound d a := by
  obtain ⟨⟨ans, hmove, haccepted⟩, hcallback⟩ := accepts
  have hstep := h.step admitted
  rw [← ledger_callback?] at hcallback
  obtain ⟨f, hf, hcb⟩ := Option.bind_eq_some_iff.1 hcallback
  obtain ⟨hdevice, happl⟩ :=
    h.sound.asking_refs (List.mem_of_head? hf) (Frame.asking?_of_callback? hcb)
  refine ⟨(hstep.devices.number_eq (h.sound.device_lt hdevice)).1,
    (hstep.appls.number_eq (h.sound.appl_lt happl)).1, fun hactive _ => ?_⟩
  rw [hmove] at hstep hactive ⊢
  exact h.sound.linked_of_accepted hstep hcallback haccepted hactive

/-- A pair that has been accepted is linked while both records are there. -/
theorem Run.linked_of_accepts (run : Run config history m) {e : Event} (he : e ∈ history)
    (accepts : e.Accepts d a) (device : m.ledger.deviceActive d = true)
    (appl : m.ledger.applActive a = true) :
    (m.ledger.deviceId d, d) ∈ (m.ledger.links a).linked := by
  -- the pair is bound with the event that accepts it, and stays so
  obtain ⟨hreach, hadmitted, -⟩ := run.event he
  obtain ⟨h₁, h₂, hsplit⟩ := List.append_of_mem he
  have hsince := run.since (P := fun m => m.Bound d a) hsplit (accepts.bound hreach hadmitted)
    fun m mv h admitted hm => bound_make h admitted hm
  exact hsince.1.linked device appl

/-- **Every pair is settled.** When no call is in progress and no teardown waits, the driver of
every device in the table has been asked about every application in the table, the application is
bound to the device exactly when the driver has accepted it once, and it is bound to no others. -/
theorem pairs_settled (run : Run config history m) (quiet : m.frames = []) (ended : m.waiting = [])
    {a : Nat} (appl : a ∈ m.registry.applTable.values) :
    (∀ d ∈ m.registry.deviceTable.values, (∃ e ∈ history, e.Asks d a) ∧
      ((m.registry.appls.get a).links.isBound (m.registry.devices.get d).id = true ↔
        ∃ e ∈ history, e.Accepts d a)) ∧
    ∀ id, (m.registry.appls.get a).links.isBound id = true →
      ∃ d ∈ m.registry.deviceTable.values, (m.registry.devices.get d).id = id := by
  have h := run.reachable.sound
  have happl := (mem_applTable_values h a).1 appl
  have hbound := (h.paired.coherent a).bound_iff
  have hwalks : m.ledger.walks = [] := by
    show m.frames.filterMap Frame.walk? = []
    rw [quiet, List.filterMap_nil]
  constructor
  · intro d hd
    have hdevice := (mem_deviceTable_values h d).1 hd
    constructor
    · rcases run.asks_or_covered hdevice happl with hasks | ⟨w, c, hw, -⟩
      · exact hasks
      · -- no walk is in progress
        rw [hwalks] at hw
        cases hw
    · constructor
      · intro hisBound
        obtain ⟨k, hk⟩ := (hbound _).1 hisBound
        obtain rfl := h.linked_eq hk (Or.inl hdevice) rfl
        exact (run.accepts_of_linked hk).2
      · rintro ⟨e, he, haccepts⟩
        exact (hbound _).2 ⟨d, run.linked_of_accepts he haccepts hdevice happl⟩
  · intro id hisBound
    obtain ⟨k, hk⟩ := (hbound id).1 hisBound
    -- a device that is referred to is active when nothing is being removed
    rcases h.device_inUse (h.linked_refs hk) with hactive | hclosing
    · exact ⟨k, (mem_deviceTable_values h k).2 hactive, h.paired.keyed a _ hk⟩
    · refine absurd ?_ hclosing
      show (m.frames.countP _) + (m.waiting.countP _) = 0
      rw [quiet, ended]
      rfl

/-- A device is installed while an application is registered, and its driver agrees. -/
theorem pairs_settled_bound :
    let history := (Machine.new ⟨2, 2⟩).events bound
    let m := (Machine.new ⟨2, 2⟩).after bound
    m.frames = [] ∧ m.waiting = [] ∧ 0 ∈ m.registry.applTable.values ∧
      0 ∈ m.registry.deviceTable.values ∧ (∃ e ∈ history, e.Asks 0 0) ∧
      ∃ e ∈ history, e.Accepts 0 0 := by
  intro history m
  have hrun : Run ⟨2, 2⟩ history m := Run.of_moves ⟨2, 2⟩ bound (by decide +kernel)
  have hquiet : m.frames = [] := List.isEmpty_iff.1 (by decide +kernel)
  have hended : m.waiting = [] := by decide +kernel
  have happl : 0 ∈ m.registry.applTable.values := by decide +kernel
  have hdevice : 0 ∈ m.registry.deviceTable.values := by decide +kernel
  obtain ⟨hasks, haccepts⟩ := (pairs_settled hrun hquiet hended happl).1 0 hdevice
  exact ⟨hquiet, hended, happl, hdevice, hasks, haccepts.1 (by decide +kernel)⟩

end Machine

end Switchboard
