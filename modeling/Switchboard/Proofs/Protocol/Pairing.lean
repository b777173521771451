import Switchboard.Proofs.Ledger.Closing
import Switchboard.Proofs.Protocol.Rounds

/-! # What goes on between a device and an application

A `Pairing` counts what goes on between a device and an application: register, send and release
callbacks in progress, and links, those among them that a release has taken and still has to tell
of. While the device is not retired, a step changes it only as the signal says that its driver gets
with the step (`Ledger.Sound.pairing_step`), and such a signal comes only when the pairing allows it
(`Ledger.Sound.enabled_of_signal`). -/

namespace Switchboard

/-! ## Signals -/

/-- The signal that a callback starts, to the driver of a device. -/
def Callback.started? (d : Nat) : Callback → Option Signal
  | register d' a => if d' = d then some (.asked a) else none
  | send d' a _ => if d' = d then some (.handed a) else none
  | release d' a => if d' = d then some (.bid a) else none
  | news _ _ _ => none
  | wake _ _ => none

/-- The signal that a callback returns with an answer, to the driver of a device. -/
def Callback.returned? (d : Nat) (ans : Answer) : Callback → Option Signal
  | register d' a => if d' = d then some (.answered a ans.isAccepted) else none
  | send d' a _ => if d' = d then some (.sent a) else none
  | release d' a => if d' = d then some (.bidden a) else none
  | news _ _ _ => none
  | wake _ _ => none

namespace Callback

variable {d : Nat} {cb : Callback} {sg : Signal}

/-- A driver's callback that starts is a question, a message handed over or a release. -/
theorem started?_eq_some (h : cb.started? d = some sg) :
    (∃ a, cb = register d a ∧ sg = .asked a) ∨ (∃ a m, cb = send d a m ∧ sg = .handed a) ∨
      ∃ a, cb = release d a ∧ sg = .bid a := by
  cases cb with
  | register d' a =>
    obtain ⟨rfl, rfl⟩ : d' = d ∧ Signal.asked a = sg := by simpa [started?] using h
    exact Or.inl ⟨a, rfl, rfl⟩
  | send d' a m =>
    obtain ⟨rfl, rfl⟩ : d' = d ∧ Signal.handed a = sg := by simpa [started?] using h
    exact Or.inr (Or.inl ⟨a, m, rfl, rfl⟩)
  | release d' a =>
    obtain ⟨rfl, rfl⟩ : d' = d ∧ Signal.bid a = sg := by simpa [started?] using h
    exact Or.inr (Or.inr ⟨a, rfl, rfl⟩)
  | news | wake => cases h

/-- A driver's callback that returns answers the question, or ends the message or the release. -/
theorem returned?_eq_some {ans : Answer} (h : cb.returned? d ans = some sg) :
    (∃ a, cb = register d a ∧ sg = .answered a ans.isAccepted) ∨
      (∃ a m, cb = send d a m ∧ sg = .sent a) ∨ ∃ a, cb = release d a ∧ sg = .bidden a := by
  cases cb with
  | register d' a =>
    obtain ⟨rfl, rfl⟩ : d' = d ∧ Signal.answered a ans.isAccepted = sg := by
      simpa [returned?] using h
    exact Or.inl ⟨a, rfl, rfl⟩
  | send d' a m =>
    obtain ⟨rfl, rfl⟩ : d' = d ∧ Signal.sent a = sg := by simpa [returned?] using h
    exact Or.inr (Or.inl ⟨a, m, rfl, rfl⟩)
  | release d' a =>
    obtain ⟨rfl, rfl⟩ : d' = d ∧ Signal.bidden a = sg := by simpa [returned?] using h
    exact Or.inr (Or.inr ⟨a, rfl, rfl⟩)
  | news | wake => cases h

end Callback

/-- The signal that the driver of a device gets with a move made while calls are in progress. -/
def Move.signal? (d : Nat) (frames : List Frame) : Move → Outcome → Option Signal
  | .answer ans, _ => (frames.head?.bind Frame.callback?).bind (·.returned? d ans)
  | _, .asks cb => cb.started? d
  | _, _ => none

/-! ## Pairings -/

/-- The devices that a call has still to tell that an application is released. -/
def Frame.due (a : Nat) : Frame → List Nat
  | releasing a' _ _ rest => if a' = a then rest else []
  | _ => []

namespace Frame

variable (a a' d : Nat)

/-- A walk owes the device no release. -/
@[simp] theorem due_walk (w : Walk) (c : Cursor) (k : Option Nat) : (w.frame c k).due a = [] := by
  cases w <;> rfl

/-- An announcement owes the device no release. -/
@[simp] theorem due_announcing (news : News) (l : Option Listener) (ns : List Notice)
    (os : List Observer) : (announcing d news l ns os).due a = [] := rfl

/-- A release owes its application's devices still to be told. -/
@[simp] theorem due_releasing (o : Origin) (t : Option Nat) (rest : List Nat) :
    (releasing a' o t rest).due a = if a' = a then rest else [] := rfl

/-- A message under way owes the device no release. -/
@[simp] theorem due_sending (o : Origin) (m : Message) : (sending d a' o m).due a = [] := rfl

/-- A wake-up owes the device no release. -/
@[simp] theorem due_waking (h : SignalHandler) (w : Wake) : (waking a' h w).due a = [] := rfl

end Frame

/-- How many register and send callbacks are in progress between a device and an application, how
many links there are that the driver has not been told to give up, and how many release callbacks
are in progress. -/
@[ext]
structure Pairing where
  asked : Nat
  sent : Nat
  linked : Nat
  told : Nat

namespace Pairing

/-- The pairing of a device and an application in calls in progress and links. -/
def of (frames : List Frame) (keys : List Nat) (d a : Nat) : Pairing where
  asked := frames.countP fun f => f.asking? = some (d, a)
  sent := frames.countP fun f => f.sending? = some (d, a)
  linked := keys.count d + (frames.flatMap (·.due a)).count d
  told := frames.countP fun f => f.callback? = some (.release d a)

/-- Nothing goes on. -/
def none : Pairing := ⟨0, 0, 0, 0⟩

variable (fs : List Frame) (keys : List Nat) (d a : Nat)

/-- A link more to a device. -/
theorem of_perm_cons {keys' : List Nat} {k : Nat} (h : keys'.Perm (k :: keys)) :
    of fs keys' d a =
      { of fs keys d a with
        linked := (of fs keys d a).linked + if k = d then 1 else 0 } := by
  by_cases hk : k = d <;> simp [of, h.count_eq, hk, Nat.add_right_comm]

/-- A walk between two candidates counts for no pair. -/
@[simp] theorem of_walk (w : Walk) (c : Cursor) :
    of (w.frame c Option.none :: fs) keys d a = of fs keys d a := by
  simp [of]

/-- A walk that asks counts as one question for its pair. -/
@[simp] theorem of_asking (w : Walk) (c : Cursor) (k : Nat) :
    of (w.frame c (some k) :: fs) keys d a =
      { of fs keys d a with
        asked := (of fs keys d a).asked + if w.device k = d ∧ w.appl k = a then 1 else 0 } := by
  by_cases hd : w.device k = d <;> by_cases ha : w.appl k = a <;> simp [of, hd, ha]

/-- An announcement counts for no pair. -/
@[simp] theorem of_announcing (d' : Nat) (news : News) (l : Option Listener) (ns : List Notice)
    (os : List Observer) : of (.announcing d' news l ns os :: fs) keys d a = of fs keys d a := by
  cases l <;> simp [of, Frame.callback?]

/-- A wake counts for no pair. -/
@[simp] theorem of_waking (a' : Nat) (h : SignalHandler) (w : Wake) :
    of (.waking a' h w :: fs) keys d a = of fs keys d a := by
  simp [of, Frame.callback?]

/-- A message under way counts as one message of its pair. -/
@[simp] theorem of_sending (d' a' : Nat) (o : Origin) (m : Message) :
    of (.sending d' a' o m :: fs) keys d a =
      { of fs keys d a with sent := (of fs keys d a).sent + if d' = d ∧ a' = a then 1 else 0 } := by
  simp [of, Frame.callback?, List.countP_cons]

/-- A release counts, for its application, as often as the device is still to be told. -/
@[simp] theorem of_releasing (a' : Nat) (o : Origin) (t : Option Nat) (rest : List Nat) :
    of (.releasing a' o t rest :: fs) keys d a =
      { of fs keys d a with
        linked := (of fs keys d a).linked + if a' = a then rest.count d else 0
        told := (of fs keys d a).told + if t = some d ∧ a' = a then 1 else 0 } := by
  cases t <;> by_cases h : a' = a <;>
    simp [of, Frame.callback?, List.countP_cons, h, Nat.add_comm, Nat.add_left_comm]

end Pairing

/-- What a signal changes of the pairing of the device and the application that it is about. -/
def Signal.act (p : Pairing) : Signal → Pairing
  | asked _ => { p with asked := p.asked + 1 }
  | answered _ accepted =>
    { p with asked := p.asked - 1, linked := p.linked + accepted.toNat }
  | handed _ => { p with sent := p.sent + 1 }
  | sent _ => { p with sent := p.sent - 1 }
  | bid _ => { p with linked := p.linked - 1, told := p.told + 1 }
  | bidden _ => { p with told := p.told - 1 }

/-- What the signal of a step, if there is one, changes of the pairing with an application. -/
def Pairing.after (a : Nat) (p : Pairing) : Option Signal → Pairing
  | some s => if s.appl = a then s.act p else p
  | Option.none => p

/-- Whether a pairing allows a signal. -/
def Signal.Enabled (p : Pairing) : Signal → Prop
  | .asked _ => p.asked = 0 ∧ p.linked = 0 ∧ p.told = 0
  | .answered _ _ => p.asked ≠ 0
  | .handed _ => p.linked ≠ 0
  | .sent _ => p.sent ≠ 0
  | .bid _ => p.linked ≠ 0 ∧ p.sent = 0
  | .bidden _ => p.told ≠ 0

namespace Ledger

/-- The devices that have still to be told that an application is released. -/
def due (s : Ledger) (a : Nat) : List Nat := s.frames.flatMap (·.due a)

/-- What goes on between a device and an application. -/
def pairing (s : Ledger) (d a : Nat) : Pairing := .of s.frames (s.links a).keys d a

open Function (update update_self update_of_ne)

variable {s t : Ledger} {mv : Move} {o : Outcome}

/-- The pairings of an application are the same when its keys are. -/
theorem pairing_update {a a' : Nat} {l : Links} (same : l.keys = (s.links a').keys)
    (frames : List Frame) (d : Nat) :
    Pairing.of frames (update s.links a' l a).keys d a =
      .of frames (s.links a).keys d a := by
  by_cases e : a = a'
  · subst e
    rw [update_self, same]
  · rw [update_of_ne e]

/-- The pairings of an application stay the same when its links are taken to be unwound. -/
theorem pairing_unwind (s : Ledger) (a' : Nat) (origin : Origin) (d a : Nat) :
    (s.unwind a' origin).pairing d a = s.pairing d a := by
  simp only [pairing, unwind_links, unwind_frames, Pairing.of_releasing]
  by_cases e : a = a'
  · subst e
    simp [Pairing.of, Nat.add_comm]
  · simp [e, Ne.symm e]

/-- The pairings of a device stay the same when links under the number of another are dropped. -/
theorem pairing_unlinkAll {s : Ledger} {id : DeviceId} {d a : Nat}
    (other : ∀ e ∈ (s.links a).linked, e.2 = d → e.1 ≠ id) (frames : List Frame) :
    Pairing.of frames ((s.unlinkAll id).links a).keys d a = .of frames (s.links a).keys d a := by
  have hcount : ((s.unlinkAll id).links a).keys.count d = (s.links a).keys.count d := by
    rw [Links.keys, linked_unlinkAll]
    split
    · simp only [Links.keys, List.count, List.countP_map, List.countP_filter]
      refine List.countP_congr fun e he => ?_
      simpa using fun heq => other e he heq
    · rfl
  rw [Pairing.of, hcount]
  rfl

/-- While a device is not retired, its pairings change as its driver is told. -/
theorem Sound.pairing_step (h : s.Sound) (step : Step s mv o t) {d : Nat} (present : ¬s.Retired d)
    (a : Nat) : t.pairing d a = (s.pairing d a).after a (mv.signal? d s.frames o) := by
  have hne : ∀ d', s.deviceActive d' = false → s.deviceRefs d' ≠ 0 → d' ≠ d := by
    rintro d' hretired hrefs rfl
    exact present ⟨h.device_lt hrefs, hretired⟩
  -- what a retired device is not told of does not concern this one
  cases step with
  | still => rfl
  | wake => simp [pairing, Move.signal?, Callback.started?, Pairing.after]
  | woken frames =>
    simp [pairing, Move.signal?, Callback.returned?, Pairing.after, frames, Frame.callback?]
  | install | remove | releaseLater => simp [pairing, Move.signal?, Pairing.after]
  -- the walk that begins asks nobody yet, and the application arrives without links
  | register =>
    simp only [pairing, addAppl_links, withFrames_links, withFrames_frames, Pairing.of_walk]
    rw [pairing_update (by rw [h.blank.links _ le_rfl]; rfl)]
    rfl
  | release => exact pairing_unwind _ _ _ d a
  | @send _ _ d' a' =>
    by_cases hd : d' = d <;> by_cases ha : a' = a <;>
      simp [pairing, Move.signal?, Callback.started?, Pairing.after, Signal.act, Signal.appl, hd, ha]
  -- the driver is asked from now on, and a reservation is no link
  | @ask w c c' n k l fs frames _ _ _ reserved =>
    obtain ⟨-, -, rfl⟩ := Links.reserve?_eq_some reserved
    simp only [pairing, withFrames_links, withFrames_frames, setLinks_links, Pairing.of_asking]
    rw [pairing_update (by rfl), frames, Pairing.of_walk]
    by_cases hd : w.device k = d <;> by_cases ha : w.appl k = a <;>
      simp [Move.signal?, Callback.started?, Pairing.after, Signal.act, Signal.appl, hd, ha]
  | skip frames | installed frames | registered frames | announced frames | released frames =>
    simp [pairing, Move.signal?, Pairing.after, frames]
  -- subscribers and observers are told, no driver
  | @tell d' news telling _ _ _ _ _ _ frames _ _ goesOn outcome =>
    rcases goesOn with rfl | ⟨ans, rfl⟩
    · rcases outcome with rfl | ⟨l, rfl⟩ <;>
        simp [pairing, Move.signal?, Callback.started?, Pairing.after, frames]
    · cases telling <;>
        simp [pairing, Move.signal?, Callback.returned?, Pairing.after, Frame.callback?, frames]
  -- the question is over, and what the driver accepted is a new link of the pair
  | @accept w c k fs frames ans accepted active =>
    have hfresh := h.asking_not_linked (frames ▸ List.mem_cons_self ..) (Frame.asking?_walk w c k)
    have hkeys := Links.perm_keys_confirm (w.device k) hfresh
    simp only [pairing, withFrames_links, withFrames_frames, leaveAppl_links, setLinks_links,
      Pairing.of_walk, frames, Pairing.of_asking]
    by_cases ha : w.appl k = a
    · subst ha
      rw [update_self, Pairing.of_perm_cons _ _ _ _ hkeys]
      by_cases hd : w.device k = d <;>
        simp [Move.signal?, Callback.returned?, Pairing.after, Signal.act, Signal.appl, accepted, hd]
    · rw [update_of_ne (Ne.symm ha)]
      by_cases hd : w.device k = d <;>
        simp [Move.signal?, Callback.returned?, Pairing.after, Signal.appl, ha, hd]
  | @decline w c k fs frames ans declined =>
    -- only a retired device has an application refused that its driver has accepted
    have hrefs := (h.asking_refs (frames ▸ List.mem_cons_self ..) (Frame.asking?_walk w c k)).1
    have hrefused : w.device k = d → ans.isAccepted = false := by
      rintro hd
      by_contra haccepted
      exact hne _ (declined (Bool.eq_true_of_not_eq_false haccepted)) hrefs hd
    simp only [pairing, withFrames_links, withFrames_frames, leaveAppl_links, leaveDevice_links,
      setLinks_links, Pairing.of_walk]
    rw [pairing_update (by rfl), frames, Pairing.of_asking]
    by_cases hd : w.device k = d <;> by_cases ha : w.appl k = a <;>
      simp [Move.signal?, Callback.returned?, Pairing.after, Signal.act, Signal.appl, hd, ha,
        hrefused]
  | @removed d' fs frames | @removeLater d' fs frames =>
    -- the number under which links are dropped is that of a retired device
    obtain ⟨hretired, hinUse⟩ := h.retired_of_removing frames
    have hother : ∀ e ∈ (s.links a).linked, e.2 = d → e.1 ≠ s.deviceId d' := by
      rintro e he rfl hid
      have heq := h.linked_eq he hinUse hid.symm
      exact hne _ (heq ▸ hretired) (h.linked_refs he) rfl
    simp only [pairing, Move.signal?, Pairing.after, withFrames_frames, frames,
      Pairing.of_announcing]
    exact pairing_unlinkAll hother fs
  -- a retired device is not told, so that it is another than the one looked at
  | @passOver a' origin d' rest fs frames retired =>
    have hrefs := h.taken_refs (d := d') (frames ▸ List.mem_cons_self ..) (by simp)
    simp [pairing, Move.signal?, Pairing.after, frames, hne d' retired hrefs]
  | @bid a' origin d' rest fs frames =>
    by_cases hd : d' = d <;> by_cases ha : a' = a <;>
      simp [pairing, Move.signal?, Callback.started?, Pairing.after, Signal.act, Signal.appl, frames,
        hd, ha]
  | @bidden a' origin d' rest fs frames =>
    by_cases hd : d' = d <;> by_cases ha : a' = a <;>
      simp [pairing, Move.signal?, Callback.returned?, Frame.callback?, Pairing.after, Signal.act,
        Signal.appl, frames, hd, ha]
  | @sent d' a' origin msg fs frames =>
    by_cases hd : d' = d <;> by_cases ha : a' = a <;>
      simp [pairing, Move.signal?, Callback.returned?, Frame.callback?, Pairing.after, Signal.act,
        Signal.appl, frames, hd, ha]
  | freed => simp [pairing, Move.signal?, Pairing.after]
  | unwound => exact pairing_unwind _ _ _ d a

/-! ## When signals come -/

/-- A device is due to be told of a release by a call that unwinds the application. -/
theorem unwinding_of_mem_due {a d : Nat} (hd : d ∈ s.due a) :
    ∃ f ∈ s.frames, f.unwinding? = some a := by
  obtain ⟨f, hf, hdue⟩ := List.mem_flatMap.1 hd
  refine ⟨f, hf, ?_⟩
  cases f with
  | releasing a' o t rest =>
    rw [Frame.due_releasing] at hdue
    split at hdue
    · next e => rw [Frame.unwinding?_releasing, e]
    · cases hdue
  | _ => cases hdue

/-- An application that something goes on with has its number still. -/
theorem Sound.inUse_of_pairing (h : s.Sound) {d a : Nat} (hp : s.pairing d a ≠ .none) :
    s.appls.InUse a := by
  by_contra hno
  apply hp
  ext
  · refine List.countP_eq_zero.2 fun f hf hask => hno ?_
    exact h.appl_inUse (h.asking_refs hf (of_decide_eq_true hask)).2
  · refine List.countP_eq_zero.2 fun f hf hsend => hno ?_
    exact h.appl_inUse (h.sending_refs hf (of_decide_eq_true hsend)).2
  · show (s.links a).keys.count d + (s.due a).count d = 0
    have hkeys : d ∉ (s.links a).keys := fun hd => hno (h.appl_inUse_of_linked (h.mem_keys.1 hd))
    have hdue : d ∉ s.due a := fun hd => by
      obtain ⟨f, hf, hunwind⟩ := unwinding_of_mem_due hd
      exact hno (h.of_unwinding hf hunwind).1
    rw [List.count_eq_zero.2 hkeys, List.count_eq_zero.2 hdue]
  · refine List.countP_eq_zero.2 fun f hf htell => hno ?_
    exact (h.of_unwinding hf (Frame.unwinding?_of_callback? (of_decide_eq_true htell))).1

/-- A callback that returns is in progress. -/
theorem enabled_of_returned {f : Frame} (hf : f ∈ s.frames) {cb : Callback}
    (hcb : f.callback? = some cb) {d : Nat} {ans : Answer} {sg : Signal}
    (signal : cb.returned? d ans = some sg) : sg.Enabled (s.pairing d sg.appl) := by
  rcases Callback.returned?_eq_some signal with ⟨a, rfl, rfl⟩ | ⟨a, m, rfl, rfl⟩ | ⟨a, rfl, rfl⟩
  · refine Nat.pos_iff_ne_zero.1 (List.countP_pos_iff.2 ⟨f, hf, ?_⟩)
    exact decide_eq_true (Frame.asking?_of_callback? hcb)
  · refine Nat.pos_iff_ne_zero.1 (List.countP_pos_iff.2 ⟨f, hf, ?_⟩)
    exact decide_eq_true (Frame.sending?_of_callback? hcb)
  · exact Nat.pos_iff_ne_zero.1 (List.countP_pos_iff.2 ⟨f, hf, decide_eq_true hcb⟩)

/-- Nothing goes on with an application that is active and neither linked nor reserved. -/
theorem Sound.enabled_asked (h : s.Sound) {d a : Nat} (active : s.applActive a = true) {l : Links}
    (reserved : (s.links a).reserve? (s.deviceId d) = some l) :
    (Signal.asked a).Enabled (s.pairing d a) := by
  obtain ⟨hunlinked, hpending, -⟩ := Links.reserve?_eq_some reserved
  have hunwind : ∀ f ∈ s.frames, f.unwinding? ≠ some a := fun f hf hunwind => by
    rw [(h.of_unwinding hf hunwind).2.1] at active
    cases active
  refine ⟨?_, ?_, ?_⟩
  · refine List.countP_eq_zero.2 fun f hf hask => hpending ?_
    exact h.asking_pending hf (of_decide_eq_true hask)
  · show (s.links a).keys.count d + (s.due a).count d = 0
    have hkeys : d ∉ (s.links a).keys := fun hd => hunlinked _ (h.mem_keys.1 hd) rfl
    have hdue : d ∉ s.due a := fun hd => by
      obtain ⟨f, hf, hf'⟩ := unwinding_of_mem_due hd
      exact hunwind f hf hf'
    rw [List.count_eq_zero.2 hkeys, List.count_eq_zero.2 hdue]
  · refine List.countP_eq_zero.2 fun f hf htell => hunwind f hf ?_
    exact Frame.unwinding?_of_callback? (of_decide_eq_true htell)

/-- A callback starts only when what goes on allows it. -/
theorem Sound.enabled_of_started (h : s.Sound) {cb : Callback} (step : Step s mv (.asks cb) t)
    {d : Nat} {sg : Signal} (signal : cb.started? d = some sg) :
    sg.Enabled (s.pairing d sg.appl) := by
  rcases Callback.started?_eq_some signal with ⟨a, rfl, rfl⟩ | ⟨a, m, rfl, rfl⟩ | ⟨a, rfl, rfl⟩
  -- the driver is asked about a pair that is neither linked nor reserved
  · cases step with
    | ask _ _ _ applJoins reserved => exact h.enabled_asked applJoins.2.1 reserved
    | tell _ _ outcome => rcases outcome with e | ⟨l, e⟩ <;> cases e
  -- a message goes out over a link
  · cases step with
    | @send id target _ _ _ _ device _ bound =>
      obtain ⟨k, hk⟩ := ((h.paired.coherent a).bound_iff target).1 bound
      obtain ⟨hactive, hnumber⟩ := (h.devices.listed _ _).1 device
      have hd : k = d := h.linked_eq hk (Or.inl hactive) (Links.number_inj hnumber)
      have hmem : d ∈ (s.links a).keys := hd ▸ List.mem_map_of_mem hk
      have hpos := List.count_pos_iff.2 hmem
      exact Nat.ne_of_gt (Nat.add_pos_left hpos _)
    | tell _ _ outcome => rcases outcome with e | ⟨l, e⟩ <;> cases e
  -- a release is told by a call that has taken the link
  · cases step with
    | @bid _ origin _ rest fs frames active =>
      constructor
      · show (s.links a).keys.count d + (s.due a).count d ≠ 0
        simp [due, frames]
      · have hgone := h.applGone_of_unwinding (a := a) (frames ▸ List.mem_cons_self ..) rfl
        refine List.countP_eq_zero.2 fun f hf hsend => ?_
        exact (h.sending_refs hf (of_decide_eq_true hsend)).2 hgone.refs
    | tell _ _ outcome => rcases outcome with e | ⟨l, e⟩ <;> cases e

/-- The driver of a device gets a signal only when what goes on allows it. -/
theorem Sound.enabled_of_signal (h : s.Sound) (step : Step s mv o t) {d : Nat} {sg : Signal}
    (signal : mv.signal? d s.frames o = some sg) : sg.Enabled (s.pairing d sg.appl) := by
  cases mv with
  | answer ans =>
    obtain ⟨cb, hcb, hreturned⟩ := Option.bind_eq_some_iff.1 signal
    obtain ⟨f, hf, hcall⟩ := Option.bind_eq_some_iff.1 hcb
    exact enabled_of_returned (List.mem_of_head? hf) hcall hreturned
  | call | resume | advance =>
    cases o with
    | asks cb => exact h.enabled_of_started step signal
    | _ => cases signal

end Ledger

end Switchboard
