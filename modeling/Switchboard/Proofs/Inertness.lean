import Switchboard.Proofs.Calls
import Switchboard.Proofs.Denials
import Switchboard.Proofs.Latch
import Switchboard.Proofs.Removal

/-! # Released applications are inert

From the moment an application is retired, no driver is offered it or handed a message of it, and
its number leads nowhere until it is given out again. Once its release has ended, whatever is called
through its record or around it, nothing refers to it, nothing waits for it, nothing is bound to it,
and nobody is called back about it. -/

namespace Switchboard

/-! ## Callbacks about an application -/

namespace Callback

/-- The application that a callback is about. -/
def appl? : Callback → Option Nat
  | register _ a | release _ a | send _ a _ | wake a _ => some a
  | news _ _ _ => none

/-- The application that a driver is offered or handed a message of. -/
def engaged? : Callback → Option Nat
  | register _ a | send _ a _ => some a
  | release _ _ | news _ _ _ | wake _ _ => none

end Callback

namespace Ledger

variable {s t : Ledger} {mv : Move} {cb : Callback} {a : Nat} {origin : Origin}

/-- An application whose release goes on has been retired. -/
theorem Sound.retired_of_releasing (h : s.Sound) (releasing : s.Releasing a origin) :
    a < s.applCount ∧ s.applActive a = false := by
  have hclosing : s.appls.closing a ≠ 0 := by
    rcases releasing with ⟨f, hf, hrelease⟩ | hwaits
    · have hunwinding : f.unwinding? = some a := by
        cases f <;> cases hrelease
        rfl
      rcases h.of_unwinding hf hunwinding with ⟨hactive | hclosing, hretired, -⟩
      · exact absurd (hretired.symm.trans hactive) Bool.false_ne_true
      · exact hclosing
    · obtain ⟨i, hi⟩ := List.mem_iff_getElem?.1 hwaits
      exact closing_of_waiting hi
  exact ⟨h.appls.inUse_lt a (Or.inr hclosing), h.appls.apart a hclosing⟩

/-- Drivers are offered active applications only, and are handed messages of no others. -/
theorem Step.applActive_of_asks (step : Step s mv (.asks cb) t) (engaged : cb.engaged? = some a) :
    s.applActive a = true := by
  cases step with
  | wake | bid => cases engaged
  | send _ applJoins =>
    cases engaged
    exact applJoins.2.1
  | ask _ _ _ applJoins =>
    cases engaged
    exact applJoins.2.1
  | tell _ _ outcome =>
    rcases outcome with h | ⟨l, h⟩
    · cases h
    · cases h
      cases engaged

/-- A driver is called back about an application that has its number still. -/
theorem Step.inUse_of_asks (step : Step s mv (.asks cb) t) (about : cb.appl? = some a)
    (driver : ∀ h, cb ≠ .wake a h) : s.appls.InUse a := by
  cases cb with
  | register d a' | send d a' msg => exact Or.inl (step.applActive_of_asks about)
  | news => cases about
  | wake a' h =>
    cases about
    exact absurd rfl (driver h)
  | release d a' =>
    cases about
    cases step with
    | tell _ _ outcome => rcases outcome with h | ⟨l, h⟩ <;> cases h
    | bid frames =>
      right
      show s.releases a ≠ 0
      simp [releases, frames]

end Ledger

namespace Machine

variable {config : Config} {history h₁ h₂ : List Event} {m : Machine} {e : Event} {c : Call}
  {mv : Move} {a : Nat} {id : ApplId} {origin : Origin}

/-! ## Released numbers -/

/-- A move that retires an application: its release is called for while it is registered. -/
def Event.RetiresAppl (e : Event) (id : ApplId) (a : Nat) : Prop :=
  ∃ c origin, e.move = .call c ∧ e.before.core? c = some (origin, .release id) ∧
    e.before.registry.appl? id = some a

/-- An application that has arrived since there were `n` of them has got a number. -/
def Reused (m : Machine) (n : Nat) (id : ApplId) : Prop :=
  ∃ b, n ≤ b ∧ b < m.registry.appls.size ∧ (m.registry.appls.get b).id = id

/-- Nothing is registered under a number: every call about it is refused as such, at once. -/
structure Vacant (m : Machine) (id : ApplId) : Prop where
  peek : m.registry.peek id = .error .illegalApplication
  receive : ∀ c origin, m.core? c = some (origin, .receive id) →
    m.make (.call c) = (m, .ends (.ofReceived origin (.error .illegalApplication)))
  send : ∀ c origin msg, m.core? c = some (origin, .send id msg) →
    m.make (.call c) = (m, .ends (.ofSent origin (.error .illegalApplication)))
  setHandler : ∀ c origin h, m.core? c = some (origin, .setHandler id h) →
    m.make (.call c) = (m, .ends (.ofHandlerSet origin (.error .illegalApplication)))
  release : ∀ c origin, m.core? c = some (origin, .release id) →
    (m.make (.call c)).2 = .ends (.ofReleased origin (.error .illegalApplication))

/-- A call that comes down to the setting of a handler sets it. -/
theorem call_of_core_setHandler {h : Option SignalHandler}
    (core : m.core? c = some (origin, .setHandler id h)) : m.call c = m.setHandler origin id h := by
  cases c with
  | setHandler id' h' => cases core; rfl
  | facade k fc =>
    obtain ⟨f, q, id', hf, hq, happl, rfl, hcore⟩ := core?_facade core
    cases fc <;> cases hq <;> cases hcore
    simp only [call, hf, facadeCall, happl]
  | _ => cases core

/-- A release begins without a callback. -/
theorem release_ne_asks (m : Machine) (origin : Origin) (id : ApplId) (cb : Callback) :
    (m.release origin id).2 ≠ .asks cb := by
  unfold release
  split
  · exact Outcome.noConfusion
  · unfold closeAppl
    dsimp only
    split <;> exact Outcome.noConfusion

/-- A number under which nothing is registered is vacant. -/
theorem vacant_of_none (unused : m.registry.appl? id = none) : m.Vacant id where
  peek := by simp [Registry.peek, Registry.reach, unused]
  receive c origin core := by
    show m.call c = _
    rw [call_of_core_receive core]
    exact m.receive_of_error _ (by simp [Registry.receive, Registry.reach, unused])
  send c origin msg core := by
    show m.call c = _
    rw [call_of_core_send core]
    simp [Machine.send, Registry.route, unused, finish]
  setHandler c origin h core := by
    show m.call c = _
    rw [call_of_core_setHandler core]
    exact m.setHandler_of_error _ (by simp [Registry.setHandler, Registry.reach, unused])
  release c origin core := by
    obtain ⟨r, hr, hcall⟩ := call_of_core_release core
    show (m.call c).2 = _
    have hnone : r.appl? id = none := by rw [Registry.appl?, hr, ← Registry.appl?, unused]
    rw [hcall, release_of_none _ _ (Registry.retireAppl?_eq_none_iff.2 hnone)]

/-- None of the first `n` applications is registered under a number. -/
def Abandoned (m : Machine) (n : Nat) (id : ApplId) : Prop :=
  n ≤ m.registry.appls.size ∧ ∀ b < n, m.registry.appl? id ≠ some b

/-- What has not been registered under a number is not registered under it later, unless it arrives
then. -/
theorem appl?_before (h : Reachable config m) (admitted : m.admits mv = true)
    (arrived : a < m.registry.appls.size) (after : (m.make mv).1.registry.appl? id = some a) :
    m.registry.appl? id = some a := by
  obtain ⟨serial, hentry⟩ := Roster.get?_eq_some_iff.1 after
  exact Roster.get?_eq_some_iff.2 ⟨serial, (h.step admitted).appls.entry_before arrived hentry⟩

/-- What is not registered under a number stays unregistered under it. -/
theorem abandoned_make (h : Reachable config m) (admitted : m.admits mv = true) {n : Nat}
    (abandoned : m.Abandoned n id) : (m.make mv).1.Abandoned n id := by
  obtain ⟨hn, hid⟩ := abandoned
  refine ⟨hn.trans (h.step admitted).appls.size_le, fun b hb hafter => ?_⟩
  exact hid b hb (appl?_before h admitted (Nat.lt_of_lt_of_le hb hn) hafter)

/-- An abandoned number is vacant until it is given out again. -/
theorem Abandoned.vacant {n : Nat} (abandoned : m.Abandoned n id) (h : Reachable config m)
    (free : ¬m.Reused n id) : m.Vacant id := by
  refine vacant_of_none (Option.eq_none_iff_forall_ne_some.2 fun b hb => free ?_)
  obtain ⟨hactive, hnumber⟩ := (h.sound.appls.listed id.number b).1 hb
  refine ⟨b, ?_, h.sound.appls.inUse_lt b (Or.inl hactive), applId_inj hnumber⟩
  exact Nat.not_lt.1 fun hlt => abandoned.2 b hlt hb

/-! ## Retired applications -/

/-- The call for the release of a registered application retires it, and leaves its number to no
application that has arrived. -/
theorem Event.RetiresAppl.retired (retires : e.RetiresAppl id a) (h : Reachable config e.before)
    (admitted : e.before.admits e.move = true) :
    (a < (e.before.make e.move).1.ledger.applCount ∧
      (e.before.make e.move).1.ledger.applActive a = false) ∧
    (e.before.make e.move).1.Abandoned e.before.registry.appls.size id := by
  obtain ⟨c, origin, hmove, hcore, happl⟩ := retires
  have hafter := (h.make admitted).sound
  have hretired : a < (e.before.make e.move).1.ledger.applCount ∧
      (e.before.make e.move).1.ledger.applActive a = false := by
    have hreleasing : (e.before.make e.move).1.ledger.Releasing a origin := by
      rw [hmove]
      exact releasing_call hcore happl
    exact hafter.retired_of_releasing hreleasing
  refine ⟨hretired, (h.step admitted).appls.size_le, fun b hb hid => ?_⟩
  -- the only application under the number was the one that is retired
  obtain rfl : b = a := Option.some.inj ((appl?_before h admitted hb hid).symm.trans happl)
  have hactive := ((hafter.appls.listed id.number b).1 hid).1
  exact absurd (hretired.2.symm.trans hactive) Bool.false_ne_true

/-- The call for a release calls nobody back before it has retired the application. -/
theorem Event.RetiresAppl.ne_asks (retires : e.RetiresAppl id a) (cb : Callback) :
    (e.before.make e.move).2 ≠ .asks cb := by
  obtain ⟨c, origin, hmove, hcore, -⟩ := retires
  obtain ⟨r, -, hcall⟩ := call_of_core_release hcore
  rw [hmove]
  show (e.before.call c).2 ≠ _
  rw [hcall]
  exact release_ne_asks _ origin id cb

/-! ## Released applications -/

/-- Nothing is left of an application but what it has counted and latched: nothing refers to it or
waits for it, nothing is bound to it or about to be, and it has no handler. -/
structure Inert (m : Machine) (a : Nat) : Prop where
  retiring : (m.registry.appls.get a).isRetiring = true
  refs : (m.registry.appls.get a).lifecycle.refs = 0
  queue : (m.registry.appls.get a).queue = []
  handler : (m.registry.appls.get a).handler = none
  linked : (m.registry.appls.get a).links.keys = []
  pending : (m.registry.appls.get a).links.pending = []
  bound : ∀ n, (m.registry.appls.get a).links.bound.contains n = false

/-- An application whose release has ended: its number is taken by it no more, and its mail has been
dropped. -/
structure IsReleased (m : Machine) (a : Nat) : Prop where
  arrived : a < m.registry.appls.size
  unused : ¬m.ledger.appls.InUse a
  queue : (m.mail a).queue = []
  handler : (m.mail a).handler = none

/-- Nobody refers to what has no number. -/
theorem IsReleased.inert (released : m.IsReleased a) (h : m.ledger.Sound) : m.Inert a := by
  obtain ⟨hactive, hclosing⟩ := not_or.1 released.unused
  obtain ⟨-, hwaits⟩ := Nat.add_eq_zero_iff.1 (not_not.1 hclosing)
  obtain ⟨hrefs, hlinked⟩ := h.closed.appls a (Bool.eq_false_iff.2 hactive) hwaits
  constructor
  case retiring => exact Bool.not_eq_eq_eq_not.1 (Bool.eq_false_iff.2 hactive)
  case refs => exact hrefs
  case queue => exact released.queue
  case handler => exact released.handler
  case linked => exact congrArg (List.map Prod.snd) hlinked
  case pending =>
    refine List.eq_nil_iff_forall_not_mem.2 fun target hpending => ?_
    -- a number is reserved while a driver is asked, and the call that asks refers to both sides
    have hasked : 0 < m.ledger.askings a target := by
      rw [← h.paired.reserved]
      exact List.count_pos_iff.2 hpending
    obtain ⟨⟨d, a'⟩, hmem, hp⟩ := List.countP_pos_iff.1 hasked
    obtain ⟨rfl, -⟩ := of_decide_eq_true hp
    exact (h.asked_refs hmem).2 hrefs
  case bound =>
    intro n
    by_cases hn : n = 0
    · rw [hn]
      exact NumberSet.contains_zero _
    · refine Bool.eq_false_iff.2 fun hbound => ?_
      obtain ⟨key, hkey⟩ := ((h.paired.coherent a).bound_iff ⟨n, hn⟩).1 hbound
      rw [hlinked] at hkey
      cases hkey

/-- A release that ends leaves nothing of the application. -/
theorem Event.EndsRelease.isReleased (ends : e.EndsRelease a origin)
    (h : Reachable config e.before) (admitted : e.before.admits e.move = true) :
    (e.before.make e.move).1.IsReleased a := by
  obtain ⟨hmove, fs, hframes⟩ := ends
  have hf : Frame.releasing a origin none [] ∈ e.before.frames := by
    rw [hframes]
    exact List.mem_cons_self ..
  obtain ⟨hinUse, -, -⟩ := h.sound.of_unwinding hf rfl
  have harrived : a < e.before.ledger.applCount := h.sound.appls.inUse_lt a hinUse
  have hunused := (h.step admitted).not_inUse_of_released h.sound hmove hframes
  have hposts : e.before.postingFor? e.move a = some .purge :=
    postingFor?_eq_some_iff.2 (posts_purge_iff.2 ⟨hmove, origin, fs, hframes⟩)
  have hmail : (e.before.make e.move).1.mail a = (e.before.mail a).after .purge := by
    rw [mail_make_apply h, hposts]
    rfl
  exact ⟨Nat.lt_of_lt_of_le harrived (h.step admitted).appls.size_le, hunused,
    congrArg Mail.queue hmail, congrArg Mail.handler hmail⟩

/-- What is posted to a retired application puts nothing in an empty queue, and sets no handler. -/
theorem Posts.stays_empty {p : Posting} (posts : m.Posts mv a p) (h : m.ledger.Sound)
    (retired : m.ledger.applActive a = false) (queue : (m.mail a).queue = [])
    (handler : (m.mail a).handler = none) :
    ((m.mail a).after p).queue = [] ∧ ((m.mail a).after p).handler = none := by
  cases posts with
  | append _ active =>
    have hactive : m.ledger.applActive a = true := congrArg not active
    exact absurd (retired.symm.trans hactive) Bool.false_ne_true
  | equip _ set appl =>
    have hactive : m.ledger.applActive a = true := ((h.appls.listed _ a).1 appl).1
    exact absurd (retired.symm.trans hactive) Bool.false_ne_true
  | fetch | latch | count | purge => simp [Mail.after, queue, handler]

/-- What has been released stays so: nothing is put in the queue of a retired application, and no
handler is set for it. -/
theorem isReleased_make (h : Reachable config m) (admitted : m.admits mv = true)
    (released : m.IsReleased a) : (m.make mv).1.IsReleased a := by
  have hretired : m.ledger.applActive a = false := Bool.eq_false_iff.2 (not_or.1 released.unused).1
  have hmail : ((m.make mv).1.mail a).queue = [] ∧ ((m.make mv).1.mail a).handler = none := by
    rw [mail_make_apply h]
    cases hp : m.postingFor? mv a with
    | none => exact ⟨released.queue, released.handler⟩
    | some p =>
      exact (postingFor?_eq_some_iff.1 hp).stays_empty h.sound hretired released.queue
        released.handler
  have hsize := (h.step admitted).appls.size_le
  exact ⟨Nat.lt_of_lt_of_le released.arrived hsize,
    h.sound.appls.not_inUse_change (h.step admitted).appls released.arrived released.unused,
    hmail.1, hmail.2⟩

/-- A wake-up calls the handler that the application has. -/
theorem handler_of_wake {a' : Nat} {w : Wake} {h : SignalHandler}
    (asks : (m.wake a' w).2 = .asks (.wake a h)) :
    ((m.wake a' w).1.registry.appls.get a).handler = some h := by
  unfold wake at asks ⊢
  split at asks
  · rename_i h' hhandler
    cases asks
    exact hhandler
  · rw [woken_outcome] at asks
    cases asks

/-- An application is woken by the handler that it has. -/
theorem Reachable.handler_of_asks (hr : Reachable config m) (admitted : m.admits mv = true)
    {h : SignalHandler} (asks : (m.make mv).2 = .asks (.wake a h)) :
    ((m.make mv).1.registry.appls.get a).handler = some h := by
  have hstep := hr.step admitted
  rw [asks] at hstep
  generalize hafter : (m.make mv).1.ledger = t at hstep
  cases hstep with
  | tell _ _ outcome => rcases outcome with h | ⟨l, h⟩ <;> cases h
  -- the call that wakes the application has looked up its handler at that moment
  | wake c _ _ w =>
    have hframes : (m.call c).1.frames = .waking a h w :: m.frames := congrArg Ledger.frames hafter
    have hbegins := (m.leaves_call c).of_frames hframes
    cases hbegins with
    | wake wakes =>
      show ((m.call c).1.registry.appls.get a).handler = some h
      have hasks : (m.call c).2 = .asks (.wake a h) := asks
      cases c with
      | enqueue a' msg | deliver d a' msg =>
        simp only [call] at hasks ⊢
        split at hasks
        · cases hasks
        · exact handler_of_wake hasks
      | signal a' => exact handler_of_wake hasks
      | signalError a' fault => exact handler_of_wake hasks
      | _ => cases wakes

/-- Nobody is called back about an application that has been released. -/
theorem IsReleased.appl?_ne_of_asks (released : e.before.IsReleased a)
    (h : Reachable config e.before) (admitted : e.before.admits e.move = true)
    (outcome : e.outcome = (e.before.make e.move).2) {cb : Callback} (asks : e.outcome = .asks cb) :
    cb.appl? ≠ some a := by
  intro happl
  have hstep := h.step admitted
  rw [← outcome, asks] at hstep
  refine released.unused (hstep.inUse_of_asks happl fun handler hcb => ?_)
  -- a handler that is called is there still, and there is none
  subst hcb
  have hhandler := h.handler_of_asks admitted (outcome.symm.trans asks)
  have hnone := (isReleased_make h admitted released).handler
  cases hhandler.symm.trans hnone

/-! ## The rest of the run -/

/-- **A released application is inert.** Once the call for its release has retired an application,
no driver is offered it or handed a message of it, and every call about its number is refused until
an application that has arrived since gets the number. Its release is in progress or has ended. Once
it has ended, nothing refers to the application, nothing waits for it or is bound to it, and it has
no handler, then and for the rest of the run, and nobody is called back about it any more. -/
theorem released_inert (run : Run config history m) (split : history = h₁ ++ e :: h₂)
    (retires : e.RetiresAppl id a) :
    (∀ e' ∈ e :: h₂, ∀ cb, e'.outcome = .asks cb → cb.engaged? ≠ some a) ∧
    ((¬m.Reused e.before.registry.appls.size id → m.Vacant id) ∧
      ∀ e' ∈ h₂, ¬e'.before.Reused e.before.registry.appls.size id → e'.before.Vacant id) ∧
    (∃ c origin, e.move = .call c ∧ e.before.core? c = some (origin, .release id) ∧
      e.Releases h₁ h₂ m a origin) ∧
    ∀ h₃ e' h₄ origin, h₂ = h₃ ++ e' :: h₄ → e'.EndsRelease a origin →
      m.Inert a ∧ ∀ e'' ∈ h₄,
        e''.before.Inert a ∧ ∀ cb, e''.outcome = .asks cb → cb.appl? ≠ some a := by
  obtain ⟨hreach, hadmitted, houtcome⟩ := run.event (e := e) (by simp [split])
  obtain ⟨hretired, habandoned⟩ := retires.retired hreach hadmitted
  obtain ⟨hnow, hbefore⟩ := run.since split habandoned fun m mv h admitted => abandoned_make h admitted
  refine ⟨fun e' he' cb hasks hengaged => ?_, ⟨hnow.vacant run.reachable, fun e' he' => ?_⟩, ?_, ?_⟩
  -- a driver engages active applications alone, and this one is retired
  · rcases List.mem_cons.1 he' with rfl | he'
    · exact retires.ne_asks cb (houtcome.symm.trans hasks)
    · obtain ⟨h', admitted, outcome⟩ := run.event (e := e') (by simp [split, he'])
      have hsince := run.since (P := fun m => a < m.ledger.applCount ∧ m.ledger.applActive a = false)
        split hretired fun m mv h admitted hm => (h.step admitted).appl_retired hm.1 hm.2
      have hstep := h'.step admitted
      rw [← outcome, hasks] at hstep
      have hactive := hstep.applActive_of_asks hengaged
      exact absurd ((hsince.2 e' he').2.symm.trans hactive) Bool.false_ne_true
  -- the number is abandoned by what had arrived before
  · exact (hbefore e' he').vacant (run.event (by simp [split, he'])).1
  · obtain ⟨c, origin, hmove, hcore, happl⟩ := retires
    refine ⟨c, origin, hmove, hcore, run.releases split ?_⟩
    rw [hmove]
    exact releasing_call hcore happl
  -- from the end of the release on nothing about the application comes back
  · rintro h₃ e' h₄ origin rfl hends
    obtain ⟨h', admitted, -⟩ := run.event (e := e') (by simp [split])
    have hsplit : history = (h₁ ++ e :: h₃) ++ e' :: h₄ := by simp [split]
    have hsince := run.since (P := fun m => m.IsReleased a) hsplit (hends.isReleased h' admitted)
      fun m mv h admitted hm => isReleased_make h admitted hm
    refine ⟨hsince.1.inert run.reachable.sound, fun e'' he'' => ?_⟩
    obtain ⟨h'', admitted'', outcome''⟩ := run.event (e := e'') (by simp [split, he''])
    have hreleased := hsince.2 e'' he''
    exact ⟨hreleased.inert h''.sound, fun cb => hreleased.appl?_ne_of_asks h'' admitted'' outcome''⟩

/-- An application is released inside its own handler. A message that is brought to it then is
refused, signals reach nobody, and its number goes to another. -/
theorem released_inert_inside_handler :
    let m := (Machine.new ⟨2, 2⟩).after (listening ++ [.call (.signal 0)])
    let release : Move := .call (.release default)
    let m' := (m.make release).1
    let rest := [.advance, .call (.enqueue 0 ⟨[]⟩), .call (.signalError 0 .busy),
      .call (.register ⟨1, 1, 128⟩), .advance, .answer .agree]
    Event.RetiresAppl ⟨m, release, (m.make release).2⟩ default 0 ∧ m'.Vacant default ∧
      (∃ origin, Event.Releases ⟨m, release, (m.make release).2⟩
        ((Machine.new ⟨2, 2⟩).events (listening ++ [.call (.signal 0)])) (m'.events rest)
        (m'.after rest) 0 origin) ∧
      (m'.after rest).Inert 0 ∧ (m'.after rest).registry.appl? default = some 1 := by
  intro m release m' rest
  have hrun := Run.of_moves ⟨2, 2⟩ ((listening ++ [.call (.signal 0)]) ++ release :: rest)
    (by decide +kernel)
  rw [after_append_cons, events_append_cons] at hrun
  have hretires : Event.RetiresAppl ⟨m, release, (m.make release).2⟩ default 0 :=
    ⟨.release default, .direct, rfl, rfl, by decide +kernel⟩
  obtain ⟨-, ⟨-, hvacant⟩, ⟨c, origin, -, -, hreleases⟩, hended⟩ := released_inert hrun rfl hretires
  refine ⟨hretires, hvacant _ (List.mem_cons_self ..) ?_, ⟨origin, hreleases⟩, ?_, by decide +kernel⟩
  · rintro ⟨b, hb, hlt, -⟩
    exact absurd hlt (Nat.not_lt.2 hb)
  · refine (hended [] _ _ .direct rfl ⟨rfl, [.waking 0 ⟨7, .custom 0⟩ .signalled], ?_⟩).1
    decide +kernel

end Machine

end Switchboard
