import Switchboard.Proofs.Routing

/-! # The first error stays

The latch of an application takes the first error that is signalled and keeps it for good. While it
is set no message goes either way, whatever waits in the queue; but every signal wakes the
application, and its release ends with the error. A record that arrives has nothing latched, so that
the error is gone with the record, not with the number. -/

namespace Switchboard

/-! ## Releases in progress -/

/-- The release that a call goes on with: of which application, and through which origin. -/
def Frame.release? : Frame → Option (Nat × Origin)
  | releasing a origin _ _ => some (a, origin)
  | _ => none

namespace Frame

/-- A walk releases no application. -/
@[simp] theorem release?_walk (w : Walk) (c : Cursor) (k : Option Nat) :
    (w.frame c k).release? = none := by
  cases w <;> rfl

/-- An announcement releases no application. -/
@[simp] theorem release?_announcing (d : Nat) (news : News) (l : Option Listener)
    (ns : List Notice) (os : List Observer) : (announcing d news l ns os).release? = none := rfl

/-- An unwinding releases its application, for the origin that asked. -/
@[simp] theorem release?_releasing (a : Nat) (o : Origin) (telling : Option Nat) (rest : List Nat) :
    (releasing a o telling rest).release? = some (a, o) := rfl

/-- A message under way releases no application. -/
@[simp] theorem release?_sending (d a : Nat) (o : Origin) (msg : Message) :
    (sending d a o msg).release? = none := rfl

/-- A wake-up releases no application. -/
@[simp] theorem release?_waking (a : Nat) (h : SignalHandler) (w : Wake) :
    (waking a h w).release? = none := rfl

end Frame

namespace Ledger

variable {s t : Ledger} {mv : Move} {o : Outcome} {a : Nat} {origin : Origin}

/-- Whether a release of an application is in progress: the links are unwound, or it waits. -/
def Releasing (s : Ledger) (a : Nat) (origin : Origin) : Prop :=
  (∃ f ∈ s.frames, f.release? = some (a, origin)) ∨ Teardown.appl a origin ∈ s.waiting

instance (s : Ledger) (a : Nat) (origin : Origin) : Decidable (s.Releasing a origin) :=
  inferInstanceAs (Decidable (_ ∨ _))

/-- What is in a list is still there when another element is taken out. -/
theorem mem_eraseIdx_of_ne {α : Type} {l : List α} {x y : α} {i : Nat} (hx : x ∈ l)
    (hi : l[i]? = some y) (hne : x ≠ y) : x ∈ l.eraseIdx i := by
  obtain ⟨j, hj⟩ := List.mem_iff_getElem?.1 hx
  refine List.mem_eraseIdx_iff_getElem?.2 ⟨j, ?_, hj⟩
  rintro rfl
  exact hne (Option.some.inj (hj.symm.trans hi))

/-- A release goes on until it ends, which it does when no link is left. -/
theorem Step.releasing_after (step : Step s mv o t) (releasing : s.Releasing a origin) :
    t.Releasing a origin ∨ mv = .advance ∧ ∃ fs, s.frames = .releasing a origin none [] :: fs := by
  cases step with
  | still | wake | install | register | remove | release | releaseLater | send =>
    left
    exact releasing.imp (by simp +contextual) (by simp +contextual)
  | woken frames | ask frames | skip frames | installed frames | registered frames | accept frames
      | decline frames | tell frames | announced frames | passOver frames | bid frames
      | bidden frames | sent frames =>
    left
    exact releasing.imp (fun h => by simpa [frames] using h) id
  | removed frames | removeLater frames =>
    left
    rw [unlinkAll_eq]
    exact releasing.imp (fun h => by simpa [frames] using h) (by simp +contextual)
  | freed waits =>
    left
    exact releasing.imp id fun hw => mem_eraseIdx_of_ne hw waits (by simp)
  | @unwound i a' origin' waits =>
    left
    rcases releasing with ⟨f, hf, hrelease⟩ | hw
    · exact Or.inl ⟨f, List.mem_cons_of_mem _ hf, hrelease⟩
    · by_cases e : Teardown.appl a origin = .appl a' origin'
      · -- the release that is taken up goes on with the links
        cases e
        exact Or.inl ⟨_, List.mem_cons_self .., rfl⟩
      · exact Or.inr (mem_eraseIdx_of_ne hw waits e)
  | @released a' origin' fs frames =>
    rcases releasing with ⟨f, hf, hrelease⟩ | hw
    · rw [frames] at hf
      rcases List.mem_cons.1 hf with rfl | hf
      · cases hrelease
        exact Or.inr ⟨rfl, fs, frames⟩
      · exact Or.inl (Or.inl ⟨f, hf, hrelease⟩)
    · exact Or.inl (Or.inr hw)

/-- An application whose release ends has its number no more. -/
theorem Step.not_inUse_of_released {fs : List Frame} (step : Step s mv o t)
    (h : s.Sound) (move : mv = .advance) (frames : s.frames = .releasing a origin none [] :: fs) :
    ¬t.appls.InUse a := by
  have hf : Frame.releasing a origin none [] ∈ s.frames := by
    rw [frames]
    exact List.mem_cons_self ..
  obtain ⟨-, hretired, -⟩ := h.of_unwinding hf rfl
  have hle : s.releases a ≤ 1 := h.appls.closing_le a
  subst move
  cases step with
  -- the release that ends is the only one of the application
  | @released a' origin' fs' frames' =>
    obtain ⟨hframe, rfl⟩ := List.cons.inj (frames.symm.trans frames')
    cases hframe
    have hone : s.releases a = (fs.countP fun f => f.unwinding? = some a) +
        (s.waiting.countP fun t => t.appl? = some a) + 1 := by
      simp [releases, frames]
      omega
    refine not_or.2 ⟨Bool.eq_false_iff.1 hretired, not_not.2 ?_⟩
    show (fs.countP fun f => f.unwinding? = some a) +
      (s.waiting.countP fun t => t.appl? = some a) = 0
    omega
  | @ask w _ _ _ _ _ _ frames' | @skip w _ _ _ _ _ frames' =>
    cases w <;> cases frames.symm.trans frames'
  | installed frames' | registered frames' | tell frames' | announced frames' | removed frames'
      | removeLater frames' | passOver frames' | bid frames' => cases frames.symm.trans frames'

end Ledger

/-! ## What is signalled -/

/-- The error that a posting offers to the latch. -/
def Posting.fault? : Posting → Option MessageFault
  | latch fault => some fault
  | _ => none

/-- A posting offers an error exactly when it latches it. -/
theorem Posting.bind_fault? {p : Option Posting} {fault : MessageFault} :
    p.bind fault? = some fault ↔ p = some (.latch fault) := by
  rcases p with - | p
  · simp
  · cases p <;> simp [fault?]

/-- What is latched stays, and nothing else is latched than what is offered. -/
theorem Mail.latched_after (x : Mail) (p : Posting) :
    (x.after p).latched = x.latched.or p.fault? := by
  cases p with
  | latch fault => cases h : x.latched <;> simp [after, Posting.fault?, h]
  | _ => simp [after, Posting.fault?]

namespace Machine

/-- The error that an event signals to an application. -/
def Event.signalled? (e : Event) (a : Nat) : Option MessageFault :=
  match e.move with
  | .call (.signalError a' fault) =>
    if a' = a ∧ a < e.before.registry.appls.size then some fault else none
  | _ => none

variable {config : Config} {history h₁ h₂ : List Event} {m : Machine} {e : Event} {c : Call}
  {a : Nat} {id : ApplId} {origin : Origin} {fault : MessageFault}

/-- What an event signals is what its move posts, as far as it is an error. -/
theorem Event.signalled?_eq (e : Event) (a : Nat) :
    e.signalled? a = (e.before.postingFor? e.move a).bind Posting.fault? := by
  ext fault
  rw [Posting.bind_fault?, postingFor?_eq_some_iff, posts_latch_iff]
  unfold Event.signalled?
  split
  · rename_i a' fault' hmove
    rw [hmove]
    constructor
    · intro h
      obtain ⟨⟨rfl, ha⟩, hfault⟩ := Option.ite_none_right_eq_some.1 h
      cases hfault
      exact ⟨rfl, ha⟩
    · rintro ⟨hsignal, ha⟩
      cases hsignal
      exact if_pos ⟨rfl, ha⟩
  · rename_i hno
    exact iff_of_false (by simp) fun h => hno a fault h.1

/-- An event latches the error that it signals if none is latched. -/
theorem Event.latched_make (h : Reachable config e.before) (a : Nat) :
    ((e.before.make e.move).1.mail a).latched =
      (e.before.mail a).latched.or (e.signalled? a) := by
  rw [mail_make_apply h, e.signalled?_eq]
  cases e.before.postingFor? e.move a with
  | none => simp
  | some p => exact (e.before.mail a).latched_after p

/-- The first error that has been signalled is latched. -/
theorem Run.latched_eq (run : Run config history m) (a : Nat) :
    (m.registry.appls.get a).latched = history.findSome? (·.signalled? a) := by
  induction run with
  | new => rfl
  | @move history m mv run admitted ih =>
    rw [List.findSome?_append, ← ih, List.findSome?_singleton]
    exact Event.latched_make (e := ⟨m, mv, (m.make mv).2⟩) run.reachable a

/-- An error that is signalled wakes the application. -/
theorem Run.wakes_of_signal (run : Run config history m) (split : history = h₁ ++ e :: h₂)
    (move : e.move = .call (.signalError a fault)) : e.Wakes h₂ m a .signalled := by
  refine run.wakes split (r := e.before.registry.updateAppl a fun x => x.latch fault) ?_ ?_
  · rw [move]
    rfl
  · rcases Nat.lt_or_ge a e.before.registry.appls.size with ha | ha
    · -- the latch is set, and the handler is not touched
      exact congrArg Mail.handler ((congrFun (e.before.registry.mail_latch ha fault) a).trans
        (Function.update_self ..))
    · rw [Registry.updateAppl_of_le _ ha]

/-! ## While an error is latched -/

/-- No message is exchanged under a number: whatever is called for ends at once with the error, and
changes nothing. -/
structure Shut (m : Machine) (id : ApplId) (fault : MessageFault) : Prop where
  peek : m.registry.peek id = .error fault
  receive : ∀ c origin, m.core? c = some (origin, .receive id) →
    m.make (.call c) = (m, .ends (.ofReceived origin (.error fault)))
  send : ∀ c origin msg, m.core? c = some (origin, .send id msg) →
    m.make (.call c) = (m, .ends (.ofSent origin (.error fault)))

/-- A registered application is reached under its number. -/
theorem Reachable.reach_eq (h : Reachable config m) (happl : m.registry.appl? id = some a) :
    m.registry.reach id = .ok a := by
  simp [Registry.reach, happl, h.join?_appl happl]

/-- An application with an error latched exchanges no messages. -/
theorem Reachable.shut (h : Reachable config m) (happl : m.registry.appl? id = some a)
    (latched : (m.registry.appls.get a).latched = some fault) : m.Shut id fault where
  peek := by simp [Registry.peek, h.reach_eq happl, Application.peek, latched]
  receive c origin hcore := by
    show m.call c = _
    rw [call_of_core_receive hcore]
    simp [Machine.receive, Registry.receive, h.reach_eq happl, Application.take, latched, finish]
  send c origin msg hcore := by
    have hunrouted : ∀ d a', ¬m.registry.Routes config.maxDevices id msg d a' := by
      intro d a' hroutes
      obtain rfl : a' = a := Option.some.inj (hroutes.appl.symm.trans happl)
      have hnone := hroutes.unlatched
      rw [latched] at hnone
      cases hnone
    have hrefusal : m.registry.refusal id msg = fault := by simp [Registry.refusal, happl, latched]
    rw [← hrefusal]
    exact Event.refused (e := ⟨m, .call c, (m.make (.call c)).2⟩) h rfl hcore hunrouted

/-! ## The error that a release ends with -/

/-- The event with which a release of an application ends. -/
def Event.EndsRelease (e : Event) (a : Nat) (origin : Origin) : Prop :=
  e.move = .advance ∧ ∃ fs, e.before.frames = .releasing a origin none [] :: fs

/-- A release ends with what is latched. -/
theorem Event.EndsRelease.outcome (ends : e.EndsRelease a origin) :
    (e.before.make e.move).2 =
      .ends (.ofReleased origin (.ok (e.before.registry.appls.get a).latched)) := by
  obtain ⟨hmove, fs, hframes⟩ := ends
  have hlatched : ((e.before.registry.updateAppl a Application.reset).mail a).latched =
      (e.before.registry.mail a).latched := by
    rw [Registry.mail_reset, Function.update_self]
    rfl
  simp only [hmove, make, advance, hframes, work]
  exact congrArg (fun l => Outcome.ends (.ofReleased origin (.ok l))) hlatched

/-- What follows the call for a release. The release has ended with the first error that had been
signalled to the application, or it is in progress. -/
def Event.Releases (e : Event) (earlier later : List Event) (m : Machine) (a : Nat)
    (origin : Origin) : Prop :=
  m.ledger.Releasing a origin ∨
    ∃ h₁ e' h₂, later = h₁ ++ e' :: h₂ ∧ e'.EndsRelease a origin ∧
      e'.outcome =
        .ends (.ofReleased origin (.ok ((earlier ++ e :: h₁).findSome? (·.signalled? a))))

/-- The release of a registered application begins. -/
theorem releasing_release (m : Machine) (origin : Origin)
    (happl : m.registry.appl? id = some a) : (m.release origin id).1.ledger.Releasing a origin := by
  obtain ⟨table, hremove⟩ := Roster.remove?_of_get? happl
  simp only [release, Registry.retireAppl?, hremove, closeAppl]
  split
  · exact Or.inl ⟨_, List.mem_cons_self .., rfl⟩
  · exact Or.inr (List.mem_append_right _ (List.mem_singleton_self _))

/-- A call that comes down to a release is one, on a machine with the same applications. -/
theorem call_of_core_release (core : m.core? c = some (origin, .release id)) :
    ∃ r, r.applTable = m.registry.applTable ∧ m.call c = (m.withRegistry r).release origin id := by
  cases c with
  | release id' => cases core; exact ⟨m.registry, rfl, rfl⟩
  | facade k fc =>
    obtain ⟨f, q, id', hf, hq, happl, rfl, hcore⟩ := core?_facade core
    cases fc <;> cases hq <;> cases hcore
    -- the facade forgets the number before the release begins
    refine ⟨_, ?_, by simp only [call, hf, facadeCall, happl]; rfl⟩
    rfl
  | _ => cases core

/-- A call that comes down to one for a release begins it. -/
theorem releasing_call (core : m.core? c = some (origin, .release id))
    (happl : m.registry.appl? id = some a) : (m.call c).1.ledger.Releasing a origin := by
  obtain ⟨r, hr, hcall⟩ := call_of_core_release core
  rw [hcall]
  exact releasing_release _ origin (by rw [withRegistry, Registry.appl?, hr, ← Registry.appl?, happl])

/-- A release that has begun goes on, or has ended with the first error. -/
theorem Run.releases (run : Run config history m) (split : history = h₁ ++ e :: h₂)
    (begins : (e.before.make e.move).1.ledger.Releasing a origin) :
    e.Releases h₁ h₂ m a origin := by
  induction run generalizing h₂ with
  | new => simp at split
  | @move history m mv run admitted ih =>
    rcases append_singleton_eq_split split with ⟨-, rfl, rfl⟩ | ⟨h₃, hsplit, rfl⟩
    · exact Or.inl begins
    · rcases ih hsplit with hgoes | ⟨h, e', h', rfl, hends⟩
      · rcases (run.reachable.step admitted).releasing_after hgoes with hgoes | ⟨hmove, fs, hframes⟩
        · exact Or.inl hgoes
        · have hends : Event.EndsRelease ⟨m, mv, (m.make mv).2⟩ a origin := ⟨hmove, fs, hframes⟩
          refine Or.inr ⟨h₃, _, [], rfl, hends, ?_⟩
          rw [← hsplit, ← run.latched_eq a]
          exact hends.outcome
      · exact Or.inr ⟨h, e', h' ++ [⟨m, mv, (m.make mv).2⟩], by simp, hends⟩

/-! ## New records -/

/-- What is kept for an application that arrives is blank. -/
theorem blank_make (h : Reachable config m) {mv : Move} (admitted : m.admits mv = true)
    (before : m.registry.appl? id ≠ some a) (after : (m.make mv).1.registry.appl? id = some a) :
    ((m.make mv).1.mail a).latched = none ∧ ((m.make mv).1.mail a).queue = [] := by
  have hnew : m.registry.appls.size ≤ a := by
    by_contra hlt
    obtain ⟨serial, hentry⟩ := Roster.get?_eq_some_iff.1 after
    refine before (Roster.get?_eq_some_iff.2 ⟨serial, ?_⟩)
    exact (h.step admitted).appls.entry_before (Nat.not_le.1 hlt) hentry
  have hblank : m.registry.appls.get a = default := m.registry.appls.get_of_size_le hnew
  have hlatched : (m.mail a).latched = none := by
    rw [mail, Registry.mail, hblank]
    rfl
  have hqueue : (m.mail a).queue = [] := by
    rw [mail, Registry.mail, hblank]
    rfl
  rw [mail_make_apply h]
  -- nothing that the move posts to the record can make a difference
  cases hp : m.postingFor? mv a with
  | none => exact ⟨hlatched, hqueue⟩
  | some p =>
    have hposts := postingFor?_eq_some_iff.1 hp
    cases p with
    | append msg =>
      -- what is not there takes no messages
      obtain ⟨c, w, -, -, hactive⟩ := posts_append_iff.1 hposts
      rw [hblank] at hactive
      cases hactive
    | latch fault => exact absurd hnew (Nat.not_le.2 (posts_latch_iff.1 hposts).2)
    | fetch msg => exact ⟨hlatched, by simp [Mail.after, hqueue]⟩
    | equip | count => exact ⟨hlatched, hqueue⟩
    | purge => exact ⟨hlatched, rfl⟩

/-- **The first error stays.** The latch of an application holds the first error that has been
signalled to it, whether it is registered or not. While it holds one, and the application is
registered, no messages are exchanged. Every signalled error calls the handler that the application
has, once; every release ends with the first error, if there is one; and an application that arrives
has nothing latched or queued, whatever number it gets. -/
theorem latch_first (run : Run config history m) (a : Nat) :
    (m.registry.appls.get a).latched = history.findSome? (·.signalled? a) ∧
    (∀ id fault, m.registry.appl? id = some a →
      (m.registry.appls.get a).latched = some fault → m.Shut id fault) ∧
    ∀ h₁ e h₂, history = h₁ ++ e :: h₂ →
      (∀ fault, e.move = .call (.signalError a fault) → e.Wakes h₂ m a .signalled) ∧
      (∀ c origin id, e.move = .call c → e.before.core? c = some (origin, .release id) →
        e.before.registry.appl? id = some a → e.Releases h₁ h₂ m a origin) ∧
      ∀ id, e.before.registry.appl? id ≠ some a →
        (e.before.make e.move).1.registry.appl? id = some a →
        ((e.before.make e.move).1.registry.appls.get a).latched = none ∧
          ((e.before.make e.move).1.registry.appls.get a).queue = [] := by
  refine ⟨run.latched_eq a, fun id fault => run.reachable.shut, fun h₁ e h₂ hsplit => ?_⟩
  obtain ⟨hreach, hadmitted, -⟩ := run.event (e := e) (by simp [hsplit])
  refine ⟨fun fault => run.wakes_of_signal hsplit, fun c origin id hmove hcore happl => ?_,
    fun id => blank_make hreach hadmitted⟩
  refine run.releases hsplit ?_
  rw [hmove]
  exact releasing_call hcore happl

/-- An application is signalled an error, and another one from inside the handler. It is released
then, and its number is given out again. -/
theorem latch_first_of_two :
    let m := (Machine.new ⟨2, 2⟩).after listening
    let signal : Move := .call (.signalError 0 .queueOverflow)
    let rest := [.call (.signalError 0 .busy), .answer .agree, .answer .agree]
    let m' := (m.make signal).1.after rest
    let release : Move := .call (.release default)
    let m'' := (m'.make release).1.after [.advance]
    let register : Move := .call (.register ⟨1, 1, 128⟩)
    Event.Wakes ⟨m, signal, (m.make signal).2⟩ ((m.make signal).1.events rest) m' 0 .signalled ∧
      m'.Shut default .queueOverflow ∧
      Event.Releases ⟨m', release, (m'.make release).2⟩
        ((Machine.new ⟨2, 2⟩).events (listening ++ signal :: rest))
        ((m'.make release).1.events [.advance]) m'' 0 .direct ∧
      ¬m''.ledger.Releasing 0 .direct ∧
      (m''.make register).1.registry.appl? default = some 1 ∧
      ((m''.make register).1.registry.appls.get 1).latched = none := by
  intro m signal rest m' release m'' register
  -- the run up to the release, that with the release, and that with the new registration
  have hrun₁ := Run.of_moves ⟨2, 2⟩ (listening ++ signal :: rest) (by decide +kernel)
  have hrun₂ := Run.of_moves ⟨2, 2⟩ ((listening ++ signal :: rest) ++ release :: [.advance])
    (by decide +kernel)
  have hrun₃ := Run.of_moves ⟨2, 2⟩
    (((listening ++ signal :: rest) ++ release :: [.advance]) ++ register :: []) (by decide +kernel)
  have hm' : (Machine.new ⟨2, 2⟩).after (listening ++ signal :: rest) = m' := after_append_cons ..
  have hm'' : (Machine.new ⟨2, 2⟩).after ((listening ++ signal :: rest) ++ release :: [.advance]) =
      m'' := by
    rw [after_append_cons, hm']
  rw [hm', events_append_cons] at hrun₁
  rw [hm'', events_append_cons, hm'] at hrun₂
  rw [events_append_cons, hm''] at hrun₃
  obtain ⟨-, hshut, hsignalled⟩ := latch_first hrun₁ 0
  have hreleased := (latch_first hrun₂ 0).2.2 _ _ _ rfl
  have hregistered := (latch_first hrun₃ 1).2.2 _ _ _ rfl
  -- with the event opened the two machines are the same term, and need not be run to be compared
  dsimp only at hregistered
  have hnew : (m''.make register).1.registry.appl? default = some 1 := by decide +kernel
  exact ⟨(hsignalled _ _ _ rfl).1 _ rfl, hshut default _ (by decide +kernel) (by decide +kernel),
    hreleased.2.1 _ _ default rfl rfl (by decide +kernel), by decide +kernel, hnew,
    (hregistered.2.2 default (by decide +kernel) hnew).1⟩

end Machine

end Switchboard
