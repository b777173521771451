import Mathlib.Data.List.Forall2
import Switchboard.Proofs.Runs

/-! # Calls through a facade and direct calls

What a facade does with an application could be asked of the switchboard directly: the two calls
differ in the form of the reply, and in nothing else. Machines are `Alike` when they differ in the
origins of releases and sends only. Main statement: `Machine.Alike.follows`, whatever is done to two
such machines does the same to both, and the replies are the same up to their form. -/

namespace Switchboard

/-! ## Forms of replies -/

namespace Reply

/-- What a facade replies where a direct call gives a reply: 0 for success, and the code of a fault
otherwise. -/
def numeric : Reply → Reply
  | registered (.ok id) => numbered (.ok id.number)
  | registered (.error fault) => numbered (.error fault.code)
  | released (.ok none) | sent (.ok ()) | handlerSet (.ok ()) => code 0
  | released (.ok (some fault)) | released (.error fault) => code fault.code
  | sent (.error fault) | handlerSet (.error fault) => code fault.code
  | received (.ok m) => fetched (.ok m)
  | received (.error fault) => fetched (.error fault.code)
  | reply => reply

/-- The reply to a direct call, in the form that an origin takes. -/
def inForm (origin : Origin) (reply : Reply) : Reply :=
  match origin with
  | .direct => reply
  | .facade _ => reply.numeric

/-- What is answered directly keeps its form. -/
@[simp] theorem inForm_direct (reply : Reply) : reply.inForm .direct = reply := rfl

/-- Plain numbers stay plain numbers. -/
theorem numeric_numeric (reply : Reply) : reply.numeric.numeric = reply.numeric := by
  cases reply with
  | registered r | sent r | received r | handlerSet r => cases r <;> rfl
  | released r =>
    cases r with
    | error fault => rfl
    | ok latched => cases latched <;> rfl
  | _ => rfl

/-- A reply that has its form keeps it. -/
@[simp] theorem inForm_inForm (origin : Origin) (reply : Reply) :
    (reply.inForm origin).inForm origin = reply.inForm origin := by
  cases origin with
  | direct => rfl
  | facade k => exact reply.numeric_numeric

variable (origin : Origin)

/-- A registration is replied to in the form of its origin. -/
theorem ofRegistered_eq (r : Except RegisterFault ApplId) :
    ofRegistered origin r = (registered r).inForm origin := by
  cases origin <;> cases r <;> rfl

/-- A release is replied to in the form of its origin. -/
theorem ofReleased_eq (r : Except MessageFault (Option MessageFault)) :
    ofReleased origin r = (released r).inForm origin := by
  cases origin with
  | direct => rfl
  | facade k =>
    cases r with
    | error fault => rfl
    | ok latched => cases latched <;> rfl

/-- A send is replied to in the form of its origin. -/
theorem ofSent_eq (r : Except MessageFault Unit) : ofSent origin r = (sent r).inForm origin := by
  cases origin <;> cases r <;> rfl

/-- The fetch of a message is replied to in the form of its origin. -/
theorem ofReceived_eq (r : Except MessageFault Message) :
    ofReceived origin r = (received r).inForm origin := by
  cases origin <;> cases r <;> rfl

/-- The setting of a handler is replied to in the form of its origin. -/
theorem ofHandlerSet_eq (r : Except MessageFault Unit) :
    ofHandlerSet origin r = (handlerSet r).inForm origin := by
  cases origin <;> cases r <;> rfl

end Reply

namespace Outcome

/-- What a direct call leads to, with the reply in the form that an origin takes. -/
def inForm (origin : Origin) : Outcome → Outcome
  | ends reply => ends (reply.inForm origin)
  | o => o

/-- What leads to a direct answer keeps its form. -/
@[simp] theorem inForm_direct (o : Outcome) : o.inForm .direct = o := by
  cases o <;> simp [inForm]

/-- A form is given once. -/
@[simp] theorem inForm_inForm (origin : Origin) (o : Outcome) :
    (o.inForm origin).inForm origin = o.inForm origin := by
  cases o <;> simp [inForm]

/-- A call that is deferred has nothing to reply yet. -/
theorem inForm_deferred (origin : Origin) : (ends .deferred).inForm origin = ends .deferred := by
  cases origin <;> rfl

end Outcome

/-! ## Origins of calls in progress -/

namespace Frame

/-- The origin of a call in progress. -/
def origin : Frame → Origin
  | registering _ origin _ _ | releasing _ origin _ _ | sending _ _ origin _ => origin
  | _ => .direct

/-- A release or a send in progress, as if it had been asked for directly. The origin of a
registration is not only a matter of its reply, and stays. -/
def plain : Frame → Frame
  | releasing a _ telling rest => releasing a .direct telling rest
  | sending d a _ m => sending d a .direct m
  | f => f

/-- The second of two calls in progress is the first, as it is or as if asked for directly. -/
def Like (f g : Frame) : Prop := g = f ∨ g = f.plain

/-- A call goes on like itself. -/
theorem Like.refl (f : Frame) : f.Like f := Or.inl rfl

/-- A call waits for the same callback, whoever it is made through. -/
theorem callback?_plain (f : Frame) : f.plain.callback? = f.callback? := by
  cases f with
  | releasing a origin telling rest => cases telling <;> rfl
  | installing | registering | announcing | sending | waking => rfl

/-- Calls that go on alike wait for the same callback. -/
theorem Like.callback?_eq {f g : Frame} (h : f.Like g) : g.callback? = f.callback? := by
  rcases h with rfl | rfl
  · rfl
  · exact f.callback?_plain

end Frame

namespace Teardown

/-- The origin of a teardown that waits. -/
def origin : Teardown → Origin
  | device _ => .direct
  | appl _ origin => origin

/-- A teardown that waits, as if it had been asked for directly. -/
def plain : Teardown → Teardown
  | device d => device d
  | appl a _ => appl a .direct

/-- The second of two waiting teardowns is the first, as it is or as if asked for directly. -/
def Like (t u : Teardown) : Prop := u = t ∨ u = t.plain

/-- A teardown waits like itself. -/
theorem Like.refl (t : Teardown) : t.Like t := Or.inl rfl

/-- Teardowns that wait alike are held up by the same references. -/
theorem Like.holders_eq {t u : Teardown} (h : t.Like u) (r : Registry) :
    u.holders r = t.holders r := by
  rcases h with rfl | rfl
  · rfl
  · cases t <;> rfl

end Teardown

namespace Machine

/-! ## What lies beneath a call -/

/-- The machine with more calls in progress beneath its own, and more teardowns that wait before its
own. -/
def above (m : Machine) (fs : List Frame) (ws : List Teardown) : Machine :=
  ⟨m.registry, m.frames ++ fs, ws ++ m.waiting⟩

/-- What a machine becomes, with more beneath it. -/
def raised (s : Machine × Outcome) (fs : List Frame) (ws : List Teardown) : Machine × Outcome :=
  (s.1.above fs ws, s.2)

section Above

variable (m : Machine) (fs : List Frame) (ws : List Teardown)

/-- What is in progress is not in the registry. -/
@[simp] theorem registry_above : (m.above fs ws).registry = m.registry := rfl

/-- Every machine is its registry above what is in progress. -/
theorem eq_above : m = (Machine.above ⟨m.registry, [], []⟩ m.frames m.waiting) := by
  simp [above]

/-- A call goes on in the same way above other calls. -/
theorem enter_above (r : Registry) (f : Frame) :
    ((m.above fs ws).withRegistry r).enter f = raised ((m.withRegistry r).enter f) fs ws := rfl

/-- A teardown waits in the same way below other calls. -/
theorem park_above (r : Registry) (t : Teardown) :
    ((m.above fs ws).withRegistry r).park t = raised ((m.withRegistry r).park t) fs ws := by
  simp [park, finish, withRegistry, above, raised]

/-- The end of a wake-up is the same above other calls. -/
theorem woken_above (r : Registry) (w : Wake) :
    ((m.above fs ws).withRegistry r).woken w = raised ((m.withRegistry r).woken w) fs ws := by
  cases w <;> rfl

/-- A wake-up is the same above other calls. -/
theorem wake_above (r : Registry) (a : Nat) (w : Wake) :
    ((m.above fs ws).withRegistry r).wake a w = raised ((m.withRegistry r).wake a w) fs ws := by
  cases h : (r.appls.get a).handler with
  | none =>
    simp only [wake, withRegistry, h]
    exact m.woken_above fs ws r w
  | some handler =>
    simp only [wake, withRegistry, h]
    exact m.enter_above fs ws r _

/-- A device is closed in the same way above other calls. -/
theorem closeDevice_above (r : Registry) (d : Nat) :
    ((m.above fs ws).withRegistry r).closeDevice d =
      raised ((m.withRegistry r).closeDevice d) fs ws := by
  unfold closeDevice
  dsimp only [withRegistry]
  split
  · rfl
  · exact m.park_above fs ws _ _

/-- An application is closed in the same way above other calls. -/
theorem closeAppl_above (r : Registry) (a : Nat) (origin : Origin) :
    ((m.above fs ws).withRegistry r).closeAppl a origin =
      raised ((m.withRegistry r).closeAppl a origin) fs ws := by
  unfold closeAppl
  dsimp only [withRegistry]
  split
  · rfl
  · exact m.park_above fs ws _ _

/-- A registration begins in the same way above other calls. -/
theorem register_above (origin : Origin) (params : RegisterParams) :
    (m.above fs ws).register origin params = raised (m.register origin params) fs ws := by
  unfold register
  rw [registry_above]
  split <;> rfl

/-- A release begins in the same way above other calls. -/
theorem release_above (r : Registry) (origin : Origin) (id : ApplId) :
    ((m.above fs ws).withRegistry r).release origin id =
      raised ((m.withRegistry r).release origin id) fs ws := by
  unfold release
  dsimp only [withRegistry]
  split
  · rfl
  · exact m.closeAppl_above fs ws _ _ origin

/-- A send begins in the same way above other calls. -/
theorem send_above (origin : Origin) (id : ApplId) (msg : Message) :
    (m.above fs ws).send origin id msg = raised (m.send origin id msg) fs ws := by
  unfold send
  rw [registry_above]
  split <;> rfl

/-- A message is fetched in the same way above other calls. -/
theorem receive_above (origin : Origin) (id : ApplId) :
    (m.above fs ws).receive origin id = raised (m.receive origin id) fs ws := by
  unfold receive
  rw [registry_above]
  split <;> rfl

/-- A handler is set in the same way above other calls. -/
theorem setHandler_above (origin : Origin) (id : ApplId) (h : Option SignalHandler) :
    (m.above fs ws).setHandler origin id h = raised (m.setHandler origin id h) fs ws := by
  unfold setHandler
  rw [registry_above]
  split <;> rfl

/-- A call of a facade begins in the same way above other calls. -/
theorem facadeCall_above (k : Nat) (f : Facade) (c : FacadeCall) :
    (m.above fs ws).facadeCall k f c = raised (m.facadeCall k f c) fs ws := by
  -- the call begins as the one that it passes on, for the application that it is about
  cases c with
  | register params => exact m.register_above fs ws _ params
  | subscribe s | unsubscribe name => rfl
  | release n =>
    cases h : f.appl? n with
    | none => simp only [facadeCall, h]; rfl
    | some id =>
      simp only [facadeCall, h]
      exact m.release_above fs ws _ _ id
  | send n msg =>
    cases h : f.appl? n with
    | none => simp only [facadeCall, h]; rfl
    | some id =>
      simp only [facadeCall, h]
      exact m.send_above fs ws _ id msg
  | receive n =>
    cases h : f.appl? n with
    | none => simp only [facadeCall, h]; rfl
    | some id =>
      simp only [facadeCall, h]
      exact m.receive_above fs ws _ id
  | setHandler n function param =>
    cases h : f.appl? n with
    | none => simp only [facadeCall, h]; rfl
    | some id =>
      simp only [facadeCall, h]
      exact m.setHandler_above fs ws _ id _

/-- A call leaves alone what lies beneath it. -/
theorem call_above (c : Call) : (m.above fs ws).call c = raised (m.call c) fs ws := by
  cases c with
  | install info driver | remove id | closeFacade k =>
    unfold call
    dsimp only [registry_above]
    split <;> rfl
  | register params => exact m.register_above fs ws _ params
  | release id => exact m.release_above fs ws m.registry _ id
  | send id msg => exact m.send_above fs ws _ id msg
  | receive id => exact m.receive_above fs ws _ id
  | setHandler id h => exact m.setHandler_above fs ws _ id h
  | enqueue a msg | deliver d a msg =>
    unfold call
    dsimp only [registry_above]
    split
    · rfl
    · exact m.wake_above fs ws _ a _
  | signal a => exact m.wake_above fs ws m.registry a _
  | signalError a fault => exact m.wake_above fs ws _ a _
  | attach tag | detach id | openFacade => rfl
  | facade k c =>
    unfold call
    dsimp only [registry_above]
    split
    · rfl
    · exact m.facadeCall_above fs ws k _ c

/-- A piece of work leaves alone what lies beneath the call. -/
theorem work_above (f : Frame) : (m.above fs ws).work f = raised (m.work f) fs ws := by
  cases f with
  -- a walk reads the tables alone
  | installing d cursor asking =>
    cases asking with
    | some a => rfl
    | none =>
      cases h : m.registry.applTable.next? cursor with
      | none => simp only [work, registry_above, h]; rfl
      | some e =>
        simp only [work, registry_above, h]
        split <;> rfl
  | registering a origin cursor asking =>
    cases asking with
    | some d => rfl
    | none =>
      cases h : m.registry.deviceTable.next? cursor with
      | none => simp only [work, registry_above, h]; rfl
      | some e =>
        simp only [work, registry_above, h]
        split <;> rfl
  -- the notices are made out beforehand, or by the facades in the registry
  | announcing d news telling notices rest =>
    cases telling with
    | some l => rfl
    | none =>
      cases notices with
      | cons notice notices => rfl
      | nil =>
        cases rest with
        | cons o rest => cases o <;> rfl
        | nil =>
          cases news with
          | added => rfl
          | removed => exact m.closeDevice_above fs ws _ d
  | releasing a origin telling rest =>
    cases telling with
    | some d => rfl
    | none =>
      cases rest with
      | nil => rfl
      | cons d rest =>
        by_cases h : (m.registry.devices.get d).isRetiring = true <;>
          simp only [work, registry_above, h] <;> rfl
  | sending | waking => rfl

/-- An answer leaves alone what lies beneath the call. -/
theorem answered_above (ans : Answer) (f : Frame) :
    (m.above fs ws).answered ans f = raised (m.answered ans f) fs ws := by
  cases f with
  | installing d cursor asking | registering a origin cursor asking => cases asking <;> rfl
  | announcing d news telling notices rest | releasing a origin telling rest =>
    cases telling <;> rfl
  | sending d a origin msg => rfl
  | waking a h w => exact m.woken_above fs ws m.registry w

end Above

/-! ## Machines that are alike -/

/-- The second of two machines is the first, but that some releases and sends in progress may have
been asked for directly. -/
structure Alike (m m' : Machine) : Prop where
  registry : m'.registry = m.registry
  frames : List.Forall₂ Frame.Like m.frames m'.frames
  waiting : List.Forall₂ Teardown.Like m.waiting m'.waiting

/-- Two moves lead to machines that are alike, with the second reply in the form of an origin. -/
structure AlikeIn (origin : Origin) (s s' : Machine × Outcome) : Prop where
  machine : Alike s.1 s'.1
  outcome : s.2 = s'.2.inForm origin

/-- A machine goes on like itself. -/
theorem Alike.refl (m : Machine) : Alike m m :=
  ⟨rfl, List.forall₂_same.2 fun f _ => Frame.Like.refl f,
    List.forall₂_same.2 fun t _ => Teardown.Like.refl t⟩

variable {m m' : Machine} {s s' : Machine × Outcome} {origin : Origin} {fs fs' : List Frame}
  {ws ws' : List Teardown}

/-- What a move leads to is like itself if its reply has its form. -/
theorem AlikeIn.of_eq (h : s.2 = s.2.inForm origin) : AlikeIn origin s s := ⟨.refl s.1, h⟩

/-- Machines that are alike stay so above calls that are alike. -/
theorem AlikeIn.raised (h : AlikeIn origin s s') (frames : List.Forall₂ Frame.Like fs fs')
    (waiting : List.Forall₂ Teardown.Like ws ws') :
    AlikeIn origin (raised s fs ws) (raised s' fs' ws') :=
  ⟨⟨h.machine.registry, List.rel_append h.machine.frames frames,
    List.rel_append waiting h.machine.waiting⟩, h.outcome⟩

/-! ## Moves of machines that are alike -/

/-- The origin of the call that a move goes on with. -/
def actor (m : Machine) : Move → Origin
  | .call _ => .direct
  | .answer _ | .advance => match m.frames with
    | [] => .direct
    | f :: _ => f.origin
  | .resume i => match m.waiting[i]? with
    | none => .direct
    | some t => t.origin

/-- The frame of a call decides the form of the reply, and nothing else of what is next. -/
theorem alikeIn_work_plain (m : Machine) (f : Frame) :
    AlikeIn f.origin (m.work f) (m.work f.plain) := by
  cases f with
  -- the reply of these has one form
  | installing | announcing | waking => exact .of_eq (Outcome.inForm_direct _).symm
  | registering a origin cursor asking =>
    refine .of_eq ?_
    cases asking with
    | some d => rfl
    | none =>
      cases h : m.registry.deviceTable.next? cursor with
      | none =>
        simp only [work, h, finish, Reply.ofRegistered_eq]
        exact congrArg Outcome.ends (Reply.inForm_inForm _ _).symm
      | some e =>
        simp only [work, h]
        split <;> rfl
  -- a release has one frame for all origins but for the origin itself
  | releasing a origin telling rest =>
    cases telling with
    | some d => exact ⟨⟨rfl, .cons (Or.inr rfl) (Alike.refl m).frames, (Alike.refl m).waiting⟩, rfl⟩
    | none =>
      cases rest with
      | nil => exact ⟨.refl _, congrArg Outcome.ends (Reply.ofReleased_eq origin _)⟩
      | cons d rest =>
        by_cases h : (m.registry.devices.get d).isRetiring = true <;>
          simp only [Frame.plain, work, h] <;>
          exact ⟨⟨rfl, .cons (Or.inr rfl) (Alike.refl m).frames, (Alike.refl m).waiting⟩, rfl⟩
  | sending d a origin msg =>
    exact ⟨⟨rfl, .cons (Or.inr rfl) (Alike.refl m).frames, (Alike.refl m).waiting⟩, rfl⟩

/-- The frame of a call decides the form of its reply, and nothing else of what an answer leads
to. -/
theorem alikeIn_answered_plain (m : Machine) (ans : Answer) (f : Frame) :
    AlikeIn f.origin (m.answered ans f) (m.answered ans f.plain) := by
  cases f with
  | installing | announcing | waking => exact .of_eq (Outcome.inForm_direct _).symm
  | registering a origin cursor asking =>
    refine .of_eq ?_
    cases asking <;> rfl
  | releasing a origin telling rest =>
    cases telling <;>
      exact ⟨⟨rfl, .cons (Or.inr rfl) (Alike.refl m).frames, (Alike.refl m).waiting⟩, rfl⟩
  | sending d a origin msg =>
    exact ⟨.refl _, congrArg Outcome.ends (Reply.ofSent_eq origin ans.send)⟩

/-- What is so of a call and the same call asked for directly is so of calls that are alike. -/
theorem AlikeIn.of_plain {f g : Frame} {step : Frame → Machine × Outcome} (h : f.Like g)
    (plain : AlikeIn f.origin (step f) (step f.plain)) : AlikeIn f.origin (step f) (step g) := by
  rcases h with rfl | rfl
  · -- the call with itself: its reply has its form already
    refine .of_eq ?_
    rw [plain.outcome, Outcome.inForm_inForm]
  · exact plain

/-- A call in progress goes on alike, above what lies beneath it. -/
theorem Alike.goOn (h : Alike m m') (step : Machine → Frame → Machine × Outcome)
    (beneath : ∀ m fs ws f, step (above m fs ws) f = Machine.raised (step m f) fs ws)
    (plain : ∀ m f, AlikeIn f.origin (step m f) (step m f.plain)) {f g : Frame} (like : f.Like g)
    (rest : List.Forall₂ Frame.Like fs fs') :
    AlikeIn f.origin (step { m with frames := fs } f) (step { m' with frames := fs' } g) := by
  rw [({ m with frames := fs } : Machine).eq_above, ({ m' with frames := fs' } : Machine).eq_above,
    beneath, beneath, h.registry]
  exact (AlikeIn.of_plain like (plain _ f)).raised rest h.waiting

/-- At each place there are teardowns that are alike, or none. -/
theorem like_getElem? (h : List.Forall₂ Teardown.Like ws ws') (i : Nat) :
    (ws[i]? = none ∧ ws'[i]? = none) ∨
      ∃ t u, ws[i]? = some t ∧ ws'[i]? = some u ∧ t.Like u := by
  induction h generalizing i with
  | nil => exact Or.inl ⟨rfl, rfl⟩
  | cons like rest ih =>
    cases i with
    | zero => exact Or.inr ⟨_, _, rfl, rfl, like⟩
    | succ i => simpa using ih i

/-- Teardowns that wait alike still do when one of them is taken up. -/
theorem like_eraseIdx (h : List.Forall₂ Teardown.Like ws ws') (i : Nat) :
    List.Forall₂ Teardown.Like (ws.eraseIdx i) (ws'.eraseIdx i) := by
  rw [List.eraseIdx_eq_take_drop_succ, List.eraseIdx_eq_take_drop_succ]
  exact List.rel_append (List.forall₂_take i h) (List.forall₂_drop (i + 1) h)

/-- A teardown is taken up alike. -/
theorem Alike.resume (h : Alike m m') (i : Nat) :
    AlikeIn (m.actor (.resume i)) (m.resume i) (m'.resume i) := by
  have hwaiting := like_eraseIdx h.waiting i
  rcases like_getElem? h.waiting i with ⟨ht, hu⟩ | ⟨t, u, ht, hu, like⟩
  · simp only [Machine.resume, actor, ht, hu]
    exact ⟨h, rfl⟩
  · simp only [Machine.resume, actor, ht, hu, like.holders_eq, h.registry]
    by_cases hholders : t.holders m.registry = 0
    · rw [if_pos hholders, if_pos hholders]
      cases t with
      | device d =>
        obtain rfl : u = .device d := by rcases like with rfl | rfl <;> rfl
        exact ⟨⟨rfl, h.frames, hwaiting⟩, rfl⟩
      | appl a origin =>
        rcases like with rfl | rfl
        · exact ⟨⟨rfl, .cons (Or.inl rfl) h.frames, hwaiting⟩, rfl⟩
        · exact ⟨⟨rfl, .cons (Or.inr rfl) h.frames, hwaiting⟩, rfl⟩
    · rw [if_neg hholders, if_neg hholders]
      exact ⟨h, rfl⟩

/-- **A move does the same to machines that are alike**, and gives the same reply up to its form. -/
theorem Alike.make (h : Alike m m') (mv : Move) :
    AlikeIn (m.actor mv) (m.make mv) (m'.make mv) := by
  obtain ⟨r, frames, ws⟩ := m
  obtain ⟨r', frames', ws'⟩ := m'
  have hframes : List.Forall₂ Frame.Like frames frames' := h.frames
  -- a call goes on top of what is in progress; all other moves go on with the call that was begun
  -- last or with a teardown, and there the form of the reply is decided
  cases mv with
  | call c =>
    rw [Machine.make, Machine.make, eq_above ⟨r, _, _⟩, eq_above ⟨r', _, _⟩, call_above,
      call_above, h.registry]
    exact AlikeIn.raised (.of_eq (Outcome.inForm_direct _).symm) h.frames h.waiting
  | answer ans =>
    cases hframes with
    | nil => exact ⟨h, rfl⟩
    | cons like rest =>
      exact h.goOn (fun m f => m.answered ans f) (fun m fs ws f => m.answered_above fs ws ans f)
        (fun m f => m.alikeIn_answered_plain ans f) like rest
  | resume i => exact h.resume i
  | advance =>
    cases hframes with
    | nil => exact ⟨h, rfl⟩
    | cons like rest =>
      exact h.goOn work work_above alikeIn_work_plain like rest

/-- Machines that are alike admit the same moves. -/
theorem Alike.admits_eq (h : Alike m m') (mv : Move) : m'.admits mv = m.admits mv := by
  obtain ⟨r, frames, ws⟩ := m
  obtain ⟨r', frames', ws'⟩ := m'
  have hframes : List.Forall₂ Frame.Like frames frames' := h.frames
  have hcallback : Machine.callback? ⟨r', frames', ws'⟩ = Machine.callback? ⟨r, frames, ws⟩ := by
    cases hframes with
    | nil => rfl
    -- what is waited for is the same whoever asked for the call
    | cons like _ => exact like.callback?_eq
  have hopen : Machine.isOpen ⟨r', frames', ws'⟩ = Machine.isOpen ⟨r, frames, ws⟩ := by
    cases hframes with
    | nil => rfl
    | cons like _ => exact congrArg Option.isSome like.callback?_eq
  cases mv with
  | call c => exact hopen
  | answer ans => exact congrArg Option.isSome hcallback
  | advance => exact congrArg (!·) hopen
  -- a teardown is ready when nobody refers to its record, whoever asked for it
  | resume i =>
    have hready : (ws'[i]?.any fun t => t.holders r' = 0) = ws[i]?.any fun t => t.holders r = 0 := by
      obtain rfl : r' = r := h.registry
      rcases like_getElem? h.waiting i with ⟨ht, hu⟩ | ⟨t, u, ht, hu, like⟩
      · rw [show ws[i]? = none from ht, show ws'[i]? = none from hu]
      · rw [show ws[i]? = some t from ht, show ws'[i]? = some u from hu, Option.any_some,
          Option.any_some, like.holders_eq]
    exact congrArg₂ (· && ·) hopen hready

/-- A machine follows another: whatever moves are made, the same are admitted, they do the same to
the registry, and the replies of the second machine in the form of their origins are those of the
first. -/
def Follows (m m' : Machine) : Prop := ∀ moves,
  m'.admitsAll moves = m.admitsAll moves ∧
  (m'.after moves).registry = (m.after moves).registry ∧
  List.Forall₂ (fun e e' => e.outcome = e'.outcome.inForm (e.before.actor e.move))
    (m.events moves) (m'.events moves)

/-- Machines that are alike follow each other. -/
theorem Alike.follows (h : Alike m m') : Follows m m' := by
  intro moves
  induction moves generalizing m m' with
  | nil => exact ⟨rfl, h.registry, .nil⟩
  | cons mv rest ih =>
    have hmake := h.make mv
    obtain ⟨hadmits, hregistry, hevents⟩ := ih hmake.machine
    exact ⟨congrArg₂ (· && ·) (h.admits_eq mv) hadmits, hregistry, .cons hmake.outcome hevents⟩

/-! ## Calls of facades -/

variable (m : Machine) (origin : Origin) (id : ApplId)

/-- A release does the same through any origin. -/
theorem alikeIn_release : AlikeIn origin (m.release origin id) (m.release .direct id) := by
  unfold release
  split
  · exact ⟨.refl _, congrArg Outcome.ends (Reply.ofReleased_eq origin _)⟩
  · unfold closeAppl
    dsimp only
    split
    · exact ⟨⟨rfl, .cons (Or.inr rfl) (Alike.refl m).frames, (Alike.refl m).waiting⟩, rfl⟩
    · exact ⟨⟨rfl, (Alike.refl m).frames,
        List.rel_append (Alike.refl m).waiting (.cons (Or.inr rfl) .nil)⟩,
        (Outcome.inForm_deferred origin).symm⟩

/-- A send does the same through any origin. -/
theorem alikeIn_send (msg : Message) :
    AlikeIn origin (m.send origin id msg) (m.send .direct id msg) := by
  unfold send
  split
  · exact ⟨.refl _, congrArg Outcome.ends (Reply.ofSent_eq origin _)⟩
  · exact ⟨⟨rfl, .cons (Or.inr rfl) (Alike.refl m).frames, (Alike.refl m).waiting⟩, rfl⟩

/-- The fetch of a message does the same through any origin. -/
theorem alikeIn_receive : AlikeIn origin (m.receive origin id) (m.receive .direct id) := by
  unfold receive
  split <;> exact ⟨.refl _, congrArg Outcome.ends (Reply.ofReceived_eq origin _)⟩

/-- The setting of a handler does the same through any origin. -/
theorem alikeIn_setHandler (h : Option SignalHandler) :
    AlikeIn origin (m.setHandler origin id h) (m.setHandler .direct id h) := by
  unfold setHandler
  split <;> exact ⟨.refl _, congrArg Outcome.ends (Reply.ofHandlerSet_eq origin _)⟩

end Machine

end Switchboard
