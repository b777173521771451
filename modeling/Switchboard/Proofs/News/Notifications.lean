import Switchboard.Proofs.Calls
import Switchboard.Proofs.News.Attendance

/-! # Notifications

A notification tells news about a device to the observers that are attached when it begins, one
after another, and a forwarder among them to the subscribers that its facade has when its turn
comes. Each of them may call the machine from inside its callback: it may attach and detach others,
and it may cause more notifications. The lists that are being worked off are copies, so whatever is
called does not change who is told, and what is called comes on top of the notification and returns
before it goes on. `Delivers` says who is told with which pieces of work, `Run.notified` that a run
tells them so. -/

namespace Switchboard

/-- What lies below the innermost call stays as it is, and so does the innermost call itself when
another one is begun. -/
theorem Progress.suffix {fs fs' gs : List Frame} {mv : Move} {o : Outcome}
    (h : Progress fs mv o fs') (deeper : gs <:+ fs.tail ∨ mv.starts = true ∧ gs <:+ fs) :
    gs <:+ fs' := by
  have hinnermost : gs <:+ fs := deeper.elim (fun h => h.trans (List.tail_suffix _)) And.right
  -- a move that starts nothing may change the innermost call, and nothing else
  have hbelow (inside : mv.starts = false) : gs <:+ fs.tail :=
    deeper.resolve_right fun h => Bool.false_ne_true (inside.symm.trans h.1)
  cases h with
  | atOnce => exact hinnermost
  | begins => exact hinnermost.trans (List.suffix_cons ..)
  | goesOn inside => exact (hbelow inside).trans (List.suffix_cons ..)
  | returns inside => exact hbelow inside

namespace Machine

variable {config : Config} {history h₁ h₂ h₃ later : List Event} {m : Machine} {mv : Move}
  {e x : Event} {d : Nat} {news : News} {below : List Frame} {os : List Observer}

/-! ## What is told with which events -/

/-- A notification: which device it is about, what it says, and the calls in progress that it
interrupts. -/
structure Announcement where
  device : Nat
  news : News
  below : List Frame
deriving DecidableEq

/-- The notification that begins with an event: a device is retired, or the walk of a device that is
being installed comes to its end. -/
def Event.announces? (e : Event) : Option Announcement :=
  match e.move with
  | .call (.remove id) =>
    (e.before.registry.device? id).map fun d => ⟨d, .removed, e.before.frames⟩
  | .advance => match e.before.frames with
    | .installing d cursor none :: below =>
      if (e.before.registry.applTable.next? cursor).isNone then some ⟨d, .added, below⟩ else none
    | _ => none
  | _ => none

/-- Whether an event happens while certain calls are interrupted. -/
def Event.Interrupts (e : Event) (below : List Frame) : Prop :=
  below.length < e.before.frames.length

instance (e : Event) (below : List Frame) : Decidable (e.Interrupts below) :=
  inferInstanceAs (Decidable (_ < _))

/-- Whether an event is a piece of work of the call that interrupts certain others, and not of one
that was called from inside it. -/
def Event.isPiece (e : Event) (below : List Frame) : Bool :=
  match e.move with
  | .advance => e.before.frames.length = below.length + 1
  | _ => false

/-- The pieces of work among the events of a notification. -/
def pieces (below : List Frame) (events : List Event) : List Event :=
  events.filter (·.isPiece below)

/-- The calls to subscribers with notices of news about a device. -/
def noticed (d : Nat) (news : News) (ns : List Notice) : List Outcome :=
  ns.map fun n => .asks (.news (.subscriber n) news d)

/-- The subscribers that a facade has when an event comes, the latest first. -/
def Event.subscribers (e : Event) (k : Nat) : List Subscriber :=
  (e.before.registry.facades.get k).subscribers

/-- What a facade tells a subscriber about a device when its forwarder is called with an event: the
news and the number of the device and, if it has been added, the profile that the number has. -/
def Event.notice (e : Event) (k : Nat) (news : News) (d : Nat) (s : Subscriber) : Notice where
  facade := k
  subscriber := s
  news := news
  controller := (e.before.registry.devices.get d).id.number
  profile := match news with
    | .added => (e.before.registry.profile (e.before.registry.devices.get d).id.number).toOption
    | .removed => none

/-- The calls that a forwarder makes when it is called with an event: one to each subscriber that
its facade has then, the latest first. -/
def Event.forwards (e : Event) (k : Nat) (news : News) (d : Nat) : List Outcome :=
  (e.subscribers k).map fun s => .asks (.news (.subscriber (e.notice k news d s)) news d)

/-- A facade makes out its notices to its subscribers in their order. -/
theorem Event.forwards_eq (e : Event) (k : Nat) (news : News) (d : Nat) :
    e.forwards k news d =
      noticed d news (notices e.before.registry k news (e.before.registry.devices.get d).id.number) := by
  unfold forwards noticed notices notice
  cases news <;> simp [subscribers]

/-- Pieces of work tell news about a device to observers, one after another. An observer of a client
is called with one piece. When a forwarder is called, each subscriber that its facade has then is
called with one of the pieces that follow, in their order. -/
inductive Delivers (news : News) (d : Nat) : List Observer → List Event → Prop where
  | done : Delivers news d [] []
  | custom {tag : Nat} {os : List Observer} {x : Event} {xs : List Event}
      (calls : x.outcome = .asks (.news (.observer tag) news d)) (others : Delivers news d os xs) :
      Delivers news d (.custom tag :: os) (x :: xs)
  | forwarder {k : Nat} {os : List Observer} {x : Event} {ys xs : List Event}
      (called : x.outcome = .works)
      (calls : ys.map Event.outcome = x.forwards k news d)
      (others : Delivers news d os xs) : Delivers news d (.forwarder k :: os) (x :: (ys ++ xs))

/-- A notification goes on: all that has happened since came from inside it, and its pieces of work
have told the first of those who are to be told. -/
structure Delivering (os : List Observer) (a : Announcement) (later : List Event) (m : Machine) :
    Prop where
  interrupts : ∀ x ∈ later, x.Interrupts a.below
  inProgress : a.below.length < m.frames.length
  delivers : ∃ rest, Delivers a.news a.device os (pieces a.below later ++ rest)

/-- A notification is over: all who were to be told have been told, and then the call ended. -/
def Delivered (os : List Observer) (a : Announcement) (later : List Event) : Prop :=
  ∃ during last after, later = during ++ last :: after ∧ (∀ x ∈ during, x.Interrupts a.below) ∧
    Delivers a.news a.device os (pieces a.below during) ∧
    last.isPiece a.below = true ∧ ∃ reply, last.outcome = .ends reply

/-! ## A notification goes on -/

/-- Any outcomes could be those of events. -/
theorem exists_outcomes (outcomes : List Outcome) :
    ∃ xs : List Event, xs.map Event.outcome = outcomes :=
  ⟨outcomes.map fun o => ⟨default, .advance, o⟩, by rw [List.map_map]; exact List.map_id _⟩

/-- Any observers could be told. -/
theorem exists_delivers (news : News) (d : Nat) (os : List Observer) :
    ∃ xs, Delivers news d os xs := by
  induction os with
  | nil => exact ⟨[], .done⟩
  | cons o os ih =>
    obtain ⟨xs, hxs⟩ := ih
    cases o with
    | custom tag =>
      exact ⟨⟨default, .advance, .asks (.news (.observer tag) news d)⟩ :: xs, .custom rfl hxs⟩
    | forwarder k =>
      let x : Event := ⟨default, .advance, .works⟩
      obtain ⟨ys, hys⟩ := exists_outcomes (x.forwards k news d)
      exact ⟨x :: (ys ++ xs), .forwarder rfl hys hxs⟩

/-- A notification in progress: whatever tells the notices and the observers that are left makes up,
together with what has been done, the whole. -/
structure Halfway (os : List Observer) (a : Announcement) (later : List Event) (m : Machine) :
    Prop where
  interrupts : ∀ x ∈ later, x.Interrupts a.below
  frames : ∃ above listener left rest,
    m.frames = above ++ .announcing a.device a.news listener left rest :: a.below ∧
    ∀ calls others, calls.map Event.outcome = noticed a.device a.news left →
      Delivers a.news a.device rest others →
      Delivers a.news a.device os (pieces a.below later ++ (calls ++ others))

/-- A notification that is halfway through goes on: telling those who are left makes it whole. -/
theorem Halfway.delivering {a : Announcement} (h : Halfway os a later m) :
    Delivering os a later m := by
  obtain ⟨hinside, above, listener, left, rest, hframes, hdelivers⟩ := h
  obtain ⟨calls, hcalls⟩ := exists_outcomes (noticed a.device a.news left)
  obtain ⟨others, hothers⟩ := exists_delivers a.news a.device rest
  refine ⟨hinside, ?_, _, hdelivers calls others hcalls hothers⟩
  rw [hframes, List.length_append, List.length_cons]
  omega

/-- One more piece of work comes last among the pieces. -/
theorem pieces_concat_of_piece (hx : x.isPiece below = true) :
    pieces below (later ++ [x]) = pieces below later ++ [x] := by
  rw [pieces, List.filter_append, List.filter_singleton, hx, cond_true]
  rfl

/-- An event that is no piece of work leaves the pieces as they are. -/
theorem pieces_concat_of_other (hx : x.isPiece below = false) :
    pieces below (later ++ [x]) = pieces below later := by
  rw [pieces, List.filter_append, List.filter_singleton, hx, cond_false, List.append_nil]
  rfl

/-- A call that has told its news ends. -/
theorem work_told (m : Machine) (d : Nat) (news : News) :
    (m.work (.announcing d news none [] [])).1.frames = m.frames ∧
      ∃ reply, (m.work (.announcing d news none [] [])).2 = .ends reply := by
  cases news with
  | added => exact ⟨rfl, _, rfl⟩
  | removed =>
    simp only [work, closeDevice]
    split
    · exact ⟨rfl, _, rfl⟩
    · exact ⟨rfl, _, rfl⟩

/-- A call that tells news does its next piece of work: it tells the next of those who are to be
told, or it ends. -/
theorem Halfway.advance {a : Announcement} {left : List Notice} {rest : List Observer}
    (interrupts : ∀ x ∈ later, x.Interrupts a.below)
    (frames : m.frames = .announcing a.device a.news none left rest :: a.below)
    (delivers : ∀ calls others, calls.map Event.outcome = noticed a.device a.news left →
      Delivers a.news a.device rest others →
      Delivers a.news a.device os (pieces a.below later ++ (calls ++ others))) :
    let x : Event := ⟨m, .advance, (m.make .advance).2⟩
    Halfway os a (later ++ [x]) (m.make .advance).1 ∨
      (m.make .advance).1.frames = a.below ∧ (∃ reply, x.outcome = .ends reply) ∧
        Delivers a.news a.device os (pieces a.below later) := by
  intro x
  have hmake : m.make .advance = ({ m with frames := a.below } : Machine).work
      (.announcing a.device a.news none left rest) := by
    simp only [make, Machine.advance, frames]
  have houtcome : x.outcome = (m.make .advance).2 := rfl
  -- the call is the innermost, so that what it does is a piece of the notification
  have hpiece : x.isPiece a.below = true := by
    simp only [x, Event.isPiece, frames, List.length_cons, decide_true]
  have hpieces : pieces a.below (later ++ [x]) = pieces a.below later ++ [x] :=
    pieces_concat_of_piece hpiece
  have hinterrupts : ∀ y ∈ later ++ [x], y.Interrupts a.below := by
    rw [List.forall_mem_append, List.forall_mem_singleton]
    refine ⟨interrupts, ?_⟩
    simp only [Event.Interrupts, x, frames, List.length_cons, Nat.lt_succ_self]
  rw [hmake] at houtcome ⊢
  cases left with
  | cons notice left =>
    -- the next subscriber is told, and the call is the first of those that were still to be made
    left
    refine ⟨hinterrupts, [], _, left, rest, rfl, ?_⟩
    intro calls others hcalls hothers
    rw [hpieces, List.append_assoc]
    refine delivers (x :: calls) others ?_ hothers
    rw [List.map_cons, hcalls, houtcome]
    rfl
  | nil =>
    cases rest with
    | cons o rest =>
      left
      cases o with
      -- an observer is told, by the event itself
      | custom tag =>
        refine ⟨hinterrupts, [], _, [], rest, rfl, ?_⟩
        intro calls others hcalls hothers
        obtain rfl := List.map_eq_nil_iff.1 hcalls
        rw [hpieces, List.append_assoc]
        exact delivers [] (x :: others) rfl (.custom houtcome hothers)
      | forwarder k =>
        -- its notices are made out to the subscribers of this moment
        refine ⟨hinterrupts, [], _, _, rest, rfl, ?_⟩
        intro calls others hcalls hothers
        rw [hpieces, List.append_assoc]
        exact delivers [] (x :: (calls ++ others)) rfl
          (.forwarder houtcome (hcalls.trans (x.forwards_eq k _ _).symm) hothers)
    | nil =>
      -- nobody is left
      right
      have htold : Delivers a.news a.device os (pieces a.below later) := by
        -- the calls that are left are none
        have := delivers [] [] rfl .done
        rwa [List.append_nil, List.append_nil] at this
      obtain ⟨hframes, hends⟩ := work_told { m with frames := a.below } a.device a.news
      exact ⟨hframes, houtcome ▸ hends, htold⟩

/-- A move keeps a notification that is in progress, or brings it to its end. -/
theorem Halfway.make {a : Announcement} (h : Halfway os a later m) (reachable : Reachable config m)
    (admitted : m.admits mv = true) :
    let x : Event := ⟨m, mv, (m.make mv).2⟩
    Halfway os a (later ++ [x]) (m.make mv).1 ∨
      (m.make mv).1.frames = a.below ∧ x.isPiece a.below = true ∧
        (∃ reply, x.outcome = .ends reply) ∧ Delivers a.news a.device os (pieces a.below later) := by
  intro x
  obtain ⟨hinterrupts, above, listener, left, rest, hframes, hdelivers⟩ := h
  have hinterrupts' : ∀ y ∈ later ++ [x], y.Interrupts a.below := by
    rw [List.forall_mem_append, List.forall_mem_singleton]
    refine ⟨hinterrupts, ?_⟩
    simp only [Event.Interrupts, x, hframes, List.length_append, List.length_cons]
    omega
  have hprogress := reachable.progress admitted
  -- a move that is not a piece of work leaves the frame where it is
  have hstays (listener' : Option Listener) (other : x.isPiece a.below = false)
      (hsuffix : .announcing a.device a.news listener' left rest :: a.below <:+
        (m.make mv).1.frames) : Halfway os a (later ++ [x]) (m.make mv).1 := by
    obtain ⟨above', habove⟩ := hsuffix
    refine ⟨hinterrupts', above', listener', left, rest, habove.symm, ?_⟩
    rw [pieces_concat_of_other other]
    exact hdelivers
  cases above with
  | cons f above =>
    -- another call is in progress above
    left
    refine hstays listener ?_ (hprogress.suffix (Or.inl ⟨above, by rw [hframes]; rfl⟩))
    cases mv with
    | call | answer | resume => rfl
    | advance =>
      refine decide_eq_false ?_
      simp only [x, hframes, List.length_append, List.length_cons]
      omega
  | nil =>
    -- the call that tells the news is the innermost
    rw [List.nil_append] at hframes
    cases mv with
    | call c =>
      exact Or.inl (hstays listener rfl (hprogress.suffix (Or.inr ⟨rfl, by rw [hframes]⟩)))
    | resume i =>
      exact Or.inl (hstays listener rfl (hprogress.suffix (Or.inr ⟨rfl, by rw [hframes]⟩)))
    | answer ans =>
      left
      cases listener with
      | none => simp [admits, callback?, hframes, Frame.callback?] at admitted
      | some l =>
        refine hstays none rfl ⟨[], ?_⟩
        simp only [Machine.make, answer, hframes, answered]
        rfl
    | advance =>
      cases listener with
      | some l => simp [admits, isOpen, hframes, Frame.callback?] at admitted
      | none =>
        have hpiece : x.isPiece a.below = true := by
          simp only [x, Event.isPiece, hframes, List.length_cons, decide_true]
        refine (Halfway.advance hinterrupts hframes hdelivers).imp id ?_
        exact fun hover => ⟨hover.1, hpiece, hover.2⟩

/-! ## A notification along a run -/

/-- The two ways in which notifications begin. -/
theorem Event.announces?_eq_some_iff {a : Announcement} : e.announces? = some a ↔
    (∃ id, e.move = .call (.remove id) ∧ e.before.registry.device? id = some a.device ∧
      a = ⟨a.device, .removed, e.before.frames⟩) ∨
    ∃ cursor, e.move = .advance ∧ e.before.frames = .installing a.device cursor none :: a.below ∧
      e.before.registry.applTable.next? cursor = none ∧ a = ⟨a.device, .added, a.below⟩ := by
  unfold announces?
  constructor
  · intro announces
    split at announces
    · rename_i id hmove
      obtain ⟨d, hdevice, rfl⟩ := Option.map_eq_some_iff.1 announces
      exact Or.inl ⟨id, hmove, hdevice, rfl⟩
    · rename_i hmove
      split at announces
      · rename_i d cursor below hframes
        split at announces
        · rename_i hnext
          cases announces
          exact Or.inr ⟨cursor, hmove, hframes, Option.isNone_iff_eq_none.1 hnext, rfl⟩
        · cases announces
      · cases announces
    · cases announces
  · rintro (⟨id, hmove, hdevice, ha⟩ | ⟨cursor, hmove, hframes, hnext, ha⟩)
    · simp only [hmove, hdevice, Option.map_some]
      rw [ha]
    · simp only [hmove, hframes, hnext, Option.isNone_none, if_true]
      rw [ha]

/-- A notification begins with all who are attached then, and nothing has been said. -/
theorem Event.frames_announces {a : Announcement} (announces : e.announces? = some a) :
    (e.before.make e.move).1.frames =
      .announcing a.device a.news none [] e.before.registry.observers.current :: a.below := by
  rcases announces?_eq_some_iff.1 announces with
    ⟨id, hmove, hdevice, ha⟩ | ⟨cursor, hmove, hframes, hnext, ha⟩
  · obtain ⟨table, hremoved⟩ := Roster.remove?_of_get? hdevice
    rw [hmove, ha]
    simp only [Machine.make, call, Registry.retireDevice?, hremoved]
    rfl
  · rw [hmove, ha]
    simp only [Machine.make, Machine.advance, hframes, work, hnext]
    rfl

/-- A notification that has begun is in progress or over. -/
theorem Run.halfway (run : Run config history m) (split : history = h₁ ++ e :: h₂)
    {a : Announcement} (announces : e.announces? = some a) :
    Halfway e.before.registry.observers.current a h₂ m ∨
      Delivered e.before.registry.observers.current a h₂ ∧
        (m.frames = a.below ∨ ∃ x ∈ h₂, ¬x.Interrupts a.below) := by
  -- along the run from the beginning of the notification on, which `Halfway` carries to its end
  induction run generalizing h₂ with
  | new => simp at split
  | @move history m mv run admitted ih =>
    rcases append_singleton_eq_split split with ⟨-, rfl, rfl⟩ | ⟨h₃, hsplit, rfl⟩
    · left
      refine ⟨by simp, [], none, [], _, Event.frames_announces announces, ?_⟩
      intro calls others hcalls hothers
      obtain rfl := List.map_eq_nil_iff.1 hcalls
      exact hothers
    · rcases ih hsplit with hhalf | ⟨⟨during, last, after, rfl, hover⟩, hleft⟩
      · rcases hhalf.make run.reachable admitted with hhalf' | ⟨hframes, hpiece, hends, hdelivers⟩
        · exact Or.inl hhalf'
        · exact Or.inr ⟨⟨h₃, _, [], rfl, hhalf.interrupts, hdelivers, hpiece, hends⟩, Or.inl hframes⟩
      · right
        refine ⟨⟨during, last, after ++ [⟨m, mv, (m.make mv).2⟩], by simp, hover⟩, Or.inr ?_⟩
        rcases hleft with hframes | ⟨x, hx, hout⟩
        · refine ⟨⟨m, mv, (m.make mv).2⟩, by simp, ?_⟩
          simp only [Event.Interrupts, hframes, Nat.lt_irrefl, not_false_eq_true]
        · exact ⟨x, List.mem_append_left _ hx, hout⟩

/-- **A notification reaches those who were attached when it began.** -/
theorem Run.notified (run : Run config history m) (split : history = h₁ ++ e :: h₂)
    {a : Announcement} (announces : e.announces? = some a) :
    Delivering e.before.registry.observers.current a h₂ m ∨
      Delivered e.before.registry.observers.current a h₂ :=
  (run.halfway split announces).imp Halfway.delivering And.left

/-- A notification is delivered when the calls that it interrupts go on. -/
theorem Run.delivered (run : Run config history m) (split : history = h₁ ++ e :: h₂)
    {a : Announcement} (announces : e.announces? = some a)
    (goesOn : m.frames.length ≤ a.below.length) :
    Delivered e.before.registry.observers.current a h₂ :=
  (run.notified split announces).resolve_left fun h => Nat.not_lt.2 goesOn h.inProgress

/-- A notification that begins inside another interrupts it. -/
theorem Run.inner_deeper (run : Run config history m) (split : history = h₁ ++ e :: h₂)
    {a : Announcement} (announces : e.announces? = some a)
    (interrupts : ∀ y ∈ h₂, y.Interrupts a.below) (inProgress : a.below.length < m.frames.length)
    {a' : Announcement} (announces' : Event.announces? ⟨m, mv, (m.make mv).2⟩ = some a') :
    a.below.length < a'.below.length := by
  have hhalf : Halfway e.before.registry.observers.current a h₂ m := by
    refine (run.halfway split announces).resolve_right ?_
    rintro ⟨-, hframes | ⟨x, hx, hout⟩⟩
    · rw [hframes] at inProgress
      exact Nat.lt_irrefl _ inProgress
    · exact hout (interrupts x hx)
  obtain ⟨-, above, listener, left, rest, hframes, -⟩ := hhalf
  rcases Event.announces?_eq_some_iff.1 announces' with
    ⟨id, -, -, ha⟩ | ⟨cursor, -, hinstalling, -, -⟩
  · rw [ha]
    exact inProgress
  · -- the call that installs the other device is not the one that it interrupts
    have hinstalling : m.frames = .installing a'.device cursor none :: a'.below := hinstalling
    rw [hframes] at hinstalling
    cases above with
    | nil => cases hinstalling
    | cons f above =>
      have hlength := congrArg List.length hinstalling
      simp only [List.length_append, List.length_cons] at hlength
      omega

/-- **What is caused inside a notification is delivered before the notification goes on.** -/
theorem Run.delivered_inside (run : Run config history m)
    (split : history = h₁ ++ e :: (h₂ ++ x :: h₃)) {a : Announcement}
    (announces : e.announces? = some a) (interrupts : ∀ y ∈ h₂, y.Interrupts a.below)
    (piece : x.isPiece a.below = true) {i₁ i₂ : List Event} {e' : Event}
    (inside : h₂ = i₁ ++ e' :: i₂) {a' : Announcement} (announces' : e'.announces? = some a') :
    Delivered e'.before.registry.observers.current a' i₂ := by
  subst inside
  have hsplit : history = (h₁ ++ e :: (i₁ ++ e' :: i₂)) ++ x :: h₃ := by rw [split]; simp
  have hrun := run.before hsplit
  -- seen from the later notification, the earlier one is in progress still
  have hsplit' : h₁ ++ e :: (i₁ ++ e' :: i₂) = (h₁ ++ e :: i₁) ++ e' :: i₂ := by simp
  have hinner := hrun.before hsplit'
  obtain ⟨-, -, houtcome⟩ := hrun.event (e := e') (by simp)
  have hbegins : Event.announces? ⟨e'.before, e'.move, (e'.before.make e'.move).2⟩ = some a' := by
    rw [← houtcome]
    exact announces'
  have hdeeper : a.below.length < a'.below.length :=
    hinner.inner_deeper rfl announces (fun y hy => interrupts y (by simp [hy]))
      (interrupts e' (by simp)) hbegins
  refine hrun.delivered hsplit' announces' ?_
  unfold Event.isPiece at piece
  split at piece
  · rw [of_decide_eq_true piece]
    exact hdeeper
  · cases piece

/-! ## Nobody else is told -/

/-- A call that tells news has told them before, or the notification begins. -/
theorem Reachable.announced_make (h : Reachable config m) (admitted : m.admits mv = true)
    {listener : Option Listener} {left : List Notice} {rest : List Observer}
    (telling : .announcing d news listener left rest :: below <:+ (m.make mv).1.frames) :
    (∃ listener left rest, .announcing d news listener left rest :: below <:+ m.frames) ∨
      Event.announces? ⟨m, mv, (m.make mv).2⟩ = some ⟨d, news, below⟩ := by
  have step := h.step admitted
  have hafter : (m.make mv).1.frames = (m.make mv).1.ledger.frames := rfl
  rw [hafter] at telling
  generalize ho : (m.make mv).2 = o at step
  generalize (m.make mv).1.ledger = t at step telling
  cases step with
  -- nothing is entered
  | still | freed | releaseLater => exact Or.inl ⟨_, _, _, telling⟩
  -- a call ends or takes itself off, and those below have been there
  | woken frames | registered frames | announced frames | removed frames | removeLater frames
      | released frames | sent frames =>
    have hframes : m.frames = _ := frames
    rw [hframes]
    exact Or.inl ⟨_, _, _, telling.trans (List.suffix_cons ..)⟩
  -- a call that begins tells no news
  | wake | install | register | release | send | unwound =>
    rcases List.suffix_cons_iff.1 telling with heq | hbelow
    · cases heq
    · exact Or.inl ⟨_, _, _, hbelow⟩
  -- a walk stays a walk
  | @ask w _ _ _ _ _ _ frames | @skip w _ _ _ _ _ frames | @accept w _ _ _ frames
      | @decline w _ _ _ frames =>
    have hframes : m.frames = _ := frames
    rcases List.suffix_cons_iff.1 telling with heq | hbelow
    · cases w <;> cases heq
    · rw [hframes]
      exact Or.inl ⟨_, _, _, hbelow.trans (List.suffix_cons ..)⟩
  | passOver frames | bid frames | bidden frames =>
    have hframes : m.frames = _ := frames
    rcases List.suffix_cons_iff.1 telling with heq | hbelow
    · cases heq
    · rw [hframes]
      exact Or.inl ⟨_, _, _, hbelow.trans (List.suffix_cons ..)⟩
  -- it has told of the device before
  | tell frames =>
    have hframes : m.frames = _ := frames
    rw [hframes]
    rcases List.suffix_cons_iff.1 telling with heq | hbelow
    · cases heq
      exact Or.inl ⟨_, _, _, List.suffix_refl _⟩
    · exact Or.inl ⟨_, _, _, hbelow.trans (List.suffix_cons ..)⟩
  -- a removal begins with its news
  | remove removed =>
    rcases List.suffix_cons_iff.1 telling with heq | hbelow
    · cases heq
      obtain ⟨⟨serial, hentry⟩, -⟩ := Roster.entry_remove? removed
      have hdevice : m.registry.deviceTable.get? _ = some d :=
        Roster.get?_eq_some_iff.2 ⟨serial, hentry⟩
      exact Or.inr (Event.announces?_eq_some_iff.2 (Or.inl ⟨_, rfl, hdevice, rfl⟩))
    · exact Or.inl ⟨_, _, _, hbelow⟩
  -- the walk of an installation is over, and the news begin
  | installed frames next =>
    have hframes : m.frames = _ := frames
    rcases List.suffix_cons_iff.1 telling with heq | hbelow
    · cases heq
      exact Or.inr (Event.announces?_eq_some_iff.2 (Or.inr ⟨_, rfl, hframes, next, rfl⟩))
    · rw [hframes]
      exact Or.inl ⟨_, _, _, hbelow.trans (List.suffix_cons ..)⟩

/-- Whatever tells news belongs to a notification that has begun and is not over. -/
theorem Run.announced (run : Run config history m) {listener : Option Listener}
    {left : List Notice} {rest : List Observer}
    (telling : .announcing d news listener left rest :: below <:+ m.frames) :
    ∃ h₁ e h₂, history = h₁ ++ e :: h₂ ∧ e.announces? = some ⟨d, news, below⟩ ∧
      ∀ y ∈ h₂, y.Interrupts below := by
  induction run generalizing listener left rest with
  | new => exact absurd (List.suffix_nil.1 telling) (List.cons_ne_nil _ _)
  | @move history m mv run admitted ih =>
    rcases run.reachable.announced_make admitted telling with
      ⟨listener', left', rest', hbefore⟩ | hannounces
    · obtain ⟨h₁, e, h₂, rfl, hannounces, hinterrupts⟩ := ih hbefore
      refine ⟨h₁, e, h₂ ++ [⟨m, mv, (m.make mv).2⟩], by simp, hannounces, ?_⟩
      rw [List.forall_mem_append, List.forall_mem_singleton]
      exact ⟨hinterrupts, Nat.lt_of_lt_of_le (Nat.lt_succ_self _) hbefore.length_le⟩
    · exact ⟨history, _, [], rfl, hannounces, by simp⟩

/-- An event that tells news is a piece of work of the call that tells them. -/
theorem Reachable.piece_of_asks (h : Reachable config m) (admitted : m.admits mv = true)
    {l : Listener} (asks : (m.make mv).2 = .asks (.news l news d)) :
    mv = .advance ∧ ∃ left rest below, m.frames = .announcing d news none left rest :: below := by
  have step := h.step admitted
  rw [asks] at step
  generalize (m.make mv).1.ledger = t at step
  cases step with
  | @tell d' news' listener _ left _ rest _ below frames _ _ goesOn outcome =>
    have hframes : m.frames = .announcing d' news' listener left rest :: below := frames
    rcases outcome with ho | ⟨l', ho⟩
    · cases ho
    · cases ho
      rcases goesOn with rfl | ⟨ans, rfl⟩
      · cases listener with
        | some l => simp [admits, isOpen, hframes, Frame.callback?] at admitted
        | none => exact ⟨rfl, _, _, _, hframes⟩
      · cases listener with
        | none => simp [admits, callback?, hframes, Frame.callback?] at admitted
        | some l =>
          simp only [Machine.make, answer, hframes, answered] at asks
          cases asks

end Machine

/-! ## Installations -/

/-- Whether a reply says that a device has been installed. -/
def Reply.isInstalled : Reply → Bool
  | installed (.ok _) => true
  | _ => false

namespace Reply

variable (origin : Origin)

/-- A reply to a registration installs no device. -/
@[simp] theorem isInstalled_ofRegistered (r : Except RegisterFault ApplId) :
    (ofRegistered origin r).isInstalled = false := by cases origin <;> rfl

/-- A reply to a release installs no device. -/
@[simp] theorem isInstalled_ofReleased (r : Except MessageFault (Option MessageFault)) :
    (ofReleased origin r).isInstalled = false := by cases origin <;> rfl

/-- A reply to a put installs no device. -/
@[simp] theorem isInstalled_ofSent (r : Except MessageFault Unit) :
    (ofSent origin r).isInstalled = false := by cases origin <;> rfl

/-- A reply to a get installs no device. -/
@[simp] theorem isInstalled_ofReceived (r : Except MessageFault Message) :
    (ofReceived origin r).isInstalled = false := by cases origin <;> rfl

/-- A reply to a setting of the handler installs no device. -/
@[simp] theorem isInstalled_ofHandlerSet (r : Except MessageFault Unit) :
    (ofHandlerSet origin r).isInstalled = false := by cases origin <;> rfl

end Reply

/-- Whether something ends with the installation of a device. -/
def Outcome.isInstalled : Outcome → Bool
  | ends reply => reply.isInstalled
  | _ => false

namespace Machine

section Replies

variable (m : Machine) (origin : Origin) (id : ApplId)

/-- A call that goes on has not installed a device. -/
@[simp] theorem isInstalled_enter (f : Frame) : (m.enter f).2.isInstalled = false := by
  show f.outcome.isInstalled = false
  unfold Frame.outcome
  cases f.callback? <;> rfl

/-- A call that ends has installed a device when its reply says so. -/
@[simp] theorem isInstalled_finish (reply : Reply) :
    (m.finish reply).2.isInstalled = reply.isInstalled := rfl

/-- The end of a wake-up installs no device. -/
@[simp] theorem isInstalled_woken (w : Wake) : (m.woken w).2.isInstalled = false := by
  cases w <;> rfl

/-- Waking an application installs no device. -/
@[simp] theorem isInstalled_wake (a : Nat) (w : Wake) : (m.wake a w).2.isInstalled = false := by
  unfold wake
  split <;> simp

/-- The opening of a registration installs no device. -/
@[simp] theorem isInstalled_register (params : RegisterParams) :
    (m.register origin params).2.isInstalled = false := by
  unfold register
  split <;> simp

/-- The opening of a release installs no device. -/
@[simp] theorem isInstalled_release : (m.release origin id).2.isInstalled = false := by
  unfold release closeAppl
  split
  · simp
  · dsimp only
    split
    · exact isInstalled_enter _ _
    · rfl

/-- The opening of a put installs no device. -/
@[simp] theorem isInstalled_send (msg : Message) : (m.send origin id msg).2.isInstalled = false := by
  unfold send
  split <;> simp

/-- A get installs no device. -/
@[simp] theorem isInstalled_receive : (m.receive origin id).2.isInstalled = false := by
  unfold receive
  split <;> simp

/-- Setting a handler installs no device. -/
@[simp] theorem isInstalled_setHandler (h : Option SignalHandler) :
    (m.setHandler origin id h).2.isInstalled = false := by
  unfold setHandler
  split <;> simp

/-- No call of a facade ends at once with an installation. -/
@[simp] theorem isInstalled_facadeCall (k : Nat) (f : Facade) (fc : FacadeCall) :
    (m.facadeCall k f fc).2.isInstalled = false := by
  cases fc with
  | register params => exact m.isInstalled_register _ _
  | subscribe | unsubscribe => rfl
  | release | send | receive | setHandler =>
    simp only [facadeCall]
    split <;> simp

/-- No call ends at once with an installation. -/
theorem isInstalled_call (c : Call) : (m.call c).2.isInstalled = false := by
  cases c with
  | install | remove =>
    simp only [call]
    split
    · rfl
    · exact isInstalled_enter _ _
  | register | release | send | receive | setHandler | signal | signalError => simp [call]
  | enqueue | deliver | facade =>
    simp only [call]
    split
    · rfl
    · simp
  | attach | detach | openFacade => rfl
  | closeFacade k =>
    simp only [call]
    split <;> rfl

end Replies

/-- A device is installed when its installation has been told. -/
theorem Reachable.told_of_installed (h : Reachable config m) (admitted : m.admits mv = true)
    {id : DeviceId} (installed : (m.make mv).2 = .ends (.installed (.ok id))) :
    mv = .advance ∧ ∃ d below, m.frames = .announcing d .added none [] [] :: below ∧
      (m.registry.devices.get d).id = id := by
  have hinstalled : (m.make mv).2.isInstalled = true := by
    rw [installed]
    rfl
  have step := h.step admitted
  rw [installed] at step
  generalize (m.make mv).1.ledger = t at step
  -- the other ways of ending have replies of their own
  cases step with
  | still c =>
    rw [Machine.make, isInstalled_call] at hinstalled
    cases hinstalled
  | woken frames | sent frames =>
    have hframes : m.frames = _ := frames
    simp [Machine.make, answer, hframes, answered] at hinstalled
  | @registered a origin c fs frames next =>
    have hframes : m.frames = .registering a origin c none :: fs := frames
    have hnext : m.registry.deviceTable.next? c = none := next
    simp [Machine.make, Machine.advance, hframes, work, hnext] at hinstalled
  | released frames =>
    have hframes : m.frames = _ := frames
    simp [Machine.make, Machine.advance, hframes, work] at hinstalled
  | tell _ _ outcome => rcases outcome with ho | ⟨l, ho⟩ <;> cases ho
  | @announced d below frames =>
    have hframes : m.frames = .announcing d .added none [] [] :: below := frames
    simp only [Machine.make, Machine.advance, hframes, work, finish] at installed
    cases installed
    exact ⟨rfl, d, below, hframes, rfl⟩

/-! ## Exactly those who are attached -/

/-- Those who are told of what happens after a history. -/
def audience (history : List Event) : List Observer := (attending history).map Prod.snd

/-- The observers attached now are the audience of the history. -/
theorem Attended.current (h : Attended history m) :
    m.registry.observers.current = audience history := by
  rw [Observers.current, h.observers, audience]

/-- Every notification reaches those who are attached when it begins, each once and in order, and
nobody else is told. What is caused inside a notification is delivered before it goes on. A device
is not installed before that has been told. -/
structure NotifiedExactly (history : List Event) (m : Machine) : Prop where
  notified : ∀ h₁ e h₂ a, history = h₁ ++ e :: h₂ → e.announces? = some a →
    Delivering (audience h₁) a h₂ m ∨ Delivered (audience h₁) a h₂
  inside : ∀ h₁ e h₂ x h₃ a, history = h₁ ++ e :: (h₂ ++ x :: h₃) → e.announces? = some a →
    (∀ y ∈ h₂, y.Interrupts a.below) → x.isPiece a.below = true →
    ∀ i₁ e' i₂ a', h₂ = i₁ ++ e' :: i₂ → e'.announces? = some a' →
      Delivered (audience (h₁ ++ e :: i₁)) a' i₂
  only : ∀ h₁ x h₂ l news d, history = h₁ ++ x :: h₂ → x.outcome = .asks (.news l news d) →
    ∃ i₁ e i₂ below, h₁ = i₁ ++ e :: i₂ ∧ e.announces? = some ⟨d, news, below⟩ ∧
      (∀ y ∈ i₂, y.Interrupts below) ∧ x.isPiece below = true
  installed : ∀ h₁ x h₂ id, history = h₁ ++ x :: h₂ → x.outcome = .ends (.installed (.ok id)) →
    ∃ i₁ e i₂ a, h₁ = i₁ ++ e :: i₂ ∧ e.announces? = some a ∧ a.news = .added ∧
      (x.before.registry.devices.get a.device).id = id ∧ Delivered (audience i₁) a (i₂ ++ [x])

/-- An identity that is detached takes off its observer and nobody else, and the answer is yes the
first time only; a name takes off all subscribers that have it and nobody else. -/
structure DetachedExactly (history : List Event) : Prop where
  observer : ∀ e ∈ history, ∀ id, e.move = .call (.detach id) → DetachesObserver e id
  once : ∀ h₁ e h₂ e' h₃ tag id, history = h₁ ++ e :: (h₂ ++ e' :: h₃) →
    e.move = .call (.attach tag) → e.outcome = .ends (.attached id) →
    e'.move = .call (.detach id) →
      (e'.outcome = .ends (.flag true) ↔ ∀ x ∈ h₂, x.move ≠ .call (.detach id))
  name : ∀ e ∈ history, ∀ k name, e.move = .call (.facade k (.unsubscribe name)) →
    (e.before.registry.facade? k).isSome = true → UnsubscribesName e k name

/-- News that are told belong to a notification that has begun and is not over. -/
theorem Run.asks_inside (run : Run config history m) (split : history = h₁ ++ x :: h₂)
    {l : Listener} (asks : x.outcome = .asks (.news l news d)) :
    ∃ i₁ e i₂ below, h₁ = i₁ ++ e :: i₂ ∧ e.announces? = some ⟨d, news, below⟩ ∧
      (∀ y ∈ i₂, y.Interrupts below) ∧ x.isPiece below = true := by
  obtain ⟨hreach, hadmitted, houtcome⟩ := run.event (e := x) (by simp [split])
  obtain ⟨hmove, left, rest, below, hframes⟩ :=
    hreach.piece_of_asks hadmitted (houtcome.symm.trans asks)
  have htop : .announcing d news none left rest :: below <:+ x.before.frames := by rw [hframes]
  obtain ⟨i₁, e, i₂, hsplit, hannounces, hinterrupts⟩ := (run.before split).announced htop
  refine ⟨i₁, e, i₂, below, hsplit, hannounces, hinterrupts, ?_⟩
  simp only [Event.isPiece, hmove, hframes, List.length_cons, decide_true]

/-- A device is not installed before its installation has been told. -/
theorem Run.installed_delivered (run : Run config history m) (split : history = h₁ ++ x :: h₂)
    {id : DeviceId} (installed : x.outcome = .ends (.installed (.ok id))) :
    ∃ i₁ e i₂ a, h₁ = i₁ ++ e :: i₂ ∧ e.announces? = some a ∧ a.news = .added ∧
      (x.before.registry.devices.get a.device).id = id ∧
      Delivered e.before.registry.observers.current a (i₂ ++ [x]) := by
  obtain ⟨hreach, hadmitted, houtcome⟩ := run.event (e := x) (by simp [split])
  obtain ⟨hmove, d, below, hframes, hid⟩ :=
    hreach.told_of_installed hadmitted (houtcome.symm.trans installed)
  have htop : .announcing d .added none [] [] :: below <:+ x.before.frames := by rw [hframes]
  have hrun := run.before split
  obtain ⟨i₁, e, i₂, rfl, hannounces, -⟩ := hrun.announced htop
  refine ⟨i₁, e, i₂, _, rfl, hannounces, rfl, hid, ?_⟩
  have hmoved := hrun.move x.move hadmitted
  rw [← houtcome] at hmoved
  have hsplit : i₁ ++ e :: i₂ ++ [x] = i₁ ++ e :: (i₂ ++ [x]) := by simp
  refine hmoved.delivered hsplit hannounces ?_
  simp only [hmove, Machine.make, Machine.advance, hframes]
  exact Nat.le_of_eq (congrArg List.length (work_told _ d .added).1)

/-- **Notifications are unaffected by what is attached and detached while they run.** In every run
the observers and the subscribers of each facade are those who have been attached and not been
detached since. Each notification tells the observers that are attached when it begins, each once
and in the order of attachment, and a forwarder among them calls the subscribers that its facade has
when it is called, each once and the latest first; nobody else is told, and notifications that begin
in between are delivered before it goes on. An identity that is detached takes off one observer,
once, and a name all subscribers that have it. -/
theorem notifications_exact (run : Run config history m) :
    (Attended history m ∧ ∀ h₁ e h₂, history = h₁ ++ e :: h₂ → Attended h₁ e.before) ∧
      NotifiedExactly history m ∧ DetachedExactly history := by
  have hattended : ∀ h₁ e h₂, history = h₁ ++ e :: h₂ → Attended h₁ e.before :=
    fun h₁ e h₂ split => (run.before split).attended
  refine ⟨⟨run.attended, hattended⟩, ⟨?_, ?_, ?_, ?_⟩, ?_, ?_, ?_⟩
  -- a notification
  · intro h₁ e h₂ a split announces
    rw [← (hattended h₁ e h₂ split).current]
    exact run.notified split announces
  -- one that begins inside it
  · intro h₁ e h₂ x h₃ a split announces interrupts piece i₁ e' i₂ a' inside announces'
    have hsplit : history = (h₁ ++ e :: i₁) ++ e' :: (i₂ ++ x :: h₃) := by simp [split, inside]
    rw [← (hattended _ e' _ hsplit).current]
    exact run.delivered_inside split announces interrupts piece inside announces'
  -- everybody who is told is told by one
  · intro h₁ x h₂ l news d split asks
    exact run.asks_inside split asks
  -- an installation that ends has been told
  · intro h₁ x h₂ id split installed
    obtain ⟨i₁, e, i₂, a, rfl, hannounces, hnews, hid, hdelivered⟩ :=
      run.installed_delivered split installed
    refine ⟨i₁, e, i₂, a, rfl, hannounces, hnews, hid, ?_⟩
    rw [← (hattended i₁ e (i₂ ++ x :: h₂) (by simp [split])).current]
    exact hdelivered
  -- what is detached
  · exact fun e he id detaches => run.detachesObserver he detaches
  · intro h₁ e h₂ e' h₃ tag id split attaches attached detaches
    exact run.detaches_once split attaches attached detaches
  · exact fun e he k name unsubscribes isOpen => run.unsubscribesName he unsubscribes isOpen

/-- Two observers, and between them a facade with two subscribers, wait for a device. -/
def gathering : List Move :=
  [.call (.attach 1), .call .openFacade, .call (.facade 0 (.subscribe ⟨"a", 10⟩)),
    .call (.facade 0 (.subscribe ⟨"b", 11⟩)), .call (.attach 2),
    .call (.install ⟨"maker", "serial", "profile", default, default⟩ 0)]

/-- From inside its callback the first observer detaches the second and attaches a third. -/
def meddling : List Move := [.advance, .call (.detach ⟨2⟩), .call (.attach 3)]

/-- A removal is told. While it is told, the second subscriber removes the first. Then the second
observer is detached again, in vain, and the callback returns from inside which it was all done. -/
def removing : List Move :=
  [.advance, .answer .agree, .advance, .advance, .call (.facade 0 (.unsubscribe "a")),
    .answer .agree, .advance, .answer .agree, .advance, .answer .agree, .advance,
    .call (.detach ⟨2⟩), .answer .agree]

/-- The installation goes on to its end. -/
def remaining : List Move := [.advance, .answer .agree, .advance, .answer .agree, .advance]

/-- Whoever is called back with news by an event, and with which. -/
def Event.called? (e : Event) : Option (Listener × News) :=
  match e.outcome with
  | .asks (.news l news _) => some (l, news)
  | _ => none

/-- While an installation is told, an observer detaches another, attaches a third and removes the
device. The installation is told to those who were attached when it came to be told, and the
removal, before that goes on, to those who were attached then. The facade tells the removal to both
of its subscribers, the latest first, although one removes the other meanwhile; and when its turn
comes to tell the installation it has one subscriber left, and the device has no profile now. -/
theorem notifications_exact_meddling :
    let m := (Machine.new ⟨2, 2⟩).after gathering
    let told := (m.make .advance).1
    let inner := told.after meddling
    let moves := (meddling ++ .call (.remove default) :: removing) ++ .advance :: remaining
    Run ⟨2, 2⟩ ((Machine.new ⟨2, 2⟩).events (gathering ++ .advance :: moves)) (told.after moves) ∧
    Event.announces? ⟨m, .advance, (m.make .advance).2⟩ = some ⟨0, .added, []⟩ ∧
    Delivered [.custom 1, .forwarder 0, .custom 2] ⟨0, .added, []⟩ (told.events moves) ∧
    Delivered [.custom 1, .forwarder 0, .custom 3] ⟨0, .removed, inner.frames⟩
      ((inner.make (.call (.remove default))).1.events removing) ∧
    (told.events moves).filterMap Event.called? =
      [(.observer 1, .added), (.observer 1, .removed),
        (.subscriber ⟨0, ⟨"b", 11⟩, .removed, 1, none⟩, .removed),
        (.subscriber ⟨0, ⟨"a", 10⟩, .removed, 1, none⟩, .removed), (.observer 3, .removed),
        (.subscriber ⟨0, ⟨"b", 11⟩, .added, 1, none⟩, .added), (.observer 2, .added)] := by
  intro m told inner moves
  have hrun := Run.of_moves ⟨2, 2⟩ (gathering ++ .advance :: moves) (by decide +kernel)
  rw [after_append_cons, events_append_cons] at hrun
  have hannounces : Event.announces? ⟨m, .advance, (m.make .advance).2⟩ =
      some ⟨0, .added, []⟩ := by decide +kernel
  obtain ⟨-, hnotified, -⟩ := notifications_exact hrun
  refine ⟨?_, hannounces, ?_, ?_, by decide +kernel⟩
  · rw [events_append_cons]
    exact hrun
  -- the installation's notification has ended, since no call is in progress
  · have haudience : audience ((Machine.new ⟨2, 2⟩).events gathering) =
        [.custom 1, .forwarder 0, .custom 2] := by decide +kernel
    have hframes : (told.after moves).frames.length = 0 := by decide +kernel
    rw [← haudience]
    refine (hnotified.notified _ _ _ _ rfl hannounces).resolve_left fun hdelivering => ?_
    exact absurd hdelivering.inProgress (Nat.not_lt.2 (Nat.le_of_eq hframes))
  -- the removal's notification has ended before the installation's goes on
  · have hmoves := told.events_append_cons (meddling ++ .call (.remove default) :: removing)
      remaining .advance
    have hinside := told.events_append_cons meddling removing (.call (.remove default))
    have haudience : audience ((Machine.new ⟨2, 2⟩).events gathering ++
        ⟨m, .advance, (m.make .advance).2⟩ :: told.events meddling) =
        [.custom 1, .forwarder 0, .custom 3] := by decide +kernel
    rw [← haudience]
    exact hnotified.inside _ _ _ _ _ _ (congrArg _ (congrArg _ hmoves)) hannounces
      (by decide +kernel) (by decide +kernel) _ _ _ _ hinside (by decide +kernel)

end Machine

end Switchboard
