import Switchboard.Proofs.Ledger.Invariant
import Switchboard.Proofs.Panel

/-! # What a move does to the news

News about a device are told by calls in progress: one that installs a device tells of its
installation once its walk is over, and one that removes a device begins with the news. A machine's
`reports` are what its calls have still to say, and `NewsStep` lists all that one move can do to
them. -/

namespace Switchboard

/-- One who is told about devices for as long as it is attached: an observer, or a subscriber of a
facade. -/
inductive Party where
  | observer (tag : Nat)
  | subscriber (facade : Nat) (s : Subscriber)
deriving DecidableEq

/-- The party that a notice is for. -/
def Notice.party (n : Notice) : Party := .subscriber n.facade n.subscriber

/-- The party that is being told. -/
def Listener.party : Listener → Party
  | observer tag => .observer tag
  | subscriber notice => notice.party

/-- Whether a party is told through an observer. -/
def Observer.reaches : Observer → Party → Bool
  | custom tag, .observer tag' => tag = tag'
  | forwarder k, .subscriber k' _ => k = k'
  | _, _ => false

/-- The news that are told with an outcome: to whom, and about which device. -/
def Outcome.news? : Outcome → Option (Listener × News × Nat)
  | asks (.news l news d) => some (l, news, d)
  | _ => none

/-- Whether a party is told news about a device with an outcome. -/
def Outcome.tells (o : Outcome) (p : Party) (news : News) (d : Nat) : Bool :=
  match o.news? with
  | some (l, news', d') => l.party = p ∧ news' = news ∧ d' = d
  | none => false

/-- A listener that is called is told the news that it is called with, about that device. -/
theorem Outcome.tells_asks (l : Listener) (p : Party) (news news' : News) (d d' : Nat) :
    (asks (.news l news' d')).tells p news d = decide (l.party = p ∧ news' = news ∧ d' = d) := rfl

/-- One is told more with an outcome that tells it news, if any are about the device. -/
theorem Outcome.tells_add (l : Listener) (p : Party) (news news' : News) (d d' c : Nat) :
    ((asks (.news l news' d')).tells p news d).toNat + (if d' = d ∧ news' = news then c else 0) =
      if d' = d ∧ news' = news then c + (if decide (l.party = p) then 1 else 0) else 0 := by
  rw [tells_asks]
  by_cases hd : d' = d ∧ news' = news
  · by_cases hparty : l.party = p
    · simp [hd, hparty, Nat.add_comm]
    · simp [hd, hparty]
  · rw [if_neg hd, if_neg hd, decide_eq_false fun hall => hd ⟨hall.2.2, hall.2.1⟩]
    rfl

/-- An outcome with no news tells nobody. -/
theorem Outcome.tells_of_silent {o : Outcome} (h : o.news? = none) (p : Party) (news : News)
    (d : Nat) : o.tells p news d = false := by
  rw [tells, h]

/-- What a call in progress has still to say about a device: that it is there, once it has been
offered to the applications; or the news that it tells now, to those in `notices` and `rest`. -/
inductive Report where
  | offering (d : Nat)
  | telling (d : Nat) (news : News) (notices : List Notice) (rest : List Observer)

namespace Report

/-- The device that a report is about. -/
def device : Report → Nat
  | offering d => d
  | telling d _ _ _ => d

/-- The news that a report brings. -/
def news : Report → News
  | offering _ => .added
  | telling _ news _ _ => news

/-- The notices that a report is about to send. -/
def notices : Report → List Notice
  | offering _ => []
  | telling _ _ notices _ => notices

/-- How often a party that attends will be told with a report. -/
def unsaid (p : Party) : Report → Nat
  | offering _ => 1
  | telling _ _ notices rest => (notices.countP (·.party = p)) + rest.countP (·.reaches p)

/-- How often a party that attends will be told certain news about a device with a report. -/
def unsaidOf (p : Party) (news : News) (d : Nat) (r : Report) : Nat :=
  if r.device = d ∧ r.news = news then r.unsaid p else 0

/-- A device that is offered has still to be told of once, as added. -/
theorem unsaidOf_offering (p : Party) (news : News) (d d' : Nat) :
    (offering d').unsaidOf p news d = if d' = d ∧ .added = news then 1 else 0 := rfl

/-- An announcement has still to tell its news to the notices and the observers that are left. -/
theorem unsaidOf_telling (p : Party) (news news' : News) (d d' : Nat) (notices : List Notice)
    (rest : List Observer) :
    (telling d' news' notices rest).unsaidOf p news d = if d' = d ∧ news' = news then
      (notices.countP (·.party = p)) + rest.countP (·.reaches p) else 0 := rfl

end Report

/-- What a call in progress has still to say. -/
def Frame.report? : Frame → Option Report
  | installing d _ _ => some (.offering d)
  | announcing d news _ notices rest => some (.telling d news notices rest)
  | _ => none

/-- What a walk has still to say. -/
def Walk.report? : Walk → Option Report
  | ofDevice d => some (.offering d)
  | ofAppl _ _ => none

/-- A device's walk has still to say that the device is there. -/
@[simp] theorem Walk.report?_ofDevice (d : Nat) : (ofDevice d).report? = some (.offering d) := rfl

/-- An application's walk has nothing to say about a device. -/
@[simp] theorem Walk.report?_ofAppl (a : Nat) (o : Origin) : (ofAppl a o).report? = none := rfl

/-- A walk in progress has to say what the walk has. -/
@[simp] theorem Frame.report?_walk (w : Walk) (c : Cursor) (k : Option Nat) :
    (w.frame c k).report? = w.report? := by
  cases w <;> rfl

/-- An announcement has its news to say to those who are left. -/
@[simp] theorem Frame.report?_announcing (d : Nat) (news : News) (l : Option Listener)
    (ns : List Notice) (os : List Observer) :
    (announcing d news l ns os).report? = some (.telling d news ns os) := rfl

/-- A release has nothing to say about a device. -/
@[simp] theorem Frame.report?_releasing (a : Nat) (o : Origin) (l : Option Nat) (ds : List Nat) :
    (releasing a o l ds).report? = none := rfl

/-- A message under way has nothing to say about a device. -/
@[simp] theorem Frame.report?_sending (d a : Nat) (o : Origin) (m : Message) :
    (sending d a o m).report? = none := rfl

/-- A wake-up has nothing to say about a device. -/
@[simp] theorem Frame.report?_waking (a : Nat) (h : SignalHandler) (w : Wake) :
    (waking a h w).report? = none := rfl

namespace Machine

/-- What the calls in progress have still to say, innermost first. -/
def reports (m : Machine) : List Report := m.frames.filterMap Frame.report?

/-- Certain news about a device are being told by a call in progress, or will be. -/
def IsTelling (m : Machine) (news : News) (d : Nat) : Prop :=
  ∃ r ∈ m.reports, r.device = d ∧ r.news = news

instance (m : Machine) (news : News) (d : Nat) : Decidable (m.IsTelling news d) :=
  inferInstanceAs (Decidable (∃ r ∈ m.reports, _))

/-- No device arrives and none is retired. -/
structure SameDevices (m m' : Machine) : Prop where
  count : m'.ledger.deviceCount = m.ledger.deviceCount
  active : m'.ledger.deviceActive = m.ledger.deviceActive

/-- What one move can do to the reports, and what it leads to. -/
inductive NewsStep (m : Machine) : Move → Outcome → Machine → Prop where
  /-- Nothing is said. -/
  | quiet {mv : Move} {o : Outcome} {m' : Machine} (reports : m'.reports = m.reports)
      (silent : o.news? = none) (same : m.SameDevices m') : NewsStep m mv o m'
  /-- A device arrives. -/
  | offer {mv : Move} {o : Outcome} {m' : Machine}
      (reports : m'.reports = .offering m.registry.devices.size :: m.reports)
      (silent : o.news? = none) (count : m'.ledger.deviceCount = m.ledger.deviceCount + 1)
      (active : m'.ledger.deviceActive =
        Function.update m.ledger.deviceActive m.registry.devices.size true) : NewsStep m mv o m'
  /-- The walk of a device ends, and the news of its installation begin. -/
  | begin {mv : Move} {o : Outcome} {m' : Machine} {d : Nat} {rs : List Report}
      (before : m.reports = .offering d :: rs)
      (after : m'.reports = .telling d .added [] m.registry.observers.current :: rs)
      (silent : o.news? = none) (same : m.SameDevices m') : NewsStep m mv o m'
  /-- A device is retired, and the news of its removal begin. -/
  | retire {id : DeviceId} {o : Outcome} {m' : Machine} {d : Nat}
      (device : m.registry.device? id = some d)
      (reports : m'.reports = .telling d .removed [] m.registry.observers.current :: m.reports)
      (silent : o.news? = none) (count : m'.ledger.deviceCount = m.ledger.deviceCount)
      (active : m'.ledger.deviceActive = Function.update m.ledger.deviceActive d false) :
      NewsStep m (.call (.remove id)) o m'
  /-- A subscriber is told. -/
  | notify {mv : Move} {m' : Machine} {d : Nat} {news : News} {notice : Notice}
      {notices : List Notice} {rest : List Observer} {rs : List Report}
      (before : m.reports = .telling d news (notice :: notices) rest :: rs)
      (after : m'.reports = .telling d news notices rest :: rs) (same : m.SameDevices m') :
      NewsStep m mv (.asks (.news (.subscriber notice) news d)) m'
  /-- An observer is told. -/
  | tell {mv : Move} {m' : Machine} {d tag : Nat} {news : News} {rest : List Observer}
      {rs : List Report} (before : m.reports = .telling d news [] (.custom tag :: rest) :: rs)
      (after : m'.reports = .telling d news [] rest :: rs) (same : m.SameDevices m') :
      NewsStep m mv (.asks (.news (.observer tag) news d)) m'
  /-- A facade passes the news on to its subscribers. -/
  | forward {mv : Move} {o : Outcome} {m' : Machine} {d k : Nat} {news : News}
      {rest : List Observer} {rs : List Report}
      (before : m.reports = .telling d news [] (.forwarder k :: rest) :: rs)
      (after : m'.reports = .telling d news
        (notices m.registry k news (m.registry.devices.get d).id.number) rest :: rs)
      (silent : o.news? = none) (same : m.SameDevices m') : NewsStep m mv o m'
  /-- The news have been told. -/
  | done {mv : Move} {o : Outcome} {m' : Machine} {d : Nat} {news : News} {rs : List Report}
      (before : m.reports = .telling d news [] [] :: rs) (after : m'.reports = rs)
      (silent : o.news? = none) (same : m.SameDevices m') : NewsStep m mv o m'

variable {config : Config} {m m' : Machine} {mv : Move} {o : Outcome} {t : Ledger}

/-- The reports after a step of the ledger. -/
theorem reports_of_ledger (h : m'.ledger = t) : m'.reports = t.frames.filterMap Frame.report? :=
  congrArg (fun s => s.frames.filterMap Frame.report?) h

/-- A machine whose ledger has as many devices and the same active ones has the same devices. -/
theorem SameDevices.of_ledger (h : m'.ledger = t) (count : t.deviceCount = m.ledger.deviceCount)
    (active : t.deviceActive = m.ledger.deviceActive) : m.SameDevices m' := by
  subst h
  exact ⟨count, active⟩

/-- A move is quiet that leaves devices and reports alone and asks about something else. -/
theorem NewsStep.of_ledger (h : m'.ledger = t)
    (reports : t.frames.filterMap Frame.report? = m.frames.filterMap Frame.report?)
    (silent : o.news? = none) (count : t.deviceCount = m.ledger.deviceCount)
    (active : t.deviceActive = m.ledger.deviceActive) : NewsStep m mv o m' :=
  .quiet ((reports_of_ledger h).trans reports) silent (.of_ledger h count active)

/-- A call that tells news tells the next one, or has a facade pass them on. -/
theorem newsStep_advance {d : Nat} {news : News} {notices : List Notice} {rest : List Observer}
    {fs : List Frame} (frames : m.frames = .announcing d news none notices rest :: fs)
    (more : notices ≠ [] ∨ rest ≠ []) :
    NewsStep m .advance (m.make .advance).2 (m.make .advance).1 := by
  have hreports : m.reports = .telling d news notices rest :: fs.filterMap Frame.report? := by
    rw [reports, frames]
    rfl
  have hmake : m.make .advance =
      ({ m with frames := fs } : Machine).work (.announcing d news none notices rest) := by
    rw [make, advance, frames]
  rw [hmake]
  cases notices with
  | cons notice notices => exact .notify hreports rfl ⟨rfl, rfl⟩
  | nil =>
    cases rest with
    | nil => simp at more
    | cons observer rest =>
      cases observer with
      | custom tag => exact .tell hreports rfl ⟨rfl, rfl⟩
      | forwarder k => exact .forward hreports rfl rfl ⟨rfl, rfl⟩

/-- The news of an installation begin when the walk of the device is over. -/
theorem newsStep_installed {d : Nat} {c : Cursor} {fs : List Frame}
    (frames : m.frames = .installing d c none :: fs) (next : m.registry.applTable.next? c = none) :
    NewsStep m .advance .works (m.make .advance).1 := by
  have hreports : m.reports = .offering d :: fs.filterMap Frame.report? := by
    rw [reports, frames]
    rfl
  have hmake : m.make .advance = ({ m with frames := fs } : Machine).announce d .added := by
    simp only [make, advance, frames, work, next]
  rw [hmake]
  exact .begin hreports rfl rfl ⟨rfl, rfl⟩

/-- The news of a removal begin when the device is retired. -/
theorem newsStep_remove {id : DeviceId} {d : Nat} {table : Roster Nat}
    (removed : m.registry.deviceTable.remove? id.number = some (d, table)) :
    NewsStep m (.call (.remove id)) .works (m.make (.call (.remove id))).1 := by
  obtain ⟨⟨serial, hentry⟩, -⟩ := Roster.entry_remove? removed
  have hdevice : m.registry.device? id = some d := Roster.get?_eq_some_iff.2 ⟨serial, hentry⟩
  obtain ⟨r, hr⟩ : ∃ r, m.registry.retireDevice? id = some (d, r) := by
    rw [Registry.retireDevice?, removed]
    exact ⟨_, rfl⟩
  obtain ⟨table', -, hledger⟩ := m.registry.retireDevice?_eq_some m.frames m.waiting hr
  have hobservers : r.observers = m.registry.observers :=
    congrArg Panel.observers (Registry.panel_retireDevice? hr)
  have hmake : m.make (.call (.remove id)) = (m.withRegistry r).announce d .removed := by
    simp only [make, call, hr]
  have hcount : r.devices.size = m.registry.devices.size := congrArg Ledger.deviceCount hledger
  have hactive : (fun d => !(r.devices.get d).isRetiring) =
      Function.update m.ledger.deviceActive d false := congrArg Ledger.deviceActive hledger
  rw [hmake]
  refine .retire hdevice ?_ rfl hcount hactive
  rw [← hobservers]
  rfl

/-- The news that a call tells go on with the next move. -/
theorem newsStep_tell {d : Nat} {news : News} {telling : Option Listener} {notices : List Notice}
    {rest : List Observer} {fs : List Frame} (admitted : m.admits mv = true)
    (frames : m.frames = .announcing d news telling notices rest :: fs)
    (goesOn : mv = .advance ∨ ∃ ans, mv = .answer ans)
    (outcome : ∀ reply, (m.make mv).2 ≠ .ends reply) :
    NewsStep m mv (m.make mv).2 (m.make mv).1 := by
  have hreports : m.reports = .telling d news notices rest :: fs.filterMap Frame.report? := by
    rw [reports, frames]
    rfl
  rcases goesOn with rfl | ⟨ans, rfl⟩
  -- the call does its next piece of work, which is to tell somebody
  · cases telling with
    | some l => simp [admits, isOpen, frames, Frame.callback?] at admitted
    | none =>
      refine newsStep_advance frames ?_
      by_contra hnone
      obtain ⟨hnotices, hrest⟩ := not_or.1 hnone
      obtain rfl := not_not.1 hnotices
      obtain rfl := not_not.1 hrest
      -- the call ends when nobody is left to be told
      have hmake : m.make .advance =
          ({ m with frames := fs } : Machine).work (.announcing d news none [] []) := by
        simp only [make, advance, frames]
      rw [hmake] at outcome
      cases news with
      | added => exact outcome _ rfl
      | removed =>
        simp only [work, closeDevice] at outcome
        split at outcome <;> exact outcome _ rfl
  -- a listener returns, and nothing has been told since
  · cases telling with
    | none => simp [admits, callback?, frames, Frame.callback?] at admitted
    | some l =>
      have hmake : m.make (.answer ans) =
          ({ m with frames := fs } : Machine).enter (.announcing d news none notices rest) := by
        simp only [make, answer, frames, answered]
      rw [hmake]
      exact .quiet hreports.symm rfl ⟨rfl, rfl⟩

/-- **What a move does to the news.** Every admitted move of a reachable machine is one of the steps
listed. -/
theorem Reachable.newsStep (h : Reachable config m) (admitted : m.admits mv = true) :
    NewsStep m mv (m.make mv).2 (m.make mv).1 := by
  have step := h.step admitted
  generalize ho : (m.make mv).2 = o at step
  generalize ht : (m.make mv).1.ledger = t at step
  cases step with
  -- neither the devices nor the news in progress change
  | still | wake | register | release | releaseLater | send | freed | unwound =>
    exact .of_ledger ht (by simp [List.filterMap_cons, ledger, Registry.ledger]) rfl rfl rfl
  -- what is done is not done by a call that tells news
  | woken frames | ask frames | skip frames | registered frames | accept frames | decline frames
      | passOver frames | bid frames | bidden frames | released frames | sent frames =>
    have hframes : m.frames = _ := frames
    exact .of_ledger ht (by simp [List.filterMap_cons, hframes]) rfl rfl rfl
  | install _ _ info driver =>
    exact .offer (reports_of_ledger ht) rfl (congrArg Ledger.deviceCount ht)
      (congrArg Ledger.deviceActive ht)
  | installed frames next => exact newsStep_installed frames next
  | remove removed rest => exact newsStep_remove removed
  | tell frames goesOn outcome =>
    rw [← ho]
    refine newsStep_tell admitted frames goesOn fun reply hends => ?_
    rw [hends] at ho
    subst ho
    rcases outcome with ho | ⟨l, ho⟩ <;> cases ho
  -- the news of an addition are over
  | @announced d fs frames =>
    have hreports : m.reports = .telling d .added [] [] :: fs.filterMap Frame.report? :=
      congrArg (List.filterMap Frame.report?) frames
    exact .done hreports (reports_of_ledger ht) rfl
      (.of_ledger ht rfl rfl)
  -- the news of a removal are over
  | @removed d fs frames | @removeLater d fs frames =>
    have hreports : m.reports = .telling d .removed [] [] :: fs.filterMap Frame.report? :=
      congrArg (List.filterMap Frame.report?) frames
    rw [Ledger.unlinkAll_eq] at ht
    exact .done hreports (reports_of_ledger ht) rfl
      (.of_ledger ht rfl rfl)

end Machine

end Switchboard
