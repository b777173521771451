import Mathlib.Data.List.Nodup
import Switchboard.Proofs.Panel
import Switchboard.Proofs.Runs

/-! # Who is attached

Observers and the subscribers of a facade are kept in lists, which calls change at any time, also
from inside callbacks. What has happened determines the lists: on each stand those who have been put
on it and not been taken off since, in the order in which they came (`Run.attended`). An observer is
taken off once, and then only by its own identity or with its facade; subscribers are taken off by
name, all of a name together. -/

namespace Switchboard

/-- A change of a record that keeps a part of it keeps that part of every record. -/
theorem Store.apply_get_update {α β : Type} [Inhabited α] (s : Store α) (key other : Nat)
    {f : α → α} {part : α → β} (kept : ∀ a, part (f a) = part a) :
    part ((s.update key f).get other) = part (s.get other) := by
  rw [get_update]
  split
  · rename_i h
    rw [kept, h.1]
  · rfl

/-- A facade that can be called has been opened. -/
theorem Registry.lt_size_of_facade? {r : Registry} {k : Nat} (isOpen : (r.facade? k).isSome = true) :
    k < r.facades.size := by
  by_contra hge
  rw [facade?, r.facades.get_of_size_le (Nat.not_lt.1 hge)] at isOpen
  cases isOpen

/-- Whom the news that a facade is told go through: its own observer, and its subscribers. -/
def Facade.contacts (f : Facade) : ObserverId × List Subscriber := (f.observer, f.subscribers)

namespace Machine

variable {config : Config} {history h₁ h₂ : List Event} {m : Machine} {e : Event}

/-! ## Lists read off a history -/

/-- Those who stand on a list after a history: those whom an event puts on it and no later event
takes off, in the order in which they were put on it. -/
def standing {α : Type} (puts : Event → Option α) (takes : Event → α → Bool) : List Event → List α
  | [] => []
  | e :: later =>
    ((puts e).toList.filter fun x => later.all fun e' => !takes e' x) ++ standing puts takes later

/-- With one more event some are taken off, and at most one is put on at the end. -/
theorem standing_concat {α : Type} (puts : Event → Option α) (takes : Event → α → Bool)
    (history : List Event) (e : Event) : standing puts takes (history ++ [e]) =
      ((standing puts takes history).filter fun x => !takes e x) ++ (puts e).toList := by
  induction history with
  | nil => simp [standing]
  | cons e' later ih =>
    rw [List.cons_append, standing, standing, ih, List.filter_append, List.filter_filter,
      List.append_assoc]
    congr 2
    funext x
    rw [List.all_append, List.all_cons, List.all_nil, Bool.and_true, Bool.and_comm]

/-- Where nobody is taken off, all stay. -/
theorem filter_of_none {α : Type} (l : List α) {takes : α → Bool} (none : ∀ x, takes x = false) :
    l.filter (fun x => !takes x) = l :=
  List.filter_eq_self.2 fun x _ => by rw [none x, Bool.not_false]

/-- The observer that an event attaches, with the identity that it is given. -/
def Event.arrival? (e : Event) : Option (ObserverId × Observer) :=
  match e.move with
  | .call (.attach tag) => some (e.before.registry.observers.nextId, .custom tag)
  | .call .openFacade =>
    some (e.before.registry.observers.nextId, .forwarder e.before.registry.facades.size)
  | _ => none

/-- Whether an event detaches an observer: by its identity, or because it is the forwarder of a
facade that is closed. -/
def Event.dismisses (e : Event) (x : ObserverId × Observer) : Bool :=
  match e.move with
  | .call (.detach id) => x.1 = id
  | .call (.closeFacade k) => (e.before.registry.facade? k).isSome && x.2 = .forwarder k
  | _ => false

/-- The subscriber that an event adds to a facade. -/
def Event.subscribed? (e : Event) (k : Nat) : Option Subscriber :=
  match e.move with
  | .call (.facade j (.subscribe s)) =>
    if j = k ∧ (e.before.registry.facade? k).isSome then some s else none
  | _ => none

/-- Whether an event removes a subscriber from a facade. -/
def Event.unsubscribes (e : Event) (k : Nat) (s : Subscriber) : Bool :=
  match e.move with
  | .call (.facade j (.unsubscribe name)) =>
    j = k ∧ (e.before.registry.facade? k).isSome ∧ s.name = name
  | _ => false

/-- The observers that are attached after a history, in the order of attachment. -/
def attending (history : List Event) : List (ObserverId × Observer) :=
  standing Event.arrival? Event.dismisses history

/-- The subscribers that a facade has after a history, the latest first. -/
def subscribing (history : List Event) (k : Nat) : List Subscriber :=
  (standing (·.subscribed? k) (·.unsubscribes k) history).reverse

/-- The lists of a machine are those of its history. -/
structure Attended (history : List Event) (m : Machine) : Prop where
  observers : m.registry.observers.entries = attending history
  subscribers : ∀ k, (m.registry.facades.get k).subscribers = subscribing history k

/-! ## What a move does to the lists -/

/-- The observers after a move. -/
def observersAfter (m : Machine) : Move → Observers
  | .call (.attach tag) => m.registry.observers.attach (.custom tag)
  | .call (.detach id) => m.registry.observers.detach id
  | .call .openFacade => m.registry.observers.attach (.forwarder m.registry.facades.size)
  | .call (.closeFacade k) => match m.registry.facade? k with
    | none => m.registry.observers
    | some _ => m.registry.observers.detach (m.registry.facades.get k).observer
  | _ => m.registry.observers

/-- A move leaves the observers that are told of here. -/
theorem observers_make (m : Machine) (mv : Move) :
    (m.make mv).1.registry.observers = m.observersAfter mv := by
  have hpanel : (m.make mv).1.registry.observers = (m.panelAfter mv).observers :=
    congrArg Panel.observers (m.panel_make mv)
  rw [hpanel]
  cases mv with
  | answer ans | resume i => rfl
  | advance =>
    show (m.panelAfterWork m.frames).observers = m.registry.observers
    unfold panelAfterWork
    split
    · split <;> rfl
    · rfl
  | call c =>
    cases c with
    | facade k fc =>
      -- what a facade is called for never concerns the observers
      simp only [panelAfter, panelAfterCall, observersAfter]
      split
      · rfl
      · unfold panelAfterFacade
        repeat' split
        all_goals rfl
    | closeFacade k =>
      simp only [panelAfter, panelAfterCall, observersAfter]
      cases m.registry.facade? k <;> rfl
    | install | remove =>
      simp only [panelAfter, panelAfterCall, observersAfter]
      split <;> rfl
    | register | release | send | receive | setHandler | enqueue | deliver | signal | signalError
        | attach | detach | openFacade => rfl

/-- A facade after a move, but for the numbers of its applications and for whether it is open. -/
def facadeAfter (m : Machine) (k : Nat) : Move → Facade
  | .call .openFacade => m.registry.openFacade.facades.get k
  | .call (.facade j (.subscribe s)) =>
    if j = k ∧ (m.registry.facade? k).isSome then (m.registry.facades.get k).subscribe s
    else m.registry.facades.get k
  | .call (.facade j (.unsubscribe name)) =>
    if j = k ∧ (m.registry.facade? k).isSome then (m.registry.facades.get k).unsubscribe name
    else m.registry.facades.get k
  | _ => m.registry.facades.get k

/-- A change of an open facade. -/
theorem get_updateFacade {j : Nat} (isOpen : (m.registry.facade? j).isSome = true) (k : Nat)
    (f : Facade → Facade) : (m.registry.updateFacade j f).facades.get k =
      if j = k ∧ (m.registry.facade? k).isSome then f (m.registry.facades.get k)
      else m.registry.facades.get k := by
  show (m.registry.facades.update j f).get k = _
  rw [Store.get_update]
  by_cases hk : k = j
  · subst hk
    simp [isOpen, Registry.lt_size_of_facade? isOpen]
  · simp [hk, Ne.symm hk]

/-- A facade that is closed cannot be called. -/
theorem facadeAfter_of_closed {j : Nat} (closed : m.registry.facade? j = none) (k : Nat)
    (fc : FacadeCall) :
    m.facadeAfter k (.call (.facade j fc)) = m.registry.facades.get k := by
  have hclosed : ¬(j = k ∧ (m.registry.facade? k).isSome = true) := by
    rintro ⟨rfl, hsome⟩
    rw [closed] at hsome
    cases hsome
  cases fc with
  | subscribe | unsubscribe => exact if_neg hclosed
  | register | release | send | receive | setHandler => rfl

/-- What an open facade is called for. -/
theorem contacts_panelAfterFacade {j : Nat} {f : Facade} (isOpen : m.registry.facade? j = some f)
    (k : Nat) (fc : FacadeCall) : ((m.panelAfterFacade j f fc).facades.get k).contacts =
      (m.facadeAfter k (.call (.facade j fc))).contacts := by
  have hisOpen : (m.registry.facade? j).isSome = true := by rw [isOpen, Option.isSome_some]
  cases fc with
  | subscribe | unsubscribe => exact congrArg Facade.contacts (get_updateFacade hisOpen k _)
  | release n =>
    simp only [panelAfterFacade]
    cases f.appl? n with
    | none => rfl
    | some id => exact m.registry.facades.apply_get_update _ _ fun _ => rfl
  | register | send | receive | setHandler => rfl

/-- A move leaves the facades that are told of here. -/
theorem facades_make (m : Machine) (mv : Move) :
    (m.make mv).1.registry.facades = (m.panelAfter mv).facades :=
  congrArg Panel.facades (m.panel_make mv)

/-- The contacts of a facade after a move. -/
theorem contacts_make (m : Machine) (mv : Move) (k : Nat) :
    ((m.make mv).1.registry.facades.get k).contacts = (m.facadeAfter k mv).contacts := by
  rw [facades_make]
  cases mv with
  | answer ans | resume i => rfl
  -- a piece of work reaches the contacts of no facade
  | advance =>
    show ((m.panelAfterWork m.frames).facades.get k).contacts = _
    unfold panelAfterWork
    split
    · split
      · exact m.registry.facades.apply_get_update _ _ fun _ => rfl
      · rfl
    · rfl
  | call c =>
    cases c with
    -- only the facade that is called changes its subscribers
    | facade j fc =>
      simp only [panelAfter, panelAfterCall]
      cases hopen : m.registry.facade? j with
      | none => rw [facadeAfter_of_closed hopen]; rfl
      | some f => exact contacts_panelAfterFacade hopen k fc
    | closeFacade j =>
      simp only [panelAfter, panelAfterCall]
      cases m.registry.facade? j with
      | none => rfl
      | some f => exact m.registry.facades.apply_get_update _ _ fun _ => rfl
    | install | remove =>
      simp only [panelAfter, panelAfterCall]
      split <;> rfl
    | register | release | send | receive | setHandler | enqueue | deliver | signal | signalError
        | attach | detach | openFacade => rfl

/-- How many facades have been opened after a move. -/
theorem size_facades_make (m : Machine) {mv : Move} (others : mv ≠ .call .openFacade) :
    (m.make mv).1.registry.facades.size = m.registry.facades.size := by
  rw [facades_make]
  have hupdate (j : Nat) (f : Facade → Facade) :
      (m.registry.updateFacade j f).panel.facades.size = m.registry.facades.size :=
    m.registry.facades.size_update j f
  unfold panelAfter panelAfterCall panelAfterWork panelAfterFacade
  repeat' split
  all_goals first
    | exact absurd rfl others
    | exact hupdate ..
    | exact m.registry.facades.size_update ..
    | rfl

/-- A facade that is opened has the next identity and nobody subscribed to it. -/
theorem contacts_openFacade (r : Registry) (k : Nat) : (r.openFacade.facades.get k).contacts =
    if k = r.facades.size then (r.observers.nextId, []) else (r.facades.get k).contacts := by
  show ((r.facades.add _).get k).contacts = _
  rw [Store.get_add]
  split <;> rfl

/-- The subscribers of a facade after a move. -/
theorem subscribers_make (m : Machine) (mv : Move) (k : Nat) :
    let e : Event := ⟨m, mv, (m.make mv).2⟩
    ((m.make mv).1.registry.facades.get k).subscribers = (e.subscribed? k).toList ++
      (m.registry.facades.get k).subscribers.filter fun s => !e.unsubscribes k s := by
  intro e
  have hafter : ((m.make mv).1.registry.facades.get k).subscribers =
      (m.facadeAfter k mv).subscribers := congrArg Prod.snd (m.contacts_make mv k)
  have hkept (takes : ∀ s, e.unsubscribes k s = false) : (m.registry.facades.get k).subscribers =
      (m.registry.facades.get k).subscribers.filter fun s => !e.unsubscribes k s :=
    (filter_of_none _ takes).symm
  rw [hafter]
  cases mv with
  | answer | resume | advance => exact hkept fun _ => rfl
  | call c =>
    cases c with
    | openFacade =>
      refine Eq.trans ?_ (hkept fun _ => rfl)
      refine (congrArg Prod.snd (contacts_openFacade m.registry k)).trans ?_
      split
      · rename_i hk
        -- a facade that has not been opened has no subscribers
        rw [m.registry.facades.get_of_size_le (Nat.le_of_eq hk.symm)]
        rfl
      · rfl
    | facade j fc =>
      cases fc with
      | subscribe s =>
        rw [← hkept fun _ => rfl]
        simp only [e, facadeAfter, Event.subscribed?]
        split <;> rfl
      | unsubscribe name =>
        rw [facadeAfter]
        split
        · rename_i hk
          simp [e, Event.subscribed?, Event.unsubscribes, hk, Facade.unsubscribe]
        · rename_i hk
          exact hkept fun s => decide_eq_false fun h => hk ⟨h.1, h.2.1⟩
      | register | release | send | receive | setHandler => exact hkept fun _ => rfl
    | install | remove | register | release | send | receive | setHandler | enqueue | deliver
        | signal | signalError | attach | detach | closeFacade => exact hkept fun _ => rfl

/-! ## Identities -/

/-- What holds of the observers and the facades: identities are given out in order, once each, and
those of the forwarders are known to their facades. -/
structure Enrolled (m : Machine) : Prop where
  serial_lt : ∀ x ∈ m.registry.observers.entries, x.1.serial < m.registry.observers.nextSerial
  ids : (m.registry.observers.entries.map Prod.fst).Nodup
  observer_lt : ∀ k < m.registry.facades.size,
    (m.registry.facades.get k).observer.serial < m.registry.observers.nextSerial
  forwarder : ∀ x ∈ m.registry.observers.entries, ∀ k, x.2 = .forwarder k ↔
    k < m.registry.facades.size ∧ x.1 = (m.registry.facades.get k).observer

/-- Identities stay unique while observers are taken off. -/
theorem Enrolled.of_kept (h : m.Enrolled) {m' : Machine}
    (entries : m'.registry.observers.entries.Sublist m.registry.observers.entries)
    (next : m'.registry.observers.nextSerial = m.registry.observers.nextSerial)
    (size : m'.registry.facades.size = m.registry.facades.size)
    (observer : ∀ k, (m'.registry.facades.get k).observer = (m.registry.facades.get k).observer) :
    m'.Enrolled where
  serial_lt x hx := next ▸ h.serial_lt x (entries.subset hx)
  ids := h.ids.sublist (entries.map Prod.fst)
  observer_lt k hk := by
    rw [observer, next]
    exact h.observer_lt k (size ▸ hk)
  forwarder x hx k := by
    rw [observer, size]
    exact h.forwarder x (entries.subset hx) k

/-- Identities stay unique when an observer is put on, be it for a client or for a facade that is
opened. -/
theorem Enrolled.of_attach (h : m.Enrolled) {m' : Machine} {o : Observer}
    (observers : m'.registry.observers = m.registry.observers.attach o)
    (size : m.registry.facades.size ≤ m'.registry.facades.size)
    (observer : ∀ k < m.registry.facades.size,
      (m'.registry.facades.get k).observer = (m.registry.facades.get k).observer)
    (opened : ∀ k, m.registry.facades.size ≤ k → k < m'.registry.facades.size →
      (m'.registry.facades.get k).observer = m.registry.observers.nextId)
    (forwards : ∀ k, o = .forwarder k ↔
      m.registry.facades.size ≤ k ∧ k < m'.registry.facades.size) : m'.Enrolled := by
  have hentries : m'.registry.observers.entries =
      m.registry.observers.entries ++ [(m.registry.observers.nextId, o)] := by
    rw [observers]
    rfl
  have hnext : m'.registry.observers.nextSerial = m.registry.observers.nextSerial + 1 := by
    rw [observers]
    rfl
  -- an identity that is given out now is none of those given out before
  have hfresh {id : ObserverId} (hid : id.serial < m.registry.observers.nextSerial) :
      id ≠ m.registry.observers.nextId := by
    rintro rfl
    exact Nat.lt_irrefl _ hid
  refine ⟨fun x hx => ?_, ?_, fun k hk => ?_, fun x hx k => ?_⟩
  -- the serial numbers given out so far, the new one among them
  · rw [hnext]
    rw [hentries] at hx
    rcases List.mem_append.1 hx with hx | hx
    · exact Nat.lt_succ_of_lt (h.serial_lt x hx)
    · obtain rfl := List.mem_singleton.1 hx
      exact Nat.lt_succ_self _
  -- no identity twice
  · rw [hentries, List.map_append, List.nodup_append]
    refine ⟨h.ids, List.nodup_singleton _, ?_⟩
    intro id hid id' hid'
    obtain ⟨x, hx, rfl⟩ := List.mem_map.1 hid
    obtain rfl := List.mem_singleton.1 hid'
    exact hfresh (h.serial_lt x hx)
  -- the observers of the facades, the new facade's among them
  · rw [hnext]
    by_cases hold : k < m.registry.facades.size
    · rw [observer k hold]
      exact Nat.lt_succ_of_lt (h.observer_lt k hold)
    · rw [opened k (Nat.not_lt.1 hold) hk]
      exact Nat.lt_succ_self _
  -- whether an entry is the forwarder of a facade: of one that was open, or of the new one
  · rw [hentries] at hx
    by_cases hold : k < m.registry.facades.size
    · rw [observer k hold, and_iff_right (Nat.lt_of_lt_of_le hold size)]
      rcases List.mem_append.1 hx with hx | hx
      · rw [h.forwarder x hx k, and_iff_right hold]
      · obtain rfl := List.mem_singleton.1 hx
        refine iff_of_false (fun hk => ?_) (hfresh (h.observer_lt k hold)).symm
        exact Nat.not_le.2 hold ((forwards k).1 hk).1
    · rcases List.mem_append.1 hx with hx | hx
      · refine iff_of_false (fun hk => hold ((h.forwarder x hx k).1 hk).1) ?_
        rintro ⟨hk, hid⟩
        rw [opened k (Nat.not_lt.1 hold) hk] at hid
        exact hfresh (h.serial_lt x hx) hid
      · obtain rfl := List.mem_singleton.1 hx
        rw [forwards k]
        refine ⟨fun hk => ⟨hk.2, (opened k hk.1 hk.2).symm⟩, fun hk => ⟨Nat.not_lt.1 hold, hk.1⟩⟩

/-- A facade keeps its observer. -/
theorem observer_make (m : Machine) {mv : Move} (others : mv ≠ .call .openFacade) (k : Nat) :
    ((m.make mv).1.registry.facades.get k).observer = (m.registry.facades.get k).observer := by
  refine (congrArg Prod.fst (m.contacts_make mv k)).trans ?_
  unfold facadeAfter
  repeat' split
  all_goals first
    | exact absurd rfl others
    | rfl

/-- Every move keeps identities unique. -/
theorem Enrolled.make (h : m.Enrolled) (mv : Move) : (m.make mv).1.Enrolled := by
  have hobservers := m.observers_make mv
  -- only the opening of a facade adds to the facades
  by_cases hopen : mv = .call .openFacade
  · subst hopen
    have hsize : (m.make (.call .openFacade)).1.registry.facades.size =
        m.registry.facades.size + 1 := m.registry.facades.size_add _
    have hobserver (k : Nat) := congrArg Prod.fst (contacts_openFacade m.registry k)
    refine h.of_attach hobservers (by omega) (fun k hk => (hobserver k).trans ?_)
      (fun k hge hlt => (hobserver k).trans ?_) fun k => ?_
    · rw [if_neg (Nat.ne_of_lt hk)]
      rfl
    · rw [if_pos (by omega)]
    · rw [Observer.forwarder.injEq]
      omega
  · have hsize := m.size_facades_make hopen
    have hobserver := m.observer_make hopen
    have hkept (o : Observers) (heq : (m.make mv).1.registry.observers = o)
        (entries : o.entries.Sublist m.registry.observers.entries)
        (next : o.nextSerial = m.registry.observers.nextSerial) : (m.make mv).1.Enrolled :=
      h.of_kept (heq ▸ entries) (heq ▸ next) hsize hobserver
    unfold observersAfter at hobservers
    split at hobservers
    -- an observer is attached for a client
    · refine h.of_attach hobservers (Nat.le_of_eq hsize.symm) (fun k _ => hobserver k)
        (fun k hge hlt => absurd hlt (by omega)) fun k => iff_of_false (by simp) (by omega)
    -- one is detached
    · exact hkept _ hobservers List.filter_sublist rfl
    · exact absurd rfl hopen
    -- a facade is closed, or there is none to close
    · split at hobservers
      · exact hkept _ hobservers (List.Sublist.refl _) rfl
      · exact hkept _ hobservers List.filter_sublist rfl
    · exact hkept _ hobservers (List.Sublist.refl _) rfl

/-- What holds of the observers and the facades holds of every reachable machine. -/
theorem Reachable.enrolled (h : Reachable config m) : m.Enrolled := by
  refine h.induction ⟨?_, ?_, ?_, ?_⟩ fun m mv _ ih _ => ih.make mv
  · exact fun x hx => absurd hx List.not_mem_nil
  · exact List.nodup_nil
  · exact fun k hk => absurd hk (Nat.not_lt_zero k)
  · exact fun x hx => absurd hx List.not_mem_nil

/-! ## The lists along a run -/

/-- The observers after a move. -/
theorem Enrolled.entries_make (h : m.Enrolled) (mv : Move) :
    let e : Event := ⟨m, mv, (m.make mv).2⟩
    (m.make mv).1.registry.observers.entries =
      (m.registry.observers.entries.filter fun x => !e.dismisses x) ++ e.arrival?.toList := by
  intro e
  have hkept (takes : ∀ x, e.dismisses x = false) : m.registry.observers.entries =
      m.registry.observers.entries.filter fun x => !e.dismisses x := (filter_of_none _ takes).symm
  rw [observers_make]
  cases mv with
  | answer | resume | advance => exact (hkept fun _ => rfl).trans (List.append_nil _).symm
  | call c =>
    cases c with
    -- somebody is attached, and nobody is detached
    | attach | openFacade =>
      rw [← hkept fun _ => rfl]
      rfl
    | detach id =>
      refine (List.filter_congr fun x _ => ?_).trans (List.append_nil _).symm
      exact decide_not
    -- the observer that goes is the forwarder of the facade, which is found by its identity
    | closeFacade k =>
      cases hopen : m.registry.facade? k with
      | none =>
        have hnone (x : ObserverId × Observer) : e.dismisses x = false := by
          simp only [e, Event.dismisses, hopen, Option.isSome_none, Bool.false_and]
        simp only [observersAfter, hopen]
        exact (hkept hnone).trans (List.append_nil _).symm
      | some f =>
        have hlt : k < m.registry.facades.size := Registry.lt_size_of_facade? (by rw [hopen]; rfl)
        simp only [observersAfter, hopen]
        refine (List.filter_congr fun x hx => ?_).trans (List.append_nil _).symm
        simp [e, Event.dismisses, hopen, h.forwarder x hx k, hlt]
    | install | remove | register | release | send | receive | setHandler | enqueue | deliver
        | signal | signalError | facade => exact (hkept fun _ => rfl).trans (List.append_nil _).symm

/-- An event takes off those that it dismisses, and adds the one that arrives last. -/
theorem attending_concat (history : List Event) (e : Event) : attending (history ++ [e]) =
    ((attending history).filter fun x => !e.dismisses x) ++ e.arrival?.toList :=
  standing_concat Event.arrival? Event.dismisses history e

/-- An event takes off those that it unsubscribes, and puts the one that subscribes first. -/
theorem subscribing_concat (history : List Event) (e : Event) (k : Nat) :
    subscribing (history ++ [e]) k =
      (e.subscribed? k).toList ++ (subscribing history k).filter fun s => !e.unsubscribes k s := by
  unfold subscribing
  rw [standing_concat, List.reverse_append, List.filter_reverse]
  cases e.subscribed? k <;> rfl

/-- **The lists are read off the history.** Observers stand in the order of attachment, the
subscribers of a facade the latest first. -/
theorem Run.attended (run : Run config history m) : Attended history m := by
  induction run with
  | new => exact ⟨rfl, fun k => rfl⟩
  | @move history m mv run admitted ih =>
    refine ⟨?_, fun k => ?_⟩
    · rw [attending_concat, run.reachable.enrolled.entries_make, ih.observers]
    · rw [subscribing_concat, m.subscribers_make, ih.subscribers]

/-! ## Detaching -/

/-- An event in which an observer's identity is detached: either the observer is attached, is taken
off alone, and the answer is yes; or there is none, nothing changes, and the answer is no. -/
structure DetachesObserver (e : Event) (id : ObserverId) : Prop where
  observers : (∃ before o after,
      e.before.registry.observers.entries = before ++ (id, o) :: after ∧
      (e.before.make e.move).1.registry.observers.entries = before ++ after ∧
      e.outcome = .ends (.flag true)) ∨
    ((∀ x ∈ e.before.registry.observers.entries, x.1 ≠ id) ∧
      (e.before.make e.move).1.registry.observers.entries = e.before.registry.observers.entries ∧
      e.outcome = .ends (.flag false))
  subscribers : ∀ k, ((e.before.make e.move).1.registry.facades.get k).subscribers =
    (e.before.registry.facades.get k).subscribers

/-- An identity that is detached in a run is detached so. -/
theorem Run.detachesObserver (run : Run config history m) (he : e ∈ history) {id : ObserverId}
    (detaches : e.move = .call (.detach id)) : DetachesObserver e id := by
  obtain ⟨hreach, -, houtcome⟩ := run.event he
  have hmake : e.before.make e.move = (e.before.withRegistry { e.before.registry with
      observers := e.before.registry.observers.detach id }).finish
        (.flag (e.before.registry.observers.isAttached id)) := by
    rw [detaches]
    rfl
  have hentries : (e.before.make e.move).1.registry.observers.entries =
      e.before.registry.observers.entries.filter fun x => x.1 ≠ id := by
    rw [hmake]
    rfl
  have hflag : e.outcome = .ends (.flag (e.before.registry.observers.isAttached id)) := by
    rw [houtcome, hmake]
    rfl
  refine ⟨?_, fun k => by rw [hmake]; rfl⟩
  rw [hentries, hflag]
  by_cases hattached : ∃ x ∈ e.before.registry.observers.entries, x.1 = id
  · left
    obtain ⟨⟨id', o⟩, hx, hid⟩ := hattached
    obtain rfl : id' = id := hid
    obtain ⟨before, after, hsplit⟩ := List.append_of_mem hx
    -- no other observer has the identity
    have hids := hreach.enrolled.ids
    rw [hsplit, List.map_append, List.map_cons, List.nodup_middle, ← List.map_append,
      List.nodup_cons] at hids
    have hothers : ∀ y ∈ before ++ after, decide (y.1 ≠ id') = true := by
      intro y hy
      refine decide_eq_true fun heq => hids.1 ?_
      exact List.mem_map.2 ⟨y, hy, heq⟩
    refine ⟨before, o, after, hsplit, ?_, ?_⟩
    · rw [hsplit, List.filter_append, List.filter_cons_of_neg (by simp), ← List.filter_append]
      exact List.filter_eq_self.2 hothers
    · rw [Observers.isAttached, List.any_eq_true.2 ⟨_, hx, decide_eq_true rfl⟩]
  · right
    have hnone : ∀ x ∈ e.before.registry.observers.entries, x.1 ≠ id :=
      fun x hx heq => hattached ⟨x, hx, heq⟩
    refine ⟨hnone, List.filter_eq_self.2 fun x hx => decide_eq_true (hnone x hx), ?_⟩
    rw [Observers.isAttached, List.any_eq_false.2 fun x hx => by simpa using hnone x hx]

/-- An identity is attached exactly when an entry bears it. -/
theorem isAttached_iff {o : Observers} {id : ObserverId} :
    o.isAttached id = true ↔ ∃ x ∈ o.entries, x.1 = id := by
  simp only [Observers.isAttached, List.any_eq_true, decide_eq_true_eq]

/-- An identity that a client has been given, as long as nobody else has it. -/
structure Given (m : Machine) (id : ObserverId) (tag : Nat) : Prop where
  serial_lt : id.serial < m.registry.observers.nextSerial
  custom : ∀ x ∈ m.registry.observers.entries, x.1 = id → x.2 = .custom tag

/-- No move takes back an identity that has been given out. -/
theorem nextSerial_le_make (m : Machine) (mv : Move) :
    m.registry.observers.nextSerial ≤ (m.make mv).1.registry.observers.nextSerial := by
  rw [observers_make]
  unfold observersAfter
  repeat' split
  all_goals simp [Observers.attach, Observers.detach]

/-- An event gives an observer the next identity. -/
theorem Event.id_of_arrival {x : ObserverId × Observer} (h : e.arrival? = some x) :
    x.1 = e.before.registry.observers.nextId := by
  unfold Event.arrival? at h
  split at h
  all_goals cases h
  all_goals rfl

/-- An observer that a client has attached is detached by its identity only. -/
theorem Event.dismisses_custom_iff (e : Event) (id : ObserverId) (tag : Nat) :
    e.dismisses (id, .custom tag) = true ↔ e.move = .call (.detach id) := by
  unfold Event.dismisses
  split
  · rename_i id' hmove
    rw [hmove, decide_eq_true_iff, Move.call.injEq, Call.detach.injEq]
    exact eq_comm
  · rename_i k hmove
    rw [hmove]
    simp
  · rename_i hother _
    exact iff_of_false Bool.false_ne_true (hother id)

/-- Nobody else is given an identity that has been given out, and only a call that detaches it takes
its observer off. -/
theorem Given.make {id : ObserverId} {tag : Nat} (given : m.Given id tag) (h : m.Enrolled)
    (mv : Move) : (m.make mv).1.Given id tag ∧
      ((m.make mv).1.registry.observers.isAttached id = true ↔
        m.registry.observers.isAttached id = true ∧ mv ≠ .call (.detach id)) := by
  have hdismisses := Event.dismisses_custom_iff ⟨m, mv, (m.make mv).2⟩ id tag
  have harrival : ∀ x, Event.arrival? ⟨m, mv, (m.make mv).2⟩ = some x → x.1 ≠ id := by
    intro x hx hid
    have hlt := given.serial_lt
    rw [← hid, Event.id_of_arrival hx] at hlt
    exact Nat.lt_irrefl _ hlt
  -- whoever has the identity afterwards had it before and has been kept
  have hentry : ∀ x, x ∈ (m.make mv).1.registry.observers.entries ∧ x.1 = id ↔
      (x ∈ m.registry.observers.entries ∧ x.1 = id) ∧ mv ≠ .call (.detach id) := by
    intro x
    rw [h.entries_make, List.mem_append, List.mem_filter, Option.mem_toList]
    constructor
    · rintro ⟨⟨hx, hkept⟩ | hx, hid⟩
      · obtain rfl : x = (id, .custom tag) := Prod.ext hid (given.custom x hx hid)
        refine ⟨⟨hx, hid⟩, fun hmove => ?_⟩
        rw [hdismisses.2 hmove] at hkept
        cases hkept
      · exact absurd hid (harrival x hx)
    · rintro ⟨⟨hx, hid⟩, hmove⟩
      obtain rfl : x = (id, .custom tag) := Prod.ext hid (given.custom x hx hid)
      refine ⟨Or.inl ⟨hx, ?_⟩, hid⟩
      rw [Bool.eq_false_iff.2 (mt hdismisses.1 hmove)]
      rfl
  refine ⟨⟨Nat.lt_of_lt_of_le given.serial_lt (m.nextSerial_le_make mv), fun x hx hid => ?_⟩, ?_⟩
  · exact given.custom x ((hentry x).1 ⟨hx, hid⟩).1.1 hid
  · rw [isAttached_iff, isAttached_iff, exists_congr hentry, exists_and_right]

/-- An observer that a client has attached stays attached until its identity is detached. -/
theorem Run.isAttached (run : Run config history m) (split : history = h₁ ++ e :: h₂) {tag : Nat}
    (attaches : e.move = .call (.attach tag)) :
    m.Given e.before.registry.observers.nextId tag ∧
      (m.registry.observers.isAttached e.before.registry.observers.nextId = true ↔
        ∀ x ∈ h₂, x.move ≠ .call (.detach e.before.registry.observers.nextId)) := by
  induction run generalizing h₂ with
  | new => simp at split
  | @move history m mv run admitted ih =>
    rcases append_singleton_eq_split split with ⟨-, rfl, rfl⟩ | ⟨h₃, hsplit, rfl⟩
    · obtain rfl : mv = .call (.attach tag) := attaches
      refine ⟨⟨Nat.lt_succ_self _, fun x hx hid => ?_⟩, iff_of_true ?_ (by simp)⟩
      · rcases List.mem_append.1 hx with hx | hx
        · have hlt := run.reachable.enrolled.serial_lt x hx
          rw [hid] at hlt
          exact absurd hlt (Nat.lt_irrefl _)
        · rw [List.mem_singleton.1 hx]
      · exact isAttached_iff.2 ⟨(m.registry.observers.nextId, .custom tag), by
          exact List.mem_append_right _ (List.mem_singleton_self _), rfl⟩
    · obtain ⟨hgiven, hattached⟩ := ih hsplit
      obtain ⟨hgiven', hstep⟩ := hgiven.make run.reachable.enrolled mv
      refine ⟨hgiven', hstep.trans ?_⟩
      rw [hattached, List.forall_mem_append, List.forall_mem_singleton]

/-- **An identity is detached once.** Of the calls that detach the identity of an observer that a
client has attached, the first answers that it was attached, and no other does. -/
theorem Run.detaches_once (run : Run config history m) {h₃ : List Event} {e' : Event} {tag : Nat}
    {id : ObserverId} (split : history = h₁ ++ e :: (h₂ ++ e' :: h₃))
    (attaches : e.move = .call (.attach tag)) (attached : e.outcome = .ends (.attached id))
    (detaches : e'.move = .call (.detach id)) :
    e'.outcome = .ends (.flag true) ↔ ∀ x ∈ h₂, x.move ≠ .call (.detach id) := by
  obtain ⟨-, -, houtcome⟩ := run.event (e := e) (by simp [split])
  obtain rfl : e.before.registry.observers.nextId = id := by
    rw [houtcome, attaches] at attached
    exact Reply.attached.inj (Outcome.ends.inj attached)
  obtain ⟨-, -, houtcome'⟩ := run.event (e := e') (by simp [split])
  have hsplit : history = (h₁ ++ e :: h₂) ++ e' :: h₃ := by simp [split]
  have hrun := run.before hsplit
  have hflag : e'.outcome = .ends (.flag
      (e'.before.registry.observers.isAttached e.before.registry.observers.nextId)) := by
    rw [houtcome', detaches]
    rfl
  rw [← (hrun.isAttached rfl attaches).2, hflag]
  simp only [Outcome.ends.injEq, Reply.flag.injEq]

/-- A call of an open facade that removes the subscribers of a name: all of them are taken off and
nobody else, and the answer is whether there were any. -/
structure UnsubscribesName (e : Event) (k : Nat) (name : String) : Prop where
  subscribers : ((e.before.make e.move).1.registry.facades.get k).subscribers =
    (e.before.registry.facades.get k).subscribers.filter fun s => s.name ≠ name
  answer : ∃ b, e.outcome = .ends (.flag b) ∧
    (b = true ↔ ∃ s ∈ (e.before.registry.facades.get k).subscribers, s.name = name)
  others : ∀ j ≠ k, ((e.before.make e.move).1.registry.facades.get j).subscribers =
    (e.before.registry.facades.get j).subscribers
  observers : (e.before.make e.move).1.registry.observers = e.before.registry.observers

/-- A name that is unsubscribed from an open facade in a run is unsubscribed so. -/
theorem Run.unsubscribesName (run : Run config history m) (he : e ∈ history) {k : Nat}
    {name : String} (unsubscribes : e.move = .call (.facade k (.unsubscribe name)))
    (isOpen : (e.before.registry.facade? k).isSome = true) : UnsubscribesName e k name := by
  obtain ⟨-, -, houtcome⟩ := run.event he
  obtain ⟨f, hf⟩ := Option.isSome_iff_exists.1 isOpen
  -- the facade that is open is the one in the store
  have hget : f = e.before.registry.facades.get k := by
    unfold Registry.facade? at hf
    split at hf
    · exact (Option.some.inj hf).symm
    · cases hf
  have hmake : e.before.make e.move = (e.before.withRegistry (e.before.registry.updateFacade k
      fun f => f.unsubscribe name)).finish (.flag (f.isSubscribed name)) := by
    rw [unsubscribes]
    simp only [Machine.make, call, hf, facadeCall]
  have hafter (j : Nat) : (e.before.make e.move).1.registry.facades.get j =
      if k = j ∧ (e.before.registry.facade? j).isSome then
        (e.before.registry.facades.get j).unsubscribe name else e.before.registry.facades.get j := by
    rw [hmake]
    exact get_updateFacade isOpen j _
  refine ⟨?_, ⟨f.isSubscribed name, ?_, ?_⟩, fun j hj => ?_, ?_⟩
  -- the subscribers of the name are gone
  · rw [hafter, if_pos ⟨rfl, isOpen⟩]
    rfl
  · rw [houtcome, hmake]
    rfl
  -- the answer is whether there were any
  · rw [hget]
    simp only [Facade.isSubscribed, List.any_eq_true, decide_eq_true_eq]
  -- the other facades are left alone
  · rw [hafter, if_neg fun h => hj h.1.symm]
  · rw [hmake]
    rfl

end Machine

end Switchboard
