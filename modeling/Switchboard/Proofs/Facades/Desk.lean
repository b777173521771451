import Switchboard.Proofs.Ledger.Invariant
import Switchboard.Proofs.Panel

/-! # What a move does to applications and facades

A facade knows the applications that it serves by a set of numbers of its own, next to the table of
the switchboard. A `Desk` keeps of a machine what is to be compared: the table, the registrations in
progress with their origins, and the sets of the facades that are open. Main statement:
`Machine.Reachable.deskStep`, every admitted move of a machine is a step of its desk. -/

namespace Switchboard

open Function (update)

/-- The application that a call in progress registers, and the origin it registers it through. -/
def Frame.enrolling? : Frame → Option (Nat × Origin)
  | registering a origin _ _ => some (a, origin)
  | _ => none

/-- The application that a walk registers, and the origin it registers it through. -/
def Walk.enrolling? : Walk → Option (Nat × Origin)
  | ofDevice _ => none
  | ofAppl a origin => some (a, origin)

/-- A device's walk enrols no application. -/
@[simp] theorem Walk.enrolling?_ofDevice (d : Nat) : (ofDevice d).enrolling? = none := rfl

/-- An application's walk enrols it for the caller that registered it. -/
@[simp] theorem Walk.enrolling?_ofAppl (a : Nat) (o : Origin) :
    (ofAppl a o).enrolling? = some (a, o) := rfl

/-- A walk's frame enrols whom the walk does, wherever its cursor stands. -/
@[simp] theorem Frame.enrolling?_walk (w : Walk) (c : Cursor) (k : Option Nat) :
    (w.frame c k).enrolling? = w.enrolling? := by
  cases w <;> rfl

/-- An announcement enrols no application. -/
@[simp] theorem Frame.enrolling?_announcing (d : Nat) (news : News) (l : Option Listener)
    (ns : List Notice) (os : List Observer) : (announcing d news l ns os).enrolling? = none := rfl

/-- A release enrols no application. -/
@[simp] theorem Frame.enrolling?_releasing (a : Nat) (o : Origin) (l : Option Nat) (ds : List Nat) :
    (releasing a o l ds).enrolling? = none := rfl

/-- A message under way enrols no application. -/
@[simp] theorem Frame.enrolling?_sending (d a : Nat) (o : Origin) (m : Message) :
    (sending d a o m).enrolling? = none := rfl

/-- A wake-up enrols no application. -/
@[simp] theorem Frame.enrolling?_waking (a : Nat) (h : SignalHandler) (w : Wake) :
    (waking a h w).enrolling? = none := rfl

/-- The set of numbers that a facade serves, while it is open. -/
def Panel.roll? (p : Panel) (k : Nat) : Option NumberSet :=
  if (p.facades.get k).isOpen then some (p.facades.get k).registered else none

/-- Applications, registrations in progress, and what the open facades serve. -/
structure Desk where
  table : Roster Nat
  size : Nat
  number : Nat → UInt16
  /-- The registrations in progress, innermost first. -/
  enrolments : List (Nat × Origin)
  /-- How many applications there may be. -/
  limit : UInt16
  /-- How many facades have been opened. -/
  facades : Nat
  roll? : Nat → Option NumberSet

/-- The desk of a ledger and a panel. -/
def Ledger.desk (s : Ledger) (p : Panel) : Desk where
  table := s.applTable
  size := s.applCount
  number a := (s.applId a).number
  enrolments := s.frames.filterMap Frame.enrolling?
  limit := p.config.maxApplications
  facades := p.facades.size
  roll? := p.roll?

namespace Desk

/-- The desk with a new application whose registration begins. -/
def enrol (s : Desk) (n : UInt16) (table : Roster Nat) (origin : Origin) : Desk :=
  { s with
    table := table
    size := s.size + 1
    number := update s.number s.size n
    enrolments := (s.size, origin) :: s.enrolments }

/-- The desk with the set of a facade changed, if an origin is one. -/
def onRoll (s : Desk) (origin : Origin) (g : NumberSet → NumberSet) : Desk :=
  { s with roll? := fun k => (s.roll? k).map fun r => if origin = .facade k then g r else r }

/-- The desk with a new facade. -/
def openFacade (s : Desk) : Desk :=
  { s with facades := s.facades + 1, roll? := update s.roll? s.facades (some (.empty s.limit)) }

/-- The desk with a facade closed. -/
def closeFacade (s : Desk) (k : Nat) : Desk := { s with roll? := update s.roll? k none }

/-- A direct call changes no facade's roll. -/
@[simp] theorem onRoll_direct (s : Desk) (g : NumberSet → NumberSet) : s.onRoll .direct g = s := by
  have hroll : (fun k => (s.roll? k).map fun r => if Origin.direct = .facade k then g r else r) =
      s.roll? := by
    funext k
    cases s.roll? k <;> rfl
  rw [onRoll, hroll]

/-- A change that leaves every number alone leaves the desk alone. -/
@[simp] theorem onRoll_id (s : Desk) (origin : Origin) : s.onRoll origin id = s := by
  have hroll : (fun k => (s.roll? k).map fun r => if origin = .facade k then id r else r) =
      s.roll? := by
    funext k
    cases s.roll? k <;> simp
  rw [onRoll, hroll]

/-- What one move can do to a desk, and the registration that ends with it. -/
inductive Step (s : Desk) : Move → Option (Nat × Origin) → Desk → Prop where
  /-- Nothing that concerns the desk. -/
  | quiet (mv : Move) : Step s mv none s
  /-- An application enters the table, and its registration begins. -/
  | enrol {n : UInt16} {table : Roster Nat} {c : Call} {origin : Origin}
      (inserted : s.table.insert? n s.size = some table) (registers : c.registrar? = some origin)
      (isOpen : ∀ k, origin = .facade k → s.roll? k ≠ none) :
      Step s (.call c) none (s.enrol n table origin)
  /-- A registration ends, and its facade learns the number. -/
  | finish {a : Nat} {origin : Origin} {rest : List (Nat × Origin)}
      (enrolments : s.enrolments = (a, origin) :: rest) :
      Step s .advance (some (a, origin))
        (onRoll { s with enrolments := rest } origin (·.insert (s.number a)))
  /-- An application leaves the table; its facade has forgotten the number. -/
  | release {n : UInt16} {a : Nat} {table : Roster Nat} {c : Call} {origin : Origin}
      (removed : s.table.remove? n = some (a, table)) (releases : c.releases? = some (origin, n))
      (serves : ∀ k, origin = .facade k → ∃ r, s.roll? k = some r ∧ r.contains n = true) :
      Step s (.call c) none (onRoll { s with table := table } origin (·.erase n))
  /-- A facade forgets a number under which nothing is registered. -/
  | forget {n : UInt16} {k : Nat} (unknown : s.table.get? n = none) :
      Step s (.call (.facade k (.release n))) none (s.onRoll (.facade k) (·.erase n))
  /-- A facade is opened. -/
  | openFacade : Step s (.call .openFacade) none s.openFacade
  /-- A facade is closed. -/
  | closeFacade (k : Nat) : Step s (.call (.closeFacade k)) none (s.closeFacade k)

/-- A step may be stated with its end spelled another way. -/
theorem Step.of_eq {s t u : Desk} {mv : Move} {e : Option (Nat × Origin)} (h : Step s mv e t)
    (eq : u = t) : Step s mv e u := eq ▸ h

end Desk

/-! ## Facades -/

namespace Registry

variable (s : Ledger) (r : Registry)

/-- The set of a facade is changed with the facade. -/
theorem desk_updateFacade (k : Nat) {f : Facade → Facade} {g : NumberSet → NumberSet}
    (registered : ∀ x, (f x).registered = g x.registered) (isOpen : ∀ x, (f x).isOpen = x.isOpen) :
    s.desk (r.updateFacade k f).panel = (s.desk r.panel).onRoll (.facade k) g := by
  have hroll : (r.updateFacade k f).panel.roll? =
      fun j => (r.panel.roll? j).map fun x => if Origin.facade k = .facade j then g x else x := by
    funext j
    have hget : (r.updateFacade k f).panel.facades.get j =
        if j = k ∧ k < r.facades.size then f (r.facades.get k) else r.panel.facades.get j :=
      r.facades.get_update k j f
    unfold Panel.roll?
    rw [hget]
    by_cases hj : j = k
    · subst hj
      simp only [true_and, if_true]
      by_cases hlt : j < r.facades.size
      · rw [if_pos hlt, isOpen, registered]
        show _ = Option.map g (if (r.facades.get j).isOpen then _ else none)
        split <;> rfl
      · -- a facade that was never opened has no set
        have hclosed : (r.panel.facades.get j).isOpen = false := by
          show (r.facades.get j).isOpen = false
          rw [r.facades.get_of_size_le (Nat.not_lt.1 hlt)]
          rfl
        rw [if_neg hlt, hclosed]
        rfl
    · have hne : Origin.facade k ≠ .facade j := fun e => hj (Origin.facade.inj e).symm
      simp only [hj, false_and, if_false, hne]
      exact (Option.map_id' ..).symm
  have hsize : (r.updateFacade k f).panel.facades.size = r.panel.facades.size :=
    r.facades.size_update k f
  unfold Ledger.desk Desk.onRoll
  rw [hroll, hsize]
  rfl

/-- Opening a facade adds an empty roll to the desk. -/
theorem desk_openFacade : s.desk r.openFacade.panel = (s.desk r.panel).openFacade := by
  have hroll : r.openFacade.panel.roll? =
      update r.panel.roll? r.facades.size (some (.empty r.config.maxApplications)) := by
    funext j
    have hget : r.openFacade.panel.facades.get j = if j = r.facades.size then
        Facade.new r.config.maxApplications r.observers.nextId else r.panel.facades.get j :=
      r.facades.get_add _ j
    rw [Function.update_apply, Panel.roll?, hget]
    split <;> rfl
  have hsize : r.openFacade.panel.facades.size = r.facades.size + 1 := r.facades.size_add _
  unfold Ledger.desk Desk.openFacade
  rw [hroll, hsize]
  rfl

/-- Closing a facade that is open takes its roll off the desk. -/
theorem desk_closeFacade {k : Nat} (isOpen : r.facade? k ≠ none) :
    s.desk (r.closeFacade k).panel = (s.desk r.panel).closeFacade k := by
  have hlt : k < r.facades.size := by
    by_contra hge
    apply isOpen
    rw [facade?, r.facades.get_of_size_le (Nat.not_lt.1 hge)]
    rfl
  have hroll : (r.closeFacade k).panel.roll? = update r.panel.roll? k none := by
    funext j
    have hget : (r.closeFacade k).panel.facades.get j = if j = k ∧ k < r.facades.size then
        { r.facades.get k with isOpen := false } else r.panel.facades.get j :=
      r.facades.get_update k j _
    rw [Function.update_apply, Panel.roll?, hget]
    simp only [hlt, and_true]
    split <;> rfl
  have hsize : (r.closeFacade k).panel.facades.size = r.panel.facades.size :=
    r.facades.size_update k _
  unfold Ledger.desk Desk.closeFacade
  rw [hroll, hsize]
  rfl

end Registry

/-! ## Steps of a ledger -/

namespace Ledger

/-- The registration that ends with a move, and its origin. -/
def ended? (s : Ledger) : Move → Option (Nat × Origin)
  | .advance => match s.frames with
    | .registering a origin c none :: _ => match s.deviceTable.next? c with
      | none => some (a, origin)
      | some _ => none
    | _ => none
  | _ => none

/-- What a step of a ledger does to its desk. -/
inductive DeskStep (s t : Ledger) : Move → Outcome → Prop where
  /-- Nothing. -/
  | quiet {mv : Move} {o : Outcome} (ended : s.ended? mv = none)
      (desk : ∀ p, t.desk p = s.desk p) : DeskStep s t mv o
  /-- An application enters the table. -/
  | enrol {n : UInt16} {table : Roster Nat} {c : Call} {origin : Origin}
      (inserted : s.applTable.insert? n s.applCount = some table)
      (registers : c.registrar? = some origin)
      (desk : ∀ p, t.desk p = (s.desk p).enrol n table origin) : DeskStep s t (.call c) .works
  /-- A registration ends. -/
  | finish {a : Nat} {origin : Origin} {c : Cursor} {fs : List Frame} {o : Outcome}
      (frames : s.frames = .registering a origin c none :: fs)
      (next : s.deviceTable.next? c = none)
      (desk : ∀ p, t.desk p = { s.desk p with enrolments := fs.filterMap Frame.enrolling? }) :
      DeskStep s t .advance o
  /-- An application leaves the table. -/
  | release {n : UInt16} {a : Nat} {table : Roster Nat} {c : Call} {origin : Origin} {o : Outcome}
      (removed : s.applTable.remove? n = some (a, table)) (releases : c.releases? = some (origin, n))
      (outcome : o = .works ∨ o = .ends .deferred)
      (desk : ∀ p, t.desk p = { s.desk p with table := table }) : DeskStep s t (.call c) o

/-- A step is quiet that leaves applications and registrations in progress alone. -/
theorem DeskStep.of_same {s t : Ledger} {mv : Move} {o : Outcome} (ended : s.ended? mv = none)
    (table : t.applTable = s.applTable) (count : t.applCount = s.applCount)
    (id : t.applId = s.applId)
    (enrolments : t.frames.filterMap Frame.enrolling? = s.frames.filterMap Frame.enrolling?) :
    DeskStep s t mv o := by
  refine .quiet ended fun p => ?_
  unfold desk
  rw [table, count, id, enrolments]

/-- A step of a ledger changes its desk in one of the ways listed. -/
theorem Step.desk {s t : Ledger} {mv : Move} {o : Outcome} (step : Step s mv o t) :
    DeskStep s t mv o := by
  cases step with
  -- the table and the registrations in progress stay as they are
  | still | wake | send | freed | unwound | install | remove =>
    exact .of_same rfl rfl rfl rfl (by simp [List.filterMap_cons])
  | woken frames | sent frames | bidden frames | accept frames | decline frames =>
    exact .of_same rfl rfl rfl rfl (by simp [List.filterMap_cons, frames])
  | installed frames | announced frames | passOver frames | bid frames | released frames =>
    exact .of_same (by simp [ended?, frames, Walk.frame]) rfl rfl rfl
      (by simp [List.filterMap_cons, frames])
  -- a walk that has not come to its end ends no registration
  | @ask w _ _ _ _ _ _ frames next | @skip w _ _ _ _ _ frames next =>
    refine .of_same ?_ rfl rfl rfl (by simp [List.filterMap_cons, frames])
    cases w with
    | ofDevice d => simp [ended?, frames, Walk.frame]
    | ofAppl a origin =>
      have hnext : s.deviceTable.next? _ = some _ := next
      simp [ended?, frames, Walk.frame, hnext]
  | tell frames goesOn =>
    refine .of_same ?_ rfl rfl rfl (by simp [List.filterMap_cons, frames])
    rcases goesOn with rfl | ⟨ans, rfl⟩
    · simp [ended?, frames]
    · rfl
  | removed frames | removeLater frames =>
    rw [unlinkAll_eq]
    exact .of_same (by simp [ended?, frames]) rfl rfl rfl (by simp [List.filterMap_cons, frames])
  -- the numbers of the applications are those of before and the new one
  | @register id pool table _ inserted c origin registers =>
    refine .enrol inserted registers fun p => ?_
    have hnumber : (fun a => (update s.applId s.applCount id a).number) =
        update (fun a => (s.applId a).number) s.applCount id.number :=
      Function.comp_update ApplId.number s.applId s.applCount id
    unfold Ledger.desk Desk.enrol
    rw [← hnumber]
    rfl
  | registered frames next =>
    exact .finish frames next fun p => rfl
  | release removed _ c origin releases =>
    exact .release removed releases (Or.inl rfl) fun p => rfl
  | releaseLater removed _ c origin releases =>
    exact .release removed releases (Or.inr rfl) fun p => rfl

end Ledger

/-! ## Moves -/

namespace Machine

variable {config : Config} {m : Machine} {mv : Move}

/-- The desk of a machine. -/
def desk (m : Machine) : Desk := m.ledger.desk m.panel

/-- The registration that a move ends, and its origin. -/
def ended? (m : Machine) (mv : Move) : Option (Nat × Origin) := m.ledger.ended? mv

/-- The desk's roll of a facade is the set its record registers. -/
theorem roll?_eq_some_iff {k : Nat} {r : NumberSet} :
    m.desk.roll? k = some r ↔ ∃ f, m.registry.facade? k = some f ∧ f.registered = r := by
  show (if (m.registry.facades.get k).isOpen then some (m.registry.facades.get k).registered
    else none) = some r ↔ _
  unfold Registry.facade?
  split <;> simp

/-- The desk has no roll for a facade exactly when the facade is not open. -/
theorem roll?_eq_none_iff {k : Nat} : m.desk.roll? k = none ↔ m.registry.facade? k = none := by
  show (if (m.registry.facades.get k).isOpen then some (m.registry.facades.get k).registered
    else none) = none ↔ _
  unfold Registry.facade?
  split <;> simp

/-- A release takes the application out of the table. -/
theorem applTable_release {origin : Origin} {id : ApplId} {a : Nat} {table : Roster Nat}
    (removed : m.registry.applTable.remove? id.number = some (a, table)) :
    (m.release origin id).1.registry.applTable = table := by
  unfold release Registry.retireAppl?
  rw [removed]
  dsimp only
  unfold closeAppl
  dsimp only
  split <;> rfl

/-- A facade that is asked for a release, after which the table is as before, knows a number that
nothing is registered under: what was would have left the table. -/
theorem get?_of_quiet_release {k : Nat} {f : Facade} {id : ApplId}
    (isOpen : m.registry.facade? k = some f) (own : f.appl? id.number = some id)
    (same : (m.make (.call (.facade k (.release id.number)))).1.registry.applTable =
      m.registry.applTable) :
    m.registry.applTable.get? id.number = none := by
  rw [Option.eq_none_iff_forall_ne_some]
  intro a ha
  obtain ⟨table, htable⟩ := Roster.remove?_of_get? ha
  have hmake : (m.make (.call (.facade k (.release id.number)))).1.registry.applTable = table := by
    simp only [make, call, isOpen, facadeCall, own]
    exact applTable_release htable
  rw [hmake.symm.trans same] at htable
  exact ((Roster.get?_remove? htable id.number a).1 ha).1 rfl

/-- A call that leaves applications and registrations in progress alone may still open or close a
facade, or have one forget a number that nothing is registered under. -/
theorem deskStep_quiet (c : Call)
    (desk : ∀ p, (m.make (.call c)).1.ledger.desk p = m.ledger.desk p) :
    m.desk.Step (.call c) none (m.ledger.desk (m.panelAfterCall c)) := by
  cases c with
  | install info driver | remove id =>
    refine (Desk.Step.quiet _).of_eq ?_
    unfold panelAfterCall
    dsimp only
    split <;> rfl
  -- nothing in the panel concerns these calls
  | register | release | send | receive | setHandler | enqueue | deliver | signal | signalError
      | attach | detach => exact .quiet _
  | openFacade => exact Desk.Step.openFacade.of_eq (m.registry.desk_openFacade m.ledger)
  | closeFacade k =>
    cases hk : m.registry.facade? k with
    | none =>
      simp only [panelAfterCall, hk]
      exact .quiet _
    | some f =>
      simp only [panelAfterCall, hk]
      exact (Desk.Step.closeFacade k).of_eq
        (m.registry.desk_closeFacade m.ledger (by rw [hk]; exact Option.some_ne_none f))
  | facade k fc =>
    cases hk : m.registry.facade? k with
    | none =>
      simp only [panelAfterCall, hk]
      exact .quiet _
    | some f =>
      simp only [panelAfterCall, hk]
      cases fc with
      -- these leave the sets of the facade alone
      | register | send | receive | setHandler => exact .quiet _
      | subscribe s =>
        refine (Desk.Step.quiet _).of_eq ?_
        exact (m.registry.desk_updateFacade m.ledger k (f := fun x => x.subscribe s) (g := id)
          (fun _ => rfl) fun _ => rfl).trans (Desk.onRoll_id ..)
      | unsubscribe name =>
        refine (Desk.Step.quiet _).of_eq ?_
        exact (m.registry.desk_updateFacade m.ledger k (f := fun x => x.unsubscribe name) (g := id)
          (fun _ => rfl) fun _ => rfl).trans (Desk.onRoll_id ..)
      -- a facade that releases a number forgets it, though nothing is registered under it
      | release n =>
        cases hn : f.appl? n with
        | none =>
          simp only [panelAfterFacade, hn]
          exact .quiet _
        | some id =>
          simp only [panelAfterFacade, hn]
          obtain ⟨-, rfl⟩ := Facade.appl?_eq_some_iff.1 hn
          have hunknown := get?_of_quiet_release hk hn (congrArg Desk.table (desk m.panel))
          exact (Desk.Step.forget hunknown).of_eq
            (m.registry.desk_updateFacade m.ledger k (fun _ => rfl) fun _ => rfl)

/-- Only the end of a registration through a facade changes the panel with a piece of work. -/
theorem panelAfterWork_of_ended? (ended : m.ended? .advance = none) :
    m.panelAfterWork m.frames = m.panel := by
  unfold panelAfterWork
  split
  -- a registration through a facade is about to look for the next device
  · rename_i a k cursor fs hframes
    split
    · rename_i hnext
      have hledger : m.ledger.frames = .registering a (.facade k) cursor none :: fs := hframes
      have hover : m.ledger.deviceTable.next? cursor = none := hnext
      simp [ended?, Ledger.ended?, hledger, hover] at ended
    · rfl
  · rfl

/-- An application enters the table through the switchboard or through a facade that is open. -/
theorem deskStep_enrol {c : Call} {t : Ledger} {n : UInt16} {table : Roster Nat} {origin : Origin}
    (works : (m.make (.call c)).2 = .works)
    (inserted : m.ledger.applTable.insert? n m.ledger.applCount = some table)
    (registers : c.registrar? = some origin)
    (desk : ∀ p, t.desk p = (m.ledger.desk p).enrol n table origin) :
    m.desk.Step (.call c) none (t.desk (m.panelAfterCall c)) := by
  rw [desk]
  cases c with
  -- the registration was asked for directly
  | register params =>
    refine Desk.Step.enrol (s := m.desk) inserted registers fun k horigin => ?_
    cases registers.trans (congrArg some horigin)
  | facade k fc =>
    cases fc with
    | register params =>
      obtain rfl : origin = .facade k := (Option.some.inj registers).symm
      -- a closed facade registers nothing
      have hopen : m.registry.facade? k ≠ none := by
        intro hk
        simp [make, call, hk, finish] at works
      have hpanel : m.panelAfterCall (.facade k (.register params)) = m.panel := by
        unfold panelAfterCall
        dsimp only
        split <;> rfl
      rw [hpanel]
      refine Desk.Step.enrol (s := m.desk) inserted registers fun j horigin => ?_
      obtain rfl := Origin.facade.inj horigin
      exact fun hroll => hopen (roll?_eq_none_iff.1 hroll)
    | _ => cases registers
  | _ => cases registers

/-- An application leaves the table through the switchboard, or through an open facade that serves
its number. -/
theorem deskStep_release {c : Call} {t : Ledger} {n : UInt16} {a : Nat} {table : Roster Nat}
    {origin : Origin}
    (outcome : (m.make (.call c)).2 = .works ∨ (m.make (.call c)).2 = .ends .deferred)
    (removed : m.ledger.applTable.remove? n = some (a, table))
    (releases : c.releases? = some (origin, n))
    (desk : ∀ p, t.desk p = { m.ledger.desk p with table := table }) :
    m.desk.Step (.call c) none (t.desk (m.panelAfterCall c)) := by
  rw [desk]
  cases c with
  -- the release was asked for directly
  | release id =>
    obtain ⟨rfl, rfl⟩ := Prod.mk.inj (Option.some.inj releases)
    refine (Desk.Step.release (s := m.desk) removed releases ?_).of_eq (Desk.onRoll_direct _ _).symm
    rintro k ⟨⟩
  | facade k fc =>
    cases fc with
    | release n =>
      obtain ⟨rfl, rfl⟩ := Prod.mk.inj (Option.some.inj releases)
      -- a facade that is closed or does not serve the number refuses
      obtain ⟨f, hk⟩ : ∃ f, m.registry.facade? k = some f := by
        rw [← Option.ne_none_iff_exists']
        intro hk
        simp [make, call, hk, finish] at outcome
      obtain ⟨id, hn⟩ : ∃ id, f.appl? n = some id := by
        rw [← Option.ne_none_iff_exists']
        intro hn
        simp [make, call, hk, facadeCall, hn, finish, Reply.ofReleased] at outcome
      have hserves := (Facade.appl?_eq_some_iff.1 hn).1
      -- the facade forgets the number that leaves the table
      simp only [panelAfterCall, hk, panelAfterFacade, hn]
      refine (Desk.Step.release (s := m.desk) removed releases ?_).of_eq ?_
      · intro j horigin
        obtain rfl := Origin.facade.inj horigin
        exact ⟨f.registered, roll?_eq_some_iff.2 ⟨f, hk, rfl⟩, hserves⟩
      · have hroll := m.registry.desk_updateFacade m.ledger k
          (f := fun x => { x with registered := x.registered.erase n }) (g := (·.erase n))
          (fun _ => rfl) fun _ => rfl
        exact congrArg (fun s : Desk => { s with table := table }) hroll
    | _ => cases releases
  | _ => cases releases

/-- A registration ends, and its facade learns the number. -/
theorem deskStep_finish {t : Ledger} {a : Nat} {origin : Origin} {cursor : Cursor} {fs : List Frame}
    (frames : m.ledger.frames = .registering a origin cursor none :: fs)
    (next : m.ledger.deviceTable.next? cursor = none)
    (desk : ∀ p, t.desk p = { m.ledger.desk p with enrolments := fs.filterMap Frame.enrolling? }) :
    m.desk.Step .advance (m.ended? .advance) (t.desk (m.panelAfter .advance)) := by
  have hframes : m.frames = .registering a origin cursor none :: fs := frames
  have hnext : m.registry.deviceTable.next? cursor = none := next
  have hended : m.ended? .advance = some (a, origin) := by
    simp [ended?, Ledger.ended?, frames, next]
  have henrolments : m.desk.enrolments = (a, origin) :: fs.filterMap Frame.enrolling? :=
    congrArg (List.filterMap Frame.enrolling?) hframes
  rw [desk, hended]
  refine (Desk.Step.finish henrolments).of_eq ?_
  cases origin with
  | direct =>
    simp only [panelAfter, panelAfterWork, hframes, Desk.onRoll_direct]
    rfl
  | facade k =>
    simp only [panelAfter, panelAfterWork, hframes, hnext]
    have hroll := m.registry.desk_updateFacade m.ledger k
      (f := fun x => { x with registered := x.registered.insert (m.registry.appls.get a).id.number })
      (g := (·.insert (m.registry.appls.get a).id.number)) (fun _ => rfl) fun _ => rfl
    exact congrArg (fun s : Desk => { s with enrolments := fs.filterMap Frame.enrolling? }) hroll

/-- **What a move does to applications and facades.** Every admitted move of a reachable machine is
a step of its desk. -/
theorem Reachable.deskStep (h : Reachable config m) (admitted : m.admits mv = true) :
    m.desk.Step mv (m.ended? mv) (m.make mv).1.desk := by
  have hdesk : (m.make mv).1.desk = (m.make mv).1.ledger.desk (m.panelAfter mv) :=
    congrArg ((m.make mv).1.ledger.desk ·) (m.panel_make mv)
  -- the ledger tells what becomes of applications, and the panel what becomes of facades
  have hstep := (h.step admitted).desk
  rw [hdesk]
  cases mv with
  | answer ans | resume i =>
    cases hstep with
    | quiet ended desk =>
      rw [desk]
      exact .quiet _
  | advance =>
    cases hstep with
    | quiet ended desk =>
      rw [desk, panelAfter, panelAfterWork_of_ended? ended, show m.ended? .advance = none from ended]
      exact .quiet _
    | @finish a origin cursor fs _ frames next desk => exact deskStep_finish frames next desk
  | call c =>
    generalize ho : (m.make (.call c)).2 = o at hstep
    cases hstep with
    | quiet ended desk =>
      rw [desk]
      exact m.deskStep_quiet c desk
    | enrol inserted registers desk => exact deskStep_enrol ho inserted registers desk
    | release removed releases outcome desk =>
      rw [← ho] at outcome
      exact deskStep_release outcome removed releases desk

end Machine

end Switchboard
