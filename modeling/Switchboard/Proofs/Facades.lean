import Switchboard.Proofs.Facades.Forms
import Switchboard.Proofs.Facades.Service
import Switchboard.Proofs.Numbers

/-! # Facades serve their own applications

A call of a facade with a number is the direct call on the application registered under the number,
with the reply in plain numbers, if the application has been registered through that facade; it is
refused and changes nothing otherwise. This is so unless the switchboard has released, past the
facade, an application that the facade had registered under the number: the facade is not told, and
takes the next application under the number for its own. -/

namespace Switchboard

namespace FacadeCall

/-- The number that a call of a facade is about, and the direct call that does the same to the
application with the number. -/
def direct? : FacadeCall → Option (UInt16 × (ApplId → Call))
  | release n => some (n, .release)
  | send n msg => some (n, fun id => .send id msg)
  | receive n => some (n, .receive)
  | setHandler n function param =>
    some (n, fun id => .setHandler id (function.map fun g => ⟨param.toUInt64, .plain g⟩))
  | _ => none

/-- The reply of a facade to a call about a number that it does not serve. -/
def refusal : FacadeCall → Reply
  | receive _ => .fetched (.error 0x1101)
  | _ => .code 0x1101

end FacadeCall

namespace Machine

variable {config : Config} {history : List Event} {m : Machine} {n : UInt16} {k : Nat}

/-! ## Who has registered what -/

/-- An application has been registered through an origin: the registration has ended. -/
def RegisteredThrough (history : List Event) (a : Nat) (origin : Origin) : Prop :=
  ∃ e ∈ history, e.EndsRegistration a origin

/-- An event releases directly the application registered under a number, while a facade is open. -/
def Event.Bypasses (e : Event) (n : UInt16) (k a : Nat) : Prop :=
  ∃ id, e.move = .call (.release id) ∧ id.number = n ∧ e.before.registry.appl? id = some a ∧
    e.before.registry.facade? k ≠ none

/-- An application has been released directly that was registered under a number, while a facade was
open. -/
def Bypassed (history : List Event) (n : UInt16) (k a : Nat) : Prop :=
  ∃ e ∈ history, e.Bypasses n k a

/-- What an open facade has registered under a number, the switchboard has not released directly. -/
def LeftToFacades (history : List Event) (n : UInt16) : Prop :=
  ∀ k a, Bypassed history n k a → ¬RegisteredThrough history a (.facade k)

/-- A facade serves an application number: the application with the number has been registered
through it. -/
def FacadeServes (history : List Event) (m : Machine) (k : Nat) (id : ApplId) : Prop :=
  ∃ a, m.registry.appl? id = some a ∧ RegisteredThrough history a (.facade k)

/-- An event ends a registration exactly when its move does. -/
theorem endsRegistration_iff {e : Event} {a : Nat} {origin : Origin} :
    e.EndsRegistration a origin ↔ e.before.ended? e.move = some (a, origin) := by
  constructor
  · rintro ⟨hmove, c, fs, hframes, hnext⟩
    have hledger : e.before.ledger.frames = .registering a origin c none :: fs := hframes
    have hover : e.before.ledger.deviceTable.next? c = none := hnext
    simp [ended?, Ledger.ended?, hmove, hledger, hover]
  · intro hended
    unfold ended? Ledger.ended? at hended
    split at hended
    · rename_i hmove
      split at hended
      · rename_i a' origin' c fs hframes
        split at hended
        · rename_i hnext
          cases hended
          exact ⟨hmove, c, fs, hframes, hnext⟩
        · cases hended
      · cases hended
    · cases hended

instance (history : List Event) (a : Nat) (origin : Origin) :
    Decidable (RegisteredThrough history a origin) :=
  decidable_of_iff (∃ e ∈ history, e.before.ended? e.move = some (a, origin))
    (exists_congr fun _ => and_congr_right fun _ => endsRegistration_iff.symm)

/-- One more event registers through an origin what its move does. -/
theorem registeredThrough_concat (e : Event) {a : Nat} {origin : Origin} :
    RegisteredThrough (history ++ [e]) a origin ↔
      RegisteredThrough history a origin ∨ e.before.ended? e.move = some (a, origin) := by
  simp only [RegisteredThrough, List.mem_append, List.mem_singleton, or_and_right, exists_or,
    exists_eq_left, endsRegistration_iff]

/-- One more event releases directly what its move does. -/
theorem bypassed_concat (e : Event) {a : Nat} :
    Bypassed (history ++ [e]) n k a ↔ Bypassed history n k a ∨ e.Bypasses n k a := by
  simp only [Bypassed, List.mem_append, List.mem_singleton, or_and_right, exists_or, exists_eq_left]

/-- What is left to the facades in a run was left to them before. -/
theorem LeftToFacades.before {e : Event} (left : LeftToFacades (history ++ [e]) n) :
    LeftToFacades history n := fun k a hby hthrough =>
  left k a ((bypassed_concat e).2 (Or.inl hby)) ((registeredThrough_concat e).2 (Or.inl hthrough))

/-- Where nothing is released directly, everything is left to the facades. -/
theorem leftToFacades_of_forall (h : ∀ e ∈ history, ∀ id, e.move ≠ .call (.release id)) :
    LeftToFacades history n := by
  rintro k a ⟨e, he, id, hmove, -⟩
  exact absurd hmove (h e he id)

/-! ## The desk of a run -/

/-- The limit of applications stays what it is. -/
theorem Reachable.limit_eq (h : Reachable config m) : m.desk.limit = config.maxApplications := by
  refine h.induction (P := fun m => m.desk.limit = config.maxApplications) rfl
    fun m mv hreach ih admitted => ?_
  rw [← ih]
  have hstep := hreach.deskStep admitted
  generalize (m.make mv).1.desk = t, m.ended? mv = ended at hstep ⊢
  cases hstep <;> rfl

/-- What the table of a reachable machine leads to has its number, which is in range. -/
theorem Reachable.listed (h : Reachable config m) : m.desk.Listed := by
  have hs := h.sound.appls
  have hlisted : ∀ n a, m.registry.applTable.get? n = some a →
      m.ledger.applActive a = true ∧ (m.registry.appls.get a).id.number = n := fun n a =>
    (hs.listed n a).1
  constructor
  case lt_size =>
    intro n a ha
    exact hs.inUse_lt a (Or.inl (hlisted n a ha).1)
  case number_eq =>
    intro n a ha
    exact (hlisted n a ha).2
  case inRange =>
    intro n a ha
    obtain ⟨hactive, hnumber⟩ := hlisted n a ha
    have halloc : m.registry.applPool.inUse.contains n = true :=
      (hs.allocated n).2 ⟨a, Or.inl hactive, hnumber⟩
    obtain ⟨hpos, hle⟩ := ((NumberSet.contains_iff _ n).1 halloc).1
    have hcapacity : m.registry.applPool.inUse.capacity = config.maxApplications :=
      h.applCapacity.pool
    rw [hcapacity, ← h.limit_eq] at hle
    exact ⟨hpos, hle⟩

/-- In a new machine nothing is registered and no facade is open. -/
theorem tidy_new (config : Config) : (new config).desk.Tidy (RegisteredThrough []) where
  nodup := List.nodup_nil
  enrolling_lt a ha := absurd ha List.not_mem_nil
  through_lt a o := by rintro ⟨e, he, -⟩; cases he
  apart a o := by rintro ⟨e, he, -⟩; cases he
  through_inj a o o' := by rintro ⟨e, he, -⟩; cases he
  enrolling_facade a k ha := absurd ha List.not_mem_nil
  through_facade a k := by rintro ⟨e, he, -⟩; cases he
  roll_lt k r hr := by cases hr
  sized k r hr := by cases hr
  capacity k r hr := by cases hr

/-- Registrations are kept apart in every run. -/
theorem Run.tidy (run : Run config history m) : m.desk.Tidy (RegisteredThrough history) := by
  induction run with
  | new => exact tidy_new config
  | @move history m mv run admitted ih =>
    have hthrough : RegisteredThrough (history ++ [⟨m, mv, (m.make mv).2⟩]) = fun a o =>
        RegisteredThrough history a o ∨ m.ended? mv = some (a, o) := by
      funext a o
      exact propext (registeredThrough_concat _)
    rw [hthrough]
    exact ih.step (run.reachable.deskStep admitted)

/-- The sets of the facades go with the table in every run, as far as a number is concerned with
which applications are left to the facades. -/
theorem Run.kept (run : Run config history m) (left : LeftToFacades history n) :
    m.desk.Kept (RegisteredThrough history) (Bypassed history n) n := by
  induction run with
  | new => exact ⟨fun a k r ha => absurd ha List.not_mem_nil, fun k r hr => by cases hr⟩
  | @move history m mv run admitted ih =>
    -- what has been left to the facades up to now had been left to them before the move
    have hkept := ih left.before
    have hthrough : RegisteredThrough (history ++ [⟨m, mv, (m.make mv).2⟩]) = fun a o =>
        RegisteredThrough history a o ∨ m.ended? mv = some (a, o) := by
      funext a o
      exact propext (registeredThrough_concat _)
    unfold LeftToFacades at left
    rw [hthrough] at left ⊢
    refine hkept.step run.tidy run.reachable.listed (run.reachable.deskStep admitted)
      (fun k a hby => (bypassed_concat _).2 (Or.inl hby)) ?_ left
    rintro id a k r rfl hn ha hr
    refine (bypassed_concat _).2 (Or.inr ⟨id, rfl, hn, ?_, fun hclosed => ?_⟩)
    · rw [Registry.appl?, hn]
      exact ha
    · rw [roll?_eq_none_iff.2 hclosed] at hr
      cases hr

/-- A facade takes a number for one of its own exactly when it serves the application. -/
theorem Run.facade_appl? (run : Run config history m) {id : ApplId}
    (left : LeftToFacades history id.number) {f : Facade} (isOpen : m.registry.facade? k = some f) :
    f.appl? id.number = some id ↔ FacadeServes history m k id := by
  rw [Facade.appl?_eq_some_iff, and_iff_left rfl]
  exact (run.kept left).served k f.registered (roll?_eq_some_iff.2 ⟨f, isOpen, rfl⟩)

/-! ## Calls of a facade -/

/-- The machine once a facade that is asked to release an application has forgotten its number. -/
def forgetting (m : Machine) (k : Nat) : FacadeCall → Machine
  | .release n =>
    m.withRegistry (m.registry.updateFacade k fun f => { f with registered := f.registered.erase n })
  | _ => m

/-- A call through an origin does what another call does directly: the first reply is the second in
the form of the origin, now and whatever is done next. -/
structure DoesAs (origin : Origin) (s s' : Machine × Outcome) : Prop where
  outcome : s.2 = s'.2.inForm origin
  follows : Follows s.1 s'.1

/-- Calls that are alike but for the form of the reply do the same. -/
theorem AlikeIn.doesAs {origin : Origin} {s s' : Machine × Outcome} (h : AlikeIn origin s s') :
    DoesAs origin s s' := ⟨h.outcome, h.machine.follows⟩

variable {f : Facade} {c : FacadeCall} {direct : ApplId → Call}

/-- A facade that takes the number for one of its own makes the direct call. -/
theorem facadeCall_own (isOpen : m.registry.facade? k = some f) {id : ApplId}
    (about : c.direct? = some (id.number, direct)) (own : f.appl? id.number = some id) :
    DoesAs (.facade k) (m.make (.call (.facade k c)))
      ((m.forgetting k c).make (.call (direct id))) := by
  have hmake : m.make (.call (.facade k c)) = m.facadeCall k f c := by simp only [make, call, isOpen]
  rw [hmake]
  cases c with
  | release n =>
    obtain ⟨rfl, rfl⟩ := Prod.mk.inj (Option.some.inj about)
    simp only [facadeCall, own]
    exact (alikeIn_release _ _ id).doesAs
  | send n msg =>
    obtain ⟨rfl, rfl⟩ := Prod.mk.inj (Option.some.inj about)
    simp only [facadeCall, own]
    exact (alikeIn_send m _ id msg).doesAs
  | receive n =>
    obtain ⟨rfl, rfl⟩ := Prod.mk.inj (Option.some.inj about)
    simp only [facadeCall, own]
    exact (alikeIn_receive m _ id).doesAs
  | setHandler n function param =>
    obtain ⟨rfl, rfl⟩ := Prod.mk.inj (Option.some.inj about)
    simp only [facadeCall, own]
    exact (alikeIn_setHandler m _ id _).doesAs
  | register | subscribe | unsubscribe => cases about

/-- A facade that does not take the number for one of its own refuses the call. -/
theorem facadeCall_refused (isOpen : m.registry.facade? k = some f)
    (about : c.direct? = some (n, direct)) (other : f.appl? n = none) :
    m.make (.call (.facade k c)) = (m, .ends c.refusal) := by
  have hmake : m.make (.call (.facade k c)) = m.facadeCall k f c := by simp only [make, call, isOpen]
  rw [hmake]
  cases c with
  | release | send | receive | setHandler =>
    obtain ⟨rfl, -⟩ := Prod.mk.inj (Option.some.inj about)
    simp only [facadeCall, other]
    rfl
  | register | subscribe | unsubscribe => cases about

/-- **A facade serves its own applications only.** A call of an open facade about the number of an
application that has been registered through the facade is the direct call, with the reply in plain
numbers; a call about any other number is refused and changes nothing. This is so of every number
under which no application that an open facade had registered has been released directly. -/
theorem facade_serves_own (run : Run config history m) (left : LeftToFacades history n)
    (isOpen : m.registry.facade? k = some f) (about : c.direct? = some (n, direct)) :
    (∀ id, id.number = n → FacadeServes history m k id →
      DoesAs (.facade k) (m.make (.call (.facade k c)))
        ((m.forgetting k c).make (.call (direct id)))) ∧
    ((∀ id, id.number = n → ¬FacadeServes history m k id) →
      m.make (.call (.facade k c)) = (m, .ends c.refusal)) := by
  constructor
  · rintro id rfl serves
    exact facadeCall_own isOpen about ((run.facade_appl? left isOpen).2 serves)
  · intro hnone
    refine facadeCall_refused isOpen about (Option.eq_none_iff_forall_ne_some.2 fun id hid => ?_)
    obtain ⟨-, rfl⟩ := Facade.appl?_eq_some_iff.1 hid
    exact hnone id rfl ((run.facade_appl? left isOpen).1 hid)

/-- An application is registered through a facade, and another one directly. -/
def sharing : List Move :=
  [.call .openFacade, .call (.facade 0 (.register ⟨1, 1, 128⟩)), .advance,
    .call (.register ⟨1, 1, 128⟩), .advance]

/-- The facade serves the first application, and refuses what it is asked about the second. -/
theorem facade_serves_first_of_two :
    let history := (Machine.new ⟨2, 2⟩).events sharing
    let m := (Machine.new ⟨2, 2⟩).after sharing
    LeftToFacades history 1 ∧ LeftToFacades history 2 ∧ FacadeServes history m 0 default ∧
      DoesAs (.facade 0) (m.make (.call (.facade 0 (.receive 1)))) (m.make (.call (.receive default))) ∧
      m.registry.appl? ⟨2, by decide⟩ = some 1 ∧
      m.make (.call (.facade 0 (.release 2))) = (m, .ends (.code 0x1101)) := by
  intro history m
  have hrun := Run.of_moves ⟨2, 2⟩ sharing (by decide +kernel)
  have hleft (n : UInt16) : LeftToFacades history n := by
    refine leftToFacades_of_forall fun e he id hmove => ?_
    have hmem := move_mem_of_mem_events he
    rw [hmove] at hmem
    simp [sharing] at hmem
  have hopen : m.registry.facade? 0 = some (m.registry.facades.get 0) := if_pos (by decide +kernel)
  have hserves : FacadeServes history m 0 default := ⟨0, by decide +kernel, by decide +kernel⟩
  have hother : ∀ id : ApplId, id.number = 2 → ¬FacadeServes history m 0 id := by
    rintro id hid ⟨a, ha, hthrough⟩
    have happl : m.registry.appl? id = some 1 := by
      rw [Registry.appl?, hid]
      decide +kernel
    obtain rfl : a = 1 := Option.some.inj (ha.symm.trans happl)
    exact absurd hthrough (by decide +kernel)
  exact ⟨hleft 1, hleft 2, hserves,
    (facade_serves_own hrun (hleft 1) hopen rfl).1 default rfl hserves, by decide +kernel,
    (facade_serves_own hrun (hleft 2) hopen rfl).2 hother⟩

/-- The switchboard releases an application that a facade has registered, and registers another,
which gets the number. -/
def takingOver : List Move :=
  [.call .openFacade, .call (.facade 0 (.register ⟨1, 1, 128⟩)), .advance,
    .call (.release default), .advance, .call (.register ⟨1, 1, 128⟩), .advance]

/-- The facade takes the other application for its own: it looks for a message in its queue, and
releases it when asked to. -/
theorem facade_serves_successor :
    let history := (Machine.new ⟨2, 2⟩).events takingOver
    let m := (Machine.new ⟨2, 2⟩).after takingOver
    Run ⟨2, 2⟩ history m ∧ m.registry.appl? default = some 1 ∧ RegisteredThrough history 1 .direct ∧
      ¬FacadeServes history m 0 default ∧
      (m.make (.call (.facade 0 (.receive 1)))).2 = .ends (.fetched (.error 0x1104)) ∧
      (m.make (.call (.facade 0 (.release 1)))).1.registry.appl? default = none := by
  intro history m
  have happl : m.registry.appl? default = some 1 := by decide +kernel
  have hforeign : ¬FacadeServes history m 0 default := by
    rintro ⟨a, ha, hthrough⟩
    obtain rfl : a = 1 := Option.some.inj (ha.symm.trans happl)
    exact absurd hthrough (by decide +kernel)
  have hopen : m.registry.facade? 0 = some (m.registry.facades.get 0) := if_pos (by decide +kernel)
  have hown : (m.registry.facades.get 0).appl? 1 = some default := by decide +kernel
  have hempty : m.registry.receive default = .error .queueEmpty := by
    have hpeek : m.registry.peek default = .error .queueEmpty := by decide +kernel
    rw [Registry.peek_eq_receive] at hpeek
    cases hreceive : m.registry.receive default with
    | ok e => rw [hreceive] at hpeek; cases hpeek
    | error fault => rw [hreceive] at hpeek; cases hpeek; rfl
  have hfetched : (m.make (.call (.facade 0 (.receive 1)))).2 = .ends (.fetched (.error 0x1104)) := by
    simp only [make, call, hopen, facadeCall, hown, receive, hempty]
    rfl
  exact ⟨Run.of_moves ⟨2, 2⟩ takingOver (by decide +kernel), happl, by decide +kernel, hforeign,
    hfetched, by decide +kernel⟩

end Machine

end Switchboard
