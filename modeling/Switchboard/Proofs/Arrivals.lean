import Switchboard.Proofs.Ledger.Invariant
import Switchboard.Proofs.Roster.Listing
import Switchboard.Proofs.Runs

/-! # The order of arrival

Devices and applications are listed in the order in which they arrived. A history tells the order of
arrival: `installations` and `registrations` are the records that its events add, oldest first. The
tables list those of them that are still there, `Run.deviceTable_values` and
`Run.applTable_values`. -/

namespace Switchboard

open Function (update)

namespace Directory

variable {s t : Directory}

/-- The table lists the active records in the order of their keys. -/
def Listed (s : Directory) : Prop := s.table.values = (List.range s.size).filter s.active

/-- A record that is added is listed last. -/
theorem Listed.add (l : s.Listed) (h : s.Sound) {n : UInt16} (pool : NumberPool)
    {table : Roster Nat} (inserted : s.table.insert? n s.size = some table) :
    (s.add n pool table).Listed := by
  have hvalues : table.values = s.table.values ++ [s.size] := by
    rw [Roster.values, h.ordered.toList_insert? inserted, List.map_append]
    rfl
  -- the new record is the last in the table and has the highest key
  show table.values = (List.range (s.size + 1)).filter (update s.active s.size true)
  have hold : (List.range s.size).filter (update s.active s.size true) =
      (List.range s.size).filter s.active := by
    apply List.filter_congr
    intro k hk
    rw [Function.update_of_ne (Nat.ne_of_lt (List.mem_range.1 hk))]
  rw [hvalues, l, List.range_succ, List.filter_append, hold]
  simp

/-- A record that is retired is listed no more. -/
theorem Listed.retire (l : s.Listed) (h : s.Sound) {n : UInt16} {k : Nat} {table : Roster Nat}
    (removed : s.table.remove? n = some (k, table)) : (s.retire k table).Listed := by
  obtain ⟨hactive, hnumber⟩ := h.of_removed removed
  -- a number stands in the table with its record and with no other
  have hvalues : table.values = s.table.values.filter fun k' => k' ≠ k := by
    rw [Roster.values, h.ordered.toList_remove? removed, Roster.values, List.filter_map]
    congr 1
    apply List.filter_congr
    intro e he
    obtain ⟨hactive', hnumber'⟩ := (h.listed _ _).1 (h.ordered.mem_toList.1 he)
    rw [Function.comp_apply, decide_eq_decide, not_iff_not]
    constructor
    · intro hn
      exact h.number_inj _ _ (Or.inl hactive') (Or.inl hactive) (by rw [hnumber', hnumber, hn])
    · intro hk
      rw [← hnumber', hk, hnumber]
  show table.values = (List.range s.size).filter (update s.active k false)
  rw [hvalues, l, List.filter_filter]
  apply List.filter_congr
  intro k' _
  by_cases hk : k' = k
  · subst hk
    simp
  · simp [hk]

/-- The table goes on to list the active records in order. -/
theorem Listed.change (l : s.Listed) (h : s.Sound) (c : Change s t) : t.Listed := by
  cases c with
  | same => exact l
  | add _ inserted => exact l.add h _ inserted
  | retire removed => exact l.retire h removed
  | free => exact l

end Directory

namespace Ledger

variable {s t : Ledger} {mv : Move} {o : Outcome}

/-- The key of the device that a move adds. -/
def added? (s : Ledger) : Move → Outcome → Option Nat
  | .call (.install _ _), .works => some s.deviceCount
  | _, _ => none

/-- The key of the application that a move adds. -/
def enrolled? (s : Ledger) : Move → Outcome → Option Nat
  | .call (.register _), .works | .call (.facade _ (.register _)), .works => some s.applCount
  | _, _ => none

/-- A move that adds a device adds it as the next one, and no other move changes their count. -/
theorem Step.range_deviceCount (h : Step s mv o t) :
    List.range t.deviceCount = List.range s.deviceCount ++ (s.added? mv o).toList := by
  cases h with
  -- calls that are answered at once, or that wake another one, add no device
  | still c reply => cases c <;> simp [added?]
  | wake c => cases c <;> simp [added?]
  | install => exact List.range_succ
  | register _ _ c _ registers =>
    cases c with
    | install => cases registers
    | _ => simp [added?]
  | release _ _ c _ releases =>
    cases c with
    | install => cases releases
    | _ => simp [added?]
  | releaseLater _ _ c | send _ _ _ _ _ c => cases c <;> simp [added?]
  | tell _ goesOn => rcases goesOn with rfl | ⟨ans, rfl⟩ <;> simp [added?]
  | woken | remove | ask | skip | installed | registered | accept | decline | announced | passOver
      | bid | bidden | released | sent | freed | unwound => exact (List.append_nil _).symm
  | removed | removeLater =>
    rw [unlinkAll_eq]
    exact (List.append_nil _).symm

/-- A move that adds an application adds it as the next one, and no other move changes their
count. -/
theorem Step.range_applCount (h : Step s mv o t) :
    List.range t.applCount = List.range s.applCount ++ (s.enrolled? mv o).toList := by
  -- only a call that enters an application into the table is told apart here
  cases h with
  | still c reply =>
    cases c with
    | facade _ c => cases c <;> simp [enrolled?]
    | _ => simp [enrolled?]
  | wake c =>
    cases c with
    | facade _ c => cases c <;> simp [enrolled?]
    | _ => simp [enrolled?]
  | register _ _ c _ registers =>
    cases c with
    | register => exact List.range_succ
    | facade _ c =>
      cases c with
      | register => exact List.range_succ
      | _ => cases registers
    | _ => cases registers
  | release _ _ c _ releases =>
    cases c with
    | release => simp [enrolled?]
    | facade _ c =>
      cases c with
      | release => simp [enrolled?]
      | _ => cases releases
    | _ => cases releases
  | releaseLater _ _ c | send _ _ _ _ _ c =>
    cases c with
    | facade _ c => cases c <;> simp [enrolled?]
    | _ => simp [enrolled?]
  | tell _ goesOn => rcases goesOn with rfl | ⟨ans, rfl⟩ <;> simp [enrolled?]
  | woken | install | remove | ask | skip | installed | registered | accept | decline | announced
      | passOver | bid | bidden | released | sent | freed | unwound =>
    exact (List.append_nil _).symm
  | removed | removeLater =>
    rw [unlinkAll_eq]
    exact (List.append_nil _).symm

end Ledger

namespace Machine

/-- The key of the device that an event installs. -/
def Event.installs? (e : Event) : Option Nat := e.before.ledger.added? e.move e.outcome

/-- The key of the application that an event registers. -/
def Event.registers? (e : Event) : Option Nat := e.before.ledger.enrolled? e.move e.outcome

/-- The devices that have been installed, in the order of their installation. -/
def installations (history : List Event) : List Nat := history.filterMap Event.installs?

/-- The applications that have been registered, in the order of their registration. -/
def registrations (history : List Event) : List Nat := history.filterMap Event.registers?

/-- Whether a device is installed: it is found under its number. -/
def IsInstalled (m : Machine) (d : Nat) : Prop :=
  m.registry.device? (m.registry.devices.get d).id = some d

/-- Whether an application is registered: it is found under its number. -/
def IsRegistered (m : Machine) (a : Nat) : Prop :=
  m.registry.appl? (m.registry.appls.get a).id = some a

instance (m : Machine) : DecidablePred m.IsInstalled :=
  fun d => inferInstanceAs (Decidable (m.registry.device? _ = some d))

instance (m : Machine) : DecidablePred m.IsRegistered :=
  fun a => inferInstanceAs (Decidable (m.registry.appl? _ = some a))

/-- The records of the installed devices, in the order of their installation. -/
def installed (history : List Event) (m : Machine) : List Device :=
  ((installations history).filter m.IsInstalled).map m.registry.devices.get

/-- The records of the registered applications, in the order of their registration. -/
def registered (history : List Event) (m : Machine) : List Application :=
  ((registrations history).filter m.IsRegistered).map m.registry.appls.get

variable {config : Config} {history : List Event} {m : Machine}

/-- The installed devices are those that are active. -/
theorem Reachable.isInstalled_iff (h : Reachable config m) (d : Nat) :
    m.IsInstalled d ↔ m.ledger.deviceActive d = true :=
  (h.sound.devices.listed _ d).trans (and_iff_left rfl)

/-- The registered applications are those that are active. -/
theorem Reachable.isRegistered_iff (h : Reachable config m) (a : Nat) :
    m.IsRegistered a ↔ m.ledger.applActive a = true :=
  (h.sound.appls.listed _ a).trans (and_iff_left rfl)

/-- Both tables list the active records in the order of their keys. -/
theorem Reachable.tables_listed (h : Reachable config m) :
    m.ledger.devices.Listed ∧ m.ledger.appls.Listed := by
  refine h.induction (P := fun m => m.ledger.devices.Listed ∧ m.ledger.appls.Listed) ⟨rfl, rfl⟩ ?_
  intro m mv hreach ih admitted
  have step := hreach.step admitted
  exact ⟨ih.1.change hreach.sound.devices step.devices, ih.2.change hreach.sound.appls step.appls⟩

/-- Records have their keys in the order of their arrival. -/
theorem Run.arrivals (run : Run config history m) :
    installations history = List.range m.registry.devices.size ∧
      registrations history = List.range m.registry.appls.size := by
  induction run with
  | new => exact ⟨rfl, rfl⟩
  | @move history m mv run admitted ih =>
    -- the event of the move adds the next key of each kind, or none
    have step := run.reachable.step admitted
    obtain ⟨hdevices, happls⟩ := ih
    constructor
    · rw [installations, List.filterMap_append, ← installations, hdevices]
      exact step.range_deviceCount.symm
    · rw [registrations, List.filterMap_append, ← registrations, happls]
      exact step.range_applCount.symm

/-- **The device table** lists the installed devices in the order of their installation. -/
theorem Run.deviceTable_values (run : Run config history m) :
    m.registry.deviceTable.values = (installations history).filter m.IsInstalled := by
  rw [run.arrivals.1]
  refine run.reachable.tables_listed.1.trans (List.filter_congr fun d _ => ?_)
  simp only [run.reachable.isInstalled_iff, Bool.decide_eq_true]
  rfl

/-- **The application table** lists the registered applications in the order of their
registration. -/
theorem Run.applTable_values (run : Run config history m) :
    m.registry.applTable.values = (registrations history).filter m.IsRegistered := by
  rw [run.arrivals.2]
  refine run.reachable.tables_listed.2.trans (List.filter_congr fun a _ => ?_)
  simp only [run.reachable.isRegistered_iff, Bool.decide_eq_true]
  rfl

end Machine

end Switchboard
