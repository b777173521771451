import Switchboard.Proofs.Panel
import Switchboard.Proofs.References
import Switchboard.Proofs.Runs

/-! # Numbers in use

A number is given out when a record arrives and given back when its teardown is complete. In
between it is in use, whether the record is in its table or has left it and is being torn down. This
module shows that pool, table and records agree about the numbers in use in every reachable machine,
and that an arrival gets the lowest number that is not. -/

namespace Switchboard

/-- Pool, table and records agree about numbers: those in use are the numbers of the records in the
table and of those that are being torn down, and no two records have the same. -/
structure NumbersAgree (pool : NumberPool) (table : Roster Nat) (closing : Nat → Prop)
    (number : Nat → UInt16) : Prop where
  /-- The numbers in use are those of the records in the table and of those being torn down. -/
  allocated : ∀ n, pool.isAllocated n = true ↔ ∃ k, (k ∈ table.values ∨ closing k) ∧ number k = n
  /-- What is being torn down is not in the table. -/
  apart : ∀ k ∈ table.values, ¬closing k
  /-- No number is used twice. -/
  number_inj : ∀ k k', k ∈ table.values ∨ closing k → k' ∈ table.values ∨ closing k' →
    number k = number k' → k = k'
  /-- The table takes whatever number is given out. -/
  accepted : ∀ n pool', pool.allocate = .ok (n, pool') →
    n ≠ 0 ∧ ∀ k, ∃ table', table.insert? n k = some table'

namespace Directory

variable {s : Directory}

/-- Pool, table and records of a sound directory agree. -/
theorem Sound.numbersAgree (h : s.Sound) {c : UInt16} (cap : s.HasCapacity c) :
    NumbersAgree s.pool s.table (fun k => s.closing k ≠ 0) s.number := by
  have hinUse : ∀ k, k ∈ s.table.values ∨ s.closing k ≠ 0 ↔ s.InUse k := fun k =>
    or_congr_left (h.mem_table k)
  constructor
  case allocated =>
    intro n
    simp only [hinUse]
    exact h.allocated n
  case apart =>
    intro k hk hclosing
    have hactive := (h.mem_table k).1 hk
    rw [h.apart k hclosing] at hactive
    cases hactive
  case number_inj =>
    intro k k' hk hk'
    exact h.number_inj k k' ((hinUse k).1 hk) ((hinUse k').1 hk')
  case accepted =>
    intro n pool' hpool
    exact ⟨(allocate_eq_ok hpool).1.1, h.insert?_of_allocate cap hpool⟩

end Directory

/-! ## Moves that leave the table of devices alone -/

/-- Only installations and removals change the table of devices. -/
theorem Ledger.Step.deviceTable_eq {s t : Ledger} {mv : Move} {o : Outcome} (step : Step s mv o t)
    (install : ∀ info driver, mv ≠ .call (.install info driver))
    (remove : ∀ id, mv ≠ .call (.remove id)) : t.deviceTable = s.deviceTable := by
  cases step with
  | still | wake | woken | register | release | releaseLater | send | ask | skip | installed
      | registered | accept | decline | tell | announced | passOver | bid | bidden | released | sent
      | freed | unwound => rfl
  | install _ _ info driver => exact absurd rfl (install info driver)
  | @remove id => exact absurd rfl (remove id)
  | removed | removeLater =>
    rw [unlinkAll_eq]
    rfl

namespace Machine

variable {config : Config} {history : List Event} {m : Machine}

/-- Only installations and removals change the count of installed devices. -/
theorem installed_panelAfter (m : Machine) {mv : Move}
    (install : ∀ info driver, mv ≠ .call (.install info driver))
    (remove : ∀ id, mv ≠ .call (.remove id)) :
    (m.panelAfter mv).installed = m.registry.installed := by
  cases mv with
  | answer | resume => rfl
  | advance =>
    rw [panelAfter]
    unfold panelAfterWork
    split
    · split <;> rfl
    · rfl
  | call c =>
    cases c with
    | install info driver => exact absurd rfl (install info driver)
    | remove id => exact absurd rfl (remove id)
    | register | release | send | receive | setHandler | enqueue | deliver | signal | signalError
        | attach | detach | openFacade => rfl
    | closeFacade k => cases h : m.registry.facade? k <;> simp [panelAfter, panelAfterCall, h] <;> rfl
    | facade k fc =>
      cases h : m.registry.facade? k with
      | none => simp [panelAfter, panelAfterCall, h]; rfl
      | some f =>
        rw [panelAfter, panelAfterCall, h]
        cases fc with
        | release n =>
          unfold panelAfterFacade
          dsimp only
          split <;> rfl
        | register | send | receive | setHandler | subscribe | unsubscribe => rfl

/-! ## Records whose numbers are in use -/

/-- The removal of a device is under way: its news are being told, or it waits for others. -/
def Removing (m : Machine) (d : Nat) : Prop :=
  (∃ f ∈ m.frames, f.removing? = some d) ∨ ∃ t ∈ m.waiting, t.device? = some d

instance (m : Machine) (d : Nat) : Decidable (m.Removing d) :=
  inferInstanceAs (Decidable (_ ∨ _))

/-- The release of an application is under way: its links are being unwound, or it waits for
others. -/
def Releasing (m : Machine) (a : Nat) : Prop :=
  (∃ f ∈ m.frames, f.unwinding? = some a) ∨ m.Draining a

instance (m : Machine) (a : Nat) : Decidable (m.Releasing a) :=
  inferInstanceAs (Decidable (_ ∨ _))

/-- A number is that of a device that is installed or being removed. -/
def DeviceNumberTaken (m : Machine) (n : UInt16) : Prop :=
  ∃ d, (d ∈ m.registry.deviceTable.values ∨ m.Removing d) ∧ (m.registry.devices.get d).id.number = n

/-- A number is that of an application that is registered or being released. -/
def ApplNumberTaken (m : Machine) (n : UInt16) : Prop :=
  ∃ a, (a ∈ m.registry.applTable.values ∨ m.Releasing a) ∧ (m.registry.appls.get a).id.number = n

/-- A teardown is under way in a call or waits exactly when it is counted. -/
theorem exists_or_exists_iff {α β : Type} {l : List α} {l' : List β} {p : α → Prop} {q : β → Prop}
    [DecidablePred p] [DecidablePred q] :
    ((∃ x ∈ l, p x) ∨ ∃ y ∈ l', q y) ↔
      (l.countP fun x => p x) + (l'.countP fun y => q y) ≠ 0 := by
  have hl : (∃ x ∈ l, p x) ↔ 0 < l.countP fun x => p x := by simp [List.countP_pos_iff]
  have hl' : (∃ y ∈ l', q y) ↔ 0 < l'.countP fun y => q y := by simp [List.countP_pos_iff]
  rw [hl, hl']
  omega

/-- A device is being removed exactly when the ledger has a teardown of it. -/
theorem removing_iff (m : Machine) (d : Nat) : m.Removing d ↔ m.ledger.devices.closing d ≠ 0 :=
  exists_or_exists_iff

/-- An application is being released exactly when the ledger has a teardown of it. -/
theorem releasing_iff (m : Machine) (a : Nat) : m.Releasing a ↔ m.ledger.appls.closing a ≠ 0 :=
  exists_or_exists_iff

/-- A number is taken by a device exactly when the directory of devices says so. -/
theorem deviceNumberTaken_eq (h : m.ledger.Sound) :
    m.DeviceNumberTaken = m.ledger.devices.Taken := by
  funext n
  refine propext (exists_congr fun d => and_congr_left' (or_congr ?_ (m.removing_iff d)))
  exact h.devices.mem_table d

/-- A number is taken by an application exactly when the directory of applications says so. -/
theorem applNumberTaken_eq (h : m.ledger.Sound) : m.ApplNumberTaken = m.ledger.appls.Taken := by
  funext n
  refine propext (exists_congr fun a => and_congr_left' (or_congr ?_ (m.releasing_iff a)))
  exact h.appls.mem_table a

/-- Pool, table and records of the devices agree about numbers. -/
def DeviceNumbersAgree (m : Machine) : Prop :=
  NumbersAgree m.registry.devicePool m.registry.deviceTable m.Removing
    fun d => (m.registry.devices.get d).id.number

/-- Pool, table and records of the applications agree about numbers. -/
def ApplNumbersAgree (m : Machine) : Prop :=
  NumbersAgree m.registry.applPool m.registry.applTable m.Releasing
    fun a => (m.registry.appls.get a).id.number

/-- There is room for devices up to the limit. -/
theorem Reachable.deviceCapacity (h : Reachable config m) :
    m.ledger.devices.HasCapacity config.maxDevices :=
  h.induction (P := fun m => m.ledger.devices.HasCapacity config.maxDevices)
    (Directory.hasCapacity_new _ _)
    fun _ _ hreach cap admitted => (hreach.step admitted).devices.hasCapacity cap

/-- There is room for applications up to the limit. -/
theorem Reachable.applCapacity (h : Reachable config m) :
    m.ledger.appls.HasCapacity config.maxApplications :=
  h.induction (P := fun m => m.ledger.appls.HasCapacity config.maxApplications)
    (Directory.hasCapacity_new _ _)
    fun _ _ hreach cap admitted => (hreach.step admitted).appls.hasCapacity cap

/-- The numbers of the devices agree in every reachable machine. -/
theorem Reachable.deviceNumbersAgree (h : Reachable config m) : m.DeviceNumbersAgree := by
  rw [DeviceNumbersAgree, funext fun d => propext (m.removing_iff d)]
  exact h.sound.devices.numbersAgree h.deviceCapacity

/-- The numbers of the applications agree in every reachable machine. -/
theorem Reachable.applNumbersAgree (h : Reachable config m) : m.ApplNumbersAgree := by
  rw [ApplNumbersAgree, funext fun a => propext (m.releasing_iff a)]
  exact h.sound.appls.numbersAgree h.applCapacity

/-- An installation adds one to the count of installed devices, and one entry to their table. -/
theorem installed_installDevice {info : DeviceInfo} {driver : Driver} {d : Nat} {r : Registry}
    (hr : m.registry.installDevice info driver = .ok (d, r)) :
    r.installed = m.registry.installed + 1 ∧
      r.deviceTable.size = m.registry.deviceTable.size + 1 := by
  obtain ⟨id, pool, table, -, htable, -, hledger⟩ :=
    m.registry.installDevice_eq_ok m.frames m.waiting hr
  refine ⟨congrArg Panel.installed (Registry.panel_installDevice hr), ?_⟩
  rw [show r.deviceTable = table from congrArg Ledger.deviceTable hledger]
  exact Roster.size_insert? htable

/-- A removal takes one from the count of installed devices, and one entry from their table. -/
theorem installed_retireDevice? (h : Reachable config m) {id : DeviceId} {d : Nat} {r : Registry}
    (hr : m.registry.retireDevice? id = some (d, r)) :
    r.installed = m.registry.installed - 1 ∧
      r.deviceTable.size + 1 = m.registry.deviceTable.size := by
  obtain ⟨table, htable, hledger⟩ := m.registry.retireDevice?_eq_some m.frames m.waiting hr
  refine ⟨congrArg Panel.installed (Registry.panel_retireDevice? hr), ?_⟩
  rw [show r.deviceTable = table from congrArg Ledger.deviceTable hledger]
  exact h.sound.devices.ordered.size_remove? htable

/-- The count of installed devices is that of the entries in their table. -/
theorem Reachable.installed_eq (h : Reachable config m) :
    m.registry.installed = m.registry.deviceTable.size := by
  refine h.induction (P := fun m => m.registry.installed = m.registry.deviceTable.size) rfl
    fun m mv hreach ih admitted => ?_
  -- an installation and a removal change table and count alike, and every other move neither
  by_cases hinstall : ∃ info driver, mv = .call (.install info driver)
  · obtain ⟨info, driver, rfl⟩ := hinstall
    cases hr : m.registry.installDevice info driver with
    | error fault => simpa [Machine.make, call, hr, finish] using ih
    | ok e =>
      obtain ⟨hcount, hsize⟩ := installed_installDevice hr
      simp only [Machine.make, call, hr]
      exact (hcount.trans (congrArg (· + 1) ih)).trans hsize.symm
  · by_cases hremove : ∃ id, mv = .call (.remove id)
    · obtain ⟨id, rfl⟩ := hremove
      cases hr : m.registry.retireDevice? id with
      | none => simpa [Machine.make, call, hr, finish] using ih
      | some e =>
        obtain ⟨hcount, hsize⟩ := installed_retireDevice? hreach hr
        simp only [Machine.make, call, hr]
        show e.2.installed = e.2.deviceTable.size
        omega
    · have hnotInstall : ∀ info driver, mv ≠ .call (.install info driver) :=
        fun info driver e => hinstall ⟨info, driver, e⟩
      have hnotRemove : ∀ id, mv ≠ .call (.remove id) := fun id e => hremove ⟨id, e⟩
      have htable : (m.make mv).1.registry.deviceTable = m.registry.deviceTable :=
        (hreach.step admitted).deviceTable_eq hnotInstall hnotRemove
      have hcount : (m.make mv).1.registry.installed = (m.panelAfter mv).installed :=
        congrArg Panel.installed (m.panel_make mv)
      rw [htable, hcount, m.installed_panelAfter hnotInstall hnotRemove]
      exact ih

/-! ## Arrivals -/

/-- Every number from 1 to a limit is taken. -/
def Exhausted (taken : UInt16 → Prop) (limit : UInt16) : Prop := ∀ n, 1 ≤ n → n ≤ limit → taken n

/-- The last piece of the call that installs a device. -/
def Event.EndsInstallation (e : Event) (d : Nat) : Prop :=
  e.move = .advance ∧ ∃ fs, e.before.frames = .announcing d .added none [] [] :: fs

/-- The last piece of the call that registers an application through an origin. -/
def Event.EndsRegistration (e : Event) (a : Nat) (origin : Origin) : Prop :=
  e.move = .advance ∧ ∃ c fs, e.before.frames = .registering a origin c none :: fs ∧
    e.before.registry.deviceTable.next? c = none

/-- An event that begins to install a device under a number: the new record has the number and is in
the table, and when the installation ends, the number is its reply. -/
structure Event.InstallsUnder (e : Event) (later : List Event) (id : DeviceId) : Prop where
  outcome : e.outcome = .works
  entered : (e.before.make e.move).1.registry.device? id = some e.before.registry.devices.size
  record : ((e.before.make e.move).1.registry.devices.get e.before.registry.devices.size).id = id
  reply : ∀ e' ∈ later, e'.EndsInstallation e.before.registry.devices.size →
    e'.outcome = .ends (.installed (.ok id))

/-- An event that begins to register an application under a number: the new record has the number
and is in the table, and when the registration ends, the number is its reply. -/
structure Event.RegistersUnder (e : Event) (later : List Event) (id : ApplId) : Prop where
  outcome : e.outcome = .works
  entered : (e.before.make e.move).1.registry.appl? id = some e.before.registry.appls.size
  record : ((e.before.make e.move).1.registry.appls.get e.before.registry.appls.size).id = id
  reply : ∀ e' ∈ later, ∀ origin, e'.EndsRegistration e.before.registry.appls.size origin →
    e'.outcome = .ends (.ofRegistered origin (.ok id))

/-- An event with which a registration is called for, directly or through an open facade. -/
def Event.Registers (e : Event) (origin : Origin) (params : RegisterParams) : Prop :=
  match origin with
  | .direct => e.move = .call (.register params)
  | .facade k =>
    e.move = .call (.facade k (.register params)) ∧ (e.before.registry.facade? k).isSome = true

/-- A device that is acceptable is installed under the number that the pool gives out, or not at all
when it gives out none. -/
theorem installDevice_cases (h : Reachable config m) {info : DeviceInfo} (driver : Driver)
    (valid : info.check = .ok ()) :
    (Exhausted m.DeviceNumberTaken config.maxDevices ∧
      m.registry.installDevice info driver = .error (.tableFull config.maxDevices)) ∨
    ∃ id, IsLowestFree m.DeviceNumberTaken config.maxDevices id.number ∧
      ∃ r, m.registry.installDevice info driver = .ok (m.registry.devices.size, r) ∧
        r.device? id = some m.registry.devices.size ∧
        (r.devices.get m.registry.devices.size).id = id ∧
        r.devices.size = m.registry.devices.size + 1 := by
  have cap := h.deviceCapacity
  rw [deviceNumberTaken_eq h.sound]
  cases hr : m.registry.installDevice info driver with
  | ok e =>
    obtain ⟨d, r⟩ := e
    obtain ⟨id, pool, table, hpool, htable, rfl, hledger⟩ :=
      m.registry.installDevice_eq_ok m.frames m.waiting hr
    have hids : (fun k => (r.devices.get k).id) =
        Function.update m.ledger.deviceId m.registry.devices.size id :=
      congrArg Ledger.deviceId hledger
    right
    refine ⟨id, (h.sound.devices.allocate_iff cap).1 ⟨pool, hpool⟩, r, rfl, ?_, ?_,
      congrArg Ledger.deviceCount hledger⟩
    · rw [Registry.device?, show r.deviceTable = table from congrArg Ledger.deviceTable hledger,
        Roster.get?_insert? htable]
      exact Or.inl ⟨rfl, rfl⟩
    · exact (congrFun hids _).trans (Function.update_self ..)
  | error fault =>
    left
    -- a pool that gives out no number has none
    have hcap : m.registry.devicePool.capacity = config.maxDevices := cap.pool
    cases hpool : m.registry.devicePool.allocate with
    | error e =>
      refine ⟨(h.sound.devices.allocate_error_iff cap).1 ⟨e, hpool⟩, ?_⟩
      simpa [Registry.installDevice, valid, hpool, hcap, eq_comm] using hr
    | ok e =>
      -- the table would take the number
      obtain ⟨n, pool⟩ := e
      obtain ⟨hn, hinsert⟩ := h.deviceNumbersAgree.accepted n pool hpool
      obtain ⟨table, htable⟩ := hinsert m.registry.devices.size
      simp [Registry.installDevice, valid, hpool, DeviceId.ofNumber?, hn, htable] at hr

/-- An application whose block length is accepted is registered under the number that the pool gives
out, or not at all when it gives out none. -/
theorem installAppl_cases (h : Reachable config m) {params : RegisterParams}
    (valid : RegisterParams.minBlockLength ≤ params.blockLength) :
    (Exhausted m.ApplNumberTaken config.maxApplications ∧
      m.registry.installAppl params = .error .tooManyApplications) ∨
    ∃ id, IsLowestFree m.ApplNumberTaken config.maxApplications id.number ∧
      ∃ r, m.registry.installAppl params = .ok (m.registry.appls.size, r) ∧
        r.appl? id = some m.registry.appls.size ∧
        (r.appls.get m.registry.appls.size).id = id ∧
        r.appls.size = m.registry.appls.size + 1 := by
  have cap := h.applCapacity
  rw [applNumberTaken_eq h.sound]
  cases hr : m.registry.installAppl params with
  | ok e =>
    obtain ⟨a, r⟩ := e
    obtain ⟨id, pool, table, hpool, htable, rfl, hledger⟩ :=
      m.registry.installAppl_eq_ok m.frames m.waiting hr
    have hids : (fun k => (r.appls.get k).id) =
        Function.update m.ledger.applId m.registry.appls.size id :=
      congrArg Ledger.applId hledger
    right
    refine ⟨id, (h.sound.appls.allocate_iff cap).1 ⟨pool, hpool⟩, r, rfl, ?_, ?_,
      congrArg Ledger.applCount hledger⟩
    · rw [Registry.appl?, show r.applTable = table from congrArg Ledger.applTable hledger,
        Roster.get?_insert? htable]
      exact Or.inl ⟨rfl, rfl⟩
    · exact (congrFun hids _).trans (Function.update_self ..)
  | error fault =>
    left
    have hblock : ¬params.blockLength < RegisterParams.minBlockLength := UInt32.not_lt.2 valid
    cases hpool : m.registry.applPool.allocate with
    | error e =>
      refine ⟨(h.sound.appls.allocate_error_iff cap).1 ⟨e, hpool⟩, ?_⟩
      simpa [Registry.installAppl, hblock, hpool, eq_comm] using hr
    | ok e =>
      obtain ⟨n, pool⟩ := e
      obtain ⟨hn, hinsert⟩ := h.applNumbersAgree.accepted n pool hpool
      obtain ⟨table, htable⟩ := hinsert m.registry.appls.size
      simp [Registry.installAppl, hblock, hpool, ApplId.ofNumber?, hn, htable] at hr

/-- A bound number stands for a device that has it still, and for no other. -/
theorem Reachable.device_of_bound (h : Reachable config m) {a : Nat} {id : DeviceId}
    (bound : (m.registry.appls.get a).links.isBound id = true) :
    ∃ d ∈ (m.registry.appls.get a).links.keys,
      (d ∈ m.registry.deviceTable.values ∨ m.Removing d) ∧ (m.registry.devices.get d).id = id ∧
      ∀ d', d' ∈ m.registry.deviceTable.values ∨ m.Removing d' →
        (m.registry.devices.get d').id = id → d' = d := by
  have hs := h.sound
  obtain ⟨d, hd⟩ := ((hs.paired.coherent a).bound_iff id).1 bound
  have hinUse : ∀ k, (k ∈ m.registry.deviceTable.values ∨ m.Removing k) ↔ m.ledger.devices.InUse k :=
    fun k => or_congr (hs.devices.mem_table k) (m.removing_iff k)
  have hid : (m.registry.devices.get d).id = id := hs.paired.keyed a _ hd
  refine ⟨d, List.mem_map_of_mem hd, (hinUse d).2 (hs.device_inUse (hs.linked_refs hd)), hid, ?_⟩
  intro d' hd' hid'
  exact (hs.linked_eq hd ((hinUse d').1 hd') hid').symm

variable {h₁ h₂ : List Event} {e : Event}

/-- An installation gets the lowest number that is free, and fails when there is none. -/
theorem Run.install_allots (run : Run config history m) (split : history = h₁ ++ e :: h₂)
    {info : DeviceInfo} {driver : Driver} (installs : e.move = .call (.install info driver))
    (valid : info.check = .ok ()) :
    (Exhausted e.before.DeviceNumberTaken config.maxDevices ∧
      e.outcome = .ends (.installed (.error (.tableFull config.maxDevices)))) ∨
    ∃ id, IsLowestFree e.before.DeviceNumberTaken config.maxDevices id.number ∧
      e.InstallsUnder h₂ id := by
  obtain ⟨hreach, -, houtcome⟩ := run.event (e := e) (by simp [split])
  rcases installDevice_cases hreach driver valid with
    ⟨hfull, hr⟩ | ⟨id, hlowest, r, hr, hentered, hrecord, hsize⟩
  · left
    refine ⟨hfull, ?_⟩
    simp [houtcome, installs, make, call, hr, finish]
  · right
    -- the event enters the device into the registry
    have hmake : (e.before.make e.move).1.registry = r := by
      rw [installs]
      simp only [make, call, hr]
      rfl
    -- the device has its number from then on
    have hlater := run.since
      (P := fun m => e.before.registry.devices.size < m.registry.devices.size ∧
        (m.registry.devices.get e.before.registry.devices.size).id = id) split
      (by rw [hmake, hsize]; exact ⟨Nat.lt_succ_self _, hrecord⟩)
      fun m mv h admitted hm => ⟨(h.deviceId_make admitted hm.1).1,
        (h.deviceId_make admitted hm.1).2.trans hm.2⟩
    refine ⟨id, hlowest, ?_, hmake ▸ hentered, hmake ▸ hrecord, ?_⟩
    · simp [houtcome, installs, make, call, hr, enter, Frame.outcome, Frame.callback?]
    · rintro e' he' ⟨hmove, fs, hframes⟩
      obtain ⟨-, -, houtcome'⟩ := run.event (e := e') (by simp [split, he'])
      simp [houtcome', hmove, make, advance, hframes, work, finish, (hlater.2 e' he').2]

/-- A call for a registration registers through its origin. -/
theorem Event.Registers.make_eq {origin : Origin} {params : RegisterParams}
    (registers : e.Registers origin params) :
    e.before.make e.move = e.before.register origin params := by
  cases origin with
  | direct =>
    rw [show e.move = .call (.register params) from registers]
    rfl
  | facade k =>
    obtain ⟨hmove, hopen⟩ := registers
    obtain ⟨f, hf⟩ := Option.isSome_iff_exists.1 hopen
    simp [hmove, make, call, hf, facadeCall]

/-- A registration gets the lowest number that is free, and fails when there is none. -/
theorem Run.register_allots (run : Run config history m) (split : history = h₁ ++ e :: h₂)
    {origin : Origin} {params : RegisterParams} (registers : e.Registers origin params)
    (valid : RegisterParams.minBlockLength ≤ params.blockLength) :
    (Exhausted e.before.ApplNumberTaken config.maxApplications ∧
      e.outcome = .ends (.ofRegistered origin (.error .tooManyApplications))) ∨
    ∃ id, IsLowestFree e.before.ApplNumberTaken config.maxApplications id.number ∧
      e.RegistersUnder h₂ id := by
  obtain ⟨hreach, -, houtcome⟩ := run.event (e := e) (by simp [split])
  rcases installAppl_cases hreach valid with
    ⟨hfull, hr⟩ | ⟨id, hlowest, r, hr, hentered, hrecord, hsize⟩
  · left
    refine ⟨hfull, ?_⟩
    simp [houtcome, registers.make_eq, register, hr, finish]
  · right
    have hmake : (e.before.make e.move).1.registry = r := by
      rw [registers.make_eq]
      simp only [register, hr]
      rfl
    have hlater := run.since
      (P := fun m => e.before.registry.appls.size < m.registry.appls.size ∧
        (m.registry.appls.get e.before.registry.appls.size).id = id) split
      (by rw [hmake, hsize]; exact ⟨Nat.lt_succ_self _, hrecord⟩)
      fun m mv h admitted hm => ⟨(h.applId_make admitted hm.1).1,
        (h.applId_make admitted hm.1).2.trans hm.2⟩
    refine ⟨id, hlowest, ?_, hmake ▸ hentered, hmake ▸ hrecord, ?_⟩
    · simp [houtcome, registers.make_eq, register, hr, enter, Frame.outcome, Frame.callback?]
    · rintro e' he' origin' ⟨hmove, c, fs, hframes, hnext⟩
      obtain ⟨-, -, houtcome'⟩ := run.event (e := e') (by simp [split, he'])
      simp [houtcome', hmove, make, advance, hframes, work, hnext, finish, (hlater.2 e' he').2]

/-- An arrival that gets the lowest free number or fails for want of one fails exactly when there is
none. -/
theorem allots_iff {ι : Type} (number : ι → UInt16) {taken : UInt16 → Prop} {limit : UInt16}
    {under : ι → Prop} {o : Outcome} {reply : Reply} (works : ∀ id, under id → o = .works)
    (allots : (Exhausted taken limit ∧ o = .ends reply) ∨
      ∃ id, IsLowestFree taken limit (number id) ∧ under id) :
    (o = .ends reply ↔ Exhausted taken limit) ∧
      (¬Exhausted taken limit → ∃ id, IsLowestFree taken limit (number id) ∧ under id) := by
  rcases allots with ⟨hfull, ho⟩ | ⟨id, hlowest, hunder⟩
  · exact ⟨iff_of_true ho hfull, fun hno => absurd hfull hno⟩
  · have hnot : ¬Exhausted taken limit := fun hfull =>
      hlowest.free (hfull _ hlowest.pos hlowest.le)
    refine ⟨iff_of_false (fun ho => ?_) hnot, fun _ => ⟨id, hlowest, hunder⟩⟩
    rw [works id hunder] at ho
    cases ho

/-- **Numbers are neither used again early nor lost.** In every machine of a run the numbers in use
are exactly those of the records in the tables and of the records that are being torn down, each
used once, and the count of installed devices is that of their table. So a bound number stands for
the one device that has it; an arrival gets the lowest number that is free and fails exactly when
all are taken; and the tables never turn down a number that has been given out. -/
theorem numbers_exact (run : Run config history m) :
    m.DeviceNumbersAgree ∧ m.ApplNumbersAgree ∧
    m.registry.installed = m.registry.deviceTable.size ∧
    (∀ a id, (m.registry.appls.get a).links.isBound id = true →
      ∃ d ∈ (m.registry.appls.get a).links.keys,
        (d ∈ m.registry.deviceTable.values ∨ m.Removing d) ∧ (m.registry.devices.get d).id = id ∧
        ∀ d', d' ∈ m.registry.deviceTable.values ∨ m.Removing d' →
          (m.registry.devices.get d').id = id → d' = d) ∧
    ∀ h₁ e h₂, history = h₁ ++ e :: h₂ →
      (∀ info driver, e.move = .call (.install info driver) → info.check = .ok () →
        (e.outcome = .ends (.installed (.error (.tableFull config.maxDevices))) ↔
          Exhausted e.before.DeviceNumberTaken config.maxDevices) ∧
        (¬Exhausted e.before.DeviceNumberTaken config.maxDevices →
          ∃ id, IsLowestFree e.before.DeviceNumberTaken config.maxDevices id.number ∧
            e.InstallsUnder h₂ id)) ∧
      ∀ origin params, e.Registers origin params →
        RegisterParams.minBlockLength ≤ params.blockLength →
        (e.outcome = .ends (.ofRegistered origin (.error .tooManyApplications)) ↔
          Exhausted e.before.ApplNumberTaken config.maxApplications) ∧
        (¬Exhausted e.before.ApplNumberTaken config.maxApplications →
          ∃ id, IsLowestFree e.before.ApplNumberTaken config.maxApplications id.number ∧
            e.RegistersUnder h₂ id) := by
  have h := run.reachable
  refine ⟨h.deviceNumbersAgree, h.applNumbersAgree, h.installed_eq,
    fun a id => h.device_of_bound, fun h₁ e h₂ split => ⟨?_, ?_⟩⟩
  · intro info driver installs valid
    exact allots_iff DeviceId.number (fun id under => under.outcome)
      (run.install_allots split installs valid)
  · intro origin params registers valid
    exact allots_iff ApplId.number (fun id under => under.outcome)
      (run.register_allots split registers valid)

/-- The first device is being removed and waits for its driver, a second has been installed since:
their numbers are all there are, and a third device is refused. -/
theorem numbers_exact_while_removing :
    let info : DeviceInfo := ⟨"maker", "serial", "profile", default, default⟩
    let moves := binding ++
      [.call (.remove default), .advance, .call (.install info 1), .advance]
    let m := (Machine.new ⟨2, 2⟩).after moves
    m.Removing 0 ∧ 1 ∈ m.registry.deviceTable.values ∧ info.check = .ok () ∧
      Exhausted m.DeviceNumberTaken 2 ∧
      (m.make (.call (.install info 2))).2 = .ends (.installed (.error (.tableFull 2))) := by
  intro info moves m
  have hrun := Run.of_moves ⟨2, 2⟩ (moves ++ [.call (.install info 2)]) (by decide +kernel)
  rw [after_append_cons, events_append_cons] at hrun
  have hremoving : m.Removing 0 := by decide +kernel
  have htable : 1 ∈ m.registry.deviceTable.values := by decide +kernel
  have hvalid : info.check = .ok () := rfl
  have hfull : Exhausted m.DeviceNumberTaken 2 := by
    intro n hpos hle
    rw [UInt16.le_iff_toNat_le] at hpos hle
    have hn : n = 1 ∨ n = 2 := by
      rw [← UInt16.toNat_inj, ← UInt16.toNat_inj]
      change 1 ≤ n.toNat at hpos
      change n.toNat ≤ 2 at hle
      change n.toNat = 1 ∨ n.toNat = 2
      omega
    rcases hn with rfl | rfl
    · exact ⟨0, Or.inr hremoving, by decide +kernel⟩
    · exact ⟨1, Or.inl htable, by decide +kernel⟩
  obtain ⟨-, -, -, -, hevents⟩ := numbers_exact hrun
  exact ⟨hremoving, htable, hvalid, hfull,
    (((hevents _ _ _ rfl).1 info 2 rfl hvalid).1).2 hfull⟩

end Machine

end Switchboard
