import Switchboard.Proofs.News.Telling
import Switchboard.Proofs.Removal

/-! # What observers and subscribers are told

Those who attend from the first device on are told of every device once that it is there and, if it
is removed, once that it goes: what has been told and what calls in progress have still to say make
up what has happened. A device may be removed while its installation is in progress, and then the
two come in the wrong order; where that does not happen, they alternate for every number. -/

namespace Switchboard

namespace Machine

variable {config : Config} {history h₁ h₂ : List Event} {m m' : Machine} {mv : Move} {o : Outcome}
  {e : Event} {p : Party} {news : News} {d : Nat}

/-! ## Parties -/

/-- Whether a party attends: an observer is attached once, or a facade has a forwarder and a
subscriber once. -/
def Attends (m : Machine) : Party → Prop
  | .observer tag => m.registry.observers.current.count (.custom tag) = 1
  | .subscriber k s => m.registry.observers.current.count (.forwarder k) = 1 ∧
    (m.registry.facades.get k).subscribers.count s = 1

instance (m : Machine) (p : Party) : Decidable (m.Attends p) :=
  match p with
  | .observer _ => inferInstanceAs (Decidable (_ = 1))
  | .subscriber _ _ => inferInstanceAs (Decidable (_ ∧ _))

/-- One who attends is reached through one observer. -/
theorem Attends.reached (h : m.Attends p) :
    m.registry.observers.current.countP (·.reaches p) = 1 := by
  cases p with
  | observer tag =>
    rw [← show m.registry.observers.current.count (.custom tag) = 1 from h, List.count]
    refine List.countP_congr fun o _ => ?_
    cases o <;> simp [Observer.reaches]
  | subscriber k s =>
    rw [← h.1, List.count]
    refine List.countP_congr fun o _ => ?_
    cases o <;> simp [Observer.reaches]

/-- A facade sends one notice to a subscriber that attends. -/
theorem Attends.noticed (h : m.Attends p) (k : Nat) (news : News) (controller : UInt16) :
    (notices m.registry k news controller).countP (·.party = p) =
      if (Observer.forwarder k).reaches p then 1 else 0 := by
  unfold notices
  rw [List.countP_map]
  cases p with
  | observer tag => simp [Function.comp_def, Notice.party, Observer.reaches]
  | subscriber k' s =>
    by_cases hk : k = k'
    · subst hk
      simp only [Function.comp_def, Notice.party, Observer.reaches, decide_true, if_true]
      rw [← h.2, List.count]
      exact List.countP_congr fun s' _ => by simp
    · simp [Function.comp_def, Notice.party, Observer.reaches, hk]

/-! ## What is told and what is still to be said -/

/-- How often a party has been told news about a device. -/
def told (history : List Event) (p : Party) (news : News) (d : Nat) : Nat :=
  history.countP fun e => e.outcome.tells p news d

/-- One more event tells once more, or nothing. -/
theorem told_concat (history : List Event) (e : Event) : told (history ++ [e]) p news d =
    told history p news d + (e.outcome.tells p news d).toNat := by
  rw [told, List.countP_append, List.countP_singleton]
  cases e.outcome.tells p news d <;> rfl

/-- How often a party that attends will be told news about a device by the calls in progress. -/
def unsaid (m : Machine) (p : Party) (news : News) (d : Nat) : Nat :=
  (m.reports.map (Report.unsaidOf p news d)).sum

/-- How many times news about a device have come up: its installation once it has arrived, its
removal once it has been retired. -/
def begun (m : Machine) (news : News) (d : Nat) : Nat :=
  match news with
  | .added => if d < m.registry.devices.size then 1 else 0
  | .removed => if m.IsRetired d then 1 else 0

/-- News about a device come up once at most. -/
theorem begun_le (m : Machine) (news : News) (d : Nat) : m.begun news d ≤ 1 := by
  cases news <;> unfold begun <;> dsimp only <;> split <;> omega

/-- The innermost report comes before the others. -/
theorem unsaid_cons {r : Report} {rs : List Report} (h : m.reports = r :: rs) :
    m.unsaid p news d = r.unsaidOf p news d + (rs.map (Report.unsaidOf p news d)).sum := by
  rw [unsaid, h, List.map_cons, List.sum_cons]

/-- Where news are not being told, nothing is unsaid. -/
theorem unsaid_eq_zero (h : ¬m.IsTelling news d) : m.unsaid p news d = 0 := by
  refine List.sum_eq_zero fun n hn => ?_
  obtain ⟨r, hr, rfl⟩ := List.mem_map.1 hn
  exact if_neg fun hboth => h ⟨r, hr, hboth⟩

/-- What comes up stays as it is while no device arrives and none is retired. -/
theorem SameDevices.begun_eq (same : m.SameDevices m') : m'.begun news d = m.begun news d := by
  have hcount : m'.registry.devices.size = m.registry.devices.size := same.count
  have hretired : m'.IsRetired d ↔ m.IsRetired d := by
    unfold IsRetired Ledger.Retired
    rw [same.count, same.active]
  cases news with
  | added => simp only [begun, hcount]
  | removed => simp only [begun, hretired]

/-- A new device has come up as added, and nothing else has. -/
theorem begun_offer (count : m'.ledger.deviceCount = m.ledger.deviceCount + 1)
    (active : m'.ledger.deviceActive =
      Function.update m.ledger.deviceActive m.registry.devices.size true) :
    m'.begun news d =
      m.begun news d + if m.registry.devices.size = d ∧ .added = news then 1 else 0 := by
  have hcount : m'.registry.devices.size = m.registry.devices.size + 1 := count
  cases news with
  | added =>
    simp only [begun, hcount, and_true]
    split <;> split <;> split <;> omega
  | removed =>
    have hretired : m'.IsRetired d ↔ m.IsRetired d := by
      unfold IsRetired Ledger.Retired
      rw [count, active]
      by_cases hd : d = m.registry.devices.size
      · subst hd
        simp [Machine.ledger, Registry.ledger]
      · rw [Function.update_of_ne hd]
        refine and_congr_left' ?_
        have hne : d ≠ m.ledger.deviceCount := hd
        omega
    simp [begun, hretired]

/-- A device that is retired has come up as removed, and nothing else has. -/
theorem begun_retire {d' : Nat} (h : m.ledger.Sound) (device : m.ledger.deviceActive d' = true)
    (count : m'.ledger.deviceCount = m.ledger.deviceCount)
    (active : m'.ledger.deviceActive = Function.update m.ledger.deviceActive d' false) :
    m'.begun news d = m.begun news d + if d' = d ∧ .removed = news then 1 else 0 := by
  have hcount : m'.registry.devices.size = m.registry.devices.size := count
  cases news with
  | added => simp [begun, hcount]
  | removed =>
    have hretired : m'.IsRetired d ↔ m.IsRetired d ∨ d' = d := by
      unfold IsRetired Ledger.Retired
      rw [count, active]
      by_cases hd : d = d'
      · subst hd
        have hlt : d < m.ledger.deviceCount := h.devices.inUse_lt d (Or.inl device)
        simp [hlt]
      · simp [Function.update_of_ne hd, Ne.symm hd]
    by_cases hd : d' = d
    · subst hd
      have hnot : ¬m.IsRetired d' := fun hr =>
        absurd (hr.2.symm.trans device) Bool.false_ne_true
      simp [begun, hretired, hnot]
    · simp [begun, hretired, hd]

/-- The device in the table under a number is active. -/
theorem active_of_device? (h : m.ledger.Sound) {id : DeviceId}
    (device : m.registry.device? id = some d) : m.ledger.deviceActive d = true :=
  ((h.devices.listed id.number d).1 device).1

/-- An observer is reached with its own news. -/
theorem reaches_custom (tag : Nat) :
    (Observer.custom tag).reaches p = decide ((Listener.observer tag).party = p) := by
  cases p <;> simp [Observer.reaches, Listener.party]

/-- **What is told has come up**: with every move, what is told and what is left to be said make up
what was left before and what comes up. -/
theorem NewsStep.told_add (step : NewsStep m mv o m') (h : m.ledger.Sound)
    (reported : ∀ r ∈ m.reports, r.device < m.registry.devices.size)
    (attends : m.registry.devices.size ≠ 0 → m.Attends p) (news : News) (d : Nat) :
    (o.tells p news d).toNat + m'.unsaid p news d + m.begun news d =
      m.unsaid p news d + m'.begun news d := by
  -- a party attends when there is something to be said
  have hattends : ∀ r ∈ m.reports, m.Attends p := fun r hr =>
    attends (Nat.ne_of_gt (Nat.zero_lt_of_lt (reported r hr)))
  cases step with
  | quiet reports silent same =>
    rw [Outcome.tells_of_silent silent, same.begun_eq, unsaid, unsaid, reports, Bool.toNat_false]
    omega
  -- what arrives has come up, and is left to be said
  | offer reports silent count active =>
    rw [Outcome.tells_of_silent silent, begun_offer count active, unsaid_cons reports, unsaid,
      Report.unsaidOf_offering, Bool.toNat_false]
    omega
  -- the news that were left to be said by the walk are those to be told
  | begin before after silent same =>
    have hp := hattends _ (before ▸ List.mem_cons_self ..)
    rw [Outcome.tells_of_silent silent, same.begun_eq, unsaid_cons before, unsaid_cons after,
      Report.unsaidOf_offering, Report.unsaidOf_telling, hp.reached, List.countP_nil, Nat.zero_add,
      Bool.toNat_false]
    omega
  -- the retirement has come up, and is left to be said
  | @retire id o m' d' device reports silent count active =>
    have hactive := active_of_device? h device
    have hp := attends (Nat.ne_of_gt (Nat.zero_lt_of_lt (h.devices.inUse_lt d' (Or.inl hactive))))
    rw [Outcome.tells_of_silent silent, begun_retire h hactive count active, unsaid_cons reports,
      unsaid, Report.unsaidOf_telling, hp.reached, List.countP_nil, Nat.zero_add, Bool.toNat_false]
    omega
  -- a notice is told to its party and to nobody else
  | @notify mv m' d' news' notice notices rest rs before after same =>
    have htold := Outcome.tells_add (.subscriber notice) p news news' d d'
      (notices.countP (·.party = p) + rest.countP (·.reaches p))
    rw [Nat.add_right_comm, show (Listener.subscriber notice).party = notice.party from rfl] at htold
    rw [same.begun_eq, unsaid_cons before, unsaid_cons after, Report.unsaidOf_telling,
      Report.unsaidOf_telling, List.countP_cons]
    omega
  | @tell mv m' d' tag news' rest rs before after same =>
    have htold := Outcome.tells_add (.observer tag) p news news' d d'
      (([] : List Notice).countP (·.party = p) + rest.countP (·.reaches p))
    rw [Nat.add_assoc] at htold
    rw [same.begun_eq, unsaid_cons before, unsaid_cons after, Report.unsaidOf_telling,
      Report.unsaidOf_telling, List.countP_cons, reaches_custom]
    omega
  -- a forwarder stands for the notices that it makes out
  | @forward mv o m' d' k news' rest rs before after silent same =>
    have hp := hattends _ (before ▸ List.mem_cons_self ..)
    rw [Outcome.tells_of_silent silent, same.begun_eq, unsaid_cons before, unsaid_cons after,
      Report.unsaidOf_telling, Report.unsaidOf_telling, hp.noticed, List.countP_cons,
      List.countP_nil, Bool.toNat_false]
    split <;> omega
  -- nothing is left to be said
  | done before after silent same =>
    rw [Outcome.tells_of_silent silent, same.begun_eq, unsaid_cons before, unsaid, after,
      Report.unsaidOf_telling, List.countP_nil, List.countP_nil, Bool.toNat_false]
    split <;> omega

/-! ## The devices that reports are about -/

/-- A report was there before, or it offers a device that arrives, or it tells the removal of a
device that is retired. -/
theorem NewsStep.report_before (step : NewsStep m mv o m') {r' : Report} (hr' : r' ∈ m'.reports) :
    (∃ r ∈ m.reports, r.device = r'.device ∧ r.news = r'.news) ∨
    (r'.news = .added ∧ r'.device < m'.ledger.deviceCount ∧
      m'.ledger.deviceActive r'.device = true) ∨
    (r'.news = .removed ∧ (∃ id, m.registry.device? id = some r'.device) ∧
      m'.ledger.deviceActive r'.device = false) := by
  cases step with
  | quiet reports => exact Or.inl ⟨r', reports ▸ hr', rfl, rfl⟩
  | offer reports silent count active =>
    -- it is the device that arrives, or the report was there
    rcases List.mem_cons.1 (reports ▸ hr') with rfl | hold
    · refine Or.inr (Or.inl ⟨rfl, ?_, ?_⟩)
      · rw [count]
        exact Nat.lt_succ_self _
      · rw [active]
        exact Function.update_self ..
    · exact Or.inl ⟨r', hold, rfl, rfl⟩
  | retire device reports silent count active =>
    -- it is the device that is retired, or the report was there
    rcases List.mem_cons.1 (reports ▸ hr') with rfl | hold
    · refine Or.inr (Or.inr ⟨rfl, ⟨_, device⟩, ?_⟩)
      rw [active]
      exact Function.update_self ..
    · exact Or.inl ⟨r', hold, rfl, rfl⟩
  -- the report goes on about the same device
  | begin before after | notify before after | tell before after | forward before after =>
    left
    rw [before]
    rcases List.mem_cons.1 (after ▸ hr') with rfl | hold
    · exact ⟨_, List.mem_cons_self .., rfl, rfl⟩
    · exact ⟨r', List.mem_cons_of_mem _ hold, rfl, rfl⟩
  | done before after =>
    left
    rw [before]
    exact ⟨r', List.mem_cons_of_mem _ (after ▸ hr'), rfl, rfl⟩

/-- An active device stays so, or it is retired. -/
theorem NewsStep.active_after (step : NewsStep m mv o m') (h : m.ledger.Sound)
    (active : m.ledger.deviceActive d = true) :
    m'.ledger.deviceActive d = true ∨
      ∃ id, mv = .call (.remove id) ∧ m.registry.device? id = some d := by
  cases step with
  | quiet _ _ same | begin _ _ _ same | notify _ _ same | tell _ _ same | forward _ _ _ same
      | done _ _ _ same =>
    rw [same.active]
    exact Or.inl active
  | offer _ _ _ hactive =>
    have hne : d ≠ m.registry.devices.size := Nat.ne_of_lt (h.devices.inUse_lt d (Or.inl active))
    rw [hactive, Function.update_of_ne hne]
    exact Or.inl active
  | @retire id o m' d' device _ _ _ hactive =>
    by_cases hd : d = d'
    · subst hd
      exact Or.inr ⟨id, rfl, device⟩
    · rw [hactive, Function.update_of_ne hd]
      exact Or.inl active

/-- What calls have to say is about devices that have arrived, and a device is retired before its
removal is told. -/
theorem Reachable.reported (h : Reachable config m) : ∀ r ∈ m.reports,
    r.device < m.registry.devices.size ∧
      (r.news = .removed → m.ledger.deviceActive r.device = false) := by
  refine h.induction (P := fun m => ∀ r ∈ m.reports, r.device < m.registry.devices.size ∧
    (r.news = .removed → m.ledger.deviceActive r.device = false)) (by simp [reports, new])
    fun m mv hreach ih admitted r' hr' => ?_
  have hstep := hreach.step admitted
  rcases (hreach.newsStep admitted).report_before hr' with
    ⟨r, hr, hdevice, hnews⟩ | ⟨hnews, hlt, -⟩ | ⟨-, ⟨id, hid⟩, hactive⟩
  · rw [← hdevice, ← hnews]
    refine ⟨(hstep.devices.number_eq (ih r hr).1).1, fun hremoved => ?_⟩
    exact (hstep.device_retired ⟨(ih r hr).1, (ih r hr).2 hremoved⟩).2
  · refine ⟨hlt, fun hremoved => ?_⟩
    rw [hnews] at hremoved
    cases hremoved
  · have hlt := hreach.sound.devices.inUse_lt _ (Or.inl (active_of_device? hreach.sound hid))
    exact ⟨(hstep.devices.number_eq hlt).1, fun _ => hactive⟩

/-- A notice says what is told: the news, and the number of the device. -/
theorem Reachable.notices_true (h : Reachable config m) : ∀ r ∈ m.reports, ∀ n ∈ r.notices,
    n.news = r.news ∧ n.controller = (m.registry.devices.get r.device).id.number := by
  refine h.induction (P := fun m => ∀ r ∈ m.reports, ∀ n ∈ r.notices, n.news = r.news ∧
    n.controller = (m.registry.devices.get r.device).id.number) (by simp [reports, new])
    fun m mv hreach ih admitted => ?_
  -- the number of a device does not change
  have hkeep : ∀ r ∈ m.reports, ∀ n : Notice,
      n.news = r.news ∧ n.controller = (m.registry.devices.get r.device).id.number →
      n.news = r.news ∧ n.controller = ((m.make mv).1.registry.devices.get r.device).id.number := by
    intro r hr n hn
    rwa [(hreach.deviceId_make admitted (hreach.reported r hr).1).2]
  have hold : ∀ r ∈ m.reports, ∀ n ∈ r.notices, n.news = r.news ∧
      n.controller = ((m.make mv).1.registry.devices.get r.device).id.number :=
    fun r hr n hn => hkeep r hr n (ih r hr n hn)
  have hnews := hreach.newsStep admitted
  generalize (m.make mv).2 = o at hnews
  intro r' hr'
  cases hnews with
  | quiet reports => exact hold r' (reports ▸ hr')
  | offer reports | retire _ reports =>
    rcases List.mem_cons.1 (reports ▸ hr') with rfl | hr
    · exact fun n hn => absurd hn List.not_mem_nil
    · exact hold r' hr
  | begin before after =>
    rcases List.mem_cons.1 (after ▸ hr') with rfl | hr
    · exact fun n hn => absurd hn List.not_mem_nil
    · exact hold r' (before ▸ List.mem_cons_of_mem _ hr)
  | @notify mv m' d news notice notices rest rs before after =>
    have hfirst : .telling d news (notice :: notices) rest ∈ m.reports :=
      before ▸ List.mem_cons_self ..
    rcases List.mem_cons.1 (after ▸ hr') with rfl | hr
    · exact fun n hn => hold _ hfirst n (List.mem_cons_of_mem _ hn)
    · exact hold r' (before ▸ List.mem_cons_of_mem _ hr)
  | tell before after =>
    rcases List.mem_cons.1 (after ▸ hr') with rfl | hr
    · exact fun n hn => absurd hn List.not_mem_nil
    · exact hold r' (before ▸ List.mem_cons_of_mem _ hr)
  | @forward mv o m' d k news rest rs before after =>
    have hfirst : .telling d news [] (.forwarder k :: rest) ∈ m.reports :=
      before ▸ List.mem_cons_self ..
    rcases List.mem_cons.1 (after ▸ hr') with rfl | hr
    -- the forwarder makes its notices out with the number that the device has now
    · intro n hn
      obtain ⟨s, -, rfl⟩ := List.mem_map.1 hn
      exact hkeep _ hfirst ⟨k, s, news, _, _⟩ ⟨rfl, rfl⟩
    · exact hold r' (before ▸ List.mem_cons_of_mem _ hr)
  | done before after => exact hold r' (before ▸ List.mem_cons_of_mem _ (after ▸ hr'))

/-! ## How often a party is told -/

/-- What a party has been told and what is left to be said make up what has come up. -/
theorem Run.told_add_unsaid (run : Run config history m)
    (attends : ∀ e ∈ history, e.before.registry.devices.size ≠ 0 → e.before.Attends p)
    (news : News) (d : Nat) : told history p news d + m.unsaid p news d = m.begun news d := by
  induction run with
  | new =>
    have hretired : ¬(Machine.new config).IsRetired d := fun h => Nat.not_lt_zero d h.1
    have hzero : (Machine.new config).begun news d = 0 := by
      cases news with
      | added =>
        show (if d < 0 then 1 else 0) = 0
        exact if_neg (Nat.not_lt_zero d)
      | removed =>
        show (if (Machine.new config).IsRetired d then 1 else 0) = 0
        exact if_neg hretired
    rw [hzero]
    rfl
  | @move history m mv run admitted ih =>
    have hbefore := ih fun e he => attends e (List.mem_append_left _ he)
    have hp := attends ⟨m, mv, (m.make mv).2⟩ (List.mem_append_right _ (List.mem_singleton_self _))
    have hstep := (run.reachable.newsStep admitted).told_add run.reachable.sound
      (fun r hr => (run.reachable.reported r hr).1) hp news d
    rw [told_concat]
    show told history p news d + ((m.make mv).2.tells p news d).toNat + _ = _
    omega

/-! ## News in order -/

/-- No device is removed while its installation is in progress. -/
def Orderly (history : List Event) : Prop :=
  ∀ e ∈ history, ∀ d, e.Retires d → ¬e.before.IsTelling .added d

/-- The device that an event retires. -/
def Event.retired? (e : Event) : Option Nat :=
  match e.move with
  | .call (.remove id) => e.before.registry.device? id
  | _ => none

/-- What an event retires is one device. -/
theorem Event.retires_iff : e.Retires d ↔ e.retired? = some d := by
  unfold Event.Retires Event.retired?
  constructor
  · rintro ⟨id, hmove, hdevice⟩
    rw [hmove]
    exact hdevice
  · intro h
    split at h
    · rename_i id hmove
      exact ⟨id, hmove, h⟩
    · cases h

instance (history : List Event) : Decidable (Orderly history) :=
  decidable_of_iff (∀ e ∈ history, ∀ d ∈ e.retired?, ¬e.before.IsTelling .added d) <|
    forall₂_congr fun _ _ => forall_congr' fun _ => imp_congr_left Event.retires_iff.symm

/-- In an orderly run a device is active as long as its installation is in progress. -/
theorem Run.active_of_telling (run : Run config history m) (orderly : Orderly history)
    (telling : m.IsTelling .added d) : m.ledger.deviceActive d = true := by
  induction run with
  | new => obtain ⟨r, hr, -⟩ := telling; cases hr
  | @move history m mv run admitted ih =>
    obtain ⟨r', hr', rfl, hadded⟩ := telling
    have hstep := run.reachable.newsStep admitted
    rcases hstep.report_before hr' with ⟨r, hr, hdevice, hnews⟩ | ⟨-, -, hactive⟩ | ⟨hremoved, -⟩
    · have htelling : m.IsTelling .added r'.device := ⟨r, hr, hdevice, hnews.trans hadded⟩
      have hactive := ih (fun e he => orderly e (List.mem_append_left _ he)) htelling
      rcases hstep.active_after run.reachable.sound hactive with hactive' | hretires
      · exact hactive'
      · -- the device would be retired now
        exact absurd htelling (orderly ⟨m, mv, (m.make mv).2⟩
          (List.mem_append_right _ (List.mem_singleton_self _)) _ hretires)
    · exact hactive
    · rw [hadded] at hremoved
      cases hremoved

/-- News that are told with a move are being told before. -/
theorem NewsStep.isTelling_of_tells (step : NewsStep m mv o m') (tells : o.tells p news d = true) :
    m.IsTelling news d ∧ m.SameDevices m' := by
  cases step with
  | quiet _ silent | offer _ silent | begin _ _ silent | retire _ _ silent | forward _ _ silent
      | done _ _ silent =>
    rw [Outcome.tells_of_silent silent] at tells
    cases tells
  | notify before after same | tell before after same =>
    rw [Outcome.tells_asks, decide_eq_true_iff] at tells
    obtain ⟨-, rfl, rfl⟩ := tells
    exact ⟨⟨_, before ▸ List.mem_cons_self .., rfl, rfl⟩, same⟩

/-- A device whose removal is told is closing. -/
theorem closing_of_telling (telling : m.IsTelling .removed d) : m.ledger.devices.closing d ≠ 0 := by
  obtain ⟨r, hr, rfl, hnews⟩ := telling
  obtain ⟨f, hf, hreport⟩ := List.mem_filterMap.1 hr
  have hremoving : f.removing? = some r.device := by
    cases f <;> cases hreport
    · cases hnews
    · cases hnews
      rfl
  show m.ledger.removals r.device ≠ 0
  have hpos : 0 < m.frames.countP fun f => f.removing? = some r.device :=
    List.countP_pos_iff.2 ⟨f, hf, decide_eq_true hremoving⟩
  exact Nat.ne_of_gt (Nat.lt_of_lt_of_le hpos (Nat.le_add_right ..))

/-- In an orderly run a device that news are told about has its number still. -/
theorem Run.inUse_of_telling (run : Run config history m) (orderly : Orderly history)
    (telling : m.IsTelling news d) : m.ledger.devices.InUse d := by
  cases news with
  | added => exact Or.inl (run.active_of_telling orderly telling)
  | removed => exact Or.inr (closing_of_telling telling)

/-! ## News about one number -/

/-- The news that a party is told with an event about the device with a number. -/
def Event.tidings? (e : Event) (p : Party) (id : DeviceId) : Option News :=
  match e.outcome.news? with
  | some (l, news, d) =>
    if l.party = p ∧ (e.before.registry.devices.get d).id = id then some news else none
  | none => none

/-- The news that a party has been told about devices with a number, oldest first. -/
def tidings (history : List Event) (p : Party) (id : DeviceId) : List News :=
  history.filterMap (·.tidings? p id)

/-- News that alternate, the first of which is of an addition. -/
def Alternate (l : List News) : Prop :=
  ∀ i news, l[i]? = some news → news = if i % 2 = 0 then .added else .removed

/-- One more of the news alternates with those before. -/
theorem Alternate.concat {l : List News} (h : Alternate l)
    (next : news = if l.length % 2 = 0 then .added else .removed) : Alternate (l ++ [news]) := by
  intro i news' hi
  rw [List.getElem?_append] at hi
  split at hi
  · exact h i news' hi
  · rename_i hge
    have hlt : i - l.length < 1 := by
      obtain ⟨hlt, -⟩ := List.getElem?_eq_some_iff.1 hi
      simpa using hlt
    obtain rfl : i = l.length := by omega
    simp at hi
    rw [← hi, next]

/-- An event that brings news about a number tells them about one device with the number. -/
theorem Event.tidings?_eq_some {id : DeviceId} (h : e.tidings? p id = some news) :
    ∃ d, (e.before.registry.devices.get d).id = id ∧
      ∀ news' d', e.outcome.tells p news' d' = true ↔ news' = news ∧ d' = d := by
  unfold Event.tidings? at h
  split at h
  · rename_i l news₀ d hnews
    split at h
    · rename_i hboth
      cases h
      refine ⟨d, hboth.2, fun news' d' => ?_⟩
      rw [Outcome.tells, hnews, decide_eq_true_iff]
      exact ⟨fun h => ⟨h.2.1.symm, h.2.2.symm⟩, fun h => ⟨hboth.1, h.1.symm, h.2.symm⟩⟩
    · cases h
  · cases h

/-- An event that brings no news about a number tells none about any device with the number. -/
theorem Event.tidings?_eq_none {id : DeviceId} (h : e.tidings? p id = none)
    (hid : (e.before.registry.devices.get d).id = id) (news : News) :
    e.outcome.tells p news d = false := by
  rw [Bool.eq_false_iff]
  intro htells
  unfold Event.tidings? at h
  unfold Outcome.tells at htells
  split at htells
  · rename_i l news₀ d₀ hnews
    obtain ⟨hparty, -, rfl⟩ := of_decide_eq_true htells
    rw [hnews] at h
    simp [hparty, hid] at h
  · cases htells

/-- A party has been told that a device with a number is there, and not that it goes. -/
structure IsOpenTo (history : List Event) (m : Machine) (p : Party) (id : DeviceId) (d : Nat) :
    Prop where
  number : (m.registry.devices.get d).id = id
  added : told history p .added d = 1
  removed : told history p .removed d = 0

/-- A device that a party has been told is there has arrived. -/
theorem Run.lt_size_of_told (run : Run config history m)
    (attends : ∀ e ∈ history, e.before.registry.devices.size ≠ 0 → e.before.Attends p)
    (hadded : told history p .added d = 1) : d < m.registry.devices.size := by
  have hsum := run.told_add_unsaid attends .added d
  by_contra hge
  rw [hadded, begun, if_neg hge] at hsum
  omega

/-- A device that a party has been told is there, and not that it goes, has its number still. -/
theorem Run.inUse_of_isOpenTo (run : Run config history m)
    (attends : ∀ e ∈ history, e.before.registry.devices.size ≠ 0 → e.before.Attends p)
    {id : DeviceId} (isOpen : IsOpenTo history m p id d) : m.ledger.devices.InUse d := by
  by_cases hactive : m.ledger.deviceActive d = true
  · exact Or.inl hactive
  · -- the removal of a retired device is still being told
    have hretired : m.IsRetired d :=
      ⟨run.lt_size_of_told attends isOpen.added, Bool.eq_false_iff.2 hactive⟩
    have hsum := run.told_add_unsaid attends .removed d
    refine Or.inr (closing_of_telling (by_contra fun hno => ?_))
    rw [isOpen.removed, begun, if_pos hretired, unsaid_eq_zero hno] at hsum
    omega

/-- When a party is told in an orderly run that a device is there, it has not been told so before,
and when it is told that the device goes, it has been told once that it was there. -/
theorem Run.told_before (run : Run config history m) (orderly : Orderly history)
    (attends : ∀ e ∈ history, e.before.registry.devices.size ≠ 0 → e.before.Attends p)
    (admitted : m.admits mv = true)
    (hp : m.registry.devices.size ≠ 0 → m.Attends p)
    (tells : (m.make mv).2.tells p news d = true) :
    told history p .removed d = 0 ∧ told history p .added d = if news = .added then 0 else 1 := by
  have hnews := run.reachable.newsStep admitted
  obtain ⟨htelling, -⟩ := hnews.isTelling_of_tells tells
  have hlt : d < m.registry.devices.size := by
    obtain ⟨r, hr, rfl, -⟩ := htelling
    exact (run.reachable.reported r hr).1
  have hadded := run.told_add_unsaid attends .added d
  have hremoved := run.told_add_unsaid attends .removed d
  have hstep := hnews.told_add run.reachable.sound
    (fun r hr => (run.reachable.reported r hr).1) hp news d
  have hle := (m.make mv).1.begun_le news d
  rw [tells, Bool.toNat_true] at hstep
  cases news with
  | added =>
    have hactive := run.active_of_telling orderly htelling
    have hnot : ¬m.IsRetired d := fun hr => absurd (hr.2.symm.trans hactive) Bool.false_ne_true
    rw [begun, if_neg hnot] at hremoved
    rw [begun, if_pos hlt] at hadded
    rw [begun, if_pos hlt] at hstep
    rw [if_pos rfl]
    omega
  | removed =>
    have hretired : m.IsRetired d := by
      obtain ⟨r, hr, rfl, hremoves⟩ := htelling
      exact ⟨hlt, (run.reachable.reported r hr).2 hremoves⟩
    -- the installation is over, since the device would be active otherwise
    have hover : ¬m.IsTelling .added d := fun hadds =>
      absurd (hretired.2.symm.trans (run.active_of_telling orderly hadds)) Bool.false_ne_true
    rw [begun, if_pos hlt, unsaid_eq_zero hover] at hadded
    rw [begun, if_pos hretired] at hremoved hstep
    rw [if_neg (by decide)]
    omega

/-- An event that brings no news about a number leaves open what was open. -/
theorem Run.isOpenTo_of_silent (run : Run config history m)
    (attends : ∀ e ∈ history, e.before.registry.devices.size ≠ 0 → e.before.Attends p)
    (admitted : m.admits mv = true) {id : DeviceId}
    (silent : Event.tidings? ⟨m, mv, (m.make mv).2⟩ p id = none) :
    IsOpenTo (history ++ [⟨m, mv, (m.make mv).2⟩]) (m.make mv).1 p id d ↔
      IsOpenTo history m p id d := by
  have hids : d < m.registry.devices.size →
      ((m.make mv).1.registry.devices.get d).id = (m.registry.devices.get d).id :=
    fun hd => (run.reachable.deviceId_make admitted hd).2
  -- nothing is told about the device, whether it has just arrived or was there before
  have htold : ((m.make mv).1.registry.devices.get d).id = id ∨
      (m.registry.devices.get d).id = id → ∀ news, (m.make mv).2.tells p news d = false := by
    intro hid news
    rw [Bool.eq_false_iff]
    intro htells
    obtain ⟨⟨r, hr, rfl, -⟩, -⟩ := (run.reachable.newsStep admitted).isTelling_of_tells htells
    have hid' : (m.registry.devices.get r.device).id = id :=
      hid.elim (fun h => (hids (run.reachable.reported r hr).1).symm.trans h) fun h => h
    exact absurd (htells.symm.trans (Event.tidings?_eq_none silent hid' news)) (by decide)
  constructor
  · rintro ⟨hid, hadded, hremoved⟩
    have hnone := htold (Or.inl hid)
    rw [told_concat, hnone] at hadded hremoved
    have hlt := run.lt_size_of_told attends hadded
    exact ⟨(hids hlt).symm.trans hid, hadded, hremoved⟩
  · rintro ⟨hid, hadded, hremoved⟩
    have hnone := htold (Or.inr hid)
    have hlt := run.lt_size_of_told attends hadded
    refine ⟨(hids hlt).trans hid, ?_, ?_⟩
    · rw [told_concat, hnone]
      exact hadded
    · rw [told_concat, hnone]
      exact hremoved

section Telling

variable (run : Run config history m) (orderly : Orderly history)
  (attends : ∀ e ∈ history, e.before.registry.devices.size ≠ 0 → e.before.Attends p)
  (admitted : m.admits mv = true) (hp : m.registry.devices.size ≠ 0 → m.Attends p) {id : DeviceId}
  (number : (m.registry.devices.get d).id = id)
  (tells : ∀ news' d', (m.make mv).2.tells p news' d' = true ↔ news' = news ∧ d' = d)

include run orderly attends admitted tells number

/-- Whatever is open to a party when it is told about a device with the number is that device. -/
theorem Run.eq_of_isOpenTo {d' : Nat} (isOpen : IsOpenTo history m p id d') : d' = d := by
  have htells := (tells news d).2 ⟨rfl, rfl⟩
  obtain ⟨htelling, -⟩ := (run.reachable.newsStep admitted).isTelling_of_tells htells
  exact run.reachable.sound.devices.number_inj d' d (run.inUse_of_isOpenTo attends isOpen)
    (run.inUse_of_telling orderly htelling)
    (congrArg DeviceId.number (isOpen.number.trans number.symm))

include hp

/-- A number is not open when an addition is told, and open afterwards. -/
theorem Run.isOpenTo_of_added (hnews : news = .added) :
    (∀ d', ¬IsOpenTo history m p id d') ∧
      IsOpenTo (history ++ [⟨m, mv, (m.make mv).2⟩]) (m.make mv).1 p id d := by
  subst hnews
  have htells := (tells .added d).2 ⟨rfl, rfl⟩
  have hnot : (m.make mv).2.tells p .removed d = false := by
    rw [Bool.eq_false_iff, Ne, tells]
    simp
  obtain ⟨hremoved, hadded⟩ := run.told_before orderly attends admitted hp htells
  rw [if_pos rfl] at hadded
  obtain ⟨⟨r, hr, rfl, -⟩, -⟩ := (run.reachable.newsStep admitted).isTelling_of_tells htells
  have hlt := (run.reachable.reported r hr).1
  constructor
  · intro d' ho
    have hone := ho.added
    rw [run.eq_of_isOpenTo orderly attends admitted number tells ho, hadded] at hone
    cases hone
  · refine ⟨(run.reachable.deviceId_make admitted hlt).2.trans number, ?_, ?_⟩
    · rw [told_concat, hadded, htells]
      rfl
    · rw [told_concat, hremoved, hnot]
      rfl

/-- A number is open when a removal is told, and not open afterwards. -/
theorem Run.isOpenTo_of_removed (hnews : news = .removed) :
    IsOpenTo history m p id d ∧
      ∀ d', ¬IsOpenTo (history ++ [⟨m, mv, (m.make mv).2⟩]) (m.make mv).1 p id d' := by
  subst hnews
  have htells := (tells .removed d).2 ⟨rfl, rfl⟩
  obtain ⟨hremoved, hadded⟩ := run.told_before orderly attends admitted hp htells
  rw [if_neg (by decide)] at hadded
  refine ⟨⟨number, hadded, hremoved⟩, fun d' ho => ?_⟩
  obtain ⟨hid', hadded', hremoved'⟩ := ho
  have hnot : (m.make mv).2.tells p .added d' = false := by
    rw [Bool.eq_false_iff, Ne, tells]
    simp
  rw [told_concat, hnot] at hadded'
  rw [told_concat] at hremoved'
  -- what is open afterwards was open before, and so is the device whose removal is told
  have hlt := run.lt_size_of_told attends hadded'
  obtain rfl : d' = d := run.eq_of_isOpenTo orderly attends admitted number tells
    ⟨(run.reachable.deviceId_make admitted hlt).2.symm.trans hid', hadded',
      Nat.eq_zero_of_add_eq_zero_right hremoved'⟩
  rw [htells] at hremoved'
  exact absurd (Nat.eq_zero_of_add_eq_zero_left hremoved') (by decide)

end Telling

/-- In an orderly run the news about one number alternate, and the last are of an addition exactly
while there is a device with the number that the party has been told is there, and not that it
goes. -/
theorem Run.alternate (run : Run config history m) (orderly : Orderly history)
    (attends : ∀ e ∈ history, e.before.registry.devices.size ≠ 0 → e.before.Attends p)
    (id : DeviceId) : Alternate (tidings history p id) ∧
      ((tidings history p id).length % 2 = 1 ↔ ∃ d, IsOpenTo history m p id d) := by
  induction run with
  | new =>
    refine ⟨fun i news hi => by simp [tidings] at hi, by simp [tidings], ?_⟩
    rintro ⟨d, hopen⟩
    have hadded := hopen.added
    simp [told] at hadded
  | @move history m mv run admitted ih =>
    have horderly : Orderly history := fun e he => orderly e (List.mem_append_left _ he)
    have hattends : ∀ e ∈ history, e.before.registry.devices.size ≠ 0 → e.before.Attends p :=
      fun e he => attends e (List.mem_append_left _ he)
    have hp := attends ⟨m, mv, (m.make mv).2⟩ (List.mem_append_right _ (List.mem_singleton_self _))
    obtain ⟨halternate, hopen⟩ := ih horderly hattends
    rw [tidings, List.filterMap_append, ← tidings]
    -- nothing is told of the number
    cases htidings : Event.tidings? ⟨m, mv, (m.make mv).2⟩ p id with
    | none =>
      have hlist : List.filterMap (·.tidings? p id) [(⟨m, mv, (m.make mv).2⟩ : Event)] = [] := by
        simp [htidings]
      rw [hlist, List.append_nil]
      refine ⟨halternate, hopen.trans (exists_congr fun d => ?_)⟩
      exact (run.isOpenTo_of_silent hattends admitted htidings).symm
    -- a device is told of that has the number
    | some news =>
      obtain ⟨d, hid, htells⟩ := Event.tidings?_eq_some htidings
      have hlist : List.filterMap (·.tidings? p id) [(⟨m, mv, (m.make mv).2⟩ : Event)] = [news] := by
        simp [htidings]
      rw [hlist, List.length_append, List.length_singleton]
      cases news with
      -- nothing about the number was open, so that news of an addition are due
      | added =>
        obtain ⟨hclosed, hopens⟩ :=
          run.isOpenTo_of_added horderly hattends admitted hp hid htells rfl
        have heven : (tidings history p id).length % 2 = 0 := by
          have hnot := mt hopen.1 fun ⟨d', ho⟩ => hclosed d' ho
          omega
        refine ⟨halternate.concat (by rw [if_pos heven]), iff_of_true (by omega) ⟨d, hopens⟩⟩
      -- a device with the number was open, so that news of a removal are due
      | removed =>
        obtain ⟨hopens, hclosed⟩ :=
          run.isOpenTo_of_removed horderly hattends admitted hp hid htells rfl
        have hodd := hopen.2 ⟨d, hopens⟩
        refine ⟨halternate.concat (by rw [if_neg (by omega)]), iff_of_false (by omega) ?_⟩
        exact fun ⟨d', ho⟩ => hclosed d' ho

/-! ## What a party is told -/

/-- A party is told about a device once: that it is there, when it has arrived and the call that
installs it has told so, and that it goes, when it has been retired and the call that removes it has
told so. -/
structure ToldOnce (history : List Event) (m : Machine) (p : Party) (d : Nat) : Prop where
  added_le : told history p .added d ≤ 1
  removed_le : told history p .removed d ≤ 1
  added : d < m.registry.devices.size → ¬m.IsTelling .added d → told history p .added d = 1
  removed : m.IsRetired d → ¬m.IsTelling .removed d → told history p .removed d = 1
  not_added : m.registry.devices.size ≤ d → told history p .added d = 0
  not_removed : ¬m.IsRetired d → told history p .removed d = 0

/-- A party is told in order: that a device is there before it is told that it goes, and while the
device is installed, so that the news about one number alternate. -/
structure ToldInOrder (history : List Event) (p : Party) : Prop where
  added_first : ∀ h₁ e h₂ d, history = h₁ ++ e :: h₂ → e.outcome.tells p .removed d = true →
    told h₁ p .added d = 1
  installed : ∀ e ∈ history, ∀ d, e.outcome.tells p .added d = true →
    (e.before.make e.move).1.registry.device?
      ((e.before.make e.move).1.registry.devices.get d).id = some d
  alternate : ∀ id, Alternate (tidings history p id)

/-- A party that attends throughout is told once. -/
theorem Run.toldOnce (run : Run config history m)
    (attends : ∀ e ∈ history, e.before.registry.devices.size ≠ 0 → e.before.Attends p) (d : Nat) :
    ToldOnce history m p d := by
  have hadded := run.told_add_unsaid attends .added d
  have hremoved := run.told_add_unsaid attends .removed d
  have hle := m.begun_le .added d
  have hle' := m.begun_le .removed d
  refine ⟨by omega, by omega, fun hlt hover => ?_, fun hretired hover => ?_, fun hge => ?_,
    fun hretired => ?_⟩
  · rwa [unsaid_eq_zero hover, begun, if_pos hlt] at hadded
  · rwa [unsaid_eq_zero hover, begun, if_pos hretired] at hremoved
  · rw [begun, if_neg (Nat.not_lt.2 hge)] at hadded
    omega
  · rw [begun, if_neg hretired] at hremoved
    omega

/-- A party that attends throughout an orderly history is told in order. -/
theorem Run.toldInOrder (run : Run config history m)
    (attends : ∀ e ∈ history, e.before.registry.devices.size ≠ 0 → e.before.Attends p)
    (orderly : Orderly history) : ToldInOrder history p where
  added_first h₁ e h₂ d split tells := by
    obtain ⟨hreach, hadmitted, houtcome⟩ := run.event (e := e) (by simp [split])
    have hearlier : ∀ e' ∈ h₁, e' ∈ history := fun e' he' => by simp [split, he']
    have hp := attends e (by simp [split])
    rw [houtcome] at tells
    exact ((run.before split).told_before (fun e' he' => orderly e' (hearlier e' he'))
      (fun e' he' => attends e' (hearlier e' he')) hadmitted hp tells).2
  installed e he d tells := by
    obtain ⟨h₁, h₂, split⟩ := List.append_of_mem he
    obtain ⟨hreach, hadmitted, houtcome⟩ := run.event he
    rw [houtcome] at tells
    obtain ⟨htelling, hsame⟩ := (hreach.newsStep hadmitted).isTelling_of_tells tells
    have hactive := (run.before split).active_of_telling
      (fun e' he' => orderly e' (by simp [split, he'])) htelling
    have hsound := (hreach.make hadmitted).sound
    exact (hsound.devices.listed _ d).2 ⟨(congrFun hsame.active d).trans hactive, rfl⟩
  alternate id := (run.alternate orderly attends id).1

/-- What a subscriber is told is about the device with the number in the notice. -/
theorem notice_true (h : Reachable config m) (admitted : m.admits mv = true) {notice : Notice}
    (tells : (m.make mv).2 = .asks (.news (.subscriber notice) news d)) :
    notice.news = news ∧ notice.controller = (m.registry.devices.get d).id.number := by
  have hnews := h.newsStep admitted
  rw [tells] at hnews
  cases hnews with
  | quiet _ silent | offer _ silent | begin _ _ silent | retire _ _ silent | forward _ _ silent
      | done _ _ silent => cases silent
  | notify before after =>
    exact h.notices_true _ (before ▸ List.mem_cons_self ..) notice (List.mem_cons_self ..)

/-- **Who attends is told of every device once, and in order.** An observer, or a subscriber of a
facade, that attends from the first device on is told once that a device is there and, if it is
removed, once that it goes. Where no device is removed while its installation is in progress, it is
told of the device before it is told that it goes, and while the device is installed, and the news
about one number alternate. -/
theorem news_told (run : Run config history m)
    (attends : ∀ e ∈ history, e.before.registry.devices.size ≠ 0 → e.before.Attends p) :
    (∀ d, ToldOnce history m p d) ∧
      (∀ e ∈ history, ∀ notice news d, e.outcome = .asks (.news (.subscriber notice) news d) →
        notice.news = news ∧
          notice.controller = (e.before.registry.devices.get d).id.number) ∧
      (Orderly history → ToldInOrder history p) := by
  refine ⟨run.toldOnce attends, fun e he notice news d tells => ?_, run.toldInOrder attends⟩
  obtain ⟨hreach, hadmitted, houtcome⟩ := run.event he
  rw [houtcome] at tells
  exact notice_true hreach hadmitted tells

/-- A subscriber is told that a device is installed, and that it is removed. -/
def tellingBoth : List Move :=
  [.call (.attach 7), .call .openFacade, .call (.facade 0 (.subscribe ⟨"user", 3⟩)),
    .call (.install ⟨"maker", "serial", "profile", default, default⟩ 0), .advance, .advance,
    .answer .agree, .advance, .advance, .answer .agree, .advance, .call (.remove default), .advance,
    .answer .agree, .advance, .advance, .answer .agree, .advance]

/-- The subscriber of `tellingBoth` is told both, once each and in this order. -/
theorem news_told_both :
    let history := (Machine.new ⟨2, 2⟩).events tellingBoth
    let p : Party := .subscriber 0 ⟨"user", 3⟩
    (∀ e ∈ history, e.before.registry.devices.size ≠ 0 → e.before.Attends p) ∧ Orderly history ∧
      told history p .added 0 = 1 ∧ told history p .removed 0 = 1 ∧
      Alternate (tidings history p default) := by
  intro history p
  have hrun := Run.of_moves ⟨2, 2⟩ tellingBoth (by decide +kernel)
  have hattends : ∀ e ∈ history, e.before.registry.devices.size ≠ 0 → e.before.Attends p := by
    decide +kernel
  have horderly : Orderly history := by decide +kernel
  obtain ⟨honce, -, hinOrder⟩ := news_told hrun hattends
  exact ⟨hattends, horderly, (honce 0).added (by decide +kernel) (by decide +kernel),
    (honce 0).removed (by decide +kernel) (by decide +kernel), (hinOrder horderly).alternate default⟩

/-- A device is removed while its driver is asked about an application. -/
def hasty : List Move :=
  [.call (.attach 7), .call (.register ⟨1, 1, 128⟩), .advance,
    .call (.install ⟨"maker", "serial", "profile", default, default⟩ 0), .advance,
    .call (.remove default), .advance, .answer .agree, .advance, .answer .agree, .advance, .advance]

/-- An observer that has attended all along is told that a device goes, and then, when it is not
installed any more, that it is there. -/
theorem told_added_after_removed :
    let history := (Machine.new ⟨2, 2⟩).events hasty
    let m := (Machine.new ⟨2, 2⟩).after hasty
    Run ⟨2, 2⟩ history m ∧
      (∀ e ∈ history, e.before.registry.devices.size ≠ 0 → e.before.Attends (.observer 7)) ∧
      tidings history (.observer 7) default = [.removed, .added] ∧
      m.callback? = some (.news (.observer 7) .added 0) ∧ m.registry.device? default = none :=
  ⟨Run.of_moves ⟨2, 2⟩ hasty (by decide +kernel), by decide +kernel, by decide +kernel,
    by decide +kernel, by decide +kernel⟩

end Machine

end Switchboard
