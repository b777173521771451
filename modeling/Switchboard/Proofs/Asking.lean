import Switchboard.Proofs.Binding

/-! # How often a driver is asked

A device and an application are come to by two walks, one of each, and both may ask the driver of
the device. Each of the two asks once at most. The second asks only if the driver has refused the
application in between: an acceptance leaves a link, a question in progress a reservation, and a
refusal nothing. -/

namespace Switchboard

/-- A record that makes a walk. -/
inductive Walker where
  | device (d : Nat)
  | appl (a : Nat)
deriving DecidableEq

/-- The record that makes a walk. -/
def Walk.walker : Walk → Walker
  | ofDevice d => .device d
  | ofAppl a _ => .appl a

/-- A device's walk is made by the device. -/
@[simp] theorem Walk.walker_ofDevice (d : Nat) : (ofDevice d).walker = .device d := rfl

/-- An application's walk is made by the application. -/
@[simp] theorem Walk.walker_ofAppl (a : Nat) (o : Origin) : (ofAppl a o).walker = .appl a := rfl

namespace Ledger

variable {s t : Ledger} {mv : Move} {o : Outcome} {d a : Nat} {x : Walker}

/-! ## Every record walks once -/

/-- The records that walk now, the innermost first. -/
def walkers (s : Ledger) : List Walker := s.walks.map fun p => p.1.walker

/-- Whether a record has arrived. -/
def Arrived (s : Ledger) : Walker → Prop
  | .device d => d < s.deviceCount
  | .appl a => a < s.applCount

/-- No record makes two walks at a time, and none walks before it arrives. -/
structure Lone (s : Ledger) : Prop where
  nodup : s.walkers.Nodup
  arrived : ∀ x ∈ s.walkers, s.Arrived x

/-- A record that has arrived stays. -/
theorem Step.arrived (step : Step s mv o t) (h : s.Arrived x) : t.Arrived x := by
  cases x with
  | device d => exact (step.devices.number_eq h).1
  | appl a => exact (step.appls.number_eq h).1

/-- A walk begins with the arrival of the record that makes it. -/
theorem Step.walkers_after (step : Step s mv o t) :
    t.walkers.Sublist s.walkers ∨
      ∃ x, t.walkers = x :: s.walkers ∧ ¬s.Arrived x ∧ t.Arrived x := by
  unfold walkers walks
  cases step with
  | install =>
    exact Or.inr ⟨.device s.deviceCount, by simp, Nat.lt_irrefl _, Nat.lt_succ_self _⟩
  | register =>
    exact Or.inr ⟨.appl s.applCount, by simp, Nat.lt_irrefl _, Nat.lt_succ_self _⟩
  | still | wake | send | freed | unwound | remove | release | releaseLater =>
    exact Or.inl (by simp [List.filterMap_cons])
  | woken frames | sent frames | bidden frames | passOver frames | bid frames | released frames
      | announced frames | tell frames | accept frames | decline frames | ask frames | skip frames
      | installed frames | registered frames | removed frames | removeLater frames =>
    exact Or.inl (by simp [List.filterMap_cons, frames])

/-- A record goes on with one walk at most. -/
theorem Lone.step (h : s.Lone) (step : Step s mv o t) : t.Lone := by
  rcases step.walkers_after with hsub | ⟨x, heq, hnew, harrived⟩
  · exact ⟨h.nodup.sublist hsub, fun x hx => step.arrived (h.arrived x (hsub.subset hx))⟩
  · constructor
    · rw [heq]
      exact List.nodup_cons.2 ⟨fun hx => hnew (h.arrived x hx), h.nodup⟩
    · intro y hy
      rw [heq] at hy
      rcases List.mem_cons.1 hy with rfl | hy
      · exact harrived
      · exact step.arrived (h.arrived y hy)

/-! ## Pairs that a walk has behind it -/

/-- A device and an application have arrived, and the walk of a record has them behind it: it is
over, or has not to come to the pair any more. -/
structure Past (s : Ledger) (d a : Nat) (x : Walker) : Prop where
  device : d < s.deviceCount
  appl : a < s.applCount
  walker : s.Arrived x
  behind : ∀ w c, (w, c) ∈ s.walks → w.walker = x → ¬s.Meets d a w c

/-- What a walk has ahead was ahead of it before it went on. -/
theorem Meets.earlier {w : Walk} {c c' : Cursor} (h : s.Meets d a w c')
    (le : c.serial ≤ c'.serial) : s.Meets d a w c := by
  obtain ⟨k, hd, ha, serial, n, hentry, hlt⟩ := h
  exact ⟨k, hd, ha, serial, n, hentry, Nat.lt_of_le_of_lt le hlt⟩

/-- What a walk has ahead after a step it had ahead before, of records that were there. -/
theorem Step.meets_before (step : Step s mv o t) (device : d < s.deviceCount)
    (appl : a < s.applCount) {w : Walk} {c : Cursor} (h : t.Meets d a w c) : s.Meets d a w c := by
  obtain ⟨k, hd, ha, serial, n, hentry, hlt⟩ := h
  refine ⟨k, hd, ha, serial, n, ?_, hlt⟩
  cases w with
  | ofDevice d' =>
    obtain rfl : k = a := ha
    exact step.appls.entry_before appl hentry
  | ofAppl a' origin =>
    obtain rfl : k = d := hd
    exact step.devices.entry_before device hentry

/-- A walk is that of a record that arrives, or it was there before and has gone no way back. -/
theorem Sound.walks_before (h : s.Sound) (step : Step s mv o t) {w : Walk} {c' : Cursor}
    (hw : (w, c') ∈ t.walks) :
    ¬s.Arrived w.walker ∨ ∃ c, (w, c) ∈ s.walks ∧ c.serial ≤ c'.serial := by
  unfold walks at hw ⊢
  cases step with
  -- the walk that begins is that of the device that arrives
  | install =>
    have hcases : (w = .ofDevice s.deviceCount ∧ c' = .start) ∨
        ∃ f ∈ s.frames, f.walk? = some (w, c') := by simpa using hw
    rcases hcases with ⟨rfl, -⟩ | hf
    · exact Or.inl (Nat.lt_irrefl s.deviceCount)
    · exact Or.inr ⟨c', List.mem_filterMap.2 hf, Nat.le_refl _⟩
  -- the walk that begins is that of the application that arrives
  | @register _ _ _ _ _ _ origin =>
    have hcases : (w = .ofAppl s.applCount origin ∧ c' = .start) ∨
        ∃ f ∈ s.frames, f.walk? = some (w, c') := by simpa using hw
    rcases hcases with ⟨rfl, -⟩ | hf
    · exact Or.inl (Nat.lt_irrefl s.applCount)
    · exact Or.inr ⟨c', List.mem_filterMap.2 hf, Nat.le_refl _⟩
  | still | wake | send | freed | unwound | remove | release | releaseLater =>
    exact Or.inr ⟨c', by simpa [List.filterMap_cons] using hw, Nat.le_refl _⟩
  | woken frames | sent frames | bidden frames | passOver frames | bid frames | released frames
      | announced frames | tell frames | accept frames | decline frames | removed frames
      | removeLater frames | installed frames | registered frames =>
    refine Or.inr ⟨c', ?_, Nat.le_refl _⟩
    rw [frames]
    simp_all [List.filterMap_cons]
  -- the walk that takes a step has a later position than before
  | @ask w' c c₁ _ _ _ fs frames next | @skip w' c c₁ _ _ fs frames next =>
    have hlt := ((h.ordered w').next?_eq_some next).2.1
    have hcases : (w = w' ∧ c' = c₁) ∨ ∃ f ∈ fs, f.walk? = some (w, c') := by
      simpa [List.filterMap_cons] using hw
    rcases hcases with ⟨rfl, rfl⟩ | hf
    · exact Or.inr ⟨c, by simp [frames], Nat.le_of_lt hlt⟩
    · exact Or.inr ⟨c', by simpa [frames] using Or.inr hf, Nat.le_refl _⟩

/-- A pair stays behind a walk. -/
theorem Past.step (past : s.Past d a x) (h : s.Sound) (step : Step s mv o t) : t.Past d a x where
  device := (step.devices.number_eq past.device).1
  appl := (step.appls.number_eq past.appl).1
  walker := step.arrived past.walker
  behind w c' hw hx hmeets := by
    have hbefore := step.meets_before past.device past.appl hmeets
    rcases h.walks_before step hw with hnew | ⟨c, hw', hle⟩
    · exact hnew (hx ▸ past.walker)
    · exact past.behind w c hw' hx (hbefore.earlier hle)

/-- A walk has the pair that it comes to ahead, and behind it from then on. -/
theorem Sound.meets_passed (h : s.Sound) {w : Walk} {c c' : Cursor} {n : UInt16} {k : Nat}
    (next : (s.tableOf w).next? c = some (c', n, k)) :
    s.Meets (w.device k) (w.appl k) w c ∧ ¬s.Meets (w.device k) (w.appl k) w c' := by
  cases w with
  | ofDevice d =>
    obtain ⟨hahead, hbehind⟩ := h.appls.next?_passes next
    refine ⟨⟨k, rfl, rfl, hahead⟩, ?_⟩
    rintro ⟨k', -, rfl, hahead'⟩
    exact hbehind hahead'
  | ofAppl a origin =>
    obtain ⟨hahead, hbehind⟩ := h.devices.next?_passes next
    refine ⟨⟨k, rfl, rfl, hahead⟩, ?_⟩
    rintro ⟨k', rfl, -, hahead'⟩
    exact hbehind hahead'

/-- A driver is asked by the walk of one of the two records, which has the pair ahead, and behind it
from then on. -/
theorem Sound.asks_walk (h : s.Sound) (lone : s.Lone)
    (step : Step s mv (.asks (.register d a)) t) :
    ∃ w c fs, s.frames = w.frame c none :: fs ∧ (w.walker = .device d ∨ w.walker = .appl a) ∧
      s.Meets d a w c ∧ t.Past d a w.walker := by
  have hlone := lone.step step
  cases step with
  | tell _ _ outcome => rcases outcome with e | ⟨_, e⟩ <;> cases e
  | @ask w c c' n k l fs frames next deviceJoins applJoins =>
    obtain ⟨hahead, hbehind⟩ := h.meets_passed next
    generalize ht : Ledger.withFrames _ _ = t at hlone ⊢
    have hwalks : t.walks = (w, c') :: fs.filterMap Frame.walk? := by
      simp [← ht, walks]
    have hwalkers : t.walkers = w.walker :: (fs.filterMap Frame.walk?).map fun p => p.1.walker := by
      rw [walkers, hwalks, List.map_cons]
    obtain ⟨hother, -⟩ := List.nodup_cons.1 (hwalkers ▸ hlone.nodup)
    refine ⟨w, c, fs, frames, by cases w <;> simp [Walk.device, Walk.appl], hahead, ?_⟩
    constructor
    case device => exact ht ▸ deviceJoins.1
    case appl => exact ht ▸ applJoins.1
    case walker => exact hlone.arrived _ (hwalkers ▸ List.mem_cons_self ..)
    case behind =>
      intro w' c₁ hw' hx hmeets
      rw [hwalks] at hw'
      rcases List.mem_cons.1 hw' with e | hw'
      · -- the walk that asks has passed the record
        cases e
        subst ht
        exact hbehind hmeets
      · -- the record makes no other walk
        exact hother (hx ▸ List.mem_map_of_mem (f := fun p => p.1.walker) hw')

/-! ## Pairs that are being asked about -/

/-- A pair that a driver is being asked about goes on to be, unless the driver answers now. -/
theorem Step.asked_after (step : Step s mv o t) {p : Nat × Nat} (asked : p ∈ s.asked) :
    p ∈ t.asked ∨ (∃ ans, mv = .answer ans) ∧ s.callback? = some (.register p.1 p.2) := by
  cases step with
  | still => exact Or.inl asked
  | wake | install | register | remove | release | releaseLater | send | freed | unwound =>
    left
    simpa [Ledger.asked] using asked
  | accept frames | decline frames =>
    simp only [Ledger.asked, frames, List.filterMap_cons, Frame.asking?_walk] at asked
    rcases List.mem_cons.1 asked with rfl | asked
    · exact Or.inr ⟨⟨_, rfl⟩, by simp [callback?, frames]⟩
    · left
      simpa [Ledger.asked] using asked
  | ask frames | woken frames | skip frames | installed frames | registered frames | tell frames
      | announced frames | removed frames | removeLater frames | passOver frames | bid frames
      | bidden frames | released frames | sent frames =>
    left
    simp only [Ledger.asked, frames, List.filterMap_cons] at asked
    simp_all [Ledger.asked, List.filterMap_cons]

/-- A pair that a driver has come to be asked about is being asked about. -/
theorem Step.asked_of_asks (step : Step s mv (.asks (.register d a)) t) : (d, a) ∈ t.asked := by
  cases step with
  | tell _ _ outcome => rcases outcome with e | ⟨_, e⟩ <;> cases e
  | ask => simp [Ledger.asked]

/-- A driver is asked about active records that are neither linked nor being asked about. -/
theorem Sound.asks_fresh (h : s.Sound) (step : Step s mv (.asks (.register d a)) t) :
    s.deviceActive d = true ∧ s.applActive a = true ∧ (s.deviceId d, d) ∉ (s.links a).linked ∧
      (d, a) ∉ s.asked := by
  cases step with
  | tell _ _ outcome => rcases outcome with e | ⟨_, e⟩ <;> cases e
  | ask frames next deviceJoins applJoins reserved =>
    obtain ⟨hlinked, hpending, -⟩ := Links.reserve?_eq_some reserved
    refine ⟨deviceJoins.2.1, applJoins.2.1, fun he => hlinked _ he rfl, fun hasked => hpending ?_⟩
    obtain ⟨f, hf, hask⟩ := List.mem_filterMap.1 hasked
    exact h.asking_pending hf hask

end Ledger

namespace Machine

/-- The pair that an event asks the driver about. -/
def Event.asked? (e : Event) : Option (Nat × Nat) :=
  match e.outcome with
  | .asks (.register d a) => some (d, a)
  | _ => none

/-- The record whose walk an event goes on with. -/
def Event.walker? (e : Event) : Option Walker :=
  (e.before.frames.head?.bind Frame.walk?).map fun p => p.1.walker

/-- An event with which the driver of a device refuses an application. -/
def Event.Refuses (e : Event) (d a : Nat) : Prop :=
  (∃ ans, e.move = .answer ans ∧ ans.isAccepted = false) ∧
    e.before.callback? = some (.register d a)

/-- How often the driver of a device has been asked about an application. -/
def timesAsked (history : List Event) (d a : Nat) : Nat :=
  history.countP fun e => e.asked? = some (d, a)

/-- How often it has been asked by the walk of a record. -/
def timesAskedBy (history : List Event) (x : Walker) (d a : Nat) : Nat :=
  history.countP fun e => e.asked? = some (d, a) ∧ e.walker? = some x

variable {config : Config} {history : List Event} {m : Machine} {d a : Nat} {x : Walker}

/-- An event is picked for a pair exactly when it asks about it. -/
theorem Event.asked?_eq_some_iff {e : Event} : e.asked? = some (d, a) ↔ e.Asks d a := by
  unfold Event.asked? Event.Asks
  split
  · rename_i d' a' ho
    rw [ho]
    simp
  · rename_i hno
    exact iff_of_false (fun h => by cases h) fun ho => hno d a ho

/-! ## Once in each walk -/

/-- In a new machine nobody walks. -/
theorem lone_new (config : Config) : (new config).ledger.Lone :=
  ⟨List.nodup_nil, fun _ hx => absurd hx List.not_mem_nil⟩

/-- No record makes two walks at a time. -/
theorem Reachable.lone (h : Reachable config m) : m.ledger.Lone :=
  h.induction (P := fun m => m.ledger.Lone) (lone_new config) fun _ _ hreach ih admitted =>
    ih.step (hreach.step admitted)

/-- The walk that goes on with a driver being asked. -/
theorem Event.Asks.walk {e : Event} (asks : e.Asks d a) (h : Reachable config e.before)
    (admitted : e.before.admits e.move = true) (outcome : e.outcome = (e.before.make e.move).2) :
    ∃ x, e.walker? = some x ∧ (x = .device d ∨ x = .appl a) ∧ ¬e.before.ledger.Past d a x ∧
      (e.before.make e.move).1.ledger.Past d a x := by
  have hstep := h.step admitted
  rw [← outcome, asks] at hstep
  obtain ⟨w, c, fs, hframes, hwalker, hmeets, hpast⟩ := h.sound.asks_walk h.lone hstep
  have hbefore : e.before.frames = w.frame c none :: fs := hframes
  refine ⟨w.walker, by simp [Event.walker?, hbefore], hwalker, fun past => ?_, hpast⟩
  exact past.behind w c (by simp [Ledger.walks, hframes]) rfl hmeets

/-- An event asks once more, or not. -/
theorem timesAsked_concat (e : Event) :
    timesAsked (history ++ [e]) d a =
      timesAsked history d a + if e.asked? = some (d, a) then 1 else 0 := by
  simp [timesAsked, List.countP_append, List.countP_cons]

/-- An event of a walk asks once more, or not. -/
theorem timesAskedBy_concat (e : Event) :
    timesAskedBy (history ++ [e]) x d a = timesAskedBy history x d a +
      if e.asked? = some (d, a) ∧ e.walker? = some x then 1 else 0 := by
  simp [timesAskedBy, List.countP_append, List.countP_cons]

/-- A walk asks about a pair once at most, and has the pair behind it then. -/
theorem Run.timesAskedBy_le (run : Run config history m) (d a : Nat) (x : Walker) :
    timesAskedBy history x d a ≤ 1 ∧ (timesAskedBy history x d a ≠ 0 → m.ledger.Past d a x) := by
  induction run with
  | new => exact ⟨Nat.zero_le _, fun h => absurd rfl h⟩
  | @move history m mv run admitted ih =>
    obtain ⟨hle, hpast⟩ := ih
    rw [timesAskedBy_concat]
    split
    · -- the walk has the pair ahead, so that it has not asked about it yet
      rename_i hasks
      obtain ⟨y, hy, -, hahead, hbehind⟩ :=
        (Event.asked?_eq_some_iff.1 hasks.1).walk run.reachable admitted rfl
      obtain rfl : x = y := Option.some.inj (hasks.2.symm.trans hy)
      have hzero : timesAskedBy history x d a = 0 := by
        by_contra hne
        exact hahead (hpast hne)
      exact ⟨by omega, fun _ => hbehind⟩
    · exact ⟨hle, fun hne =>
        (hpast hne).step run.reachable.sound (run.reachable.step admitted)⟩

/-- A driver is asked by one of two walks. -/
theorem Run.timesAsked_le (run : Run config history m) (d a : Nat) :
    timesAsked history d a ≤
      timesAskedBy history (.device d) d a + timesAskedBy history (.appl a) d a := by
  induction run with
  | new => exact Nat.zero_le _
  | @move history m mv run admitted ih =>
    simp only [timesAsked_concat, timesAskedBy_concat]
    split
    · rename_i hasked
      obtain ⟨x, hx, rfl | rfl, -⟩ :=
        (Event.asked?_eq_some_iff.1 hasked).walk run.reachable admitted rfl
      · rw [if_pos ⟨hasked, hx⟩]
        omega
      · rw [if_pos (show _ ∧ _ from ⟨hasked, hx⟩)]
        omega
    · omega

/-! ## Once unless refused -/

/-- A pair is settled for walks that come to it: its driver is being asked about it, or it has been
accepted, or one of the two has been retired. -/
def Settled (m : Machine) (d a : Nat) : Prop := (d, a) ∈ m.ledger.asked ∨ m.Bound d a

/-- A pair that is settled stays so, unless the driver refuses it. -/
theorem settled_make (h : Reachable config m) {mv : Move} (admitted : m.admits mv = true)
    (settled : m.Settled d a) :
    (m.make mv).1.Settled d a ∨ Event.Refuses ⟨m, mv, (m.make mv).2⟩ d a := by
  rcases settled with hasked | hbound
  · rcases (h.step admitted).asked_after hasked with hasked | ⟨⟨ans, rfl⟩, hcallback⟩
    · exact Or.inl (Or.inl hasked)
    · rw [ledger_callback?] at hcallback
      cases haccepted : ans.isAccepted with
      | true =>
        have haccepts : Event.Accepts ⟨m, .answer ans, (m.make (.answer ans)).2⟩ d a :=
          ⟨⟨ans, rfl, haccepted⟩, hcallback⟩
        exact Or.inl (Or.inr (haccepts.bound h admitted))
      | false => exact Or.inr ⟨⟨ans, rfl, haccepted⟩, hcallback⟩
  · exact Or.inl (Or.inr (bound_make h admitted hbound))

/-- A driver is not asked about a pair that is settled. -/
theorem Event.Asks.not_settled {e : Event} (asks : e.Asks d a) (h : Reachable config e.before)
    (admitted : e.before.admits e.move = true) (outcome : e.outcome = (e.before.make e.move).2) :
    ¬e.before.Settled d a := by
  have hstep := h.step admitted
  rw [← outcome, asks] at hstep
  obtain ⟨hdevice, happl, hlinked, hasked⟩ := h.sound.asks_fresh hstep
  rintro (hpending | hbound)
  · exact hasked hpending
  · exact hlinked (hbound.linked hdevice happl)

/-- A driver that is asked about a pair settles it for the time being. -/
theorem Event.Asks.settled {e : Event} (asks : e.Asks d a) (h : Reachable config e.before)
    (admitted : e.before.admits e.move = true) (outcome : e.outcome = (e.before.make e.move).2) :
    (e.before.make e.move).1.Settled d a := by
  have hstep := h.step admitted
  rw [← outcome, asks] at hstep
  exact Or.inl hstep.asked_of_asks

/-- A driver that is asked about a pair refuses it later, or the pair is settled from then on. -/
theorem Run.refused_or_settled (run : Run config history m) {h₁ h₂ : List Event} {e : Event}
    (split : history = h₁ ++ e :: h₂) (asks : e.Asks d a) :
    (∃ r ∈ h₂, r.Refuses d a) ∨ m.Settled d a := by
  induction run generalizing h₂ with
  | new => simp at split
  | @move history m mv run admitted ih =>
    rcases append_singleton_eq_split split with ⟨-, rfl, rfl⟩ | ⟨h₃, hsplit, rfl⟩
    · exact Or.inr (asks.settled run.reachable admitted rfl)
    · rcases ih hsplit with ⟨r, hr, hrefuses⟩ | hsettled
      · exact Or.inl ⟨r, List.mem_append_left _ hr, hrefuses⟩
      · rcases settled_make run.reachable admitted hsettled with hsettled | hrefuses
        · exact Or.inr hsettled
        · exact Or.inl ⟨_, List.mem_append_right _ (List.mem_singleton_self _), hrefuses⟩

/-- A driver is asked a second time only after it has refused. -/
theorem Run.refused_between (run : Run config history m) {h₁ h₂ h₃ : List Event} {e e' : Event}
    (split : history = h₁ ++ e :: (h₂ ++ e' :: h₃)) (asks : e.Asks d a) (again : e'.Asks d a) :
    ∃ r ∈ h₂, r.Refuses d a := by
  have hsplit : history = (h₁ ++ e :: h₂) ++ e' :: h₃ := by rw [split]; simp
  obtain ⟨hreach, hadmitted, houtcome⟩ := run.event (e := e') (by simp [hsplit])
  refine ((run.before hsplit).refused_or_settled rfl asks).resolve_right ?_
  exact again.not_settled hreach hadmitted houtcome

/-- A driver that never refuses is asked once at most, and the pair is settled then. -/
theorem Run.timesAsked_le_one (run : Run config history m)
    (unrefused : ∀ r ∈ history, ¬r.Refuses d a) :
    timesAsked history d a ≤ 1 ∧ (timesAsked history d a ≠ 0 → m.Settled d a) := by
  induction run with
  | new => exact ⟨Nat.zero_le _, fun h => absurd rfl h⟩
  | @move history m mv run admitted ih =>
    obtain ⟨hle, hsettled⟩ := ih fun r hr => unrefused r (List.mem_append_left _ hr)
    rw [timesAsked_concat]
    split
    · rename_i hasked
      have hasks := Event.asked?_eq_some_iff.1 hasked
      have hzero : timesAsked history d a = 0 := by
        by_contra hne
        exact hasks.not_settled run.reachable admitted rfl (hsettled hne)
      exact ⟨by omega, fun _ => hasks.settled run.reachable admitted rfl⟩
    · refine ⟨hle, fun hne => (settled_make run.reachable admitted (hsettled hne)).resolve_right ?_⟩
      exact unrefused _ (List.mem_append_right _ (List.mem_singleton_self _))

/-- **A driver is asked again only if it has refused.** The walk of a device and that of an
application ask about the two once at most, so that the driver is asked twice at most; between the
one time and the other it has refused the application, and a driver that never refuses it is asked
once at most. -/
theorem asked_again_only_if_refused (run : Run config history m) (d a : Nat) :
    timesAsked history d a ≤ 2 ∧ (∀ x, timesAskedBy history x d a ≤ 1) ∧
      (∀ h₁ e h₂ e' h₃, history = h₁ ++ e :: (h₂ ++ e' :: h₃) → e.Asks d a → e'.Asks d a →
        ∃ r ∈ h₂, r.Refuses d a) ∧
      ((∀ r ∈ history, ¬r.Refuses d a) → timesAsked history d a ≤ 1) := by
  have hby (x : Walker) : timesAskedBy history x d a ≤ 1 := (run.timesAskedBy_le d a x).1
  have hle := run.timesAsked_le d a
  refine ⟨?_, hby, fun _ _ _ _ _ hsplit hasks hagain => run.refused_between hsplit hasks hagain,
    fun hnone => (run.timesAsked_le_one hnone).1⟩
  have hdevice := hby (.device d)
  have happl := hby (.appl a)
  omega

/-- While a driver is asked about a first application a second one registers, the walk of which
comes to the device first. The driver answers the second question as given, and agrees to the
first; then the device's walk goes on to the second application. -/
def crossing (ans : Answer) : List Move :=
  [.call (.register ⟨1, 1, 128⟩), .advance,
    .call (.install ⟨"maker", "serial", "profile", default, default⟩ 0), .advance,
    .call (.register ⟨1, 1, 128⟩), .advance, .answer ans, .advance, .answer .agree, .advance]

/-- A driver that accepts the second application in its own walk is not asked about it again. -/
theorem asked_once_if_accepted :
    let history := (Machine.new ⟨2, 2⟩).events (crossing .agree)
    (∃ e ∈ history, e.Asks 0 1) ∧ (∀ r ∈ history, ¬r.Refuses 0 1) ∧ timesAsked history 0 1 ≤ 1 := by
  intro history
  have hrun := Run.of_moves ⟨2, 2⟩ (crossing .agree) (by decide +kernel)
  have hasks : ∃ e ∈ history, e.Asks 0 1 := by
    have hpos : 0 < timesAsked history 0 1 := by decide +kernel
    obtain ⟨e, he, hasked⟩ := List.countP_pos_iff.1 hpos
    exact ⟨e, he, Event.asked?_eq_some_iff.1 (of_decide_eq_true hasked)⟩
  have hunrefused : ∀ r ∈ history, ¬r.Refuses 0 1 := by
    rintro r hr ⟨⟨ans, hmove, hrefused⟩, -⟩
    have hmem := move_mem_of_mem_events hr
    rw [hmove] at hmem
    obtain rfl : ans = .agree := by simpa [crossing] using hmem
    cases hrefused
  exact ⟨hasks, hunrefused, (asked_again_only_if_refused hrun 0 1).2.2.2 hunrefused⟩

/-- A driver that refuses the second application in its own walk is asked about it again. -/
theorem asked_twice_if_refused :
    let history := (Machine.new ⟨2, 2⟩).events (crossing ⟨.error .osResource, .ok ()⟩)
    let m := (Machine.new ⟨2, 2⟩).after (crossing ⟨.error .osResource, .ok ()⟩)
    Run ⟨2, 2⟩ history m ∧ timesAsked history 0 1 = 2 :=
  ⟨Run.of_moves ⟨2, 2⟩ _ (by decide +kernel), by decide +kernel⟩

end Machine

end Switchboard
