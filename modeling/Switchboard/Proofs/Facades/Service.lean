import Switchboard.Proofs.Facades.Desk

/-! # What facades serve

The set of an open facade and the table of the switchboard go together: a number is in the set
exactly when the application registered under it has been registered through the facade. This holds
as long as the switchboard releases no application that an open facade has registered. Main
statements: `Desk.Tidy.step` for what holds in any case, and `Desk.Kept.step`. -/

namespace Switchboard

open Function (update update_self update_of_ne)

namespace Desk

/-- What the table of a desk leads to has its number, and the number is one of those there are. -/
structure Listed (s : Desk) : Prop where
  lt_size : ∀ n a, s.table.get? n = some a → a < s.size
  number_eq : ∀ n a, s.table.get? n = some a → s.number a = n
  inRange : ∀ n a, s.table.get? n = some a → n ≠ 0 ∧ n.toNat ≤ s.limit.toNat

/-- Registrations are kept apart: each application is registered once, through one origin, which is
there, and facades have sets of the right size. -/
structure Tidy (s : Desk) (through : Nat → Origin → Prop) : Prop where
  nodup : (s.enrolments.map Prod.fst).Nodup
  enrolling_lt : ∀ a ∈ s.enrolments.map Prod.fst, a < s.size
  through_lt : ∀ a o, through a o → a < s.size
  /-- A registration that has ended is not in progress. -/
  apart : ∀ a o, through a o → a ∉ s.enrolments.map Prod.fst
  through_inj : ∀ a o o', through a o → through a o' → o = o'
  enrolling_facade : ∀ a k, (a, .facade k) ∈ s.enrolments → k < s.facades
  through_facade : ∀ a k, through a (.facade k) → k < s.facades
  roll_lt : ∀ k r, s.roll? k = some r → k < s.facades
  sized : ∀ k r, s.roll? k = some r → r.Sized
  capacity : ∀ k r, s.roll? k = some r → r.capacity = s.limit

variable {s t : Desk} {mv : Move} {ended : Option (Nat × Origin)} {through : Nat → Origin → Prop}
  {n : UInt16} {origin : Origin} {g : NumberSet → NumberSet}

/-- A facade whose set is changed is open still, and its set is the changed one. -/
theorem roll?_onRoll {k : Nat} {r : NumberSet} :
    (s.onRoll origin g).roll? k = some r ↔
      ∃ r₀, s.roll? k = some r₀ ∧ (if origin = .facade k then g r₀ else r₀) = r :=
  Option.map_eq_some_iff

/-- An open facade is the new one, with nothing in its set, or was open before. -/
theorem roll?_openFacade {k : Nat} {r : NumberSet} (h : s.openFacade.roll? k = some r) :
    (k = s.facades ∧ r = .empty s.limit) ∨ s.roll? k = some r := by
  have h' : update s.roll? s.facades (some (.empty s.limit)) k = some r := h
  by_cases hk : k = s.facades
  · subst hk
    rw [update_self] at h'
    exact Or.inl ⟨rfl, (Option.some.inj h').symm⟩
  · rw [update_of_ne hk] at h'
    exact Or.inr h'

/-- A facade that is open after one has been closed was open before. -/
theorem roll?_closeFacade {j k : Nat} {r : NumberSet} (h : (s.closeFacade j).roll? k = some r) :
    s.roll? k = some r := by
  have h' : update s.roll? j none k = some r := h
  by_cases hk : k = j
  · subst hk
    rw [update_self] at h'
    cases h'
  · rwa [update_of_ne hk] at h'

/-- A change of sets that keeps them sized keeps the desk tidy. -/
theorem Tidy.onRoll (h : s.Tidy through) (origin : Origin)
    (sized : ∀ r : NumberSet, r.Sized → (g r).Sized) (capacity : ∀ r, (g r).capacity = r.capacity) :
    (s.onRoll origin g).Tidy through where
  nodup := h.nodup
  enrolling_lt := h.enrolling_lt
  through_lt := h.through_lt
  apart := h.apart
  through_inj := h.through_inj
  enrolling_facade := h.enrolling_facade
  through_facade := h.through_facade
  roll_lt k r hr := by
    obtain ⟨r₀, hr₀, -⟩ := roll?_onRoll.1 hr
    exact h.roll_lt k r₀ hr₀
  sized k r hr := by
    obtain ⟨r₀, hr₀, rfl⟩ := roll?_onRoll.1 hr
    have hsized := h.sized k r₀ hr₀
    split
    · exact sized r₀ hsized
    · exact hsized
  capacity k r hr := by
    obtain ⟨r₀, hr₀, rfl⟩ := roll?_onRoll.1 hr
    have hcapacity := h.capacity k r₀ hr₀
    split
    · exact (capacity r₀).trans hcapacity
    · exact hcapacity

/-- The desk with a new application is tidy. -/
theorem Tidy.enrol (h : s.Tidy through) (n : UInt16) (table : Roster Nat)
    (isOpen : ∀ k, origin = .facade k → s.roll? k ≠ none) :
    (s.enrol n table origin).Tidy through where
  -- the new application has a key that no application had
  nodup := by
    refine List.nodup_cons.2 ⟨fun hmem => ?_, h.nodup⟩
    exact Nat.lt_irrefl _ (h.enrolling_lt _ hmem)
  enrolling_lt a ha := by
    rcases List.mem_cons.1 ha with rfl | ha
    · exact Nat.lt_succ_self _
    · exact Nat.lt_succ_of_lt (h.enrolling_lt a ha)
  through_lt a o ha := Nat.lt_succ_of_lt (h.through_lt a o ha)
  apart a o ha hmem := by
    rcases List.mem_cons.1 hmem with rfl | hmem
    · exact Nat.lt_irrefl _ (h.through_lt _ o ha)
    · exact h.apart a o ha hmem
  through_inj := h.through_inj
  enrolling_facade a k ha := by
    rcases List.mem_cons.1 ha with heq | ha
    · obtain ⟨r, hr⟩ := Option.ne_none_iff_exists'.1 (isOpen k (Prod.mk.inj heq).2.symm)
      exact h.roll_lt k r hr
    · exact h.enrolling_facade a k ha
  through_facade := h.through_facade
  roll_lt := h.roll_lt
  sized := h.sized
  capacity := h.capacity

/-- The desk after the end of a registration is tidy. -/
theorem Tidy.finish (h : s.Tidy through) {a : Nat} {rest : List (Nat × Origin)}
    (enrolments : s.enrolments = (a, origin) :: rest) :
    Tidy { s with enrolments := rest } fun a' o => through a' o ∨ some (a, origin) = some (a', o) := by
  have hnodup := h.nodup
  have hlt := h.enrolling_lt
  have hapart := h.apart
  have hfacade := h.enrolling_facade
  rw [enrolments, List.map_cons] at hnodup hlt hapart
  rw [enrolments] at hfacade
  -- the application whose registration ends is not in progress a second time
  obtain ⟨hout, hnodup⟩ := List.nodup_cons.1 hnodup
  exact {
    nodup := hnodup
    enrolling_lt := fun a' ha' => hlt a' (List.mem_cons_of_mem _ ha')
    through_lt := by
      rintro a' o (ho | heq)
      · exact h.through_lt a' o ho
      · cases heq
        exact hlt a (List.mem_cons_self ..)
    apart := by
      rintro a' o (ho | heq) hmem
      · exact hapart a' o ho (List.mem_cons_of_mem _ hmem)
      · cases heq
        exact hout hmem
    through_inj := by
      rintro a' o o' (ho | heq) (ho' | heq')
      · exact h.through_inj a' o o' ho ho'
      · cases heq'
        exact absurd (List.mem_cons_self ..) (hapart a o ho)
      · cases heq
        exact absurd (List.mem_cons_self ..) (hapart a o' ho')
      · cases heq
        cases heq'
        rfl
    enrolling_facade := fun a' k ha' => hfacade a' k (List.mem_cons_of_mem _ ha')
    through_facade := by
      rintro a' k (ho | heq)
      · exact h.through_facade a' k ho
      · cases heq
        exact hfacade a k (List.mem_cons_self ..)
    roll_lt := h.roll_lt
    sized := h.sized
    capacity := h.capacity }

/-- The desk with a new facade is tidy. -/
theorem Tidy.openFacade (h : s.Tidy through) : s.openFacade.Tidy through where
  nodup := h.nodup
  enrolling_lt := h.enrolling_lt
  through_lt := h.through_lt
  apart := h.apart
  through_inj := h.through_inj
  enrolling_facade a k ha := Nat.lt_succ_of_lt (h.enrolling_facade a k ha)
  through_facade a k ha := Nat.lt_succ_of_lt (h.through_facade a k ha)
  roll_lt k r hr := by
    rcases roll?_openFacade hr with ⟨rfl, -⟩ | hr
    · exact Nat.lt_succ_self _
    · exact Nat.lt_succ_of_lt (h.roll_lt k r hr)
  sized k r hr := by
    rcases roll?_openFacade hr with ⟨-, rfl⟩ | hr
    · exact NumberSet.sized_empty _
    · exact h.sized k r hr
  capacity k r hr := by
    rcases roll?_openFacade hr with ⟨-, rfl⟩ | hr
    · rfl
    · exact h.capacity k r hr

/-- The desk with a facade closed is tidy. -/
theorem Tidy.closeFacade (h : s.Tidy through) (j : Nat) : (s.closeFacade j).Tidy through where
  nodup := h.nodup
  enrolling_lt := h.enrolling_lt
  through_lt := h.through_lt
  apart := h.apart
  through_inj := h.through_inj
  enrolling_facade := h.enrolling_facade
  through_facade := h.through_facade
  roll_lt k r hr := h.roll_lt k r (roll?_closeFacade hr)
  sized k r hr := h.sized k r (roll?_closeFacade hr)
  capacity k r hr := h.capacity k r (roll?_closeFacade hr)

/-- **A step keeps a desk tidy.** -/
theorem Tidy.step (h : s.Tidy through) (step : s.Step mv ended t) :
    t.Tidy fun a o => through a o ∨ ended = some (a, o) := by
  have hnone : (fun a o => through a o ∨ (none : Option (Nat × Origin)) = some (a, o)) = through := by
    funext a o
    simp
  cases step with
  | quiet => rwa [hnone]
  | enrol _ _ isOpen => rw [hnone]; exact h.enrol _ _ isOpen
  | finish enrolments =>
    -- the number of the application enters the set of the facade that has registered it
    exact (h.finish enrolments).onRoll _ (fun r hr => hr.insert _) fun r => r.capacity_insert _
  | @release n a table _ origin =>
    rw [hnone]
    have htable : Tidy { s with table := table } through := { h with }
    exact htable.onRoll _ (fun r hr => hr.erase _) fun r => r.capacity_erase _
  | forget => rw [hnone]; exact h.onRoll _ (fun r hr => hr.erase _) fun r => r.capacity_erase _
  | openFacade => rw [hnone]; exact h.openFacade
  | closeFacade k => rw [hnone]; exact h.closeFacade k

/-! ## Sets and table -/

/-- The application registered under a number has been registered through a facade. -/
def Serves (s : Desk) (through : Nat → Origin → Prop) (n : UInt16) (k : Nat) : Prop :=
  ∃ a, s.table.get? n = some a ∧ through a (.facade k)

/-- The sets of the open facades go with the table as far as a number is concerned. An application
is `bypassed` if it has been released past a facade. -/
structure Kept (s : Desk) (through : Nat → Origin → Prop) (bypassed : Nat → Nat → Prop)
    (n : UInt16) : Prop where
  /-- What an open facade is about to learn is in the table. -/
  present : ∀ a k r, (a, .facade k) ∈ s.enrolments → s.number a = n → s.roll? k = some r →
    s.table.get? n = some a ∨ bypassed k a
  /-- An open facade knows what it serves. -/
  served : ∀ k r, s.roll? k = some r → (r.contains n = true ↔ s.Serves through n k)

variable {bypassed bypassed' : Nat → Nat → Prop}

/-- The sets go with the table also if more applications are known to be bypassed. -/
theorem Kept.mono (h : s.Kept through bypassed n) (mono : ∀ k a, bypassed k a → bypassed' k a) :
    s.Kept through bypassed' n :=
  ⟨fun a k r ha hn hr => (h.present a k r ha hn hr).imp_right (mono k a), h.served⟩

/-- Sets and table go together when an application arrives. -/
theorem Kept.enrol (h : s.Kept through bypassed n) (tidy : s.Tidy through) {n' : UInt16}
    {table : Roster Nat} (inserted : s.table.insert? n' s.size = some table) (origin : Origin) :
    (s.enrol n' table origin).Kept through bypassed n := by
  have hget := Roster.get?_insert? inserted
  constructor
  case present =>
    intro a k r ha hn hr
    have hnumber : update s.number s.size n' a = n := hn
    rcases List.mem_cons.1 ha with heq | ha
    · -- the new application is in the table under its number
      obtain ⟨rfl, -⟩ := Prod.mk.inj heq
      rw [update_self] at hnumber
      exact Or.inl ((hget n s.size).2 (Or.inl ⟨hnumber.symm, rfl⟩))
    · have hne : a ≠ s.size := Nat.ne_of_lt (tidy.enrolling_lt a (List.mem_map_of_mem ha))
      rw [update_of_ne hne] at hnumber
      exact (h.present a k r ha hnumber hr).imp_left fun hold => (hget n a).2 (Or.inr hold)
  case served =>
    intro k r hr
    -- what has been registered through a facade was there before
    refine (h.served k r hr).trans (exists_congr fun a => and_congr_left fun hthrough => ?_)
    have hne : a ≠ s.size := Nat.ne_of_lt (tidy.through_lt a _ hthrough)
    exact (or_iff_right fun hnew => hne hnew.2).symm.trans (hget n a).symm

/-- Sets and table go together when a registration ends: what the facade learns is in the table. -/
theorem Kept.finish (h : s.Kept through bypassed n) (tidy : s.Tidy through) (listed : s.Listed)
    {a : Nat} {rest : List (Nat × Origin)} (enrolments : s.enrolments = (a, origin) :: rest)
    (left : ∀ k, bypassed k a → origin ≠ .facade k) :
    (onRoll { s with enrolments := rest } origin (·.insert (s.number a))).Kept
      (fun a' o => through a' o ∨ some (a, origin) = some (a', o)) bypassed n := by
  constructor
  case present =>
    intro a' k r ha' hn hr
    obtain ⟨r₀, hr₀, -⟩ := roll?_onRoll.1 hr
    exact h.present a' k r₀ (enrolments ▸ List.mem_cons_of_mem _ ha') hn hr₀
  case served =>
    intro k r hr
    obtain ⟨r₀, hr₀, rfl⟩ := roll?_onRoll.1 hr
    by_cases horigin : origin = .facade k
    · -- the facade learns the number, and the application has been registered through it
      subst horigin
      rw [if_pos rfl, NumberSet.contains_insert (tidy.sized k r₀ hr₀), h.served k r₀ hr₀]
      constructor
      · rintro (⟨hn, -⟩ | ⟨a', ha', hthrough⟩)
        · -- it is in the table still, since it has not been released past the facade
          have hpresent := h.present a k r₀ (enrolments ▸ List.mem_cons_self ..) hn.symm hr₀
          exact ⟨a, hpresent.resolve_right fun hby => left k hby rfl, Or.inr rfl⟩
        · exact ⟨a', ha', Or.inl hthrough⟩
      · rintro ⟨a', ha', hthrough | heq⟩
        · exact Or.inr ⟨a', ha', hthrough⟩
        · cases heq
          have hn : s.number a = n := listed.number_eq n a ha'
          have hrange := listed.inRange n a ha'
          rw [← tidy.capacity k r₀ hr₀] at hrange
          exact Or.inl ⟨hn.symm, hn.symm ▸ hrange⟩
    · rw [if_neg horigin]
      refine (h.served k r₀ hr₀).trans (exists_congr fun a' => and_congr_right fun _ => ?_)
      refine (or_iff_left fun heq => horigin ?_).symm
      cases heq
      rfl

/-- Sets and table go together when an application leaves the table, unless it is released past a
facade. -/
theorem Kept.release (h : s.Kept through bypassed n) (tidy : s.Tidy through) {n' : UInt16} {a : Nat}
    {table : Roster Nat} (removed : s.table.remove? n' = some (a, table))
    (serves : ∀ k, origin = .facade k → ∃ r, s.roll? k = some r ∧ r.contains n' = true)
    (mono : ∀ k a, bypassed k a → bypassed' k a)
    (past : ∀ k r, origin = .direct → n' = n → s.roll? k = some r → bypassed' k a)
    (left : ∀ k, bypassed' k a → ¬through a (.facade k)) :
    (onRoll { s with table := table } origin (·.erase n')).Kept through bypassed' n := by
  have hget := Roster.get?_remove? removed
  obtain ⟨⟨serial, hentry⟩, -⟩ := Roster.entry_remove? removed
  have hbefore : s.table.get? n' = some a := Roster.get?_eq_some_iff.2 ⟨serial, hentry⟩
  -- a facade that releases the application has registered it
  have hthrough : ∀ k, origin = .facade k → n' = n → through a (.facade k) := by
    rintro k horigin rfl
    obtain ⟨r, hr, hcontains⟩ := serves k horigin
    obtain ⟨a', ha', hthrough⟩ := (h.served k r hr).1 hcontains
    rwa [Option.some.inj (hbefore.symm.trans ha')]
  constructor
  case present =>
    intro a' k r ha' hn hr
    obtain ⟨r₀, hr₀, -⟩ := roll?_onRoll.1 hr
    rcases h.present a' k r₀ ha' hn hr₀ with hold | hby
    · by_cases hne : n = n'
      · subst hne
        obtain rfl : a' = a := Option.some.inj (hold.symm.trans hbefore)
        cases origin with
        | direct => exact Or.inr (past k r₀ rfl rfl hr₀)
        | facade j =>
          -- a facade does not know the number before the registration has ended
          exact absurd (List.mem_map_of_mem ha') (tidy.apart a' _ (hthrough j rfl rfl))
      · exact Or.inl ((hget n a').2 ⟨hne, hold⟩)
    · exact Or.inr (mono k a' hby)
  case served =>
    intro k r hr
    obtain ⟨r₀, hr₀, rfl⟩ := roll?_onRoll.1 hr
    by_cases hne : n = n'
    · -- nothing is registered under the number any more, and no open facade knows it
      subst hne
      refine iff_of_false (fun hcontains => ?_) fun ⟨a', ha', _⟩ => ((hget n a').1 ha').1 rfl
      by_cases horigin : origin = .facade k
      · rw [if_pos horigin, NumberSet.contains_erase (tidy.sized k r₀ hr₀)] at hcontains
        exact hcontains.1 rfl
      · rw [if_neg horigin] at hcontains
        obtain ⟨a', ha', hthrough'⟩ := (h.served k r₀ hr₀).1 hcontains
        obtain rfl : a' = a := Option.some.inj (ha'.symm.trans hbefore)
        cases origin with
        | direct => exact left k (past k r₀ rfl rfl hr₀) hthrough'
        | facade j => exact horigin (tidy.through_inj a' _ _ (hthrough j rfl rfl) hthrough')
    · have hsame : (if origin = .facade k then r₀.erase n' else r₀).contains n = true ↔
          r₀.contains n = true := by
        split
        · rw [NumberSet.contains_erase (tidy.sized k r₀ hr₀)]
          exact and_iff_right hne
        · exact Iff.rfl
      refine (hsame.trans (h.served k r₀ hr₀)).trans (exists_congr fun a' => ?_)
      exact and_congr_left' ((and_iff_right hne).symm.trans (hget n a').symm)

/-- Sets and table go together when a facade forgets a number that nothing is registered under. -/
theorem Kept.forget (h : s.Kept through bypassed n) (tidy : s.Tidy through) {n' : UInt16} {j : Nat}
    (unknown : s.table.get? n' = none) :
    (s.onRoll (.facade j) (·.erase n')).Kept through bypassed n := by
  constructor
  case present =>
    intro a k r ha hn hr
    obtain ⟨r₀, hr₀, -⟩ := roll?_onRoll.1 hr
    exact h.present a k r₀ ha hn hr₀
  case served =>
    intro k r hr
    obtain ⟨r₀, hr₀, rfl⟩ := roll?_onRoll.1 hr
    split
    · rw [NumberSet.contains_erase (tidy.sized k r₀ hr₀), h.served k r₀ hr₀]
      refine and_iff_right_of_imp ?_
      rintro ⟨a, ha, -⟩ rfl
      rw [unknown] at ha
      cases ha
    · exact h.served k r₀ hr₀

/-- A new facade serves nothing. -/
theorem Kept.openFacade (h : s.Kept through bypassed n) (tidy : s.Tidy through) :
    s.openFacade.Kept through bypassed n := by
  constructor
  case present =>
    intro a k r ha hn hr
    rcases roll?_openFacade hr with ⟨rfl, -⟩ | hr
    · exact absurd (tidy.enrolling_facade a _ ha) (Nat.lt_irrefl _)
    · exact h.present a k r ha hn hr
  case served =>
    intro k r hr
    rcases roll?_openFacade hr with ⟨rfl, rfl⟩ | hr
    · refine iff_of_false (by simp) ?_
      rintro ⟨a, -, hthrough⟩
      exact Nat.lt_irrefl _ (tidy.through_facade a _ hthrough)
    · exact h.served k r hr

/-- The sets go with the table still when a facade is closed. -/
theorem Kept.closeFacade (h : s.Kept through bypassed n) (j : Nat) :
    (s.closeFacade j).Kept through bypassed n :=
  ⟨fun a k r ha hn hr => h.present a k r ha hn (roll?_closeFacade hr),
    fun k r hr => h.served k r (roll?_closeFacade hr)⟩

/-- **A step keeps sets and table together**, unless it releases an application past the facade that
has registered it. -/
theorem Kept.step (h : s.Kept through bypassed n) (tidy : s.Tidy through) (listed : s.Listed)
    (step : s.Step mv ended t) (mono : ∀ k a, bypassed k a → bypassed' k a)
    (past : ∀ id a k r, mv = .call (.release id) → id.number = n → s.table.get? n = some a →
      s.roll? k = some r → bypassed' k a)
    (left : ∀ k a, bypassed' k a → ¬(through a (.facade k) ∨ ended = some (a, .facade k))) :
    t.Kept (fun a o => through a o ∨ ended = some (a, o)) bypassed' n := by
  have hnone : (fun a o => through a o ∨ (none : Option (Nat × Origin)) = some (a, o)) = through := by
    funext a o
    simp
  cases step with
  | quiet =>
    rw [hnone]
    exact h.mono mono
  | enrol inserted =>
    rw [hnone]
    exact (h.enrol tidy inserted _).mono mono
  | @finish a origin rest enrolments =>
    refine (h.mono mono).finish tidy listed enrolments fun k hby horigin => ?_
    exact left k a hby (Or.inr (by rw [horigin]))
  -- only the direct release of an application goes past the facades
  | @release n' a table c origin removed releases serves =>
    rw [hnone]
    refine h.release tidy removed serves mono (fun k r hdirect hn hr => ?_) fun k hby hthrough =>
      left k a hby (Or.inl hthrough)
    subst hdirect hn
    obtain ⟨⟨serial, hentry⟩, -⟩ := Roster.entry_remove? removed
    cases c with
    -- the switchboard is called directly
    | release id =>
      obtain rfl : id.number = n' := (Prod.mk.inj (Option.some.inj releases)).2
      exact past id a k r rfl rfl (Roster.get?_eq_some_iff.2 ⟨serial, hentry⟩) hr
    | facade j fc => cases fc <;> cases releases
    | _ => cases releases
  | forget unknown =>
    rw [hnone]
    exact (h.forget tidy unknown).mono mono
  | openFacade =>
    rw [hnone]
    exact (h.openFacade tidy).mono mono
  | closeFacade j =>
    rw [hnone]
    exact (h.closeFacade j).mono mono

end Desk

end Switchboard
