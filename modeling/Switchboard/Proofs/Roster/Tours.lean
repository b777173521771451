import Mathlib.Logic.Function.Basic
import Switchboard.Proofs.Roster

/-! # Walks over a roster that changes

A walk goes over a roster one step at a time, and between its steps anything may be entered and
removed. A *tour* is a roster together with one walk over it, which notes beside them every
insertion that was made, which of the insertions stands under which number, and every visit of the
walk. None of the notes mentions serial numbers: that these count the insertions (`Tour.Sound`) is
what carries the walk over entries that are gone and numbers that are used again. Main statement:
`walk_exact`. -/

namespace Switchboard.Roster

variable {α : Type}

/-! ## Tours -/

/-- What is done to a roster, or by the walk over it. -/
inductive Action (α : Type) where
  | insert (n : UInt16) (a : α)
  | remove (n : UInt16)
  | step
deriving DecidableEq

/-- A visit: what a step of the walk reports, and the insertion that stands under the number it
reports. -/
structure Visit (α : Type) where
  insertion : Option Nat
  cursor : Cursor
  number : UInt16
  value : α
deriving DecidableEq

/-- A roster and the position of a walk over it, with the insertions made so far in their order, the
one that stands under each number, and the visits of the walk in their order. -/
structure Tour (α : Type) where
  roster : Roster α
  cursor : Cursor
  insertions : List (UInt16 × α)
  standing : UInt16 → Option Nat
  visits : List (Visit α)

namespace Tour

/-- The tour of an empty roster whose walk is at the start. -/
def start (capacity : UInt16) : Tour α := ⟨.empty capacity, .start, [], fun _ => none, []⟩

/-- Performs an action. An insertion that is refused, a removal where nothing stands and a step of
the walk that finds nothing change nothing. -/
def perform (t : Tour α) : Action α → Tour α
  | .insert n a => match t.roster.insert? n a with
    | none => t
    | some r => { t with
        roster := r
        insertions := t.insertions ++ [(n, a)]
        standing := Function.update t.standing n (some t.insertions.length) }
  | .remove n => match t.roster.remove? n with
    | none => t
    | some (_, r) => { t with
        roster := r
        standing := Function.update t.standing n none }
  | .step => match t.roster.next? t.cursor with
    | none => t
    | some (c, n, a) => { t with
        cursor := c
        visits := t.visits ++ [⟨t.standing n, c, n, a⟩] }

/-- The tour after some actions. -/
def after (capacity : UInt16) (actions : List (Action α)) : Tour α :=
  actions.foldl perform (start capacity)

/-- The insertions visited, in the order of the visits. -/
def visited (t : Tour α) : List Nat := t.visits.filterMap Visit.insertion

/-! ## What a tour keeps -/

/-- The serial numbers of a roster count the insertions, and the walk has visited whatever stands up
to its position. -/
structure Sound (t : Tour α) : Prop where
  /-- The roster is ordered. -/
  ordered : t.roster.Ordered
  /-- The serial number to come is that of the next insertion. -/
  next : t.roster.nextSerial = t.insertions.length + 1
  /-- What stands under a number was entered there by the insertion that its serial counts. -/
  entry_iff : ∀ serial n a, t.roster.Entry serial n a ↔
    ∃ i, serial = i + 1 ∧ t.standing n = some i ∧ t.insertions[i]? = some (n, a)
  /-- The walk has not gone beyond the insertions made. -/
  reached : t.cursor.serial ≤ t.insertions.length
  /-- A visit reports the insertion that its position counts. -/
  reported : ∀ v ∈ t.visits, ∃ i, v.insertion = some i ∧ v.cursor.serial = i + 1 ∧
    t.insertions[i]? = some (v.number, v.value)
  /-- No visit was later than the position of the walk. -/
  passed : ∀ v ∈ t.visits, v.cursor.serial ≤ t.cursor.serial
  /-- The positions of the visits ascend. -/
  ascending : t.visits.Pairwise fun v w => v.cursor.serial < w.cursor.serial
  /-- What stands up to the position of the walk has been visited. -/
  behind : ∀ serial n a, t.roster.Entry serial n a → serial ≤ t.cursor.serial →
    ∃ v ∈ t.visits, v.cursor.serial = serial

/-- A tour that begins is sound. -/
theorem sound_start (capacity : UInt16) : (start capacity : Tour α).Sound where
  ordered := ordered_empty capacity
  next := rfl
  entry_iff := by
    intro serial n a
    constructor
    · intro h
      exact absurd h (not_entry_empty capacity serial n a)
    · rintro ⟨i, -, h, -⟩
      cases h
  reached := Nat.le_refl _
  reported := by simp [start]
  passed := by simp [start]
  ascending := List.Pairwise.nil
  behind := by
    intro serial n a h
    exact absurd h (not_entry_empty capacity serial n a)

/-- After one more insertion, the insertions are those before and the new one. -/
theorem insertion_iff (l : List (UInt16 × α)) (e f : UInt16 × α) (i : Nat) :
    (l ++ [f])[i]? = some e ↔ l[i]? = some e ∨ (i = l.length ∧ e = f) := by
  rcases Nat.lt_trichotomy i l.length with hlt | rfl | hgt
  · rw [List.getElem?_append_left hlt]
    simp [Nat.ne_of_lt hlt]
  · rw [List.getElem?_concat_length]
    simp [eq_comm]
  · have hnone : (l ++ [f])[i]? = none := by
      rw [List.getElem?_eq_none_iff, List.length_append, List.length_singleton]
      exact hgt
    rw [hnone, List.getElem?_eq_none (Nat.le_of_lt hgt)]
    simp [Nat.ne_of_gt hgt]

/-- An insertion makes an entry that the walk has still to come to. -/
theorem Sound.insert {t : Tour α} (s : t.Sound) (n : UInt16) (a : α) :
    (t.perform (.insert n a)).Sound := by
  cases h : t.roster.insert? n a with
  | none => simpa only [perform, h] using s
  | some r =>
    obtain ⟨hfree, hentry⟩ := entry_insert? h
    simp only [perform, h]
    constructor <;> dsimp only
    case ordered => exact s.ordered.insert? h
    case next => rw [(nextSerial_insert? h).2, s.next, List.length_append, List.length_singleton]
    case entry_iff =>
      intro serial k b
      rw [hentry, s.next, s.entry_iff]
      simp only [insertion_iff, Prod.mk.injEq]
      by_cases hk : k = n
      · -- nothing stood under this number
        subst hk
        have hnone : ¬∃ i, serial = i + 1 ∧ t.standing k = some i ∧ t.insertions[i]? = some (k, b) :=
          fun hb => hfree serial b ((s.entry_iff serial k b).2 hb)
        simp only [Function.update_self, Option.some.injEq, true_and]
        constructor
        · rintro (⟨hserial, rfl⟩ | hb)
          · exact ⟨_, hserial, rfl, Or.inr ⟨rfl, rfl⟩⟩
          · exact absurd hb hnone
        · rintro ⟨i, hserial, rfl, hi | ⟨-, rfl⟩⟩
          · exact absurd (List.getElem?_eq_some_iff.1 hi).1 (Nat.lt_irrefl _)
          · exact Or.inl ⟨hserial, rfl⟩
      · simp only [hk, Function.update_of_ne hk, false_and, false_or, and_false, or_false]
    case reached =>
      rw [List.length_append]
      exact Nat.le_add_right_of_le s.reached
    case reported =>
      intro v hv
      obtain ⟨i, hi, hc, hmem⟩ := s.reported v hv
      exact ⟨i, hi, hc, (insertion_iff ..).2 (Or.inl hmem)⟩
    case passed => exact s.passed
    case ascending => exact s.ascending
    case behind =>
      intro serial k b hb hle
      rcases (hentry serial k b).1 hb with ⟨-, hserial, -⟩ | hold
      · have := s.reached
        have := s.next
        omega
      · exact s.behind serial k b hold hle

/-- A removal takes an entry away, whether the walk has visited it or not. -/
theorem Sound.remove {t : Tour α} (s : t.Sound) (n : UInt16) : (t.perform (.remove n)).Sound := by
  cases h : t.roster.remove? n with
  | none => simpa only [perform, h] using s
  | some removed =>
    obtain ⟨a, r⟩ := removed
    obtain ⟨⟨serial, hgone⟩, hentry⟩ := entry_remove? h
    simp only [perform, h]
    constructor <;> dsimp only
    case ordered => exact s.ordered.remove? h
    case next => rw [(order_remove? h hgone).2.1, s.next]
    case entry_iff =>
      intro serial k b
      rw [hentry, s.entry_iff]
      by_cases hk : k = n
      · subst hk
        simp
      · simp [hk]
    case reached => exact s.reached
    case reported => exact s.reported
    case passed => exact s.passed
    case ascending => exact s.ascending
    case behind =>
      intro serial k b hb hle
      exact s.behind serial k b ((hentry serial k b).1 hb).2 hle

/-- A step of the walk visits the first entry behind its position, so that nothing that stands is
left out between the two. -/
theorem Sound.step {t : Tour α} (s : t.Sound) : (t.perform .step).Sound := by
  cases h : t.roster.next? t.cursor with
  | none => simpa only [perform, h] using s
  | some found =>
    obtain ⟨c, n, a⟩ := found
    obtain ⟨hentry, hlater, hfirst⟩ := s.ordered.next?_eq_some h
    obtain ⟨i, hserial, hstands, hi⟩ := (s.entry_iff _ _ _).1 hentry
    have hmade : i < t.insertions.length := (List.getElem?_eq_some_iff.1 hi).1
    simp only [perform, h]
    constructor <;> dsimp only
    case ordered => exact s.ordered
    case next => exact s.next
    case entry_iff => exact s.entry_iff
    case reached => omega
    case reported =>
      intro v hv
      rcases List.mem_append.1 hv with hv | hv
      · exact s.reported v hv
      · obtain rfl := List.mem_singleton.1 hv
        exact ⟨i, hstands, hserial, hi⟩
    case passed =>
      intro v hv
      rcases List.mem_append.1 hv with hv | hv
      · exact Nat.le_of_lt (Nat.lt_of_le_of_lt (s.passed v hv) hlater)
      · obtain rfl := List.mem_singleton.1 hv
        exact Nat.le_refl _
    case ascending =>
      refine List.pairwise_append.2 ⟨s.ascending, List.pairwise_singleton _ _, ?_⟩
      intro v hv w hw
      obtain rfl := List.mem_singleton.1 hw
      exact Nat.lt_of_le_of_lt (s.passed v hv) hlater
    case behind =>
      intro serial k b hb hle
      rcases Nat.lt_or_ge t.cursor.serial serial with hnew | hold
      · -- an entry between the two positions is the one visited
        refine ⟨_, List.mem_concat_self, ?_⟩
        exact Nat.le_antisymm (hfirst serial k b hb hnew) hle
      · obtain ⟨v, hv, hserial⟩ := s.behind serial k b hb hold
        exact ⟨v, List.mem_append_left _ hv, hserial⟩

/-- Every action keeps a tour sound. -/
theorem Sound.perform {t : Tour α} (s : t.Sound) (action : Action α) :
    (t.perform action).Sound := by
  cases action with
  | insert n a => exact s.insert n a
  | remove n => exact s.remove n
  | step => exact s.step

/-- A tour is sound after any actions. -/
theorem sound_after (capacity : UInt16) (actions : List (Action α)) :
    (after capacity actions).Sound := by
  have run : ∀ (l : List (Action α)) (t : Tour α), t.Sound → (l.foldl Tour.perform t).Sound := by
    intro l
    induction l with
    | nil => exact fun _ s => s
    | cons action l ih => exact fun t s => ih _ (s.perform action)
  exact run actions _ (sound_start capacity)

/-! ## What a walk visits -/

/-- The table holds what the insertions that stand in it entered. -/
theorem Sound.get?_eq_some_iff {t : Tour α} (s : t.Sound) (n : UInt16) (a : α) :
    t.roster.get? n = some a ↔ ∃ i, t.standing n = some i ∧ t.insertions[i]? = some (n, a) := by
  rw [Roster.get?_eq_some_iff]
  constructor
  · rintro ⟨serial, h⟩
    obtain ⟨i, -, hi⟩ := (s.entry_iff serial n a).1 h
    exact ⟨i, hi⟩
  · rintro ⟨i, hi⟩
    exact ⟨i + 1, (s.entry_iff _ n a).2 ⟨i, rfl, hi⟩⟩

/-- A visit was to the insertion that its position counts. -/
theorem Sound.insertion_eq {t : Tour α} (s : t.Sound) {v : Visit α} (h : v ∈ t.visits) :
    v.insertion = some (v.cursor.serial - 1) := by
  obtain ⟨i, hi, hc, -⟩ := s.reported v h
  rw [hi, hc, Nat.add_sub_cancel]

/-- The insertions visited are those that the positions of the walk count. -/
theorem Sound.visited_eq {t : Tour α} (s : t.Sound) :
    t.visited = t.visits.map fun v => v.cursor.serial - 1 := by
  rw [visited, List.filterMap_congr fun v hv => s.insertion_eq hv]
  exact congrFun List.filterMap_eq_map' _

/-- Every visit is to an insertion. -/
theorem Sound.map_insertion {t : Tour α} (s : t.Sound) :
    t.visits.map Visit.insertion = t.visited.map some := by
  rw [s.visited_eq, List.map_map]
  exact List.map_congr_left fun v hv => s.insertion_eq hv

/-- An insertion is visited when the walk stops at its serial number. -/
theorem Sound.mem_visited {t : Tour α} (s : t.Sound) {i : Nat} :
    i ∈ t.visited ↔ ∃ v ∈ t.visits, v.cursor.serial = i + 1 := by
  rw [s.visited_eq, List.mem_map]
  refine exists_congr fun v => and_congr_right fun hv => ?_
  obtain ⟨j, -, hc, -⟩ := s.reported v hv
  omega

/-- Insertions are visited in the order in which they were made. -/
theorem Sound.visited_ascending {t : Tour α} (s : t.Sound) : t.visited.Pairwise (· < ·) := by
  rw [s.visited_eq, List.pairwise_map]
  refine s.ascending.imp_of_mem fun {v w} hv hw hlt => ?_
  obtain ⟨i, -, hi, -⟩ := s.reported v hv
  omega

/-- The positions of the visits ascend from the start. -/
theorem Sound.cursors_ascending {t : Tour α} (s : t.Sound) :
    (Cursor.start :: t.visits.map Visit.cursor).Pairwise fun c d => c.serial < d.serial := by
  refine List.pairwise_cons.2 ⟨?_, List.pairwise_map.2 s.ascending⟩
  intro c hc
  obtain ⟨v, hv, rfl⟩ := List.mem_map.1 hc
  obtain ⟨i, -, hi, -⟩ := s.reported v hv
  exact hi ▸ Nat.succ_pos i

/-- A walk visits no more than was inserted. -/
theorem Sound.length_visits_le {t : Tour α} (s : t.Sound) :
    t.visits.length ≤ t.insertions.length := by
  have hmade : ∀ i ∈ t.visited, i < t.insertions.length := by
    intro i hi
    obtain ⟨v, hv, hc⟩ := s.mem_visited.1 hi
    have := s.passed v hv
    have := s.reached
    omega
  -- the visited insertions are different numbers below the number of insertions
  have hnodup : t.visited.Nodup := s.visited_ascending.imp Nat.ne_of_lt
  have hle := hnodup.length_le_of_subset fun i hi => List.mem_range.2 (hmade i hi)
  rwa [List.length_range, s.visited_eq, List.length_map] at hle

/-- What stands before the insertion that a step comes to has been visited. -/
theorem Sound.visited_of_lt {t : Tour α} (s : t.Sound) {c : Cursor} {n k : UInt16} {a b : α}
    {i j : Nat} (step : t.roster.next? t.cursor = some (c, n, a)) (comes : t.standing n = some i)
    (stands : t.standing k = some j) (entered : t.insertions[j]? = some (k, b)) (before : j < i) :
    j ∈ t.visited := by
  obtain ⟨hentry, -, hfirst⟩ := s.ordered.next?_eq_some step
  obtain ⟨i', hserial, hi', -⟩ := (s.entry_iff _ _ _).1 hentry
  obtain rfl : i = i' := Option.some.inj (comes.symm.trans hi')
  have hj := (s.entry_iff (j + 1) k b).2 ⟨j, rfl, stands, entered⟩
  refine s.mem_visited.2 (s.behind _ k b hj ?_)
  by_contra hlater
  have := hfirst _ _ _ hj (Nat.not_le.1 hlater)
  omega

/-- **A walk neither skips nor revisits**, whatever is inserted and removed between its steps.
Insertions are visited in the order in which they were made, each once, at ascending positions. A
step reports a value that is in the table then, and the insertion that stands there, and leaves out
nothing that stands before it. When the walk finds nothing, all that is in the table has been
visited; and it never makes more visits than there were insertions. -/
theorem walk_exact (capacity : UInt16) (actions : List (Action α)) :
    let t := Tour.after capacity actions
    -- the insertions that stand are what the table holds
    (∀ n a, t.roster.get? n = some a ↔
      ∃ i, t.standing n = some i ∧ t.insertions[i]? = some (n, a)) ∧
    -- the visits so far
    (t.visits.map Visit.insertion = t.visited.map some ∧ t.visited.Pairwise (· < ·)) ∧
    (Cursor.start :: t.visits.map Visit.cursor).Pairwise (fun c d => c.serial < d.serial) ∧
    (∀ v ∈ t.visits, ∀ i, v.insertion = some i → t.insertions[i]? = some (v.number, v.value)) ∧
    -- a step that comes to an entry
    (∀ c n a, t.roster.next? t.cursor = some (c, n, a) →
      t.roster.get? n = some a ∧
      ∃ i, t.standing n = some i ∧ t.insertions[i]? = some (n, a) ∧
        (t.perform .step).visits = t.visits ++ [⟨some i, c, n, a⟩] ∧
        ∀ k b j, t.roster.get? k = some b → t.standing k = some j → j < i → j ∈ t.visited) ∧
    -- a step that finds nothing
    (t.roster.next? t.cursor = none → ∀ n a, t.roster.get? n = some a →
      ∃ i ∈ t.visited, t.standing n = some i ∧ t.insertions[i]? = some (n, a)) ∧
    t.visits.length ≤ t.insertions.length := by
  intro t
  have s : t.Sound := sound_after capacity actions
  refine ⟨s.get?_eq_some_iff, ⟨s.map_insertion, s.visited_ascending⟩, s.cursors_ascending,
    ?visits, ?step, ?finish, s.length_visits_le⟩
  case visits =>
    intro v hv i hi
    obtain ⟨j, hj, -, hmade⟩ := s.reported v hv
    obtain rfl : i = j := Option.some.inj (hi.symm.trans hj)
    exact hmade
  case step =>
    intro c n a hstep
    obtain ⟨hentry, -, -⟩ := s.ordered.next?_eq_some hstep
    obtain ⟨i, -, hstands, hmade⟩ := (s.entry_iff _ _ _).1 hentry
    refine ⟨Roster.get?_eq_some_iff.2 ⟨_, hentry⟩, i, hstands, hmade, ?_, ?_⟩
    · rw [Tour.perform, hstep, ← hstands]
    · intro k b j hb hj hlt
      obtain ⟨j', hj', hentered⟩ := (s.get?_eq_some_iff k b).1 hb
      obtain rfl : j = j' := Option.some.inj (hj.symm.trans hj')
      exact s.visited_of_lt hstep hstands hj hentered hlt
  case finish =>
    intro hnone n a ha
    obtain ⟨i, hstands, hmade⟩ := (s.get?_eq_some_iff n a).1 ha
    have hentry := (s.entry_iff (i + 1) n a).2 ⟨i, rfl, hstands, hmade⟩
    have hvisited := s.behind _ n a hentry (s.ordered.next?_eq_none hnone hentry)
    exact ⟨i, s.mem_visited.2 hvisited, hstands, hmade⟩

/-- What was visited under a number is visited again once it has been inserted anew, and what was
removed before its turn is not visited. -/
example : (after 3 [.insert 2 'a', .insert 1 'b', .step, .remove 1, .remove 2, .insert 2 'a',
    .insert 1 'c', .step, .step, .step]).visits =
      [⟨some 0, ⟨1⟩, 2, 'a'⟩, ⟨some 2, ⟨3⟩, 2, 'a'⟩, ⟨some 3, ⟨4⟩, 1, 'c'⟩] := by
  decide +kernel

end Tour

end Switchboard.Roster
