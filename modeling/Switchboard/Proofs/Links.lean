import Mathlib.Data.List.Basic
import Mathlib.Data.List.Perm.Basic
import Switchboard.Application.Links
import Switchboard.Proofs.NumberSet

/-! # Coherence of links

The links of an application are recorded three times: as reservations, as an ordered list of linked
records and as the set of linked numbers. They are *coherent* when the list ascends, no number is
reserved twice or both reserved and linked, and the set holds exactly the numbers of the list.
Every operation keeps coherence, and the lemmas about `linked` and `pending` say what it changes. -/

namespace Switchboard

namespace Links

/-- The three records of an application's links agree. -/
structure Coherent (l : Links) : Prop where
  /-- Links stand in the order of device numbers. -/
  ascending : l.linked.Pairwise fun e f => e.1.number < f.1.number
  /-- No number is reserved twice. -/
  pending_nodup : l.pending.Nodup
  /-- No reserved number is linked. -/
  apart : ∀ e ∈ l.linked, e.1 ∉ l.pending
  /-- The set has room for its numbers. -/
  sized : l.bound.Sized
  /-- The set has no bits beyond its capacity. -/
  tidy : l.bound.Tidy
  /-- The set holds the numbers of the links. -/
  bound_iff : ∀ id, l.isBound id = true ↔ ∃ key, (id, key) ∈ l.linked

/-- An empty set of links is coherent. -/
theorem coherent_empty (c : UInt16) : (empty c).Coherent where
  ascending := List.Pairwise.nil
  pending_nodup := List.nodup_nil
  apart := by simp [empty]
  sized := NumberSet.sized_empty c
  tidy := NumberSet.tidy_empty c
  bound_iff := by simp [empty, isBound]

/-- A device number is known by its number. -/
theorem number_inj {id id' : DeviceId} (h : id.number = id'.number) : id = id' := by
  cases id
  cases id'
  cases h
  rfl

/-- Links in ascending order are under different numbers. -/
theorem fst_ne_of_lt {e f : DeviceId × Nat} (h : e.1.number < f.1.number) : e.1 ≠ f.1 := fun heq => by
  rw [heq] at h
  exact UInt16.lt_irrefl _ h

/-! ## Looking up -/

/-- A device that is not found is linked under no key. -/
theorem find?_eq_none_iff {l : Links} {id : DeviceId} :
    l.find? id = none ↔ ∀ e ∈ l.linked, e.1 ≠ id := by
  simp [find?]

/-- A device that is found is linked under the key found. -/
theorem mem_of_find? {l : Links} {id : DeviceId} {key : Nat} (h : l.find? id = some key) :
    (id, key) ∈ l.linked := by
  obtain ⟨⟨id', key'⟩, he, rfl⟩ := Option.map_eq_some_iff.1 h
  have hid : id' = id := by simpa using List.find?_some he
  subst hid
  exact List.mem_of_find?_eq_some he

/-! ## Reservations -/

/-- A reservation is given to a device neither linked nor reserved, and adds it to the reserved. -/
theorem reserve?_eq_some {l l' : Links} {id : DeviceId} (h : l.reserve? id = some l') :
    (∀ e ∈ l.linked, e.1 ≠ id) ∧ id ∉ l.pending ∧ l' = { l with pending := l.pending ++ [id] } := by
  unfold reserve? at h
  split at h
  · cases h
  · rename_i hno
    obtain ⟨hfind, hpend⟩ := not_or.1 hno
    exact ⟨find?_eq_none_iff.1 (by simpa using hfind), hpend, (Option.some.inj h).symm⟩

/-- A reservation is refused when the number is linked or reserved already. -/
theorem reserve?_eq_none {l : Links} {id : DeviceId} (h : l.reserve? id = none) :
    (∃ key, (id, key) ∈ l.linked) ∨ id ∈ l.pending := by
  unfold reserve? at h
  split at h
  · rename_i hyes
    rcases hyes with hfind | hpend
    · obtain ⟨key, hkey⟩ := Option.isSome_iff_exists.1 hfind
      exact Or.inl ⟨key, mem_of_find? hkey⟩
    · exact Or.inr hpend
  · cases h

/-- A reservation keeps the links coherent. -/
theorem Coherent.reserve? {l l' : Links} (h : l.Coherent) {id : DeviceId}
    (hr : l.reserve? id = some l') : l'.Coherent := by
  obtain ⟨hlinked, hpend, rfl⟩ := reserve?_eq_some hr
  exact {
    ascending := h.ascending
    pending_nodup := by
      rw [List.nodup_append]
      refine ⟨h.pending_nodup, List.pairwise_singleton _ _, fun a ha b hb hab => ?_⟩
      rw [List.mem_singleton.1 hb] at hab
      exact hpend (hab ▸ ha)
    apart := by
      intro e he hp
      rcases List.mem_append.1 hp with hp | hp
      · exact h.apart e he hp
      · exact hlinked e he (List.mem_singleton.1 hp)
    sized := h.sized
    tidy := h.tidy
    bound_iff := h.bound_iff }

/-- After a cancellation the reserved devices are the others. -/
theorem mem_pending_cancel {l : Links} {id p : DeviceId} :
    p ∈ (l.cancel id).pending ↔ p ∈ l.pending ∧ p ≠ id := by
  simp [cancel]

/-- A cancellation keeps the links coherent. -/
theorem Coherent.cancel {l : Links} (h : l.Coherent) (id : DeviceId) : (l.cancel id).Coherent where
  ascending := h.ascending
  pending_nodup := h.pending_nodup.filter _
  apart := fun e he hp => h.apart e he (mem_pending_cancel.1 hp).1
  sized := h.sized
  tidy := h.tidy
  bound_iff := h.bound_iff

/-! ## Linking -/

/-- Entering a new link adds it and changes no other. -/
theorem perm_enter {id : DeviceId} {key : Nat} {links : List (DeviceId × Nat)}
    (h : ∀ e ∈ links, e.1 ≠ id) : (enter id key links).Perm ((id, key) :: links) := by
  induction links with
  | nil => exact List.Perm.refl _
  | cons e rest ih =>
    unfold enter
    split
    · exact List.Perm.refl _
    · rw [if_neg (h e (List.mem_cons_self ..))]
      have hrest := ih fun f hf => h f (List.mem_cons_of_mem _ hf)
      exact (hrest.cons e).trans (List.Perm.swap _ _ _)

/-- Entering a new device keeps the order of the numbers. -/
theorem pairwise_enter {id : DeviceId} {key : Nat} {links : List (DeviceId × Nat)}
    (h : ∀ e ∈ links, e.1 ≠ id) (hp : links.Pairwise fun e f => e.1.number < f.1.number) :
    (enter id key links).Pairwise fun e f => e.1.number < f.1.number := by
  induction links with
  | nil => exact List.pairwise_singleton _ _
  | cons e rest ih =>
    obtain ⟨he, hrest⟩ := List.pairwise_cons.1 hp
    have hnew : ∀ f ∈ rest, f.1 ≠ id := fun f hf => h f (List.mem_cons_of_mem _ hf)
    have hne : e.1 ≠ id := h e (List.mem_cons_self ..)
    unfold enter
    split
    · rename_i hlt
      refine List.pairwise_cons.2 ⟨?_, hp⟩
      intro f hf
      rcases List.mem_cons.1 hf with rfl | hf
      · exact hlt
      · exact UInt16.lt_trans hlt (he f hf)
    · rename_i hge
      refine List.pairwise_cons.2 ⟨?_, ih hnew hrest⟩
      intro f hf
      rcases List.mem_cons.1 ((perm_enter hnew).mem_iff.1 hf) with rfl | hf
      · -- the number is not smaller, and not the same either
        have hnum : e.1.number.toNat ≠ id.number.toNat := fun heq =>
          hne (number_inj (UInt16.toNat_inj.1 heq))
        rw [UInt16.lt_iff_toNat_lt] at hge ⊢
        dsimp only
        omega
      · exact he f hf

/-- A link that is confirmed is added to the others, and its reservation is over. -/
theorem confirm_active {l : Links} {id : DeviceId} (key : Nat) (h : ∀ e ∈ l.linked, e.1 ≠ id) :
    (l.confirm id key false).1 = true ∧
      (l.confirm id key false).2.pending = (l.cancel id).pending ∧
      ((l.confirm id key false).2.linked).Perm ((id, key) :: l.linked) :=
  ⟨rfl, rfl, perm_enter h⟩

/-- A link that is confirmed leads to one more record. -/
theorem perm_keys_confirm {l : Links} {id : DeviceId} (key : Nat) (h : ∀ e ∈ l.linked, e.1 ≠ id) :
    (l.confirm id key false).2.keys.Perm (key :: l.keys) :=
  (confirm_active key h).2.2.map Prod.snd

/-- A confirmed link keeps the links coherent. -/
theorem Coherent.confirm {l : Links} (hl : l.Coherent) {id : DeviceId} (key : Nat)
    (h : ∀ e ∈ l.linked, e.1 ≠ id) (hr : l.bound.InRange id.number) :
    (l.confirm id key false).2.Coherent := by
  have hperm := (confirm_active key h).2.2
  constructor
  case ascending => exact pairwise_enter h hl.ascending
  case pending_nodup => exact (hl.cancel id).pending_nodup
  -- the device that is linked is not reserved any more, and the others are apart as before
  case apart =>
    intro e he hp
    obtain ⟨hp, hne⟩ := mem_pending_cancel.1 hp
    rcases List.mem_cons.1 (hperm.mem_iff.1 he) with rfl | he
    · exact hne rfl
    · exact hl.apart e he hp
  case sized => exact hl.sized.insert _
  case tidy => exact hl.tidy.insert hl.sized _
  -- the number is that of the new link or of one of before
  case bound_iff =>
    intro id'
    have hins : (l.confirm id key false).2.isBound id' = true ↔
        (id' = id ∨ l.isBound id' = true) := by
      refine (NumberSet.contains_insert hl.sized id.number id'.number).trans ?_
      constructor
      · rintro (⟨hnum, _⟩ | hb)
        · exact Or.inl (number_inj hnum)
        · exact Or.inr hb
      · rintro (rfl | hb)
        · exact Or.inl ⟨rfl, hr⟩
        · exact Or.inr hb
    rw [hins, hl.bound_iff]
    constructor
    · rintro (rfl | ⟨key', hk⟩)
      · exact ⟨key, hperm.mem_iff.2 (List.mem_cons_self ..)⟩
      · exact ⟨key', hperm.mem_iff.2 (List.mem_cons_of_mem _ hk)⟩
    · rintro ⟨key', hk⟩
      rcases List.mem_cons.1 (hperm.mem_iff.1 hk) with heq | hk
      · exact Or.inl (congrArg Prod.fst heq)
      · exact Or.inr ⟨key', hk⟩

/-! ## Unlinking -/

/-- Taking one link out of an ascending list leaves the others. -/
theorem perm_filter {links : List (DeviceId × Nat)} {id : DeviceId} {key : Nat}
    (hp : links.Pairwise fun e f => e.1.number < f.1.number) (hm : (id, key) ∈ links) :
    links.Perm ((id, key) :: links.filter fun e => e.1 ≠ id) := by
  induction links with
  | nil => cases hm
  | cons e rest ih =>
    obtain ⟨he, hrest⟩ := List.pairwise_cons.1 hp
    rcases List.mem_cons.1 hm with rfl | hm
    · have hall : rest.filter (fun e => e.1 ≠ id) = rest := by
        rw [List.filter_eq_self]
        intro f hf
        simpa using (fst_ne_of_lt (he f hf)).symm
      rw [List.filter_cons_of_neg (by simp), hall]
    · have hne : e.1 ≠ id := fst_ne_of_lt (he _ hm)
      rw [List.filter_cons_of_pos (by simpa using hne)]
      exact ((ih hrest hm).cons e).trans (List.Perm.swap _ _ _)

/-- Dropping the link under a number takes out that link and changes no other. -/
theorem unlink?_eq_some {l l' : Links} {id : DeviceId} {key : Nat}
    (h : l.unlink? id = some (key, l')) :
    (id, key) ∈ l.linked ∧ l'.pending = l.pending ∧
      l'.linked = (l.linked.filter fun e => e.1 ≠ id) ∧ l'.bound = l.bound.erase id.number := by
  unfold unlink? at h
  split at h
  · cases h
  · rename_i key' hf
    cases h
    exact ⟨mem_of_find? hf, rfl, rfl, rfl⟩

/-- Where there is nothing to unlink, the device is not linked. -/
theorem unlink?_eq_none {l : Links} {id : DeviceId} (h : l.unlink? id = none) :
    ∀ e ∈ l.linked, e.1 ≠ id := by
  unfold unlink? at h
  split at h
  · rename_i hf
    exact find?_eq_none_iff.1 hf
  · cases h

/-- Unlinking keeps the links coherent. -/
theorem Coherent.unlink? {l l' : Links} (hl : l.Coherent) {id : DeviceId} {key : Nat}
    (h : l.unlink? id = some (key, l')) : l'.Coherent := by
  obtain ⟨_, hpend, hlinked, hbound⟩ := unlink?_eq_some h
  constructor
  case ascending =>
    rw [hlinked]
    exact hl.ascending.filter _
  case pending_nodup =>
    rw [hpend]
    exact hl.pending_nodup
  case apart =>
    intro e he
    rw [hlinked] at he
    rw [hpend]
    exact hl.apart e (List.mem_of_mem_filter he)
  case sized =>
    rw [hbound]
    exact hl.sized.erase _
  case tidy =>
    rw [hbound]
    exact hl.tidy.erase hl.sized _
  -- the number is that of a link that is left
  case bound_iff =>
    intro id'
    rw [isBound, hbound, NumberSet.contains_erase hl.sized, hlinked]
    have hb := hl.bound_iff id'
    rw [isBound] at hb
    rw [hb]
    constructor
    · rintro ⟨hne, key', hk⟩
      refine ⟨key', List.mem_filter.2 ⟨hk, ?_⟩⟩
      simpa using fun heq => hne (by rw [heq])
    · rintro ⟨key', hk⟩
      obtain ⟨hk, hne⟩ := List.mem_filter.1 hk
      exact ⟨fun heq => by simp [number_inj heq] at hne, key', hk⟩

/-- Removing numbers one after the other removes exactly those numbers. -/
theorem contains_foldl_erase {links : List (DeviceId × Nat)} {s : NumberSet} (h : s.Sized)
    (n : UInt16) :
    (links.foldl (fun s e => s.erase e.1.number) s).Sized ∧
      ((links.foldl (fun s e => s.erase e.1.number) s).contains n = true ↔
        s.contains n = true ∧ ∀ e ∈ links, e.1.number ≠ n) := by
  induction links generalizing s with
  | nil => simp [h]
  | cons e rest ih =>
    obtain ⟨hsized, hiff⟩ := ih (h.erase e.1.number)
    refine ⟨hsized, ?_⟩
    rw [List.foldl_cons, hiff, NumberSet.contains_erase h]
    constructor
    · rintro ⟨⟨hne, hn⟩, hrest⟩
      refine ⟨hn, fun f hf => ?_⟩
      rcases List.mem_cons.1 hf with rfl | hf
      · exact Ne.symm hne
      · exact hrest f hf
    · rintro ⟨hn, hall⟩
      exact ⟨⟨Ne.symm (hall e (List.mem_cons_self ..)), hn⟩,
        fun f hf => hall f (List.mem_cons_of_mem _ hf)⟩

/-- Removing numbers one after the other sets no bit. -/
theorem tidy_foldl_erase {links : List (DeviceId × Nat)} {s : NumberSet} (sized : s.Sized)
    (h : s.Tidy) : (links.foldl (fun s e => s.erase e.1.number) s).Tidy := by
  induction links generalizing s with
  | nil => exact h
  | cons e rest ih => exact ih (sized.erase _) (h.erase sized _)

/-- Clearing keeps the links coherent. -/
theorem Coherent.clear {l : Links} (hl : l.Coherent) : l.clear.Coherent where
  ascending := List.Pairwise.nil
  pending_nodup := hl.pending_nodup
  apart := by simp [Links.clear]
  sized := (contains_foldl_erase hl.sized 0).1
  tidy := tidy_foldl_erase hl.sized hl.tidy
  bound_iff := by
    intro id
    have hiff : l.clear.bound.contains id.number = true ↔
        l.bound.contains id.number = true ∧ ∀ e ∈ l.linked, e.1.number ≠ id.number :=
      (contains_foldl_erase hl.sized id.number).2
    have hnone : ¬∃ key, (id, key) ∈ l.clear.linked := by simp [Links.clear]
    refine iff_of_false ?_ hnone
    intro hb
    obtain ⟨hin, hall⟩ := hiff.1 hb
    obtain ⟨key, hk⟩ := (hl.bound_iff id).1 hin
    exact hall _ hk rfl

end Links

end Switchboard
