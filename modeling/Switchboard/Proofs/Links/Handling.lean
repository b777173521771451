import Mathlib.Data.List.Nodup
import Mathlib.Logic.Function.Basic
import Switchboard.Device
import Switchboard.Proofs.Dialogue
import Switchboard.Proofs.Links.Ranges
import Switchboard.Store

/-! # Handling links

Whoever links an application to devices has references to these in hand: a reference goes over to
the link when a claim is committed, and comes back when the link is taken off. A `Handling` is the
links of one application, the devices, and how many references to each device are in hand. Claims,
links and references agree in every order of requests, and whenever a device comes to retire:
`handling_exact`. -/

namespace Switchboard

open Function (update)

/-- The links of an application, devices, and how many references to each are in hand. -/
structure Handling where
  links : Links
  devices : Store Device
  held : Nat → Nat

namespace Handling

/-- What can be asked for. Claims and links are under device numbers; references are to records. -/
inductive Request where
  | claim (id : DeviceId)
  | abandon (id : DeviceId)
  /-- Links the device that a reference in hand is to. -/
  | commit (d : Nat)
  | detach (id : DeviceId)
  | takeLinks
  | retire (d : Nat)
  /-- Takes a reference in hand. -/
  | acquire (d : Nat)
  /-- Takes another one beside one that is in hand. -/
  | share (d : Nat)
  /-- Gives up a reference that is in hand. -/
  | drop (d : Nat)

/-- What is answered. -/
inductive Response where
  | done
  | claimed (success : Bool)
  /-- A reference that is not linked is handed back. -/
  | committed (back : Option Nat)
  | detached (d? : Option Nat)
  | taken (ds : List Nat)
  | acquired (success : Bool)
deriving DecidableEq

/-- A device has one more reference to it. -/
def shareDevice (x : Device) : Device := { x with lifecycle := x.lifecycle.share }

/-- One more reference to a device is in hand. -/
def gain (s : Handling) (d : Nat) : Handling := { s with held := update s.held d (s.held d + 1) }

/-- One reference to a device less is in hand. -/
def lose (s : Handling) (d : Nat) : Handling := { s with held := update s.held d (s.held d - 1) }

/-- Claims a device number. -/
def claim (s : Handling) (id : DeviceId) : Response × Handling :=
  match s.links.reserve? id with
  | some l => (.claimed true, { s with links := l })
  | none => (.claimed false, s)

/-- Commits the claim of a device with a reference in hand. -/
def commit (s : Handling) (d : Nat) : Response × Handling :=
  match s.links.confirm (s.devices.get d).id d (s.devices.get d).isRetiring with
  | (true, l) => (.committed none, lose { s with links := l } d)
  | (false, l) => (.committed (some d), { s with links := l })

/-- Takes a link off. -/
def detach (s : Handling) (id : DeviceId) : Response × Handling :=
  match s.links.unlink? id with
  | some (d, l) => (.detached (some d), gain { s with links := l } d)
  | none => (.detached none, s)

/-- Takes all links off. -/
def takeLinks (s : Handling) : Response × Handling :=
  (.taken s.links.keys,
    { s with links := s.links.clear, held := fun d => s.held d + s.links.keys.count d })

/-- Takes a reference in hand, if one is to be had. -/
def acquire (s : Handling) (d : Nat) : Response × Handling :=
  match (s.devices.get d).join? with
  | some x => (.acquired true, gain { s with devices := s.devices.update d fun _ => x } d)
  | none => (.acquired false, s)

/-- A request with its answer. -/
def serve (s : Handling) : Request → Response × Handling
  | .claim id => s.claim id
  | .abandon id => (.done, { s with links := s.links.cancel id })
  | .commit d => s.commit d
  | .detach id => s.detach id
  | .takeLinks => s.takeLinks
  | .retire d => (.done, { s with devices := s.devices.update d Device.retire })
  | .acquire d => s.acquire d
  | .share d => (.done, gain { s with devices := s.devices.update d shareDevice } d)
  | .drop d => (.done, lose { s with devices := s.devices.update d Device.leave } d)

/-- A claim is given up or committed by those who have it, and only references in hand are used. -/
def Admits (s : Handling) : Request → Prop
  | .abandon id => id ∈ s.links.pending
  | .commit d => d < s.devices.size ∧ (s.devices.get d).id ∈ s.links.pending ∧ 0 < s.held d
  | .share d | .drop d => d < s.devices.size ∧ 0 < s.held d
  | .acquire d | .retire d => d < s.devices.size
  | .claim _ | .detach _ | .takeLinks => True

instance (s : Handling) : (q : Request) → Decidable (s.Admits q)
  | .abandon id => inferInstanceAs (Decidable (id ∈ s.links.pending))
  | .commit _ => inferInstanceAs (Decidable (_ ∧ _ ∧ _))
  | .share _ | .drop _ => inferInstanceAs (Decidable (_ ∧ _))
  | .acquire _ | .retire _ => inferInstanceAs (Decidable (_ < _))
  | .claim _ | .detach _ | .takeLinks => .isTrue trivial

/-- No links and nothing in hand. -/
def start (capacity : UInt16) (devices : Store Device) : Handling :=
  ⟨.empty capacity, devices, fun _ => 0⟩

/-- The number of a device. -/
def idOf (s : Handling) (d : Nat) : DeviceId := (s.devices.get d).id

/-- How many references to a device are counted. -/
def refs (s : Handling) (d : Nat) : Nat := (s.devices.get d).lifecycle.refs

/-- The device numbers that are linked. -/
def linkedIds (s : Handling) : List DeviceId := s.links.linked.map Prod.fst

/-- Links, devices and references agree, for devices with the given numbers. -/
structure Sound (c : UInt16) (size : Nat) (ids : Nat → DeviceId) (s : Handling) : Prop where
  kept : s.links.Kept c
  /-- The devices stay, with their numbers. -/
  size_eq : s.devices.size = size
  idOf_eq : ∀ d, s.idOf d = ids d
  /-- A link leads to the device of its number. -/
  keyed : ∀ e ∈ s.links.linked, e.2 < size ∧ ids e.2 = e.1
  /-- The owner has a reference to each device, and so has each link; the others are in hand. -/
  counted : ∀ d < size, s.refs d = 1 + s.links.keys.count d + s.held d

variable {c : UInt16} {size : Nat} {ids : Nat → DeviceId} {s : Handling} {d : Nat} {id : DeviceId}

/-! ## Links and the devices that they lead to -/

/-- The numbers of the linked devices are those of the links. -/
theorem Sound.map_keys (h : s.Sound c size ids) : s.links.keys.map ids = s.linkedIds := by
  unfold Links.keys linkedIds
  rw [List.map_map]
  apply List.map_congr_left
  intro e he
  exact (h.keyed e he).2

/-- The linked numbers ascend. -/
theorem Sound.ascending (h : s.Sound c size ids) :
    s.linkedIds.Pairwise fun id id' => id.number < id'.number :=
  List.pairwise_map.2 h.kept.ascending

/-- The linked devices stand in the order of their numbers. -/
theorem Sound.ascending_keys (h : s.Sound c size ids) :
    s.links.keys.Pairwise fun d e => (ids d).number < (ids e).number := by
  have := h.ascending
  rwa [← h.map_keys, List.pairwise_map] at this

/-- No device is linked twice. -/
theorem Sound.nodup_keys (h : s.Sound c size ids) : s.links.keys.Nodup := by
  -- two links to one device would be under one number
  refine h.ascending_keys.imp fun hlt heq => ?_
  rw [heq] at hlt
  exact UInt16.lt_irrefl _ hlt

/-- A device is linked when its number is, if no other device has it. -/
theorem Sound.mem_keys_iff (h : s.Sound c size ids)
    (distinct : ∀ d < size, ∀ e < size, ids d = ids e → d = e) (hd : d < size) :
    d ∈ s.links.keys ↔ ids d ∈ s.linkedIds := by
  rw [← h.map_keys, List.mem_map]
  constructor
  · intro hk
    exact ⟨d, hk, rfl⟩
  · rintro ⟨e, hk, heq⟩
    obtain ⟨link, hlink, rfl⟩ := List.mem_map.1 hk
    rwa [← distinct _ (h.keyed link hlink).1 _ hd heq]

/-- A number is linked when there is a link under it. -/
theorem mem_linkedIds : id ∈ s.linkedIds ↔ ∃ key, (id, key) ∈ s.links.linked := by
  simp [linkedIds]

/-! ## Requests about links -/

/-- A reference that a link had is in hand. -/
theorem count_handed (keys : List Nat) (held : Nat → Nat) (d e : Nat) :
    keys.count e + update held d (held d + 1) e = (d :: keys).count e + held e := by
  rw [List.count_cons]
  by_cases hed : e = d
  · subst hed
    rw [Function.update_self, if_pos BEq.rfl]
    omega
  · rw [Function.update_of_ne hed, if_neg (by simpa using Ne.symm hed)]
    rfl

/-- A reference that was in hand is that of a link. -/
theorem count_linked (keys : List Nat) {held : Nat → Nat} (inHand : 0 < held d) (e : Nat) :
    (d :: keys).count e + update held d (held d - 1) e = keys.count e + held e := by
  have hmoved := count_handed keys (update held d (held d - 1)) d e
  rwa [Function.update_idem, Function.update_self, Nat.sub_add_cancel inHand,
    Function.update_eq_self, eq_comm] at hmoved

/-- A claim keeps links, devices and references in agreement. -/
theorem Sound.claim (h : s.Sound c size ids) (id : DeviceId) : (s.claim id).2.Sound c size ids := by
  unfold Handling.claim
  cases hr : s.links.reserve? id with
  | none => exact h
  | some l =>
    obtain ⟨-, -, rfl⟩ := Links.reserve?_eq_some hr
    exact ⟨h.kept.reserve? hr, h.size_eq, h.idOf_eq, h.keyed, h.counted⟩

/-- A claim that is abandoned keeps them in agreement. -/
theorem Sound.abandon (h : s.Sound c size ids) (id : DeviceId) :
    (s.serve (.abandon id)).2.Sound c size ids :=
  ⟨h.kept.cancel id, h.size_eq, h.idOf_eq, h.keyed, h.counted⟩

/-- No link stands under a number that is claimed. -/
theorem Sound.linked_ne (h : s.Sound c size ids) (claimed : id ∈ s.links.pending) :
    ∀ e ∈ s.links.linked, e.1 ≠ id := by
  rintro e he rfl
  exact h.kept.apart e he claimed

/-- A claim that is committed keeps them in agreement. -/
theorem Sound.commit (h : s.Sound c size ids) (admitted : s.Admits (.commit d)) :
    (s.commit d).2.Sound c size ids := by
  obtain ⟨hd, hclaimed, hheld⟩ := admitted
  unfold Handling.commit
  cases hretiring : (s.devices.get d).isRetiring with
  | true => exact ⟨h.kept.cancel _, h.size_eq, h.idOf_eq, h.keyed, h.counted⟩
  | false =>
    have hnew := h.linked_ne hclaimed
    have hperm := (Links.confirm_active (l := s.links) d hnew).2.2
    have hkeys := Links.perm_keys_confirm d hnew
    refine ⟨h.kept.confirm d hnew, h.size_eq, h.idOf_eq, fun e he => ?_, fun e he => ?_⟩
    · rcases List.mem_cons.1 (hperm.mem_iff.1 he) with rfl | he
      · exact ⟨h.size_eq ▸ hd, (h.idOf_eq d).symm⟩
      · exact h.keyed e he
    · -- the reference goes over from the hand to the link
      show s.refs e = 1 + (s.links.confirm (s.devices.get d).id d false).2.keys.count e +
        update s.held d (s.held d - 1) e
      have hmoved := count_linked s.links.keys hheld e
      rw [h.counted e he, hkeys.count_eq]
      omega

/-- A link that is taken off keeps them in agreement. -/
theorem Sound.detach (h : s.Sound c size ids) (id : DeviceId) :
    (s.detach id).2.Sound c size ids := by
  unfold Handling.detach
  cases hu : s.links.unlink? id with
  | none => exact h
  | some e =>
    obtain ⟨d, l⟩ := e
    obtain ⟨hmem, -, hlinked, -⟩ := Links.unlink?_eq_some hu
    have hkeys : s.links.keys.Perm (d :: l.keys) := by
      have := (Links.perm_filter h.kept.ascending hmem).map Prod.snd
      rw [← hlinked] at this
      exact this
    refine ⟨h.kept.unlink? hu, h.size_eq, h.idOf_eq, fun e he => ?_, fun e he => ?_⟩
    · have he' : e ∈ l.linked := he
      rw [hlinked] at he'
      exact h.keyed e (List.mem_of_mem_filter he')
    · show s.refs e = 1 + l.keys.count e + update s.held d (s.held d + 1) e
      have hmoved := count_handed l.keys s.held d e
      rw [h.counted e he, hkeys.count_eq]
      omega

/-- All links that are taken off keep them in agreement. -/
theorem Sound.takeLinks (h : s.Sound c size ids) : s.takeLinks.2.Sound c size ids := by
  have hnone : s.links.clear.linked = [] := rfl
  refine ⟨h.kept.clear, h.size_eq, h.idOf_eq, by simp [Handling.takeLinks, hnone], fun e he => ?_⟩
  show s.refs e = 1 + 0 + (s.held e + s.links.keys.count e)
  rw [h.counted e he]
  omega

/-! ## Requests about devices -/

/-- A device that keeps its number may change, if its references change with those in hand. -/
theorem Sound.updateDevice (h : s.Sound c size ids) {f : Device → Device} {held : Nat → Nat}
    (same : (f (s.devices.get d)).id = s.idOf d) (hd : d < s.devices.size)
    (own : (f (s.devices.get d)).lifecycle.refs + s.held d = s.refs d + held d)
    (others : ∀ e, e ≠ d → held e = s.held e) :
    Sound c size ids ⟨s.links, s.devices.update d f, held⟩ := by
  refine ⟨h.kept, (Store.size_update ..).trans h.size_eq, fun e => ?_, h.keyed, fun e he => ?_⟩
  · show ((s.devices.update d f).get e).id = ids e
    rw [Store.get_update]
    by_cases hed : e = d
    · rw [if_pos ⟨hed, hd⟩, same, hed, h.idOf_eq]
    · rw [if_neg fun hcases => hed hcases.1]
      exact h.idOf_eq e
  · have hcounted := h.counted e he
    show ((s.devices.update d f).get e).lifecycle.refs = 1 + s.links.keys.count e + held e
    rw [Store.get_update]
    by_cases hed : e = d
    · subst hed
      rw [if_pos ⟨rfl, hd⟩]
      omega
    · rw [if_neg fun hcases => hed hcases.1, others e hed]
      exact hcounted

/-- A device that is retired keeps them in agreement. -/
theorem Sound.retire (h : s.Sound c size ids) (hd : d < s.devices.size) :
    (s.serve (.retire d)).2.Sound c size ids :=
  h.updateDevice rfl hd rfl fun _ _ => rfl

/-- One more reference, which is in hand, keeps them in agreement. -/
theorem Sound.gained (h : s.Sound c size ids) {f : Device → Device}
    (same : (f (s.devices.get d)).id = s.idOf d) (hd : d < s.devices.size)
    (more : (f (s.devices.get d)).lifecycle.refs = s.refs d + 1) :
    (gain { s with devices := s.devices.update d f } d).Sound c size ids := by
  refine h.updateDevice same hd ?_ fun e he => Function.update_of_ne he ..
  rw [more]
  show _ = s.refs d + update s.held d (s.held d + 1) d
  rw [Function.update_self]
  omega

/-- A reference that is asked for keeps them in agreement, whether it is to be had or not. -/
theorem Sound.acquire (h : s.Sound c size ids) (hd : d < s.devices.size) :
    (s.acquire d).2.Sound c size ids := by
  unfold Handling.acquire
  cases hjoin : (s.devices.get d).join? with
  | none => exact h
  | some x =>
    obtain ⟨l, hl, rfl⟩ := Option.map_eq_some_iff.1 hjoin
    obtain ⟨-, -, rfl⟩ := Lifecycle.join?_eq_some_iff.1 hl
    exact h.gained rfl hd rfl

/-- A reference that is shared keeps them in agreement. -/
theorem Sound.share (h : s.Sound c size ids) (hd : d < s.devices.size) :
    (s.serve (.share d)).2.Sound c size ids :=
  h.gained rfl hd rfl

/-- A reference that is given up keeps them in agreement. -/
theorem Sound.drop (h : s.Sound c size ids) (admitted : s.Admits (.drop d)) :
    (s.serve (.drop d)).2.Sound c size ids := by
  obtain ⟨hd, hheld⟩ := admitted
  -- the owner has a reference besides, so that the count does not stop at zero
  have hcounted := h.counted d (h.size_eq ▸ hd)
  refine h.updateDevice rfl hd ?_ fun e he => Function.update_of_ne he ..
  show s.refs d - 1 + s.held d = s.refs d + update s.held d (s.held d - 1) d
  rw [Function.update_self]
  omega

/-- Every request that is admitted keeps links, devices and references in agreement. -/
theorem Sound.serve (h : s.Sound c size ids) {q : Request} (admitted : s.Admits q) :
    (s.serve q).2.Sound c size ids := by
  cases q with
  | claim id => exact h.claim id
  | abandon id => exact h.abandon id
  | commit d => exact h.commit admitted
  | detach id => exact h.detach id
  | takeLinks => exact h.takeLinks
  | retire d => exact h.retire admitted
  | acquire d => exact h.acquire admitted
  | share d => exact h.share admitted.1
  | drop d => exact h.drop admitted

/-! ## What is answered -/

/-- The links stay as they are, and so do all devices but one. -/
def OnlyDevice (s : Handling) (d : Nat) (t : Handling) : Prop :=
  t.links = s.links ∧ ∀ e, e ≠ d → t.devices.get e = s.devices.get e

/-- What a request is answered, what it does, and what it leaves as it was: the claims and the links
under other numbers, the devices, and the references in hand. -/
def Effect (s : Handling) : Request → Response → Handling → Prop
  | .claim id, a, t =>
    (a = .claimed true ∧ (id ∉ s.links.pending ∧ id ∉ s.linkedIds) ∧
      t.links.pending = s.links.pending ++ [id] ∧ t.links.linked = s.links.linked ∧
      t.devices = s.devices ∧ t.held = s.held) ∨
    (a = .claimed false ∧ ¬(id ∉ s.links.pending ∧ id ∉ s.linkedIds) ∧ t = s)
  | .abandon id, a, t =>
    a = .done ∧ t.links.pending = s.links.pending.filter (· ≠ id) ∧
      t.links.linked = s.links.linked ∧ t.devices = s.devices ∧ t.held = s.held
  | .commit d, a, t =>
    t.links.pending = s.links.pending.filter (· ≠ s.idOf d) ∧ t.devices = s.devices ∧
    ((a = .committed none ∧ (s.devices.get d).isRetiring = false ∧
        t.links.linked.Perm ((s.idOf d, d) :: s.links.linked) ∧
        t.held = update s.held d (s.held d - 1)) ∨
      (a = .committed (some d) ∧ (s.devices.get d).isRetiring = true ∧
        t.links.linked = s.links.linked ∧ t.held = s.held))
  | .detach id, a, t =>
    (∃ d, a = .detached (some d) ∧ (id ∈ s.linkedIds ∧ d < s.devices.size ∧ s.idOf d = id) ∧
      t.links.linked = s.links.linked.filter (·.1 ≠ id) ∧ t.links.pending = s.links.pending ∧
      t.devices = s.devices ∧ t.held = update s.held d (s.held d + 1)) ∨
    (a = .detached none ∧ id ∉ s.linkedIds ∧ t = s)
  | .takeLinks, a, t =>
    ∃ ds, a = .taken ds ∧ ds.map s.idOf = s.linkedIds ∧
      ds.Pairwise (fun d e => (s.idOf d).number < (s.idOf e).number) ∧ t.linkedIds = [] ∧
      t.links.pending = s.links.pending ∧ t.devices = s.devices ∧
      ∀ d, t.held d = s.held d + if d ∈ ds then 1 else 0
  | .acquire d, a, t =>
    a = .acquired (!(s.devices.get d).isRetiring) ∧ s.OnlyDevice d t ∧
      t.held = if (s.devices.get d).isRetiring then s.held else update s.held d (s.held d + 1)
  | .retire d, a, t =>
    a = .done ∧ s.OnlyDevice d t ∧ (t.devices.get d).isRetiring = true ∧ t.held = s.held
  | .share d, a, t => a = .done ∧ s.OnlyDevice d t ∧ t.held = update s.held d (s.held d + 1)
  | .drop d, a, t => a = .done ∧ s.OnlyDevice d t ∧ t.held = update s.held d (s.held d - 1)

/-- A change of one device leaves the links and the others. -/
theorem onlyDevice_update (s : Handling) (d : Nat) (f : Device → Device) (held : Nat → Nat) :
    s.OnlyDevice d ⟨s.links, s.devices.update d f, held⟩ :=
  ⟨rfl, fun e he => by
    show (s.devices.update d f).get e = _
    rw [Store.get_update, if_neg fun hcases => he hcases.1]⟩

/-- A claim succeeds when its number is free, and fails when it is claimed or linked. -/
theorem effect_claim (s : Handling) (id : DeviceId) :
    Effect s (.claim id) (s.claim id).1 (s.claim id).2 := by
  unfold Handling.claim
  cases hr : s.links.reserve? id with
  | some l =>
    obtain ⟨hlinked, hpending, rfl⟩ := Links.reserve?_eq_some hr
    refine Or.inl ⟨rfl, ⟨hpending, fun hmem => ?_⟩, rfl, rfl, rfl, rfl⟩
    obtain ⟨key, hkey⟩ := mem_linkedIds.1 hmem
    exact hlinked _ hkey rfl
  | none =>
    refine Or.inr ⟨rfl, fun hfree => ?_, rfl⟩
    -- the number is taken by a link or by a claim
    rcases Links.reserve?_eq_none hr with hlinked | hpending
    · exact hfree.2 (mem_linkedIds.2 hlinked)
    · exact hfree.1 hpending

/-- A claim that is committed is a link then, unless its device is retiring. -/
theorem Sound.effect_commit (h : s.Sound c size ids) (admitted : s.Admits (.commit d)) :
    Effect s (.commit d) (s.commit d).1 (s.commit d).2 := by
  have hnew := h.linked_ne admitted.2.1
  unfold Handling.commit
  cases hretiring : (s.devices.get d).isRetiring with
  | true => exact ⟨rfl, rfl, Or.inr ⟨rfl, hretiring, rfl, rfl⟩⟩
  | false =>
    have hperm := (Links.confirm_active (l := s.links) d hnew).2.2
    exact ⟨rfl, rfl, Or.inl ⟨rfl, hretiring, hperm, rfl⟩⟩

/-- A link that is there is taken off, with the reference that it had. -/
theorem Sound.effect_detach (h : s.Sound c size ids) (id : DeviceId) :
    Effect s (.detach id) (s.detach id).1 (s.detach id).2 := by
  unfold Handling.detach
  cases hu : s.links.unlink? id with
  | some e =>
    obtain ⟨d, l⟩ := e
    obtain ⟨hmem, hpending, hlinked, -⟩ := Links.unlink?_eq_some hu
    obtain ⟨hd, hid⟩ := h.keyed _ hmem
    exact Or.inl ⟨d, rfl, ⟨mem_linkedIds.2 ⟨d, hmem⟩, h.size_eq ▸ hd, (h.idOf_eq d).trans hid⟩,
      hlinked, hpending, rfl, rfl⟩
  | none =>
    refine Or.inr ⟨rfl, fun hin => ?_, rfl⟩
    obtain ⟨key, hkey⟩ := mem_linkedIds.1 hin
    exact Links.unlink?_eq_none hu _ hkey rfl

/-- All links are taken, in the order of their numbers. -/
theorem Sound.effect_takeLinks (h : s.Sound c size ids) :
    Effect s .takeLinks s.takeLinks.1 s.takeLinks.2 := by
  have hids : s.idOf = ids := funext h.idOf_eq
  refine ⟨s.links.keys, rfl, ?_, ?_, rfl, rfl, rfl, fun d => ?_⟩
  · rw [hids]
    exact h.map_keys
  · rw [hids]
    exact h.ascending_keys
  · show s.held d + s.links.keys.count d = _
    rw [h.nodup_keys.count]

/-- A reference is to be had of every device that is not retiring. -/
theorem Sound.effect_acquire (h : s.Sound c size ids) (hd : d < s.devices.size) :
    Effect s (.acquire d) (s.acquire d).1 (s.acquire d).2 := by
  -- the owner has a reference, so that only a retirement refuses another
  have hrefs : (s.devices.get d).lifecycle.refs ≠ 0 := by
    have hcounted : s.refs d = _ := h.counted d (h.size_eq ▸ hd)
    show s.refs d ≠ 0
    omega
  have hjoin : (s.devices.get d).join?.isSome = !(s.devices.get d).isRetiring := by
    rw [Device.join?, Option.isSome_map, Lifecycle.join?_isSome, bne_iff_ne.2 hrefs, Bool.and_true]
    rfl
  show (s.acquire d).1 = .acquired (!(s.devices.get d).isRetiring) ∧
    s.OnlyDevice d (s.acquire d).2 ∧ (s.acquire d).2.held =
      if (s.devices.get d).isRetiring then s.held else update s.held d (s.held d + 1)
  unfold Handling.acquire
  cases hx : (s.devices.get d).join? with
  | some x =>
    have hactive : (s.devices.get d).isRetiring = false := by simpa [hx] using hjoin
    rw [hactive]
    exact ⟨rfl, s.onlyDevice_update d _ _, rfl⟩
  | none =>
    have hretiring : (s.devices.get d).isRetiring = true := by simpa [hx] using hjoin
    rw [hretiring]
    exact ⟨rfl, ⟨rfl, fun _ _ => rfl⟩, rfl⟩

/-- A device that is retired is retiring from then on. -/
theorem effect_retire (hd : d < s.devices.size) :
    Effect s (.retire d) (s.serve (.retire d)).1 (s.serve (.retire d)).2 := by
  refine ⟨rfl, s.onlyDevice_update d _ _, ?_, rfl⟩
  show ((s.devices.update d Device.retire).get d).isRetiring = true
  rw [Store.get_update, if_pos ⟨rfl, hd⟩]
  rfl

/-- Every request that is admitted is answered as it should be, and does what it should. -/
theorem Sound.effect (h : s.Sound c size ids) {q : Request} (admitted : s.Admits q) :
    Effect s q (s.serve q).1 (s.serve q).2 := by
  cases q with
  | claim id => exact s.effect_claim id
  | abandon id => exact ⟨rfl, rfl, rfl, rfl, rfl⟩
  | commit d => exact h.effect_commit admitted
  | detach id => exact h.effect_detach id
  | takeLinks => exact h.effect_takeLinks
  | acquire d => exact h.effect_acquire admitted
  | retire d => exact effect_retire admitted
  | share d | drop d => exact ⟨rfl, s.onlyDevice_update d _ _, rfl⟩

/-! ## Every order of requests -/

/-- The set beside the links, the claims and the references agree with the links, for the given
devices. -/
structure Agrees (c : UInt16) (devices : Store Device) (s : Handling) : Prop where
  size : s.devices.size = devices.size
  ids : ∀ d, s.idOf d = (devices.get d).id
  ascending : s.linkedIds.Pairwise fun id id' => id.number < id'.number
  /-- The set holds the linked numbers that it has room for. -/
  bound : ∀ n, s.links.bound.contains n = true ↔ n ≤ c ∧ ∃ id ∈ s.linkedIds, id.number = n
  /-- It has room for all of them when it has room for those of the devices. -/
  bound_all : (∀ d < devices.size, (devices.get d).id.number ≤ c) →
    ∀ n, s.links.bound.contains n = true ↔ ∃ id ∈ s.linkedIds, id.number = n
  pending_nodup : s.links.pending.Nodup
  apart : ∀ id ∈ s.links.pending, id ∉ s.linkedIds
  counted : ∀ d < devices.size,
    s.refs d = 1 + (if (devices.get d).id ∈ s.linkedIds then 1 else 0) + s.held d

/-- The set holds the linked numbers that it has room for. -/
theorem Sound.bound_iff (h : s.Sound c size ids) (n : UInt16) :
    s.links.bound.contains n = true ↔ n ≤ c ∧ ∃ id ∈ s.linkedIds, id.number = n := by
  by_cases hn : n = 0
  · -- no device has the number 0, and no set holds it
    subst hn
    refine iff_of_false (fun hin => ?_) fun hex => ?_
    · exact ((NumberSet.contains_iff _ _).1 hin).1.1 rfl
    · obtain ⟨-, id, -, hid⟩ := hex
      exact id.number_ne_zero hid
  · refine (h.kept.isBound_iff ⟨n, hn⟩).trans (and_congr_right fun _ => ?_)
    rw [← mem_linkedIds]
    constructor
    · intro hmem
      exact ⟨_, hmem, rfl⟩
    · rintro ⟨id, hmem, rfl⟩
      exact hmem

/-- Links, devices and references that agree look so from outside. -/
theorem Sound.agrees {devices : Store Device}
    (h : s.Sound c devices.size fun d => (devices.get d).id)
    (distinct : ∀ d < devices.size, ∀ e < devices.size,
      (devices.get d).id = (devices.get e).id → d = e) : s.Agrees c devices where
  size := h.size_eq
  ids := h.idOf_eq
  ascending := h.ascending
  bound := h.bound_iff
  bound_all room n := by
    refine (h.bound_iff n).trans (and_iff_right_of_imp ?_)
    rintro ⟨id, hmem, rfl⟩
    -- what is linked is one of the devices, for which there is room
    rw [← h.map_keys, List.mem_map] at hmem
    obtain ⟨d, hkey, rfl⟩ := hmem
    obtain ⟨e, he, rfl⟩ := List.mem_map.1 hkey
    exact room e.2 (h.keyed e he).1
  pending_nodup := h.kept.pending_nodup
  apart id hpending hmem := by
    obtain ⟨key, hkey⟩ := mem_linkedIds.1 hmem
    exact h.kept.apart _ hkey hpending
  counted d hd := by
    rw [h.counted d hd, h.nodup_keys.count]
    simp only [h.mem_keys_iff distinct hd]

/-- There is agreement at the start, when only owners refer to the devices. -/
theorem sound_start (c : UInt16) {devices : Store Device}
    (owned : ∀ d < devices.size, (devices.get d).lifecycle.refs = 1) :
    (start c devices).Sound c devices.size fun d => (devices.get d).id where
  kept := Links.kept_empty c
  size_eq := rfl
  idOf_eq _ := rfl
  keyed _ he := absurd he List.not_mem_nil
  counted d hd := owned d hd

/-- **Links are handled coherently.** Whatever is done with the links of an application, in whatever
order and whichever devices come to retire meanwhile, over any devices with numbers of their own to
which only their owner refers at first: the set beside the links holds the linked numbers, no number
is claimed twice or both claimed and linked, and the references to a device are that of its owner,
that of its link, and those in hand; and every further request is answered and does as `Effect` has
it. -/
theorem handling_exact (c : UInt16) (devices : Store Device)
    (owned : ∀ d < devices.size, (devices.get d).lifecycle.refs = 1)
    (distinct : ∀ d < devices.size, ∀ e < devices.size,
      (devices.get d).id = (devices.get e).id → d = e)
    {requests : List Request}
    (orderly : Dialogue.Orderly serve Admits (start c devices) requests) :
    let s := Dialogue.after serve (start c devices) requests
    s.Agrees c devices ∧ ∀ q, s.Admits q → Effect s q (s.serve q).1 (s.serve q).2 := by
  intro s
  -- one request keeps the agreement, and so does any number of them
  have hsound : s.Sound c devices.size fun d => (devices.get d).id :=
    orderly.after_induction (fun _ _ admitted h => h.serve admitted) (sound_start c owned)
  exact ⟨hsound.agrees distinct, fun _ admitted => hsound.effect admitted⟩

/-- Two devices, the first with the higher number. -/
def twoDevices : Store Device :=
  (Store.empty.add (.new ⟨3, by decide⟩ default 0)).add (.new default default 0)

/-- Both are claimed, the second retires before it is committed, and another reference to the first
is kept in hand. -/
def retiredBetween : List Request :=
  [.acquire 0, .acquire 1, .claim ⟨3, by decide⟩, .claim default, .retire 1, .share 0, .commit 1,
    .commit 0]

/-- The second device retires between its claim and the commit: its reference is handed back, and
the other one is linked. -/
theorem handling_exact_retired :
    Dialogue.answers serve (start 8 twoDevices) retiredBetween =
      [.acquired true, .acquired true, .claimed true, .claimed true, .done, .done,
        .committed (some 1), .committed none] ∧
    let s := Dialogue.after serve (start 8 twoDevices) retiredBetween
    s.Agrees 8 twoDevices ∧ s.refs 0 = 3 ∧ s.refs 1 = 2 ∧
      Effect s .takeLinks (s.serve .takeLinks).1 (s.serve .takeLinks).2 := by
  have horderly : Dialogue.Orderly serve Admits (start 8 twoDevices) retiredBetween := by decide
  obtain ⟨hagrees, heffect⟩ := handling_exact 8 twoDevices (by decide) (by decide) horderly
  exact ⟨by decide, hagrees, hagrees.counted 0 (by decide), hagrees.counted 1 (by decide),
    heffect .takeLinks trivial⟩

end Handling

end Switchboard
