import Switchboard.Proofs.Ledger.Basic
import Switchboard.Proofs.Roster

/-! # Operations on the ledger

Every operation of the registry acts on the ledger as a function of keys; the lemmas `ledger_…` say
which. A change of one record is seen through `Ledger.setDevice` and `Ledger.setAppl`, which read
off the record all that the ledger keeps of it. -/

namespace Switchboard

open Function (update update_eq_self)

/-! ## Records as functions of keys -/

namespace Store

variable {α β : Type} [Inhabited α]

/-- A part of the records after a change of one of them. Out of range nothing changes. -/
theorem map_update (p : α → β) (s : Store α) (key : Nat) (f : α → α)
    (h : key < s.size ∨ p (f (s.get key)) = p (s.get key)) :
    (fun k => p ((s.update key f).get k)) =
      Function.update (fun k => p (s.get k)) key (p (f (s.get key))) := by
  funext k
  rw [Function.update_apply, get_update]
  by_cases hk : k = key
  · subst hk
    by_cases hs : k < s.size
    · simp [hs]
    · simp [hs, h.resolve_left hs]
  · simp [hk]

/-- A part of the records after the arrival of one. -/
theorem map_add (p : α → β) (s : Store α) (a : α) :
    (fun k => p ((s.add a).get k)) = Function.update (fun k => p (s.get k)) s.size (p a) := by
  funext k
  rw [Function.update_apply, get_add]
  split <;> rfl

/-- A key leads to a record that has been added, or to the blank one. -/
theorem lt_size_or_eq_default (s : Store α) (key : Nat) : key < s.size ∨ s.get key = default :=
  (Nat.lt_or_ge key s.size).imp_right s.get_of_size_le

end Store

namespace Ledger

/-- The ledger with all that it keeps of a device read off a record. -/
def setDevice (s : Ledger) (d : Nat) (x : Device) : Ledger :=
  { s with
    deviceId := update s.deviceId d x.id
    deviceRefs := update s.deviceRefs d x.lifecycle.refs
    deviceActive := update s.deviceActive d (!x.isRetiring) }

/-- The ledger with all that it keeps of an application read off a record. -/
def setAppl (s : Ledger) (a : Nat) (x : Application) : Ledger :=
  { s with
    applId := update s.applId a x.id
    applRefs := update s.applRefs a x.lifecycle.refs
    applActive := update s.applActive a (!x.isRetiring)
    links := update s.links a x.links }

/-- Nothing changes when the links of an application are replaced by themselves. -/
theorem setLinks_self (s : Ledger) (a : Nat) : s.setLinks a (s.links a) = s := by
  simp [setLinks]

end Ledger

namespace Registry

variable (r : Registry) (fs : List Frame) (ws : List Teardown)

/-- A changed device: out of range the ledger must not see the change. -/
theorem ledger_updateDevice {d : Nat} {f : Device → Device}
    (h : d < r.devices.size ∨ (f (r.devices.get d)).id = (r.devices.get d).id ∧
      (f (r.devices.get d)).lifecycle = (r.devices.get d).lifecycle) :
    (r.updateDevice d f).ledger fs ws = (r.ledger fs ws).setDevice d (f (r.devices.get d)) := by
  have hid := Store.map_update Device.id r.devices d f (h.imp_right And.left)
  have hrefs := Store.map_update (·.lifecycle.refs) r.devices d f
    (h.imp_right fun h => congrArg Lifecycle.refs h.2)
  have hactive := Store.map_update (fun x => !x.isRetiring) r.devices d f
    (h.imp_right fun h => congrArg (!Lifecycle.retiring ·) h.2)
  simp only [updateDevice, ledger, Ledger.setDevice, Store.size_update, hid, hrefs, hactive]

/-- A changed application: out of range the ledger must not see the change. -/
theorem ledger_updateAppl {a : Nat} {f : Application → Application}
    (h : a < r.appls.size ∨ (f (r.appls.get a)).id = (r.appls.get a).id ∧
      (f (r.appls.get a)).lifecycle = (r.appls.get a).lifecycle ∧
      (f (r.appls.get a)).links = (r.appls.get a).links) :
    (r.updateAppl a f).ledger fs ws = (r.ledger fs ws).setAppl a (f (r.appls.get a)) := by
  have hid := Store.map_update Application.id r.appls a f (h.imp_right And.left)
  have hrefs := Store.map_update (·.lifecycle.refs) r.appls a f
    (h.imp_right fun h => congrArg Lifecycle.refs h.2.1)
  have hactive := Store.map_update (fun x => !x.isRetiring) r.appls a f
    (h.imp_right fun h => congrArg (!Lifecycle.retiring ·) h.2.1)
  have hlinks := Store.map_update Application.links r.appls a f (h.imp_right fun h => h.2.2)
  simp only [updateAppl, ledger, Ledger.setAppl, Store.size_update, hid, hrefs, hactive, hlinks]

/-! ## Changes that the ledger does not see -/

/-- A change of an application that leaves its identity, links and lifecycle alone. -/
theorem ledger_updateAppl_same {a : Nat} {f : Application → Application}
    (hid : (f (r.appls.get a)).id = (r.appls.get a).id)
    (hlinks : (f (r.appls.get a)).links = (r.appls.get a).links)
    (hlife : (f (r.appls.get a)).lifecycle = (r.appls.get a).lifecycle) :
    (r.updateAppl a f).ledger fs ws = r.ledger fs ws := by
  rw [r.ledger_updateAppl fs ws (Or.inr ⟨hid, hlife, hlinks⟩), Ledger.setAppl,
    Application.isRetiring, hid, hlinks, hlife]
  congr 1 <;> exact update_eq_self ..

/-- A change of a device that leaves its identity and lifecycle alone. -/
theorem ledger_updateDevice_same {d : Nat} {f : Device → Device}
    (hid : (f (r.devices.get d)).id = (r.devices.get d).id)
    (hlife : (f (r.devices.get d)).lifecycle = (r.devices.get d).lifecycle) :
    (r.updateDevice d f).ledger fs ws = r.ledger fs ws := by
  rw [r.ledger_updateDevice fs ws (Or.inr ⟨hid, hlife⟩), Ledger.setDevice, Device.isRetiring, hid,
    hlife]
  congr 1 <;> exact update_eq_self ..

/-- The ledger does not depend on what a facade keeps. -/
@[simp] theorem ledger_updateFacade (k : Nat) (f : Facade → Facade) :
    (r.updateFacade k f).ledger fs ws = r.ledger fs ws := rfl

/-- A facade that is opened leaves the ledger alone. -/
@[simp] theorem ledger_openFacade : r.openFacade.ledger fs ws = r.ledger fs ws := rfl

/-- A facade that is closed leaves the ledger alone. -/
@[simp] theorem ledger_closeFacade (k : Nat) :
    (r.closeFacade k).ledger fs ws = r.ledger fs ws := rfl

/-- The ledger does not depend on the observers. -/
@[simp] theorem ledger_observers (o : Observers) :
    Registry.ledger { r with observers := o } fs ws = r.ledger fs ws := rfl

/-- What is counted leaves the ledger alone. -/
@[simp] theorem ledger_countSent (d a : Nat) (t : Traffic) :
    (r.countSent d a t).ledger fs ws = r.ledger fs ws := by
  rw [countSent, ledger_updateDevice_same _ _ _ rfl rfl, ledger_updateAppl_same _ _ _ rfl rfl rfl]

/-- A message that is queued leaves the ledger alone. -/
theorem ledger_append? {r' : Registry} {a : Nat} {m : Message} (h : r.append? a m = some r') :
    r'.ledger fs ws = r.ledger fs ws := by
  obtain ⟨x, hx, rfl⟩ := Option.map_eq_some_iff.1 h
  unfold Application.append? at hx
  split at hx
  · cases hx
  · cases hx
    exact r.ledger_updateAppl_same fs ws rfl rfl rfl

/-- A message that is taken leaves the ledger alone. -/
theorem ledger_receive {r' : Registry} {id : ApplId} {m : Message}
    (h : r.receive id = .ok (m, r')) : r'.ledger fs ws = r.ledger fs ws := by
  unfold receive at h
  split at h
  · cases h
  · rename_i a _
    split at h
    · cases h
    · rename_i x hx
      cases h
      refine r.ledger_updateAppl_same fs ws ?_ ?_ ?_ <;>
      · unfold Application.take at hx
        split at hx
        · cases hx
        · split at hx
          · cases hx
          · cases hx
            rfl

/-- A handler that is set leaves the ledger alone. -/
theorem ledger_setHandler {r' : Registry} {id : ApplId} {h : Option SignalHandler}
    (hr : r.setHandler id h = .ok r') : r'.ledger fs ws = r.ledger fs ws := by
  unfold setHandler at hr
  split at hr
  · cases hr
  · cases hr
    exact r.ledger_updateAppl_same fs ws rfl rfl rfl

/-- An error that is latched leaves the ledger alone. -/
@[simp] theorem ledger_latch (a : Nat) (fault : MessageFault) :
    (r.updateAppl a fun x => x.latch fault).ledger fs ws = r.ledger fs ws := by
  refine r.ledger_updateAppl_same fs ws ?_ ?_ ?_ <;>
  · unfold Application.latch
    split <;> rfl

/-- A queue and a handler that are dropped leave the ledger alone. -/
@[simp] theorem ledger_reset (a : Nat) :
    (r.updateAppl a Application.reset).ledger fs ws = r.ledger fs ws :=
  r.ledger_updateAppl_same fs ws rfl rfl rfl

/-- A message that a device has brought leaves the ledger alone. -/
@[simp] theorem ledger_received (d : Nat) (t : Traffic) :
    (r.updateDevice d fun x => x.receive t).ledger fs ws = r.ledger fs ws :=
  r.ledger_updateDevice_same fs ws rfl rfl

/-! ## References and links -/

/-- A reference to a device that is given up is one less in the ledger. -/
@[simp] theorem ledger_leaveDevice (d : Nat) :
    (r.leaveDevice d).ledger fs ws = (r.ledger fs ws).leaveDevice d := by
  have hblank := r.devices.lt_size_or_eq_default d
  refine (r.ledger_updateDevice fs ws (hblank.imp_right fun h => ?_)).trans ?_
  · rw [h]
    exact ⟨rfl, rfl⟩
  · unfold Ledger.setDevice Ledger.leaveDevice
    congr 1 <;> exact update_eq_self ..

/-- A reference to an application that is given up is one less in the ledger. -/
@[simp] theorem ledger_leaveAppl (a : Nat) :
    (r.leaveAppl a).ledger fs ws = (r.ledger fs ws).leaveAppl a := by
  have hblank := r.appls.lt_size_or_eq_default a
  refine (r.ledger_updateAppl fs ws (hblank.imp_right fun h => ?_)).trans ?_
  · rw [h]
    exact ⟨rfl, rfl, rfl⟩
  · unfold Ledger.setAppl Ledger.leaveAppl
    congr 1 <;> exact update_eq_self ..

/-- A change of the links of an application that is there, or one that leaves blank links alone. -/
theorem ledger_setLinks {a : Nat} {f : Links → Links} (h : a < r.appls.size ∨ f default = default) :
    (r.updateAppl a fun x => { x with links := f x.links }).ledger fs ws =
      (r.ledger fs ws).setLinks a (f (r.appls.get a).links) := by
  have hblank : a < r.appls.size ∨ f (r.appls.get a).links = (r.appls.get a).links := by
    rcases r.appls.lt_size_or_eq_default a with hlt | hdefault
    · exact Or.inl hlt
    · exact h.imp_right fun h => by rw [hdefault]; exact h
  rw [r.ledger_updateAppl fs ws (hblank.imp_right fun h => ⟨rfl, rfl, h⟩)]
  unfold Ledger.setAppl Ledger.setLinks
  congr 1 <;> exact update_eq_self ..

/-- The number of a device that is given back is free in the ledger. -/
@[simp] theorem ledger_freeDevice (d : Nat) :
    (r.freeDevice d).ledger fs ws = (r.ledger fs ws).freeDevice d := rfl

/-- The number of an application that is given back is free in the ledger. -/
@[simp] theorem ledger_freeAppl (a : Nat) :
    (r.freeAppl a).ledger fs ws = (r.ledger fs ws).freeAppl a := rfl

/-- An application that has links is there. -/
theorem lt_size_of_linked {a : Nat} (h : (r.appls.get a).links.linked ≠ []) : a < r.appls.size := by
  by_contra hge
  rw [r.appls.get_of_size_le (Nat.not_lt.1 hge)] at h
  exact h rfl

/-- A link that is dropped is dropped in the ledger, with its reference. -/
@[simp] theorem ledger_unlink (id : DeviceId) (a : Nat) :
    (r.unlink id a).ledger fs ws = (r.ledger fs ws).unlink id a := by
  have hlinks : (r.ledger fs ws).links a = (r.appls.get a).links := rfl
  unfold unlink Ledger.unlink
  rw [hlinks]
  cases hl : (r.appls.get a).links.unlink? id with
  | none => rfl
  | some e =>
    obtain ⟨d, l⟩ := e
    have hlinked : (r.appls.get a).links.linked ≠ [] := by
      intro hnil
      simp [Links.unlink?, Links.find?, hnil] at hl
    dsimp only
    rw [ledger_leaveDevice,
      ledger_setLinks r fs ws (f := fun _ => l) (Or.inl (r.lt_size_of_linked hlinked))]

/-- A link that is dropped leaves the table of applications alone. -/
@[simp] theorem applTable_unlink (id : DeviceId) (a : Nat) :
    (r.unlink id a).applTable = r.applTable := by
  unfold unlink
  split <;> rfl

/-- All links under a number that are dropped are dropped in the ledger. -/
@[simp] theorem ledger_unlinkAll (id : DeviceId) :
    (r.unlinkAll id).ledger fs ws = (r.ledger fs ws).unlinkAll id := by
  unfold unlinkAll Ledger.unlinkAll
  change _ = r.applTable.values.foldl (fun s a => s.unlink id a) (r.ledger fs ws)
  generalize r.applTable.values = keys
  induction keys generalizing r with
  | nil => rfl
  | cons a rest ih => rw [List.foldl_cons, List.foldl_cons, ih, ledger_unlink]

/-- Links that are taken are gone from the ledger, and their references are still counted. -/
theorem ledger_takeLinks (a : Nat) :
    (r.takeLinks a).2.ledger fs ws =
      (r.ledger fs ws).setLinks a (r.appls.get a).links.clear :=
  r.ledger_setLinks fs ws (f := Links.clear) (Or.inr rfl)

/-! ## Joining -/

/-- A device that can be referred to may be joined, and gets one more reference. -/
theorem join?_device {d : Nat} {x : Device} (h : (r.devices.get d).join? = some x) :
    (r.ledger fs ws).DeviceJoins d ∧
      x = { r.devices.get d with lifecycle := (r.devices.get d).lifecycle.share } := by
  obtain ⟨l, hl, rfl⟩ := Option.map_eq_some_iff.1 h
  obtain ⟨hret, hrefs, rfl⟩ := Lifecycle.join?_eq_some_iff.1 hl
  refine ⟨⟨?_, ?_, hrefs⟩, rfl⟩
  · by_contra hge
    rw [r.devices.get_of_size_le (Nat.not_lt.1 hge)] at hrefs
    exact hrefs rfl
  · simp [ledger, Device.isRetiring, hret]

/-- An application that can be referred to may be joined, and gets one more reference. -/
theorem join?_appl {a : Nat} {x : Application} (h : (r.appls.get a).join? = some x) :
    (r.ledger fs ws).ApplJoins a ∧
      x = { r.appls.get a with lifecycle := (r.appls.get a).lifecycle.share } := by
  obtain ⟨l, hl, rfl⟩ := Option.map_eq_some_iff.1 h
  obtain ⟨hret, hrefs, rfl⟩ := Lifecycle.join?_eq_some_iff.1 hl
  refine ⟨⟨?_, ?_, hrefs⟩, rfl⟩
  · by_contra hge
    rw [r.appls.get_of_size_le (Nat.not_lt.1 hge)] at hrefs
    exact hrefs rfl
  · simp [ledger, Application.isRetiring, hret]

/-- A reference to a device is to be had of a device that may be joined. -/
theorem join?_device_ne_none {d : Nat} (h : (r.ledger fs ws).DeviceJoins d) :
    (r.devices.get d).join? ≠ none := by
  intro hnone
  obtain ⟨_, hact, hrefs⟩ := h
  have hret : (r.devices.get d).lifecycle.retiring = false := by
    simpa [ledger, Device.isRetiring] using hact
  have hrefs' : (r.devices.get d).lifecycle.refs ≠ 0 := hrefs
  simp [Device.join?, Lifecycle.join?, hret, hrefs'] at hnone

/-- A reference to an application is to be had of one that may be joined. -/
theorem join?_appl_ne_none {a : Nat} (h : (r.ledger fs ws).ApplJoins a) :
    (r.appls.get a).join? ≠ none := by
  intro hnone
  obtain ⟨_, hact, hrefs⟩ := h
  have hret : (r.appls.get a).lifecycle.retiring = false := by
    simpa [ledger, Application.isRetiring] using hact
  have hrefs' : (r.appls.get a).lifecycle.refs ≠ 0 := hrefs
  simp [Application.join?, Lifecycle.join?, hret, hrefs'] at hnone

/-- The ledger with one more reference to each of a device and an application that are there, and
the links of the application replaced. -/
theorem ledger_share {d a : Nat} (hd : d < r.devices.size) (ha : a < r.appls.size) (l : Links) :
    Registry.ledger { r with
      devices := r.devices.update d fun _ =>
        { r.devices.get d with lifecycle := (r.devices.get d).lifecycle.share }
      appls := r.appls.update a fun _ =>
        { r.appls.get a with lifecycle := (r.appls.get a).lifecycle.share, links := l } } fs ws =
      (((r.ledger fs ws).joinDevice d).joinAppl a).setLinks a l := by
  have hdevice := r.ledger_updateDevice fs ws (f := fun _ =>
    { r.devices.get d with lifecycle := (r.devices.get d).lifecycle.share }) (Or.inl hd)
  have happl := (r.updateDevice d fun _ =>
    { r.devices.get d with lifecycle := (r.devices.get d).lifecycle.share }).ledger_updateAppl fs ws
      (f := fun _ => { r.appls.get a with
        lifecycle := (r.appls.get a).lifecycle.share, links := l }) (Or.inl ha)
  refine happl.trans ?_
  rw [hdevice]
  unfold Ledger.setAppl Ledger.setDevice Ledger.joinAppl Ledger.joinDevice Ledger.setLinks
  congr 1 <;> exact update_eq_self ..

/-- A pair that is reserved: both sides may be joined, and the number is neither linked nor
reserved. -/
theorem reserve?_eq_some {r' : Registry} {d a : Nat} (h : r.reserve? d a = some r') :
    ∃ l, (r.ledger fs ws).DeviceJoins d ∧ (r.ledger fs ws).ApplJoins a ∧
      (r.appls.get a).links.reserve? (r.devices.get d).id = some l ∧
      r'.ledger fs ws = (((r.ledger fs ws).joinDevice d).joinAppl a).setLinks a l := by
  unfold reserve? at h
  split at h
  · cases h
  · rename_i device hd
    split at h
    · cases h
    · rename_i appl ha
      obtain ⟨hdj, rfl⟩ := r.join?_device fs ws hd
      obtain ⟨haj, rfl⟩ := r.join?_appl fs ws ha
      split at h
      · cases h
      · rename_i l hl
        cases h
        exact ⟨l, hdj, haj, hl, r.ledger_share fs ws hdj.1 haj.1 l⟩

/-- A pair that is not reserved: a reference is not to be had, or the number is linked or reserved
already. -/
theorem reserve?_eq_none {d a : Nat} (h : r.reserve? d a = none)
    (hd : (r.ledger fs ws).DeviceJoins d) (ha : (r.ledger fs ws).ApplJoins a) :
    (r.appls.get a).links.reserve? (r.devices.get d).id = none := by
  unfold reserve? at h
  split at h
  · rename_i hnone
    exact absurd hnone (r.join?_device_ne_none fs ws hd)
  · rename_i device hdj
    split at h
    · rename_i hnone
      exact absurd hnone (r.join?_appl_ne_none fs ws ha)
    · rename_i appl haj
      obtain ⟨_, rfl⟩ := r.join?_device fs ws hdj
      obtain ⟨_, rfl⟩ := r.join?_appl fs ws haj
      split at h
      · rename_i hl
        exact hl
      · cases h

/-- A route leads from a registered application to an installed device that it is bound to, both of
which may be joined, and takes a reference to each. -/
theorem route_eq_ok {r' : Registry} {id : ApplId} {m : Message} {d a : Nat}
    (h : r.route id m = .ok (d, a, r')) :
    r.applTable.get? id.number = some a ∧ (r.ledger fs ws).ApplJoins a ∧
      (∃ target : DeviceId, r.deviceTable.get? target.number = some d ∧
        (r.appls.get a).links.isBound target = true) ∧ (r.ledger fs ws).DeviceJoins d ∧
      r'.ledger fs ws = ((r.ledger fs ws).joinDevice d).joinAppl a := by
  unfold route at h
  split at h
  · cases h
  · rename_i a' ha
    split at h
    · cases h
    · rename_i appl haj
      -- all refusals are of one kind, and one case is left in which nothing refuses
      repeat' split at h
      all_goals first | cases h; done | skip
      rename_i _ _ _ target _ _ _ d' hd _ device hdj hbound
      cases h
      obtain ⟨hdj', rfl⟩ := r.join?_device fs ws hdj
      obtain ⟨haj', rfl⟩ := r.join?_appl fs ws haj
      refine ⟨ha, haj', ⟨target, hd, hbound⟩, hdj', ?_⟩
      refine (r.ledger_share fs ws hdj'.1 haj'.1 (r.appls.get a).links).trans ?_
      -- the links are left as they are
      exact Ledger.setLinks_self (((r.ledger fs ws).joinDevice d).joinAppl a) a

/-- The end of a linking that the driver has agreed to while its device is active. -/
theorem ledger_settle_accept {d a : Nat} (ha : a < r.appls.size)
    (hd : (r.ledger fs ws).deviceActive d = true) :
    (r.settle d a true).ledger fs ws =
      ((r.ledger fs ws).setLinks a ((r.appls.get a).links.confirm (r.devices.get d).id d
        false).2).leaveAppl a := by
  have hret : (r.devices.get d).isRetiring = false := by simpa [ledger] using hd
  unfold settle
  simp only [hret, if_true]
  rw [show (Links.confirm (r.appls.get a).links (r.devices.get d).id d false).1 = true from rfl,
    if_pos rfl, ledger_leaveAppl]
  congr 1
  exact r.ledger_setLinks fs ws
    (f := fun _ => ((r.appls.get a).links.confirm (r.devices.get d).id d false).2) (Or.inl ha)

/-- The end of a linking that comes to nothing. -/
theorem ledger_settle_decline {d a : Nat} (ha : a < r.appls.size) {isAccepted : Bool}
    (h : isAccepted = true → (r.ledger fs ws).deviceActive d = false) :
    (r.settle d a isAccepted).ledger fs ws =
      (((r.ledger fs ws).setLinks a ((r.appls.get a).links.cancel
        (r.devices.get d).id)).leaveDevice d).leaveAppl a := by
  have hpair : (if isAccepted then
      (r.appls.get a).links.confirm (r.devices.get d).id d (r.devices.get d).isRetiring
      else (false, (r.appls.get a).links.cancel (r.devices.get d).id)) =
      (false, (r.appls.get a).links.cancel (r.devices.get d).id) := by
    cases isAccepted with
    | false => rfl
    | true =>
      have hret : (r.devices.get d).isRetiring = true := by simpa [ledger] using h rfl
      rw [if_pos rfl, hret]
      rfl
  unfold settle
  simp only [hpair, Bool.false_eq_true, if_false]
  rw [ledger_leaveAppl, ledger_leaveDevice]
  congr 2
  exact r.ledger_setLinks fs ws
    (f := fun _ => (r.appls.get a).links.cancel (r.devices.get d).id) (Or.inl ha)

/-! ## Arrival and retirement -/

/-- A device is installed under the number that the pool gives out, and enters the table. -/
theorem installDevice_eq_ok {r' : Registry} {info : DeviceInfo} {driver : Driver} {d : Nat}
    (h : r.installDevice info driver = .ok (d, r')) :
    ∃ (id : DeviceId) (pool : NumberPool) (table : Roster Nat),
      r.devicePool.allocate = .ok (id.number, pool) ∧
      r.deviceTable.insert? id.number r.devices.size = some table ∧ d = r.devices.size ∧
      r'.ledger fs ws = (r.ledger fs ws).addDevice id pool table := by
  unfold installDevice at h
  dsimp only at h
  repeat' split at h
  all_goals first | cases h; done | skip
  rename_i n pool hpool _ id hid _ table htable
  cases h
  have hn : n = id.number := DeviceId.ofNumber?_eq_some_iff.1 hid
  subst hn
  have h1 := Store.map_add Device.id r.devices (.new id info driver)
  have h2 := Store.map_add (fun x => x.lifecycle.refs) r.devices (.new id info driver)
  have h3 := Store.map_add (fun x => !x.isRetiring) r.devices (.new id info driver)
  refine ⟨id, pool, table, hpool, htable, rfl, ?_⟩
  simp only [ledger, Ledger.addDevice, Store.size_add, h1, h2, h3]
  rfl

/-- An application is registered under the number that the pool gives out, and enters the table. -/
theorem installAppl_eq_ok {r' : Registry} {params : RegisterParams} {a : Nat}
    (h : r.installAppl params = .ok (a, r')) :
    ∃ (id : ApplId) (pool : NumberPool) (table : Roster Nat),
      r.applPool.allocate = .ok (id.number, pool) ∧
      r.applTable.insert? id.number r.appls.size = some table ∧ a = r.appls.size ∧
      r'.ledger fs ws = (r.ledger fs ws).addAppl id pool table := by
  unfold installAppl at h
  dsimp only at h
  repeat' split at h
  all_goals first | cases h; done | skip
  rename_i n pool hpool _ id hid _ table htable
  cases h
  have hn : n = id.number := ApplId.ofNumber?_eq_some_iff.1 hid
  subst hn
  have h1 := Store.map_add Application.id r.appls (.new id params r.config.maxDevices)
  have h2 := Store.map_add (fun x => x.lifecycle.refs) r.appls (.new id params r.config.maxDevices)
  have h3 := Store.map_add (fun x => !x.isRetiring) r.appls (.new id params r.config.maxDevices)
  have h4 := Store.map_add Application.links r.appls (.new id params r.config.maxDevices)
  refine ⟨id, pool, table, hpool, htable, rfl, ?_⟩
  simp only [ledger, Ledger.addAppl, Store.size_add, h1, h2, h3, h4]
  rfl

/-- A device that is retired is not active any more in the ledger. -/
theorem ledger_retireDevice (d : Nat) :
    (r.updateDevice d Device.retire).ledger fs ws =
      { r.ledger fs ws with deviceActive := update (r.ledger fs ws).deviceActive d false } := by
  have hblank := r.devices.lt_size_or_eq_default d
  refine (r.ledger_updateDevice fs ws (hblank.imp_right fun h => ?_)).trans ?_
  · rw [h]
    exact ⟨rfl, rfl⟩
  · unfold Ledger.setDevice
    congr 1 <;> exact update_eq_self ..

/-- An application that is retired is not active any more in the ledger. -/
theorem ledger_retireAppl (a : Nat) :
    (r.updateAppl a Application.retire).ledger fs ws =
      { r.ledger fs ws with applActive := update (r.ledger fs ws).applActive a false } := by
  have hblank := r.appls.lt_size_or_eq_default a
  refine (r.ledger_updateAppl fs ws (hblank.imp_right fun h => ?_)).trans ?_
  · rw [h]
    exact ⟨rfl, rfl, rfl⟩
  · unfold Ledger.setAppl
    congr 1 <;> exact update_eq_self ..

/-- A device is retired that the table has under the number, and leaves the table. -/
theorem retireDevice?_eq_some {r' : Registry} {id : DeviceId} {d : Nat}
    (h : r.retireDevice? id = some (d, r')) :
    ∃ table, r.deviceTable.remove? id.number = some (d, table) ∧
      r'.ledger fs ws = (r.ledger fs ws).retireDevice d table := by
  unfold retireDevice? at h
  split at h
  · cases h
  · rename_i d' table htable
    cases h
    refine ⟨table, htable, ?_⟩
    exact congrArg (fun s : Ledger => { s with deviceTable := table }) (r.ledger_retireDevice fs ws d)

/-- An application is retired that the table has under the number, and leaves the table. -/
theorem retireAppl?_eq_some {r' : Registry} {id : ApplId} {a : Nat}
    (h : r.retireAppl? id = some (a, r')) :
    ∃ table, r.applTable.remove? id.number = some (a, table) ∧
      (r'.leaveAppl a).ledger fs ws = (r.ledger fs ws).retireAppl a table := by
  unfold retireAppl? at h
  split at h
  · cases h
  · rename_i a' table htable
    cases h
    refine ⟨table, htable, ?_⟩
    rw [ledger_leaveAppl]
    exact congrArg (fun s : Ledger => Ledger.leaveAppl { s with applTable := table } a)
      (r.ledger_retireAppl fs ws a)

end Registry

end Switchboard
