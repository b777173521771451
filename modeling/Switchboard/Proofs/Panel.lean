import Switchboard.Proofs.Ledger.Basic

/-! # The panel of a machine

What the ledger leaves out and clients rely on: the limits, the count of installed devices, the
observers and the facades. Few moves change the panel, and each in one way: `Machine.panelAfter`
says which, and `Machine.panel_make` that it is so. -/

namespace Switchboard

/-- Limits, the count of installed devices, observers and facades. -/
structure Panel where
  config : Config
  installed : Nat
  observers : Observers
  facades : Store Facade

namespace Registry

variable (r : Registry)

/-- The panel of a registry. -/
def panel : Panel := ⟨r.config, r.installed, r.observers, r.facades⟩

/-! ## Operations that leave the panel alone -/

/-- A change of a device shows on no panel. -/
@[simp] theorem panel_updateDevice (d : Nat) (f : Device → Device) :
    (r.updateDevice d f).panel = r.panel := rfl

/-- A change of an application shows on no panel. -/
@[simp] theorem panel_updateAppl (a : Nat) (f : Application → Application) :
    (r.updateAppl a f).panel = r.panel := rfl

/-- A reference to a device that is given up does not show. -/
@[simp] theorem panel_leaveDevice (d : Nat) : (r.leaveDevice d).panel = r.panel := rfl

/-- A reference to an application that is given up does not show. -/
@[simp] theorem panel_leaveAppl (a : Nat) : (r.leaveAppl a).panel = r.panel := rfl

/-- The number of a device that is given back does not show. -/
@[simp] theorem panel_freeDevice (d : Nat) : (r.freeDevice d).panel = r.panel := rfl

/-- The number of an application that is given back does not show. -/
@[simp] theorem panel_freeAppl (a : Nat) : (r.freeAppl a).panel = r.panel := rfl

/-- What is counted does not show. -/
@[simp] theorem panel_countSent (d a : Nat) (t : Traffic) :
    (r.countSent d a t).panel = r.panel := rfl

/-- Links that are taken do not show. -/
@[simp] theorem panel_takeLinks (a : Nat) : (r.takeLinks a).2.panel = r.panel := rfl

/-- The end of a binding does not show, however the driver has answered. -/
@[simp] theorem panel_settle (d a : Nat) (isAccepted : Bool) :
    (r.settle d a isAccepted).panel = r.panel := by
  unfold settle
  dsimp only
  repeat' split
  all_goals rfl

/-- A link that is dropped does not show. -/
@[simp] theorem panel_unlink (id : DeviceId) (a : Nat) : (r.unlink id a).panel = r.panel := by
  unfold unlink
  split <;> rfl

/-- Nor do all links under a number. -/
@[simp] theorem panel_unlinkAll (id : DeviceId) : (r.unlinkAll id).panel = r.panel := by
  unfold unlinkAll
  generalize r.applTable.values = keys
  induction keys generalizing r with
  | nil => rfl
  | cons a rest ih => rw [List.foldl_cons, ih, panel_unlink]

variable {r} {r' : Registry}

/-- The retirement of an application does not show. -/
theorem panel_retireAppl? {id : ApplId} {a : Nat} (h : r.retireAppl? id = some (a, r')) :
    r'.panel = r.panel := by
  unfold retireAppl? at h
  split at h
  · cases h
  · cases h
    rfl

/-- The arrival of an application does not show. -/
theorem panel_installAppl {params : RegisterParams} {a : Nat}
    (h : r.installAppl params = .ok (a, r')) : r'.panel = r.panel := by
  unfold installAppl at h
  dsimp only at h
  repeat' split at h
  all_goals cases h
  rfl

/-- A pair that is reserved does not show. -/
theorem panel_reserve? {d a : Nat} (h : r.reserve? d a = some r') : r'.panel = r.panel := by
  unfold reserve? at h
  repeat' split at h
  all_goals cases h
  rfl

/-- A route that is found does not show. -/
theorem panel_route {id : ApplId} {msg : Message} {d a : Nat} (h : r.route id msg = .ok (d, a, r')) :
    r'.panel = r.panel := by
  unfold route at h
  repeat' split at h
  all_goals cases h
  rfl

/-- A message that is taken does not show. -/
theorem panel_receive {id : ApplId} {msg : Message} (h : r.receive id = .ok (msg, r')) :
    r'.panel = r.panel := by
  unfold receive at h
  repeat' split at h
  all_goals cases h
  rfl

/-- A handler that is set does not show. -/
theorem panel_setHandler {id : ApplId} {handler : Option SignalHandler}
    (h : r.setHandler id handler = .ok r') : r'.panel = r.panel := by
  unfold setHandler at h
  split at h
  all_goals cases h
  rfl

/-- A message that is queued does not show. -/
theorem panel_append? {a : Nat} {msg : Message} (h : r.append? a msg = some r') :
    r'.panel = r.panel := by
  obtain ⟨x, -, rfl⟩ := Option.map_eq_some_iff.1 h
  rfl

/-! ## Operations that count devices -/

/-- The installation of a device shows in the number of those installed. -/
theorem panel_installDevice {info : DeviceInfo} {driver : Driver} {d : Nat}
    (h : r.installDevice info driver = .ok (d, r')) :
    r'.panel = { r.panel with installed := r.installed + 1 } := by
  unfold installDevice at h
  dsimp only at h
  repeat' split at h
  all_goals cases h
  rfl

/-- The retirement of a device shows in the number of those installed. -/
theorem panel_retireDevice? {id : DeviceId} {d : Nat} (h : r.retireDevice? id = some (d, r')) :
    r'.panel = { r.panel with installed := r.installed - 1 } := by
  unfold retireDevice? at h
  split at h
  · cases h
  · cases h
    rfl

end Registry

namespace Machine

variable (m : Machine)

/-- The panel of a machine. -/
def panel : Panel := m.registry.panel

/-! ## What moves do to the panel -/

/-- The panel after a call of an open facade. -/
def panelAfterFacade (k : Nat) (f : Facade) : FacadeCall → Panel
  | .release n => match f.appl? n with
    | none => m.panel
    | some _ =>
      (m.registry.updateFacade k fun f => { f with registered := f.registered.erase n }).panel
  | .subscribe s => (m.registry.updateFacade k fun f => f.subscribe s).panel
  | .unsubscribe name => (m.registry.updateFacade k fun f => f.unsubscribe name).panel
  | _ => m.panel

/-- The panel after a call. -/
def panelAfterCall : Call → Panel
  | .install info driver => match m.registry.installDevice info driver with
    | .error _ => m.panel
    | .ok _ => { m.panel with installed := m.registry.installed + 1 }
  | .remove id => match m.registry.retireDevice? id with
    | none => m.panel
    | some _ => { m.panel with installed := m.registry.installed - 1 }
  | .attach tag => { m.panel with observers := m.registry.observers.attach (.custom tag) }
  | .detach id => { m.panel with observers := m.registry.observers.detach id }
  | .openFacade => m.registry.openFacade.panel
  | .closeFacade k => match m.registry.facade? k with
    | none => m.panel
    | some _ => (m.registry.closeFacade k).panel
  | .facade k c => match m.registry.facade? k with
    | none => m.panel
    | some f => m.panelAfterFacade k f c
  | _ => m.panel

/-- The panel after a piece of work: a facade learns the number of an application when the
registration ends. -/
def panelAfterWork : List Frame → Panel
  | .registering a (.facade k) cursor none :: _ => match m.registry.deviceTable.next? cursor with
    | none => (m.registry.updateFacade k fun f =>
        { f with registered := f.registered.insert (m.registry.appls.get a).id.number }).panel
    | some _ => m.panel
  | _ => m.panel

/-- The panel after a move. -/
def panelAfter : Move → Panel
  | .call c => m.panelAfterCall c
  | .advance => m.panelAfterWork m.frames
  | .answer _ => m.panel
  | .resume _ => m.panel

/-! ## Pieces of calls -/

/-- The panel of a machine is that of its registry. -/
@[simp] theorem panel_registry : m.registry.panel = m.panel := rfl

/-- The panel goes with the registry. -/
@[simp] theorem panel_withRegistry (r : Registry) : (m.withRegistry r).panel = r.panel := rfl

/-- A call that goes on leaves the panel alone. -/
@[simp] theorem panel_enter (f : Frame) : (m.enter f).1.panel = m.panel := rfl

/-- A call that ends leaves the panel alone. -/
@[simp] theorem panel_finish (reply : Reply) : (m.finish reply).1.panel = m.panel := rfl

/-- News that begin leave the panel alone. -/
@[simp] theorem panel_announce (d : Nat) (news : News) :
    (m.announce d news).1.panel = m.panel := rfl

/-- The end of a wake-up leaves the panel alone. -/
@[simp] theorem panel_woken (w : Wake) : (m.woken w).1.panel = m.panel := by
  cases w <;> rfl

/-- A wake-up leaves the panel alone. -/
@[simp] theorem panel_wake (a : Nat) (w : Wake) : (m.wake a w).1.panel = m.panel := by
  unfold wake
  split
  · rfl
  · exact m.panel_woken w

/-- The panel stays when a device is closed, at once or later. -/
@[simp] theorem panel_closeDevice (d : Nat) : (m.closeDevice d).1.panel = m.panel := by
  unfold closeDevice
  dsimp only
  split <;> rfl

/-- The panel stays when an application is closed, at once or later. -/
@[simp] theorem panel_closeAppl (a : Nat) (origin : Origin) :
    (m.closeAppl a origin).1.panel = m.panel := by
  unfold closeAppl
  dsimp only
  split <;> rfl

/-- A registration leaves the panel alone until it ends. -/
@[simp] theorem panel_register (origin : Origin) (params : RegisterParams) :
    (m.register origin params).1.panel = m.panel := by
  unfold register
  split
  · rfl
  · rename_i h
    exact Registry.panel_installAppl h

/-- A release leaves the panel alone. -/
@[simp] theorem panel_release (origin : Origin) (id : ApplId) :
    (m.release origin id).1.panel = m.panel := by
  unfold release
  split
  · rfl
  · rename_i h
    rw [panel_closeAppl, panel_withRegistry]
    exact Registry.panel_retireAppl? h

/-- A send leaves the panel alone. -/
@[simp] theorem panel_send (origin : Origin) (id : ApplId) (msg : Message) :
    (m.send origin id msg).1.panel = m.panel := by
  unfold send
  split
  · rfl
  · rename_i h
    exact Registry.panel_route h

/-- A call for a message leaves the panel alone. -/
@[simp] theorem panel_receive (origin : Origin) (id : ApplId) :
    (m.receive origin id).1.panel = m.panel := by
  unfold receive
  split
  · rfl
  · rename_i h
    exact Registry.panel_receive h

/-- A call that sets a handler leaves the panel alone. -/
@[simp] theorem panel_setHandler (origin : Origin) (id : ApplId) (h : Option SignalHandler) :
    (m.setHandler origin id h).1.panel = m.panel := by
  unfold setHandler
  split
  · rfl
  · rename_i h
    exact Registry.panel_setHandler h

/-! ## Moves -/

/-- A call of a facade changes what it may of the panel, and no more. -/
theorem panel_facadeCall (k : Nat) (f : Facade) (c : FacadeCall) :
    (m.facadeCall k f c).1.panel = m.panelAfterFacade k f c := by
  cases c with
  | register params => exact m.panel_register (.facade k) params
  | subscribe s | unsubscribe name => rfl
  | release n | send n msg | receive n | setHandler n function param =>
    cases hn : f.appl? n <;> simp [facadeCall, panelAfterFacade, hn]

/-- **What a call changes of the panel.** -/
theorem panel_call (c : Call) : (m.call c).1.panel = m.panelAfterCall c := by
  cases c with
  -- the count of devices goes up or down with an arrival or a removal that is not refused
  | install info driver =>
    cases h : m.registry.installDevice info driver with
    | error fault => simp [call, panelAfterCall, h]
    | ok e =>
      obtain ⟨d, r⟩ := e
      simpa [call, panelAfterCall, h] using Registry.panel_installDevice h
  | remove id =>
    cases h : m.registry.retireDevice? id with
    | none => simp [call, panelAfterCall, h]
    | some e =>
      obtain ⟨d, r⟩ := e
      simpa [call, panelAfterCall, h] using Registry.panel_retireDevice? h
  | register params | release id | send id msg | receive id | setHandler id h | signal a =>
    simp [call, panelAfterCall]
  | signalError a fault =>
    simp only [call, panelAfterCall, panel_wake, panel_withRegistry]
    rfl
  | attach tag | detach id | openFacade => rfl
  -- a message that is brought goes to a queue, which is not on the panel
  | enqueue a msg | deliver d a msg =>
    cases h : m.registry.append? a msg with
    | none => simp [call, panelAfterCall, h]
    | some r => simpa [call, panelAfterCall, h] using Registry.panel_append? h
  | closeFacade k => cases h : m.registry.facade? k <;> simp [call, panelAfterCall, h]
  | facade k c =>
    cases h : m.registry.facade? k with
    | none => simp [call, panelAfterCall, h]
    | some f => simpa [call, panelAfterCall, h] using m.panel_facadeCall k f c

/-- A walk that comes to a record leaves the panel alone. -/
theorem panel_visit (m : Machine) (d a : Nat) (asking passing : Frame) :
    (match m.registry.reserve? d a with
      | some r => (m.withRegistry r).enter asking
      | none => m.enter passing).1.panel = m.panel := by
  cases h : m.registry.reserve? d a with
  | none => rfl
  | some r => exact Registry.panel_reserve? h

/-- **What a piece of work changes of the panel.** -/
theorem panel_work (f : Frame) (fs : List Frame) :
    (m.work f).1.panel = m.panelAfterWork (f :: fs) := by
  cases f with
  | installing d cursor asking =>
    cases asking with
    | some a => rfl
    | none =>
      cases h : m.registry.applTable.next? cursor with
      | none => simp [work, panelAfterWork, h]
      | some e =>
        simp only [work, panelAfterWork, h]
        exact m.panel_visit d e.2.2 _ _
  | registering a origin cursor asking =>
    cases asking with
    -- only at the end of its walk does a registration tell its facade
    | some d => cases origin <;> rfl
    | none =>
      cases h : m.registry.deviceTable.next? cursor with
      | none => cases origin <;> simp [work, panelAfterWork, h]
      | some e =>
        have hvisit := m.panel_visit e.2.2 a (.registering a origin e.1 (some e.2.2))
          (.registering a origin e.1 none)
        cases origin <;> simp only [work, panelAfterWork, h] <;> exact hvisit
  | announcing d news telling notices rest =>
    cases telling with
    | some l => rfl
    | none =>
      cases notices with
      | cons notice notices => rfl
      | nil =>
        cases rest with
        | cons o rest => cases o <;> rfl
        | nil => cases news <;> simp [work, panelAfterWork]
  | releasing a origin telling rest =>
    cases telling with
    | some d => rfl
    | none =>
      cases rest with
      | nil => rfl
      | cons d rest =>
        simp only [work, panelAfterWork]
        split <;> rfl
  | sending | waking => rfl

/-- An answer to a callback leaves the panel alone. -/
theorem panel_answered (ans : Answer) (f : Frame) : (m.answered ans f).1.panel = m.panel := by
  cases f with
  | installing d cursor asking =>
    cases asking with
    | none => rfl
    | some a => exact m.registry.panel_settle d a _
  | registering a origin cursor asking =>
    cases asking with
    | none => rfl
    | some d => exact m.registry.panel_settle d a _
  | announcing d news telling notices rest => cases telling <;> rfl
  | releasing a origin telling rest => cases telling <;> rfl
  | sending d a origin msg =>
    cases h : ans.send <;> simp [answered, h]
  | waking a h w => exact m.panel_woken w

/-- A teardown that is taken up leaves the panel alone. -/
theorem panel_resume (i : Nat) : (m.resume i).1.panel = m.panel := by
  unfold resume
  split
  · rfl
  · rename_i t ht
    dsimp only
    split
    · cases t <;> rfl
    · rfl

/-- **What a move does to the panel.** -/
theorem panel_make (mv : Move) : (m.make mv).1.panel = m.panelAfter mv := by
  cases mv with
  | call c => exact m.panel_call c
  | answer ans =>
    cases hf : m.frames with
    | nil => simp [make, answer, panelAfter, hf]
    | cons f fs =>
      simp only [make, answer, panelAfter, hf]
      exact panel_answered { m with frames := fs } ans f
  | resume i => exact m.panel_resume i
  | advance =>
    cases hf : m.frames with
    | nil => simp [make, advance, panelAfter, panelAfterWork, hf]
    | cons f fs =>
      simp only [make, advance, panelAfter, hf]
      exact panel_work { m with frames := fs } f fs

end Machine

end Switchboard
