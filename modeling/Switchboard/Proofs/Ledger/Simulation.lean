import Switchboard.Proofs.Ledger.Operations

/-! # Moves as steps of the ledger

Main statement: `Machine.step_ledger`, every admitted move of a machine is a step of its ledger. -/

namespace Switchboard

open Function (update)

/-! ## Calls -/

/-- A link is dropped whatever calls are in progress. -/
theorem Ledger.unlink_withFrames (s : Ledger) (fs : List Frame) (id : DeviceId) (a : Nat) :
    (s.withFrames fs).unlink id a = (s.unlink id a).withFrames fs := by
  unfold unlink
  rw [withFrames_links]
  cases (s.links a).unlink? id <;> rfl

/-- Links are dropped whatever calls are in progress. -/
theorem Ledger.unlinkAll_withFrames (s : Ledger) (fs : List Frame) (id : DeviceId) :
    (s.withFrames fs).unlinkAll id = (s.unlinkAll id).withFrames fs := by
  unfold unlinkAll
  change s.applTable.values.foldl _ _ = _
  generalize s.applTable.values = keys
  induction keys generalizing s with
  | nil => rfl
  | cons a rest ih => rw [List.foldl_cons, List.foldl_cons, unlink_withFrames, ih]

namespace Machine

open Ledger (Step)

variable {m : Machine}

/-- The ledger of a machine with another registry, and with its own calls and teardowns. -/
@[simp] theorem ledger_withRegistry (r : Registry) :
    (m.withRegistry r).ledger = r.ledger m.frames m.waiting := rfl

/-- A wake-up asks the handler, or the call ends. -/
theorem step_wake (c : Call) (a : Nat) (w : Wake) {r : Registry}
    (hr : r.ledger m.frames m.waiting = m.ledger) :
    Step m.ledger (.call c) ((m.withRegistry r).wake a w).2
      ((m.withRegistry r).wake a w).1.ledger := by
  unfold wake
  split
  · rename_i h _
    refine (Step.wake c a h w).of_eq ?_
    rw [← hr]
    rfl
  · cases w with
    | signalled => exact (Step.still c .done).of_eq hr
    | queued => exact (Step.still c (.accepted true)).of_eq hr
    | delivered d t =>
      refine (Step.still c (.accepted true)).of_eq ?_
      rw [← hr]
      exact r.ledger_received m.frames m.waiting d t

/-- A handler that returns ends the call. -/
theorem step_woken {a : Nat} {h : SignalHandler} {w : Wake} {fs : List Frame}
    (hf : m.ledger.frames = .waking a h w :: fs) (ans : Answer) :
    Step m.ledger (.answer ans) (Machine.woken { m with frames := fs } w).2
      (Machine.woken { m with frames := fs } w).1.ledger := by
  cases w with
  | signalled => exact Step.woken hf ans .done
  | queued => exact Step.woken hf ans (.accepted true)
  | delivered d t =>
    refine (Step.woken hf ans (.accepted true)).of_eq ?_
    exact m.registry.ledger_received fs m.waiting d t

/-- A registration begins with the application's walk, or is refused. -/
theorem step_register {c : Call} {origin : Origin} (registers : c.registrar? = some origin)
    (params : RegisterParams) :
    Step m.ledger (.call c) (m.register origin params).2 (m.register origin params).1.ledger := by
  unfold register
  split
  · exact Step.still c _
  · rename_i a r h
    obtain ⟨id, pool, table, hpool, htable, rfl, hr⟩ :=
      m.registry.installAppl_eq_ok m.frames m.waiting h
    refine (Step.register (s := m.ledger) hpool htable c origin registers).of_eq ?_
    exact congrArg (Ledger.withFrames · (.registering _ origin .start none :: m.frames)) hr

/-- A release begins with the unwinding, waits, or is refused. -/
theorem step_release {c : Call} {origin : Origin} {id : ApplId}
    (releases : c.releases? = some (origin, id.number)) {r : Registry}
    (hr : r.ledger m.frames m.waiting = m.ledger) :
    Step m.ledger (.call c) ((m.withRegistry r).release origin id).2
      ((m.withRegistry r).release origin id).1.ledger := by
  unfold release
  split
  · exact (Step.still c _).of_eq hr
  -- an application is retired: the ledger loses it from the table, and one reference to it
  · rename_i a r' h
    obtain ⟨table, htable, hr'⟩ := r.retireAppl?_eq_some m.frames m.waiting h
    rw [hr] at hr'
    have htable' : m.ledger.applTable.remove? id.number = some (a, table) := by
      rw [← hr]
      exact htable
    have hrefs : ((r'.leaveAppl a).appls.get a).lifecycle.refs = m.ledger.applRefs a - 1 := by
      have happl : (fun k => ((r'.leaveAppl a).appls.get k).lifecycle.refs) =
          update m.ledger.applRefs a (m.ledger.applRefs a - 1) := congrArg Ledger.applRefs hr'
      exact (congrFun happl a).trans (Function.update_self ..)
    have hlinks : ((r'.leaveAppl a).appls.get a).links = m.ledger.links a :=
      congrArg (fun s => Ledger.links s a) hr'
    unfold closeAppl
    dsimp only
    -- its links are taken at once when nobody refers to it any more
    split
    · rename_i h0
      have h0' : m.ledger.applRefs a - 1 = 0 := hrefs.symm.trans h0
      refine (Step.release htable' h0' c origin releases).of_eq ?_
      have htake := (r'.leaveAppl a).ledger_takeLinks m.frames m.waiting a
      rw [hr', hlinks] at htake
      have hunwind : (m.ledger.retireAppl a table).unwind a origin =
          ((m.ledger.retireAppl a table).setLinks a (m.ledger.links a).clear).withFrames
            (.releasing a origin none (m.ledger.links a).keys :: m.frames) := rfl
      rw [hunwind, ← htake, ← hlinks]
      rfl
    · rename_i h0
      have h0' : m.ledger.applRefs a - 1 ≠ 0 := fun h => h0 (hrefs.trans h)
      refine (Step.releaseLater htable' h0' c origin releases).of_eq ?_
      exact congrArg (Ledger.withWaiting · (m.waiting ++ [.appl a origin])) hr'

/-- A message is handed to the driver, or is refused. -/
theorem step_send (c : Call) (origin : Origin) (id : ApplId) (msg : Message) :
    Step m.ledger (.call c) (m.send origin id msg).2 (m.send origin id msg).1.ledger := by
  unfold send
  split
  · exact Step.still c _
  · rename_i d a r h
    obtain ⟨ha, haj, ⟨target, hd, hbound⟩, hdj, hr⟩ :=
      m.registry.route_eq_ok m.frames m.waiting h
    refine (Step.send (s := m.ledger) ha haj hd hdj hbound c origin msg).of_eq ?_
    exact congrArg (Ledger.withFrames · (.sending d a origin msg :: m.frames)) hr

/-- Fetching a message changes nothing in the ledger. -/
theorem step_receive (c : Call) (origin : Origin) (id : ApplId) :
    Step m.ledger (.call c) (m.receive origin id).2 (m.receive origin id).1.ledger := by
  unfold receive
  split
  · exact Step.still c _
  · rename_i h
    exact (Step.still c _).of_eq (m.registry.ledger_receive m.frames m.waiting h)

/-- Setting a handler changes nothing in the ledger. -/
theorem step_setHandler (c : Call) (origin : Origin) (id : ApplId) (h : Option SignalHandler) :
    Step m.ledger (.call c) (m.setHandler origin id h).2 (m.setHandler origin id h).1.ledger := by
  unfold setHandler
  split
  · exact Step.still c _
  · rename_i hr
    exact (Step.still c _).of_eq (m.registry.ledger_setHandler m.frames m.waiting hr)

/-- A facade's call makes the step of what it asks for. -/
theorem step_facadeCall (k : Nat) (f : Facade) (fc : FacadeCall) :
    Step m.ledger (.call (.facade k fc)) (m.facadeCall k f fc).2
      (m.facadeCall k f fc).1.ledger := by
  cases fc with
  | register params => exact step_register rfl params
  | release n =>
    unfold facadeCall
    dsimp only
    split
    · exact Step.still _ _
    · rename_i id h
      obtain ⟨-, rfl⟩ := Facade.appl?_eq_some_iff.1 h
      exact step_release rfl rfl
  | send n msg =>
    unfold facadeCall
    dsimp only
    split
    · exact Step.still _ _
    · exact step_send _ (.facade k) _ msg
  | receive n =>
    unfold facadeCall
    dsimp only
    split
    · exact Step.still _ _
    · exact step_receive _ (.facade k) _
  | setHandler n function param =>
    unfold facadeCall
    dsimp only
    split
    · exact Step.still _ _
    · exact step_setHandler _ (.facade k) _ _
  | subscribe s => exact Step.still _ _
  | unsubscribe name => exact Step.still _ _

/-- A call is a step of the ledger. -/
theorem step_call (c : Call) : Step m.ledger (.call c) (m.call c).2 (m.call c).1.ledger := by
  cases c with
  -- an arrival, which takes a number and a place in the table
  | install info driver =>
    unfold call
    dsimp only
    split
    · exact Step.still _ _
    · rename_i d r h
      obtain ⟨id, pool, table, hpool, htable, rfl, hr⟩ :=
        m.registry.installDevice_eq_ok m.frames m.waiting h
      refine (Step.install (s := m.ledger) hpool htable info driver).of_eq ?_
      exact congrArg (Ledger.withFrames · (.installing _ .start none :: m.frames)) hr
  -- a removal, which begins with the news
  | remove id =>
    unfold call
    dsimp only
    split
    · exact Step.still _ _
    · rename_i d r h
      obtain ⟨table, htable, hr⟩ := m.registry.retireDevice?_eq_some m.frames m.waiting h
      refine (Step.remove (s := m.ledger) htable r.observers.current).of_eq ?_
      exact congrArg
        (Ledger.withFrames · (.announcing d .removed none [] r.observers.current :: m.frames)) hr
  | register params => exact step_register rfl params
  | release id => exact step_release (r := m.registry) rfl rfl
  | send id msg => exact step_send _ .direct id msg
  | receive id => exact step_receive _ .direct id
  | setHandler id h => exact step_setHandler _ .direct id h
  -- a message that is accepted wakes the application
  | enqueue a msg =>
    unfold call
    dsimp only
    split
    · exact Step.still _ _
    · rename_i h
      exact step_wake _ a .queued (m.registry.ledger_append? m.frames m.waiting h)
  | deliver d a msg =>
    unfold call
    dsimp only
    split
    · exact Step.still _ _
    · rename_i h
      exact step_wake _ a _ (m.registry.ledger_append? m.frames m.waiting h)
  | signal a => exact step_wake (r := m.registry) _ a .signalled rfl
  | signalError a fault =>
    exact step_wake _ a .signalled (m.registry.ledger_latch m.frames m.waiting a fault)
  | attach tag => exact Step.still _ _
  | detach id => exact Step.still _ _
  | openFacade => exact Step.still _ _
  | closeFacade k =>
    unfold call
    dsimp only
    split <;> exact Step.still _ _
  | facade k fc =>
    unfold call
    dsimp only
    split
    · exact Step.still _ _
    · exact step_facadeCall k _ fc

/-! ## Work -/

/-- A walk that comes to a record asks about the pair or passes it over. -/
theorem step_visit {w : Walk} {c c' : Cursor} {n : UInt16} {k : Nat} {fs : List Frame}
    (hf : m.ledger.frames = w.frame c none :: fs)
    (hn : (m.ledger.tableOf w).next? c = some (c', n, k)) :
    Step m.ledger .advance
      (match m.registry.reserve? (w.device k) (w.appl k) with
        | some r => ({ m with frames := fs }.withRegistry r).enter (w.frame c' (some k))
        | none => { m with frames := fs }.enter (w.frame c' none)).2
      (match m.registry.reserve? (w.device k) (w.appl k) with
        | some r => ({ m with frames := fs }.withRegistry r).enter (w.frame c' (some k))
        | none => { m with frames := fs }.enter (w.frame c' none)).1.ledger := by
  cases hr : m.registry.reserve? (w.device k) (w.appl k) with
  | some r =>
    obtain ⟨l, hd, ha, hl, hledger⟩ := m.registry.reserve?_eq_some fs m.waiting hr
    have hask := Step.ask (s := m.ledger) hf hn hd ha hl
    simp only [enter, Frame.outcome, Frame.callback?_walk]
    refine hask.of_eq ?_
    exact congrArg (Ledger.withFrames · (w.frame c' (some k) :: fs)) hledger
  | none =>
    have hskip := Step.skip (s := m.ledger) hf hn
      (fun hd ha => m.registry.reserve?_eq_none m.frames m.waiting hr hd ha)
    simp only [enter, Frame.outcome, Frame.callback?_walk_none]
    exact hskip

/-- The last piece of a removal. -/
theorem step_closeDevice {d : Nat} {fs : List Frame}
    (hf : m.ledger.frames = .announcing d .removed none [] [] :: fs) :
    Step m.ledger .advance
      (({ m with frames := fs }.withRegistry
        (m.registry.unlinkAll (m.registry.devices.get d).id)).closeDevice d).2
      (({ m with frames := fs }.withRegistry
        (m.registry.unlinkAll (m.registry.devices.get d).id)).closeDevice d).1.ledger := by
  -- the links that lead to the device are dropped, and then the reference of the removal itself
  have hledger : ((m.registry.unlinkAll (m.registry.devices.get d).id).leaveDevice d).ledger fs
      m.waiting = ((m.ledger.unlinkAll (m.ledger.deviceId d)).leaveDevice d).withFrames fs := by
    rw [Registry.ledger_leaveDevice, Registry.ledger_unlinkAll]
    exact congrArg (Ledger.leaveDevice · d)
      (Ledger.unlinkAll_withFrames m.ledger fs (m.ledger.deviceId d))
  have hrefs : (((m.registry.unlinkAll (m.registry.devices.get d).id).leaveDevice
      d).devices.get d).lifecycle.refs =
      (m.ledger.unlinkAll (m.ledger.deviceId d)).deviceRefs d - 1 := by
    have hall := congrArg Ledger.deviceRefs hledger
    exact (congrFun hall d).trans (Function.update_self ..)
  unfold closeDevice
  dsimp only [withRegistry]
  split
  · rename_i h0
    refine (Step.removed (s := m.ledger) hf (hrefs.symm.trans h0)).of_eq ?_
    exact congrArg (Ledger.freeDevice · d) hledger
  · rename_i h0
    refine (Step.removeLater (s := m.ledger) hf (fun h => h0 (hrefs.trans h))).of_eq ?_
    exact congrArg (Ledger.withWaiting · (m.waiting ++ [.device d])) hledger

/-- A piece of work is a step of the ledger. -/
theorem step_advance (working : m.isOpen = false) :
    Step m.ledger .advance m.advance.2 m.advance.1.ledger := by
  obtain ⟨r, frames, ws⟩ := m
  cases frames with
  | nil => cases working
  | cons f fs =>
    -- the frame has work to do, so that it waits for no callback
    have hcallback : f.callback? = none := by simpa [isOpen] using working
    cases f with
    -- the walk of a device comes to the next application, or the device has been offered to all
    | installing d c asking =>
      obtain rfl : asking = none := by
        cases asking with
        | none => rfl
        | some a => cases hcallback
      simp only [advance, work]
      cases hn : r.applTable.next? c with
      | none => exact Step.installed (d := d) rfl hn r.observers.current
      | some e =>
        obtain ⟨c', n, a⟩ := e
        exact step_visit (w := .ofDevice d) rfl hn
    -- the walk of an application comes to the next device, or the registration ends
    | registering a origin c asking =>
      obtain rfl : asking = none := by
        cases asking with
        | none => rfl
        | some d => cases hcallback
      simp only [advance, work]
      cases hn : r.deviceTable.next? c with
      | none =>
        have hf : (r.ledger (.registering a origin c none :: fs) ws).frames =
            (Walk.ofAppl a origin).frame c none :: fs := rfl
        refine (Step.registered hf hn _).of_eq ?_
        cases origin <;> rfl
      | some e =>
        obtain ⟨c', n, d⟩ := e
        exact step_visit (w := .ofAppl a origin) rfl hn
    -- the subscribers of a forwarder come before the observers that are left
    | announcing d news telling notices rest =>
      obtain rfl : telling = none := by
        cases telling with
        | none => rfl
        | some l => cases hcallback
      cases notices with
      | cons notice notices =>
        exact Step.tell rfl (Or.inl rfl) (Or.inr ⟨.subscriber notice, rfl⟩)
      | nil =>
        cases rest with
        | cons o rest =>
          cases o with
          | custom tag => exact Step.tell rfl (Or.inl rfl) (Or.inr ⟨.observer tag, rfl⟩)
          | forwarder k => exact Step.tell rfl (Or.inl rfl) (Or.inl rfl)
        | nil =>
          cases news with
          | added => exact Step.announced rfl _
          | removed => exact step_closeDevice rfl
    -- a driver that is left is told of the release, unless its device is retired
    | releasing a origin telling rest =>
      obtain rfl : telling = none := by
        cases telling with
        | none => rfl
        | some d => cases hcallback
      simp only [advance, work]
      cases rest with
      | nil =>
        refine (Step.released rfl _).of_eq ?_
        exact congrArg (Ledger.freeAppl · a) (r.ledger_reset fs ws a)
      | cons d rest =>
        by_cases hret : (r.devices.get d).isRetiring = true
        · have hactive : (!(r.devices.get d).isRetiring) = false := by rw [hret]; rfl
          simp only [hret, if_true]
          refine (Step.passOver (s := r.ledger _ ws) rfl hactive).of_eq ?_
          exact congrArg (Ledger.withFrames · (.releasing a origin none rest :: fs))
            (r.ledger_leaveDevice fs ws d)
        · have hactive : (!(r.devices.get d).isRetiring) = true := by
            rw [Bool.eq_false_iff.2 hret]
            rfl
          simp only [hret]
          exact Step.bid (s := r.ledger _ ws) rfl hactive
    | sending d a origin msg => cases hcallback
    | waking a h w => cases hcallback

/-! ## Answers -/

/-- An answer to a driver that is asked about an application settles the pair. -/
theorem step_settle {w : Walk} {c : Cursor} {k : Nat} {fs : List Frame}
    (hf : m.ledger.frames = w.frame c (some k) :: fs) (ha : w.appl k < m.registry.appls.size)
    (ans : Answer) :
    Step m.ledger (.answer ans) .works
      ((m.registry.settle (w.device k) (w.appl k) ans.isAccepted).ledger
        (w.frame c none :: fs) m.waiting) := by
  -- an acceptance that comes after the device has been retired counts as a refusal
  by_cases h : ans.isAccepted = true ∧ m.ledger.deviceActive (w.device k) = true
  · refine (Step.accept hf h.1 h.2).of_eq ?_
    rw [h.1]
    exact m.registry.ledger_settle_accept (w.frame c none :: fs) m.waiting ha h.2
  · have hdecl : ans.isAccepted = true → m.ledger.deviceActive (w.device k) = false := fun hacc =>
      Bool.eq_false_iff.2 fun hact => h ⟨hacc, hact⟩
    refine (Step.decline hf hdecl).of_eq ?_
    exact m.registry.ledger_settle_decline (w.frame c none :: fs) m.waiting ha hdecl

/-- An answer to a callback is a step of the ledger. -/
theorem step_answer (ranged : m.ledger.Ranged) (ans : Answer) (waits : m.callback?.isSome = true) :
    Step m.ledger (.answer ans) (m.answer ans).2 (m.answer ans).1.ledger := by
  obtain ⟨r, frames, ws⟩ := m
  cases frames with
  | nil => cases waits
  | cons f fs =>
    have hcallback : f.callback?.isSome = true := waits
    cases f with
    -- a driver has answered about an application that is there, whichever record walks
    | installing d c asking =>
      cases asking with
      | none => cases hcallback
      | some a =>
        have ha : a < r.appls.size := ranged _ (List.mem_cons_self ..) d a rfl
        exact step_settle (m := ⟨r, _, ws⟩) (w := .ofDevice d) rfl ha ans
    | registering a origin c asking =>
      cases asking with
      | none => cases hcallback
      | some d =>
        have ha : a < r.appls.size := ranged _ (List.mem_cons_self ..) d a rfl
        exact step_settle (m := ⟨r, _, ws⟩) (w := .ofAppl a origin) rfl ha ans
    | announcing d news telling notices rest =>
      cases telling with
      | none => cases hcallback
      | some l => exact Step.tell rfl (Or.inr ⟨ans, rfl⟩) (Or.inl rfl)
    | releasing a origin telling rest =>
      cases telling with
      | none => cases hcallback
      | some d =>
        refine (Step.bidden rfl ans).of_eq ?_
        exact congrArg (Ledger.withFrames · (.releasing a origin none rest :: fs))
          (r.ledger_leaveDevice fs ws d)
    -- the references are given up whatever the driver says; the counters are not in the ledger
    | sending d a origin msg =>
      refine (Step.sent (s := r.ledger _ ws) rfl ans _).of_eq ?_
      have hleave (r' : Registry) (hr' : r'.ledger fs ws = r.ledger fs ws) :
          ((r'.leaveDevice d).leaveAppl a).ledger fs ws =
            ((r.ledger fs ws).leaveDevice d).leaveAppl a := by
        rw [Registry.ledger_leaveAppl, Registry.ledger_leaveDevice, hr']
      simp only [answer, answered]
      cases ans.send with
      | ok => exact hleave _ (r.ledger_countSent fs ws d a msg.traffic)
      | error fault => exact hleave r rfl
    | waking a h w => exact step_woken rfl ans

/-! ## Resumptions -/

/-- The resumption of a teardown is a step of the ledger. -/
theorem step_resume {i : Nat} (ready : m.waiting[i]?.any (fun t => t.holders m.registry = 0)) :
    Step m.ledger (.resume i) (m.resume i).2 (m.resume i).1.ledger := by
  obtain ⟨t, ht, hholders⟩ : ∃ t, m.waiting[i]? = some t ∧ t.holders m.registry = 0 := by
    simpa [Option.any_eq_true] using ready
  unfold resume
  rw [ht]
  simp only [hholders, if_true]
  cases t with
  | device d => exact Step.freed ht hholders
  | appl a origin =>
    refine (Step.unwound ht hholders).of_eq ?_
    exact congrArg (Ledger.withFrames · (.releasing a origin none _ :: m.frames))
      (m.registry.ledger_takeLinks m.frames (m.waiting.eraseIdx i) a)

/-- Every admitted move is a step of the ledger. -/
theorem step_ledger (ranged : m.ledger.Ranged) {mv : Move} (admitted : m.admits mv = true) :
    Step m.ledger mv (m.make mv).2 (m.make mv).1.ledger := by
  cases mv with
  | call c => exact step_call c
  | answer ans => exact step_answer ranged ans admitted
  | resume i => exact step_resume (Bool.and_eq_true_iff.1 admitted).2
  | advance => exact step_advance (by simpa [admits] using admitted)

end Machine

end Switchboard
