import Switchboard.Proofs.Arrivals
import Switchboard.Proofs.Json.Writing
import Switchboard.Proofs.NumberSet.Walks
import Switchboard.Report.Lines

/-! # The report as lines can be read back

A line states a device or an application when it has the members that belong to such a record, in
their order, and each of them gives a field of the record back: `StatesDevice` and
`StatesApplication`. Since the text of an object is one line, the report is cut into its lines at
the line feeds, and by `Report.lines_read_back` these state the installed devices and the registered
applications, in the order of their arrival. -/

namespace Switchboard

/-! ## Members of objects -/

namespace Json

/-- The names of the members of an object, in their order. -/
def names : Json → List String
  | .record members => members.map Prod.fst
  | _ => []

/-- The value of a member of an object. -/
def member? (name : String) : Json → Option Json
  | .record members => members.lookup name
  | _ => none

/-- The value of a natural number. -/
def natural? : Json → Option Nat
  | .number (.ofNat n) => some n
  | _ => none

/-- The value of a string. -/
def string? : Json → Option String
  | .text s => some s
  | _ => none

/-- The items of a list that are all numbers. -/
def naturals? : Json → Option (List Nat)
  | .list items => items.mapM natural?
  | _ => none

/-- A member that holds a natural number. -/
def naturalOf? (x : Json) (name : String) : Option Nat := (x.member? name).bind natural?

/-- A member that holds a string. -/
def stringOf? (x : Json) (name : String) : Option String := (x.member? name).bind string?

/-- A member that holds a list of natural numbers. -/
def naturalsOf? (x : Json) (name : String) : Option (List Nat) := (x.member? name).bind naturals?

/-- A member is found by its name, past those with other names. -/
theorem member?_cons (name key : String) (x : Json) (members : List (String × Json)) :
    member? name (.record ((key, x) :: members)) =
      if name = key then some x else member? name (.record members) := by
  by_cases h : name = key
  · subst h
    rw [if_pos rfl]
    exact List.lookup_cons_self
  · have hne : (name == key) = false := beq_false_of_ne h
    rw [if_neg h, member?, List.lookup_cons, hne]
    rfl

/-- A natural number is read back. -/
@[simp] theorem natural?_nat (n : Nat) : natural? (nat n) = some n := rfl

/-- A string is read back. -/
@[simp] theorem string?_text (s : String) : string? (.text s) = some s := rfl

/-- A list of device numbers gives the numbers back. -/
@[simp] theorem naturals?_numbers (ns : List UInt16) :
    naturals? (numbers ns) = some (ns.map UInt16.toNat) := by
  show (ns.map fun n => nat n.toNat).mapM natural? = _
  induction ns with
  | nil => rfl
  | cons n ns ih => simp [List.mapM_cons, ih]

end Json

/-! ## Parts of records -/

/-- An object that states counters. -/
structure StatesCounters (x : Json) (c : Counters) : Prop where
  names : x.names = ["packets", "bytes", "data_packets", "data_bytes"]
  packets : x.naturalOf? "packets" = some c.packets.toNat
  bytes : x.naturalOf? "bytes" = some c.bytes.toNat
  dataPackets : x.naturalOf? "data_packets" = some c.dataPackets.toNat
  dataBytes : x.naturalOf? "data_bytes" = some c.dataBytes.toNat

/-- An object that states the counters of both directions. -/
structure StatesUsage (x : Json) (u : Usage) : Prop where
  names : x.names = ["rx", "tx"]
  received : ∃ y, x.member? "rx" = some y ∧ StatesCounters y u.received
  sent : ∃ y, x.member? "tx" = some y ∧ StatesCounters y u.sent

/-- An object that states a version. -/
structure StatesVersion (x : Json) (v : Version) : Prop where
  names : x.names = ["major", "minor", "manu_major", "manu_minor"]
  major : x.naturalOf? "major" = some v.major.toNat
  minor : x.naturalOf? "minor" = some v.minor.toNat
  manufacturerMajor : x.naturalOf? "manu_major" = some v.manufacturerMajor.toNat
  manufacturerMinor : x.naturalOf? "manu_minor" = some v.manufacturerMinor.toNat

/-- An object that states the resources that an application asked for. -/
structure StatesParams (x : Json) (p : RegisterParams) : Prop where
  names : x.names = ["level3_connections", "data_blocks", "data_block_len"]
  connections : x.naturalOf? "level3_connections" = some p.connections.toNat
  blocks : x.naturalOf? "data_blocks" = some p.blocks.toNat
  blockLength : x.naturalOf? "data_block_len" = some p.blockLength.toNat

/-- Counters are stated by their object. -/
theorem Counters.states_toJson (c : Counters) : StatesCounters c.toJson c := by
  constructor <;> simp [toJson, Json.names, Json.naturalOf?, Json.member?_cons]

/-- The counters of both directions are stated by their object. -/
theorem Usage.states_toJson (u : Usage) : StatesUsage u.toJson u where
  names := rfl
  received := ⟨u.received.toJson, by simp [toJson, Json.member?_cons], u.received.states_toJson⟩
  sent := ⟨u.sent.toJson, by simp [toJson, Json.member?_cons], u.sent.states_toJson⟩

/-- A version is stated by its object. -/
theorem Version.states_toJson (v : Version) : StatesVersion v.toJson v := by
  constructor <;> simp [toJson, Json.names, Json.naturalOf?, Json.member?_cons]

/-- The resources of an application are stated by their object. -/
theorem RegisterParams.states_toJson (p : RegisterParams) : StatesParams p.toJson p := by
  constructor <;> simp [toJson, Json.names, Json.naturalOf?, Json.member?_cons]

/-! ## Records -/

/-- An object that states a device: its identity, whether it serves or is being removed, how many
refer to it and what it has carried. -/
structure StatesDevice (x : Json) (d : Device) : Prop where
  names : x.names =
    ["kind", "id", "manufacturer", "serial", "product", "version", "state", "refs", "stats"]
  kind : x.stringOf? "kind" = some "device"
  id : x.naturalOf? "id" = some d.id.number.toNat
  manufacturer : x.stringOf? "manufacturer" = some d.info.manufacturer
  serial : x.stringOf? "serial" = some d.info.serial
  product : x.stringOf? "product" = some d.info.product
  version : ∃ y, x.member? "version" = some y ∧ StatesVersion y d.info.version
  state : x.stringOf? "state" = some (if d.isRetiring then "retiring" else "active")
  refs : x.naturalOf? "refs" = some d.lifecycle.refs
  stats : ∃ y, x.member? "stats" = some y ∧ StatesUsage y d.usage

/-- An object that states an application: what it asked for, the numbers of the devices that it is
linked to, in ascending order, what is latched, what it has exchanged and how much is queued. -/
structure StatesApplication (x : Json) (a : Application) : Prop where
  names : x.names = ["kind", "id", "params", "bound", "latched", "stats", "queue_depth"]
  kind : x.stringOf? "kind" = some "application"
  id : x.naturalOf? "id" = some a.id.number.toNat
  params : ∃ y, x.member? "params" = some y ∧ StatesParams y a.params
  bound : x.naturalsOf? "bound" = some (a.links.linked.map fun e => e.1.number.toNat)
  latched : x.naturalOf? "latched" = some a.latchWord.toNat
  stats : ∃ y, x.member? "stats" = some y ∧ StatesUsage y a.usage
  queueDepth : x.naturalOf? "queue_depth" = some a.queue.length

/-- The numbers of the links are those in the set beside them, in their order. -/
theorem Links.Coherent.toList_bound {l : Links} (h : l.Coherent) :
    l.bound.toList = l.linked.map fun e => e.1.number := by
  obtain ⟨A, hA⟩ := NumberSet.exists_holds h.sized h.tidy
  refine NumberSet.Tour.toList_eq_of_ascending hA (List.pairwise_map.2 h.ascending) fun n => ?_
  rw [List.mem_map]
  constructor
  · rintro ⟨⟨id, key⟩, he, rfl⟩
    exact (h.bound_iff id).2 ⟨key, he⟩
  · intro hn
    -- every member is the number of a device, since 0 is none
    have hne : n ≠ 0 := by
      rintro rfl
      rw [NumberSet.contains_zero] at hn
      cases hn
    obtain ⟨key, he⟩ := (h.bound_iff ⟨n, hne⟩).1 hn
    exact ⟨_, he, rfl⟩

namespace Report

/-- The object of the line of a device. -/
def deviceEntry (d : Device) : Json := entry "device" (DeviceSnapshot.of d).members

/-- The object of the line of an application. -/
def applEntry (a : Application) : Json := entry "application" (ApplSnapshot.of a).members

/-- The entry of a device states it. -/
theorem states_deviceEntry (d : Device) : StatesDevice (deviceEntry d) d := by
  have hstate : d.state.label = if d.isRetiring then "retiring" else "active" := by
    unfold Device.state
    split <;> rfl
  constructor
  case version =>
    refine ⟨_, ?_, d.info.version.states_toJson⟩
    simp [deviceEntry, entry, DeviceSnapshot.members, DeviceSnapshot.of, Json.member?_cons]
  case stats =>
    refine ⟨_, ?_, d.usage.states_toJson⟩
    simp [deviceEntry, entry, DeviceSnapshot.members, DeviceSnapshot.of, Json.member?_cons]
  all_goals
    simp [deviceEntry, entry, DeviceSnapshot.members, DeviceSnapshot.of, Json.names,
      Json.naturalOf?, Json.stringOf?, Json.member?_cons, hstate]

/-- The entry of an application states it. -/
theorem states_applEntry {a : Application} (coherent : a.links.Coherent) :
    StatesApplication (applEntry a) a := by
  have hlatched : (a.latched.map MessageFault.code).getD 0 = a.latchWord := by
    unfold Application.latchWord
    cases a.latched <;> rfl
  have hbound : a.boundNumbers.map UInt16.toNat =
      a.links.linked.map fun e => e.1.number.toNat := by
    rw [Application.boundNumbers, coherent.toList_bound, List.map_map]
    rfl
  constructor
  case params =>
    refine ⟨_, ?_, a.params.states_toJson⟩
    simp [applEntry, entry, ApplSnapshot.members, ApplSnapshot.of, Json.member?_cons]
  case stats =>
    refine ⟨_, ?_, a.usage.states_toJson⟩
    simp [applEntry, entry, ApplSnapshot.members, ApplSnapshot.of, Json.member?_cons]
  all_goals
    simp [applEntry, entry, ApplSnapshot.members, ApplSnapshot.of, Json.names, Json.naturalOf?,
      Json.stringOf?, Json.naturalsOf?, Json.member?_cons, hlatched, hbound]

/-! ## Lines -/

open Machine (Event Run installed registered)

variable {config : Config} {history : List Event} {m : Machine}

/-- The objects of the report are those of the records, in their order. -/
theorem entries_eq (run : Run config history m) :
    entries m.registry =
      (installed history m).map deviceEntry ++ (registered history m).map applEntry := by
  unfold entries Registry.deviceSnapshots Registry.applSnapshots installed registered
  rw [run.deviceTable_values, run.applTable_values]
  simp [Function.comp_def, deviceEntry, applEntry]

/-- A line, without the line feed that ends it, that is read as an object which states a record. -/
def Reads {α : Type} (states : Json → α → Prop) (l : List Char) (r : α) : Prop :=
  ∃ x, Json.read? l = some x ∧ states x r

/-- Records whose entries state them are read from the lines of these. -/
theorem reads_entries {α : Type} {states : Json → α → Prop} {object : α → Json} {records : List α}
    (h : ∀ r ∈ records, states (object r) r) :
    List.Forall₂ (Reads states) (records.map fun r => (object r).render) records := by
  rw [List.forall₂_map_left_iff, List.forall₂_same]
  exact fun r hr => ⟨object r, Json.read?_render _, h r hr⟩

/-- **The report loses nothing.** Its text is a sequence of lines, each ended by a line feed and
with none inside. The first ones are read as objects that state the installed devices, one for each
in the order of their installation; the others state the registered applications, one for each in
the order of their registration. -/
theorem lines_read_back (run : Run config history m) :
    ∃ devices applications : List (List Char),
      (lines m.registry).toList = (devices ++ applications).flatMap (fun l => l ++ ['\n']) ∧
      (∀ l ∈ devices ++ applications, '\n' ∉ l) ∧
      List.Forall₂ (Reads StatesDevice) devices (installed history m) ∧
      List.Forall₂ (Reads StatesApplication) applications (registered history m) := by
  refine ⟨(installed history m).map fun d => (deviceEntry d).render,
    (registered history m).map fun a => (applEntry a).render, ?_, fun l hl => ?_,
    reads_entries fun d _ => states_deviceEntry d, reads_entries fun a ha => ?_⟩
  · show (String.ofList ((entries m.registry).flatMap line)).toList = _
    rw [String.toList_ofList, entries_eq run, List.flatMap_append, List.flatMap_append,
      List.flatMap_map, List.flatMap_map, List.flatMap_map, List.flatMap_map]
    rfl
  · -- every line is the text of an object, which writes line feeds in strings as escapes
    have hrender : ∃ x : Json, x.render = l := by
      rcases List.mem_append.1 hl with hl | hl
      · obtain ⟨d, -, rfl⟩ := List.mem_map.1 hl
        exact ⟨_, rfl⟩
      · obtain ⟨a, -, rfl⟩ := List.mem_map.1 hl
        exact ⟨_, rfl⟩
    obtain ⟨x, rfl⟩ := hrender
    exact x.lineFeed_not_mem_render
  · obtain ⟨key, -, rfl⟩ := List.mem_map.1 ha
    exact states_applEntry (run.reachable.sound.paired.coherent key)

/-- A device is installed whose identity has line feeds, quotes, backslashes and other control
characters in it, and accepts an application that is then signalled an error. -/
def namedOddly : List Move :=
  [.call (.register ⟨1, 1, 128⟩), .advance,
    .call (.install ⟨"a\n\"b\"\\\x01", "\t\r\n", "é\x7f\n", default, default⟩ 0), .advance,
    .answer .agree, .advance, .advance, .call (.signalError 0 .busy)]

/-- The odd identity of the device is read back from its line, and from the line of the application
that it is linked to the device and what is latched. -/
theorem lines_read_back_oddly :
    let m := (Machine.new .standard).after namedOddly
    ∃ (device application : List Char) (x y : Json),
      (lines m.registry).toList = device ++ '\n' :: (application ++ ['\n']) ∧
      '\n' ∉ device ∧ '\n' ∉ application ∧
      Json.read? device = some x ∧ x.stringOf? "kind" = some "device" ∧
      x.naturalOf? "id" = some 1 ∧ x.stringOf? "manufacturer" = some "a\n\"b\"\\\x01" ∧
      x.stringOf? "serial" = some "\t\r\n" ∧ x.stringOf? "product" = some "é\x7f\n" ∧
      x.stringOf? "state" = some "active" ∧ x.naturalOf? "refs" = some 2 ∧
      Json.read? application = some y ∧ y.stringOf? "kind" = some "application" ∧
      y.naturalOf? "id" = some 1 ∧ y.naturalsOf? "bound" = some [1] ∧
      y.naturalOf? "latched" = some MessageFault.busy.code.toNat ∧
      y.naturalOf? "queue_depth" = some 0 := by
  intro m
  have hrun := Run.of_moves .standard namedOddly (by decide +kernel)
  obtain ⟨devices, applications, htext, hlines, hdevices, happls⟩ := lines_read_back hrun
  -- one device and one application are reported
  have hkeys : (Machine.installations ((Machine.new .standard).events namedOddly)).filter
      m.IsInstalled = [0] := by
    decide +kernel
  have hkeys' : (Machine.registrations ((Machine.new .standard).events namedOddly)).filter
      m.IsRegistered = [0] := by
    decide +kernel
  rw [installed, hkeys, List.map_singleton] at hdevices
  rw [registered, hkeys', List.map_singleton] at happls
  obtain ⟨device, _, ⟨x, hx, hdevice⟩, hnone, rfl⟩ := List.forall₂_cons_right_iff.1 hdevices
  obtain rfl := List.forall₂_nil_right_iff.1 hnone
  obtain ⟨application, _, ⟨y, hy, happl⟩, hnone, rfl⟩ := List.forall₂_cons_right_iff.1 happls
  obtain rfl := List.forall₂_nil_right_iff.1 hnone
  simp only [List.cons_append, List.nil_append, List.forall_mem_cons] at hlines
  refine ⟨device, application, x, y, ?_, hlines.1, hlines.2.1, hx, hdevice.kind,
    hdevice.id.trans ?_, hdevice.manufacturer.trans ?_, hdevice.serial.trans ?_,
    hdevice.product.trans ?_, hdevice.state.trans ?_, hdevice.refs.trans ?_, hy, happl.kind,
    happl.id.trans ?_, happl.bound.trans ?_, happl.latched.trans ?_, happl.queueDepth.trans ?_⟩
  · rw [htext]
    simp
  all_goals decide +kernel

end Report

end Switchboard
