/-! # Limits of a switchboard

How many devices and applications may be present at a time. Device numbers travel in seven bits
of an address and application numbers in sixteen, of which the highest is not used. -/

namespace Switchboard

/-- The limits a switchboard is made with. -/
structure Config where
  maxDevices : UInt16
  maxApplications : UInt16
deriving DecidableEq

/-- Why limits are refused. -/
inductive ConfigFault where
  | deviceLimit (requested : UInt16)
  | applicationLimit (requested : UInt16)
deriving DecidableEq

namespace Config

/-- The limits of a switchboard that is not told any. -/
def standard : Config := ⟨32, 240⟩

instance : Inhabited Config := ⟨standard⟩

/-- The highest device number that an address can name. -/
def highestDevice : UInt16 := 127

/-- The highest application number in use. -/
def highestApplication : UInt16 := 65534

/-- Whether both limits are within what numbers can address, the device limit judged first. -/
def check (c : Config) : Except ConfigFault Unit :=
  if c.maxDevices < 1 ∨ highestDevice < c.maxDevices then .error (.deviceLimit c.maxDevices)
  else if c.maxApplications < 1 ∨ highestApplication < c.maxApplications then
    .error (.applicationLimit c.maxApplications)
  else .ok ()

/-- Limits pass when both numbers are in their ranges. -/
theorem check_eq_ok_iff (c : Config) :
    c.check = .ok () ↔
      1 ≤ c.maxDevices.toNat ∧ c.maxDevices.toNat ≤ 127 ∧
        1 ≤ c.maxApplications.toNat ∧ c.maxApplications.toNat ≤ 65534 := by
  unfold check highestDevice highestApplication
  simp only [UInt16.lt_iff_toNat_lt, UInt16.reduceToNat]
  split
  · simp; omega
  · split
    · simp; omega
    · simp; omega

/-- The limits that hold unless others are stated pass. -/
example : standard.check = .ok () := rfl

end Config

namespace ConfigFault

/-- The name under which the fault is reported. -/
def label : ConfigFault → String
  | deviceLimit _ => "DeviceLimit"
  | applicationLimit _ => "ApplicationLimit"

end ConfigFault

end Switchboard
