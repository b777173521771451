import Switchboard.Text.Layout

/-! # Device and application numbers

A device (controller) and an application are each known by a positive 16-bit number. The two kinds
are separate types, and 0 names neither: a query for controller 0 is answered by the switchboard
itself, and application 0 does not exist. -/

namespace Switchboard

/-- The number under which a device is installed. -/
structure DeviceId where
  number : UInt16
  number_ne_zero : number ≠ 0
deriving DecidableEq

/-- The number under which an application is registered. -/
structure ApplId where
  number : UInt16
  number_ne_zero : number ≠ 0
deriving DecidableEq

namespace DeviceId

instance : Inhabited DeviceId := ⟨⟨1, by decide⟩⟩

/-- The description of a device number. -/
def describe (d : DeviceId) : String := Text.wrapped "DeviceId" (Text.natText d.number.toNat)

/-- The device number `n`, unless `n` is 0. -/
def ofNumber? (n : UInt16) : Option DeviceId :=
  if h : n = 0 then none else some ⟨n, h⟩

/-- Zero is no device's number. -/
@[simp] theorem ofNumber?_zero : ofNumber? 0 = none := rfl

/-- A device's number is read back. -/
@[simp] theorem ofNumber?_number (d : DeviceId) : ofNumber? d.number = some d := by
  simp [ofNumber?, d.number_ne_zero]

/-- Only the number of a device number reads back as it. -/
theorem ofNumber?_eq_some_iff {n : UInt16} {d : DeviceId} :
    ofNumber? n = some d ↔ n = d.number := by
  constructor
  · intro h
    unfold ofNumber? at h
    split at h
    · cases h
    · cases h; rfl
  · rintro rfl
    exact ofNumber?_number d

end DeviceId

namespace ApplId

instance : Inhabited ApplId := ⟨⟨1, by decide⟩⟩

/-- The description of an application number. -/
def describe (a : ApplId) : String := Text.wrapped "ApplId" (Text.natText a.number.toNat)

/-- The application number `n`, unless `n` is 0. -/
def ofNumber? (n : UInt16) : Option ApplId :=
  if h : n = 0 then none else some ⟨n, h⟩

/-- Zero is no application's number. -/
@[simp] theorem ofNumber?_zero : ofNumber? 0 = none := rfl

/-- An application's number is read back. -/
@[simp] theorem ofNumber?_number (a : ApplId) : ofNumber? a.number = some a := by
  simp [ofNumber?, a.number_ne_zero]

/-- Only the number of an application number reads back as it. -/
theorem ofNumber?_eq_some_iff {n : UInt16} {a : ApplId} :
    ofNumber? n = some a ↔ n = a.number := by
  constructor
  · intro h
    unfold ofNumber? at h
    split at h
    · cases h
    · cases h; rfl
  · rintro rfl
    exact ofNumber?_number a

end ApplId

end Switchboard
