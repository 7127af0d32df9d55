import BeaconWatch.IBeaconFrame

/-!
Advertisement reports, as the Bluetooth adapter delivers them, and what their Apple body carries.
-/

set_option autoImplicit false

namespace BeaconWatch

/-- Manufacturer bodies by company identifier, at most one to a company. -/
abbrev ManufacturerData := List (UInt16 × Bytes)

namespace ManufacturerData

def insert (data : ManufacturerData) (company : UInt16) (body : Bytes) : ManufacturerData :=
  (company, body) :: data.filter fun entry => entry.1 != company

-- The body of a company; of two entries the one inserted last counts.
def body? (data : ManufacturerData) (company : UInt16) : Option Bytes :=
  data.lookup company

def ofEntries (entries : List (UInt16 × Bytes)) : ManufacturerData :=
  entries.foldl (fun data entry => insert data entry.1 entry.2) []

@[simp] theorem body?_insert_self (data : ManufacturerData) (company : UInt16) (body : Bytes) :
    (data.insert company body).body? company = some body := by
  simp [insert, body?]

end ManufacturerData

structure AdvertisementReport where
  address : String := ""
  rssi : Int32 := 0
  manufacturerData : ManufacturerData := []
  deriving DecidableEq

/-- What an advertisement carries; an overflow area is given without its marker. -/
inductive AdvertisementKind
  | iBeacon (frame : IBeaconFrame)
  | overflowArea (raw : Bytes)
  | other
  deriving DecidableEq

namespace AdvertisementReport

def appleCompany : UInt16 := 0x004C

def overflowMarker : UInt8 := 0x01

def appleBody? (report : AdvertisementReport) : Option Bytes :=
  report.manufacturerData.body? appleCompany

def apple (address : String) (rssi : Int32) (body : Bytes) : AdvertisementReport :=
  ⟨address, rssi, ManufacturerData.insert [] appleCompany body⟩

@[simp] theorem appleBody?_apple (address : String) (rssi : Int32) (body : Bytes) :
    (apple address rssi body).appleBody? = some body := by
  simp [apple, appleBody?]

def kindOfOtherBody : Bytes → AdvertisementKind
  | [] => .other
  | first :: rest => if first = overflowMarker then .overflowArea rest else .other

def kindOfBody (body : Bytes) : Except Error AdvertisementKind :=
  match IBeaconFrame.parse body with
  | .ok (some frame) => .ok (.iBeacon frame)
  | .ok none => .ok (kindOfOtherBody body)
  | .error error => .error error

def classify (report : AdvertisementReport) : Except Error AdvertisementKind :=
  match report.appleBody? with
  | some body => kindOfBody body
  | none => .ok .other

end AdvertisementReport

end BeaconWatch
