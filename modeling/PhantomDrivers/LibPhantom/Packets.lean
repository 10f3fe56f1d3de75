import PhantomDrivers.LibPhantom.ReceivedData
import PhantomDrivers.Semantics.Packing

/-!
# The packets

In every cycle a Phantom sends a `PhantomDataRead` and gets a `PhantomDataWrite`.
`PhantomSpec.h` declares both as structures, and the library lays them over the
buffers of libraw1394.

* `PhantomDataRead.Members`, `PhantomDataWrite` — the structures, by their
  bit-fields.
* `PhantomDataRead.packing`, `PhantomDataWrite.packing` — where the members lie.
  No padding is needed.
* `receivedData_eq` — what is printed, as a function of the packet.
* `transmitData`, `noForces` — the packet that is sent; `motorsOn_noForces` says
  on which hosts its motors are off.
* `transmitData_eq` — the assignments to its members are one store.
-/

namespace LibPhantom

open Semantics Raw1394

/-! ## The structures -/

/-- An axis of a `GimbalData` -/
structure GimbalAxis where
  unused : BitVec 5
  value : BitVec 11
deriving DecidableEq, Repr

/-- `GimbalData` -/
structure GimbalData where
  x : GimbalAxis
  y : GimbalAxis
  z : GimbalAxis
deriving DecidableEq, Repr

/-- The members of `PhantomDataRead` -/
structure PhantomDataRead.Members where
  unknown0 : BitVec 16
  unknown1 : BitVec 16
  encoderX : BitVec 16
  encoderY : BitVec 16
  encoderZ : BitVec 16
  gimbal : GimbalData
  unknown8 : BitVec 16
  unknown9a : BitVec 8
  /-- `button1`, `button2`, `docked` and the bits behind them -/
  status : Fin 8 → Bool
  unknown10 : BitVec 16
  gimbalInv : GimbalData
  unknown14 : BitVec 16
  unknown15 : BitVec 16
  count0 : BitVec 32
  unknown18 : BitVec 16
  unknown19 : BitVec 16
  count1 : BitVec 16
  unknown21 : BitVec 16
deriving DecidableEq

/-- `PhantomDataWrite` -/
structure PhantomDataWrite where
  forceX : BitVec 16
  forceY : BitVec 16
  forceZ : BitVec 16
  /-- `dl_flash`, `dl_fflash`, `bit2`, `motors_on` and the bits behind them -/
  status : Fin 16 → Bool
  unused1 : BitVec 32
  unused2 : BitVec 32
deriving DecidableEq

/-! ## Where the members lie -/

open Packing

/-- The two bit-fields share an `unsigned short`. -/
def GimbalAxis.packing (host : Endian) : Packing GimbalAxis :=
  ((uint16 host).map (host.splitBits 5 11).symm).map
    { toFun := fun p => ⟨p.1, p.2⟩
      invFun := fun axis => (axis.unused, axis.value)
      left_inv := fun _ => rfl
      right_inv := fun _ => rfl }

@[simp] theorem GimbalAxis.size_packing (host : Endian) : (GimbalAxis.packing host).size = 2 :=
  rfl

@[simp] theorem GimbalAxis.align_packing (host : Endian) : (GimbalAxis.packing host).align = 2 :=
  rfl

/-- Three of them lie one behind the other. -/
def GimbalData.packing (host : Endian) : Packing GimbalData :=
  ((GimbalAxis.packing host).seq (GimbalAxis.packing host) (fits 2 2)
    |>.seq (GimbalAxis.packing host) (fits 4 2)).map
    { toFun := fun ((x, y), z) => ⟨x, y, z⟩
      invFun := fun gimbal => ((gimbal.x, gimbal.y), gimbal.z)
      left_inv := fun _ => rfl
      right_inv := fun _ => rfl }

@[simp] theorem GimbalData.size_packing (host : Endian) : (GimbalData.packing host).size = 6 := by
  simp [GimbalData.packing]

@[simp] theorem GimbalData.align_packing (host : Endian) : (GimbalData.packing host).align = 2 := by
  simp [GimbalData.packing]

namespace PhantomDataRead

/-- The members, each with the offset it has. -/
def packing (host : Endian) : Packing Members :=
  ((uint16 host).seq (uint16 host) (adjacent_uint16 host)
    |>.seq (uint16 host) (fits 4 2)
    |>.seq (uint16 host) (fits 6 2)
    |>.seq (uint16 host) (fits 8 2)
    |>.seq (GimbalData.packing host) (fits 10 2)
    |>.seq (uint16 host) (fits 16 2)
    |>.seq byte (fits 18 1)
    |>.seq (byte.map (host.flags 8).symm) (fits 19 1)
    |>.seq (uint16 host) (fits 20 2)
    |>.seq (GimbalData.packing host) (fits 22 2)
    |>.seq (uint16 host) (fits 28 2)
    |>.seq (uint16 host) (fits 30 2)
    |>.seq (uint32 host) (fits 32 4)
    |>.seq (uint16 host) (fits 36 2)
    |>.seq (uint16 host) (fits 38 2)
    |>.seq (uint16 host) (fits 40 2)
    |>.seq (uint16 host) (fits 42 2)).map
    { toFun := fun (((((((((((((((((unknown0, unknown1), encoderX), encoderY), encoderZ),
          gimbal), unknown8), unknown9a), status), unknown10), gimbalInv), unknown14), unknown15),
          count0), unknown18), unknown19), count1), unknown21) =>
        { unknown0, unknown1, encoderX, encoderY, encoderZ, gimbal, unknown8, unknown9a, status,
          unknown10, gimbalInv, unknown14, unknown15, count0, unknown18, unknown19, count1,
          unknown21 }
      invFun := fun m =>
        (((((((((((((((((m.unknown0, m.unknown1), m.encoderX), m.encoderY), m.encoderZ),
          m.gimbal), m.unknown8), m.unknown9a), m.status), m.unknown10), m.gimbalInv),
          m.unknown14), m.unknown15), m.count0), m.unknown18), m.unknown19), m.count1), m.unknown21)
      left_inv := fun _ => rfl
      right_inv := fun _ => rfl }

theorem size_packing (host : Endian) : (packing host).size = 44 := by
  simp [packing]

/-- The structure ends where its last member ends. -/
theorem sizeof_packing (host : Endian) :
    roundUp (packing host).size (packing host).align = 44 := by
  simp [packing, roundUp]

end PhantomDataRead

namespace PhantomDataWrite

/-- The members, each with the offset it has. -/
def packing (host : Endian) : Packing PhantomDataWrite :=
  ((uint16 host).seq (uint16 host) (adjacent_uint16 host)
    |>.seq (uint16 host) (fits 4 2)
    |>.seq ((uint16 host).map (host.flags 16).symm) (fits 6 2)
    |>.seq (uint32 host) (fits 8 4)
    |>.seq (uint32 host) (fits 12 4)).map
    { toFun := fun (((((forceX, forceY), forceZ), status), unused1), unused2) =>
        { forceX, forceY, forceZ, status, unused1, unused2 }
      invFun := fun m =>
        (((((m.forceX, m.forceY), m.forceZ), m.status), m.unused1), m.unused2)
      left_inv := fun _ => rfl
      right_inv := fun _ => rfl }

theorem size_packing (host : Endian) : (packing host).size = 16 := by
  simp [packing]

theorem sizeof_packing (host : Endian) :
    roundUp (packing host).size (packing host).align = 16 := by
  simp [packing, roundUp]

end PhantomDataWrite

/-! ## Packets that are received -/

section Fields

variable {n : Nat} {host : Endian}

/-- A bit-field of one bit. -/
theorem bitField_flags (value : BitVec n) (i : Fin n) :
    bitField value i 1 host = BitVec.ofBool ((host.flags n).symm value i) := by
  have bit (k : Nat) (inside : k < n) : value.extractLsb' k 1 = BitVec.ofBool value[k] := by
    ext j small
    obtain rfl : j = 0 := by omega
    simp [inside]
  cases host with
  | little => exact bit i i.isLt
  | big =>
      have place : n - i - 1 = i.rev := by
        rw [Fin.val_rev]
        omega
      show value.extractLsb' (n - i - 1) 1 = BitVec.ofBool value[i.rev.val]
      rw [place]
      exact bit i.rev i.rev.isLt

theorem whenClear_ofBool (bit : Bool) (text : String) :
    whenClear (BitVec.ofBool bit) text = .text (if bit then "" else text) := by
  cases bit <;> rfl

end Fields

namespace PhantomDataRead

/-- What is shown of a packet. -/
def Members.lines (m : Members) : List Line :=
  [.axes "Encoder     " m.encoderX.toInt m.encoderY.toInt m.encoderZ.toInt,
    .axes "Gimbal      " m.gimbal.x.value.toNat m.gimbal.y.value.toNat m.gimbal.z.value.toNat,
    .axes "Gimbal (inv)" m.gimbalInv.x.value.toNat m.gimbalInv.y.value.toNat
      m.gimbalInv.z.value.toNat,
    .text (if m.status 0 then "" else "Button1 pressed"),
    .text (if m.status 1 then "" else "Button2 pressed"),
    .text (if m.status 2 then "" else "Gimbal docked")]

variable (host : Endian) (data : Nat → UInt8)

theorem encoders_eq : encoderX ⟨data, host⟩ = ((packing host).decode data).encoderX ∧
    encoderY ⟨data, host⟩ = ((packing host).decode data).encoderY ∧
    encoderZ ⟨data, host⟩ = ((packing host).decode data).encoderZ := by
  cases host <;> exact ⟨rfl, rfl, rfl⟩

theorem gimbal_eq : gimbalX ⟨data, host⟩ = ((packing host).decode data).gimbal.x.value ∧
    gimbalY ⟨data, host⟩ = ((packing host).decode data).gimbal.y.value ∧
    gimbalZ ⟨data, host⟩ = ((packing host).decode data).gimbal.z.value := by
  cases host <;> exact ⟨rfl, rfl, rfl⟩

theorem gimbalInv_eq : gimbalInvX ⟨data, host⟩ = ((packing host).decode data).gimbalInv.x.value ∧
    gimbalInvY ⟨data, host⟩ = ((packing host).decode data).gimbalInv.y.value ∧
    gimbalInvZ ⟨data, host⟩ = ((packing host).decode data).gimbalInv.z.value := by
  cases host <;> exact ⟨rfl, rfl, rfl⟩

/-- The status is the byte behind 19 others, on either host. -/
theorem status_eq (i : Fin 8) : ((packing host).decode data).status i =
    (host.flags 8).symm (data 19).toBitVec i := by
  cases host <;> rfl

theorem statusBit_eq (i : Fin 8) : statusBit ⟨data, host⟩ i =
    BitVec.ofBool (((packing host).decode data).status i) := by
  rw [status_eq]
  exact bitField_flags _ i

theorem buttons_eq : button1 ⟨data, host⟩ = BitVec.ofBool (((packing host).decode data).status 0) ∧
    button2 ⟨data, host⟩ = BitVec.ofBool (((packing host).decode data).status 1) ∧
    docked ⟨data, host⟩ = BitVec.ofBool (((packing host).decode data).status 2) :=
  ⟨statusBit_eq host data 0, statusBit_eq host data 1, statusBit_eq host data 2⟩

end PhantomDataRead

namespace PhantomIsoChannel

variable {host : Endian} {data : Nat → UInt8} {len : UInt32}

/-- What is printed is what there is to show of the packet in the buffer. -/
theorem receivedData_eq : receivedData host data len =
    ((PhantomDataRead.packing host).decode data).lines := by
  obtain ⟨encoderX, encoderY, encoderZ⟩ := PhantomDataRead.encoders_eq host data
  obtain ⟨gimbalX, gimbalY, gimbalZ⟩ := PhantomDataRead.gimbal_eq host data
  obtain ⟨gimbalInvX, gimbalInvY, gimbalInvZ⟩ := PhantomDataRead.gimbalInv_eq host data
  obtain ⟨button1, button2, docked⟩ := PhantomDataRead.buttons_eq host data
  rw [receivedData, PhantomDataRead.Members.lines]
  simp only [encoderX, encoderY, encoderZ, gimbalX, gimbalY, gimbalZ, gimbalInvX, gimbalInvY,
    gimbalInvZ, button1, button2, docked, whenClear_ofBool]

/-! ## Packets that are sent -/

/-- `PhantomIsoChannel::transmitData`: the buffer and its length.  The members
are assigned one by one. -/
def transmitData (host : Endian) (data : Nat → UInt8) : (Nat → UInt8) × UInt32 :=
  let data := (uint16 host).store 0 0x7ff data
  let data := (uint16 host).store 2 0x7ff data
  let data := (uint16 host).store 4 0x7ff data
  let data := (uint16 host).store 6 0x53c0 data
  let data := (uint32 host).store 8 0 data
  let data := (uint32 host).store 12 0 data
  (data, 16)

end PhantomIsoChannel

/-- The packet that is sent. -/
def PhantomDataWrite.noForces (host : Endian) : PhantomDataWrite where
  forceX := 0x7ff
  forceY := 0x7ff
  forceZ := 0x7ff
  status := (host.flags 16).symm 0x53c0
  unused1 := 0
  unused2 := 0

/-- `motors_on` -/
def PhantomDataWrite.motorsOn (m : PhantomDataWrite) : Bool := m.status 3

/-- The number `0x53c0` is that of a little-endian host.  On the other one its
bit for the motors is set. -/
theorem PhantomDataWrite.motorsOn_noForces {host : Endian} :
    (noForces host).motorsOn = false ↔ host = .little := by
  cases host <;> decide

/-- The assignments store a whole packet. -/
theorem PhantomIsoChannel.transmitData_eq : transmitData host data =
    ((PhantomDataWrite.packing host).store 0 (.noForces host) data, 16) := by
  rw [PhantomDataWrite.packing, store_map]
  show _ = (store _ 0 (((((_, _), _), _), _), _) data, _)
  rw [store_seq, store_seq, store_seq, store_seq, store_seq, store_map, Equiv.symm_symm]
  simp only [size_seq, size_map, size_uint16, size_uint32, PhantomDataWrite.noForces,
    Equiv.apply_symm_apply]
  rfl

end LibPhantom
