import PhantomDrivers.LibPhantom.Packets
import PhantomDrivers.RevEng.Controller

/-!
# What the reference driver sends and shows

`xmit_handler` copies the memory of a `data_write` into the buffer to send, and
`show_data` prints what the table holds.

* `DataWrite.bytes` — the bytes that are sent; their order is that of the host.
* `wire` — the packets that are ever sent: three bits decide.
* `Computed` — the buttons of which packet these are.
* `packets_of_session` — the packets of a whole session.
* `showData` — what is printed for a device.
* `screen_of_session` — it shows what the library would show of the last packet.
-/

namespace RevEng

open Semantics Raw1394

/-! ## What is sent -/

namespace DataWrite

/-- The library declares the same structure. -/
def toPhantomDataWrite (data : DataWrite) (host : Endian) : LibPhantom.PhantomDataWrite where
  forceX := data.forceX.toBitVec
  forceY := data.forceY.toBitVec
  forceZ := data.forceZ.toBitVec
  status := data.bits host
  unused1 := data.unused1.toBitVec
  unused2 := data.unused2.toBitVec

/-- The memory of the structure. -/
def bytes (data : DataWrite) (host : Endian) : List UInt8 :=
  (LibPhantom.PhantomDataWrite.packing host).encode (data.toPhantomDataWrite host)

end DataWrite

/-- A packet: the forces, the status with these values of `dl_flash`, `dl_fflash`
and `motors_on`, and zeros.  A big-endian host puts the high byte of the status
first, and its highest bit is the first bit-field. -/
def wire (host : Endian) (flash fflash motors : Bool) : List UInt8 :=
  match host with
  | .little =>
      [0x00, 0x05, 0xff, 0x07, 0xff, 0x07,
        0xc0 ||| (if flash then 0x01 else 0) ||| (if fflash then 0x02 else 0) |||
          (if motors then 0x08 else 0), 0x53] ++ List.replicate 8 0
  | .big =>
      [0x05, 0x00, 0x07, 0xff, 0x07, 0xff,
        0x03 ||| (if flash then 0x80 else 0) ||| (if fflash then 0x40 else 0) |||
          (if motors then 0x10 else 0), 0xc0] ++ List.replicate 8 0

/-- When no button is pressed, only the first force is not the one that the
library sends. -/
example : (wire .little false false false).drop 2 =
    ((LibPhantom.PhantomDataWrite.packing .little).encode (.noForces .little)).drop 2 := by
  decide +kernel

/-- The packet for the default forces.  The number `0x53c0` is meant for a
little-endian host; on the other one it has `motors_on` and `dl_fflash` set. -/
def defaultWire (host : Endian) : List UInt8 := wire host false (host == .big) (host == .big)

/-- The packet for the buttons that another packet shows. -/
def buttonsWire (host : Endian) (packet : DataRead) : List UInt8 :=
  wire host (!packet.button1 host) (!packet.button2 host) (!packet.button1 host)

namespace DataWrite

theorem bytes_fillDefaultData (host : Endian) : fillDefaultData.bytes host = defaultWire host := by
  cases host <;> decide +kernel

theorem bytes_withButtons (host : Endian) (packet : DataRead) :
    (fillDefaultData.withButtons host packet).bytes host = buttonsWire host packet := by
  rw [withButtons, buttonsWire]
  generalize packet.button1 host = button1
  generalize packet.button2 host = button2
  cases host <;> cases button1 <;> cases button2 <;> decide +kernel

end DataWrite

/-- The forces for a device are those for the most recent packet when they were
last computed; if there was none, for the zeros of static memory. -/
def Computed (host : Endian) (trace : List Event) (device : Nat) (data : DataWrite) : Prop :=
  .updated device ∉ trace ∧ data.bytes host = defaultWire host ∨
    ∃ before after packet, trace = before ++ .updated device :: after ∧ .updated device ∉ after ∧
      Heard before device packet ∧ data.bytes host = buttonsWire host packet

section Trace

variable {host : Endian} {trace : List Event} {event : Event} {device : Nat} {data : DataWrite}
  {v : View}

theorem Computed.append (computed : Computed host trace device data)
    (other : event ≠ .updated device) : Computed host (trace ++ [event]) device data := by
  have later {after : List Event} (never : .updated device ∉ after) :
      .updated device ∉ after ++ [event] := by
    intro member
    rcases List.mem_append.mp member with inside | isLast
    · exact never inside
    · exact other (List.mem_singleton.mp isLast).symm
  rcases computed with ⟨never, default⟩ | ⟨before, after, packet, rfl, never, heard, sent⟩
  · exact .inl ⟨later never, default⟩
  · refine .inr ⟨before, after ++ [event], packet, ?_, later never, heard, sent⟩
    rw [List.append_assoc, List.cons_append]

/-- The controller sends nothing else. -/
theorem computed_of_run (accepted : (controller host).run .initial trace = some v) :
    (∀ d, Computed host trace d (v.forces d)) ∧
      Justified (fun before e => ∀ d data, e = .transmitted d data → Computed host before d data)
        trace := by
  induction trace using List.reverseRecOn generalizing v with
  | nil =>
      cases accepted
      exact ⟨fun d => .inl ⟨List.not_mem_nil, DataWrite.bytes_fillDefaultData host⟩, justified_nil⟩
  | append_singleton trace event ih =>
      rw [System.run_append, Option.bind_eq_some_iff] at accepted
      obtain ⟨v₁, before, last⟩ := accepted
      obtain ⟨forces, earlier⟩ := ih before
      obtain ⟨v', stepped, ⟨⟩⟩ := System.run_cons_eq_some.mp last
      cases event with
      | received device packet =>
          obtain ⟨-, stepped⟩ := Option.ite_none_left_eq_some.mp stepped
          cases stepped
          exact ⟨fun d => (forces d).append nofun, earlier.append nofun⟩
      | updated device =>
          obtain ⟨-, stepped⟩ := Option.ite_none_left_eq_some.mp stepped
          cases stepped
          refine ⟨fun d => ?_, earlier.append nofun⟩
          by_cases same : d = device
          · subst same
            rw [v₁.forces_update_self host d]
            exact .inr ⟨trace, [], v₁.known d, rfl, List.not_mem_nil, heard_of_run before d,
              DataWrite.bytes_withButtons _ _⟩
          · rw [v₁.forces_update_of_ne host same]
            refine (forces d).append ?_
            rintro ⟨⟩
            exact same rfl
      | transmitted device sent =>
          obtain ⟨-, stepped⟩ := Option.ite_none_left_eq_some.mp stepped
          obtain ⟨own, stepped⟩ := Option.ite_none_right_eq_some.mp stepped
          cases stepped
          refine ⟨fun d => (forces d).append nofun, earlier.append ?_⟩
          rintro d data ⟨⟩
          rw [own]
          exact forces device
      | reset =>
          obtain ⟨-, stepped⟩ := Option.ite_none_right_eq_some.mp stepped
          cases stepped
          exact ⟨fun d => (forces d).append nofun, earlier.append nofun⟩

end Trace

/-! ## What is shown -/

/-- What `show_data` prints. -/
inductive Shown where
  | device (device : Nat)
  /-- `"Data %2d-%2d:"`, and the numbers behind it -/
  | raw (first : Nat) (words : List (BitVec 16))
  | statusBits (bits : List Bool)
  | line (line : LibPhantom.Line)
  /-- `"Force X: 0x%4.4x"`; an `int` is printed -/
  | force (axis : String) (value : BitVec 32)
  | status (value : BitVec 16)
  | advice (text : String)
deriving DecidableEq

/-- The bytes of a packet as a buffer. -/
def DataRead.buffer (data : DataRead) : Nat → UInt8 := fun i => data.getD i 0

/-- The raw data. -/
def rawData (host : Endian) (data : DataRead) : List Shown :=
  (List.range 6).map fun k => .raw (4 * k) <|
    (List.range' (4 * k) (min 4 (22 - 4 * k))).map fun j =>
      LibPhantom.short data.buffer (2 * j) host

/-- The formatted output. -/
def formatted (host : Endian) (data : DataRead) : List LibPhantom.Line :=
  let d : LibPhantom.PhantomDataRead := ⟨data.buffer, host⟩
  [.axes "Encoder     " d.encoderX.toInt d.encoderY.toInt d.encoderZ.toInt,
    .axes "Gimbal      " d.gimbalX.toNat d.gimbalY.toNat d.gimbalZ.toNat,
    .axes "Gimbal (inv)" d.gimbalInvX.toNat d.gimbalInvY.toNat d.gimbalInvZ.toNat,
    .text (if data.button1 host then "" else "Button1 pressed"),
    .text (if data.button2 host then "" else "Button2 pressed"),
    .text (if data.docked host then "" else "Gimbal docked")]

/-- The forces. -/
def shownForces (force : DataWrite) : List Shown :=
  [.force "X" (force.forceX.toBitVec.signExtend 32),
    .force "Y" (force.forceY.toBitVec.signExtend 32),
    .force "Z" (force.forceZ.toBitVec.signExtend 32),
    .status force.status,
    .statusBits ((List.range 16).map force.status.getLsbD)]

/-- What the user may do. -/
def advices (host : Endian) (device : Nat) (data : DataRead) : List Shown :=
  .advice (if data.button1 host then "Hold button 1 to apply force on X axis"
    else "Release button 1 to disable forces") ::
  if device = 0 then
    [.advice "Press button2 to perform a 'bus reset'",
      .advice (if data.docked host then "Dock phantom to exit application"
        else "Undock and dock phantom to exit application")]
  else []

/-- `show_data` -/
def showData (host : Endian) (device : Nat) (info : DeviceInfo) : List Shown :=
  [.device device] ++ rawData host info.phantomData ++
    [.statusBits ((List.range 8).map info.phantomData.status.getLsbD)] ++
    (formatted host info.phantomData).map .line ++ shownForces info.forceData ++
    advices host device info.phantomData

/-- The lines that the library prints, too. -/
def Shown.line? : Shown → Option LibPhantom.Line
  | .line shown => some shown
  | _ => none

section Screen

variable {host : Endian} {data : DataRead} {device : Nat} {info : DeviceInfo} {len : UInt32}

theorem filterMap_showData :
    (showData host device info).filterMap Shown.line? = formatted host info.phantomData := by
  have raw : (rawData host info.phantomData).filterMap Shown.line? = [] := by
    simp [rawData, List.filterMap_map, Function.comp_def, Shown.line?]
  have advice : (advices host device info.phantomData).filterMap Shown.line? = [] := by
    by_cases first : device = 0
    · rw [advices, if_pos first]
      rfl
    · rw [advices, if_neg first]
      rfl
  have lines (lines : List LibPhantom.Line) :
      (lines.map Shown.line).filterMap Shown.line? = lines := by
    rw [List.filterMap_map]
    exact List.filterMap_some
  rw [showData, List.filterMap_append, List.filterMap_append, List.filterMap_append,
    List.filterMap_append, List.filterMap_append, raw, advice, lines]
  exact List.append_nil _

/-- The library prints the same, in the same format. -/
theorem formatted_eq :
    formatted host data = LibPhantom.PhantomIsoChannel.receivedData host data.buffer len := by
  have bits := LibPhantom.PhantomDataRead.buttons_eq host data.buffer
  rw [formatted, LibPhantom.PhantomIsoChannel.receivedData]
  simp only [bits, LibPhantom.whenClear_ofBool, LibPhantom.PhantomDataRead.status_eq]
  rfl

/-- The copy of a packet is a packet with the same lines. -/
theorem receivedData_buffer {buffer : Nat → UInt8} (copied : bytesOf buffer DataRead.size = data) :
    LibPhantom.PhantomIsoChannel.receivedData host data.buffer len =
      LibPhantom.PhantomIsoChannel.receivedData host buffer len := by
  refine LibPhantom.PhantomIsoChannel.dependsOn_receivedData host len fun i inside => ?_
  have here : i < DataRead.size := Nat.lt_trans inside (by decide)
  rw [DataRead.buffer, ← copied, List.getD_eq_getElem?_getD, getElem?_bytesOf _ here]
  rfl

end Screen

/-! ## Whole sessions -/

section Sessions

variable {β : Type} [Bus β]

/-- **What a session sends.**  Whatever the bus answers, `select` reports and
libraw1394 delivers: of the 16 bytes of a packet that is sent to a device, only
three bits depend on what happened.  They are the buttons in the packet that was
the last one from this device when its forces were last computed. -/
theorem packets_of_session (machine : Machine) (bus : β) (found : List (Nat × UInt16))
    (choices : List Choice) (s : Session β)
    (reached : (sessions machine).run (.start bus found) choices = some s) :
    Justified (fun before e => ∀ d data, e = .transmitted d data →
      Computed machine.endian before d data) s.omni.trace := by
  obtain ⟨v, mirrors⟩ := (refines_of_run bus reached).mirrors
  exact (computed_of_run mirrors.accepted).2

theorem packets_of_session_undockAndDock : ∃ s, (sessions oneDevice).run
    (.start (BusRecord.opened answering) [(0, 0xffc0)]) undockAndDock = some s ∧
      Justified (fun before e => ∀ d data, e = .transmitted d data →
        Computed .little before d data) s.omni.trace := by
  obtain ⟨s, reached, -⟩ := exists_closed
  exact ⟨s, reached, packets_of_session oneDevice _ _ _ s reached⟩

/-- **What a session shows.**  In every state of a session, the screen shows of
each device what the library would show of the last packet from it, in any
buffer and with any length; before the first packet it is one of zeros. -/
theorem screen_of_session (machine : Machine) (bus : β) (found : List (Nat × UInt16))
    (choices : List Choice) (s : Session β)
    (reached : (sessions machine).run (.start bus found) choices = some s) :
    ∀ device info, s.omni.devices[device]? = some info → ∃ packet,
      Heard s.omni.trace device packet ∧ ∀ (buffer : Nat → UInt8) (len : UInt32),
        bytesOf buffer 44 = packet →
          (showData machine.endian device info).filterMap Shown.line? =
            LibPhantom.PhantomIsoChannel.receivedData machine.endian buffer len := by
  obtain ⟨v, mirrors⟩ := (refines_of_run bus reached).mirrors
  intro device info there
  refine ⟨info.phantomData, ?_, fun buffer len copied => ?_⟩
  · rw [← (mirrors.rows device info there).1]
    exact heard_of_run mirrors.accepted device
  · rw [filterMap_showData, formatted_eq]
    exact receivedData_buffer copied

theorem screen_of_session_undockAndDock : ∃ s, (sessions oneDevice).run
    (.start (BusRecord.opened answering) [(0, 0xffc0)]) undockAndDock = some s ∧
      ∀ device info, s.omni.devices[device]? = some info → ∃ packet,
        Heard s.omni.trace device packet ∧ ∀ (buffer : Nat → UInt8) (len : UInt32),
          bytesOf buffer 44 = packet → (showData .little device info).filterMap Shown.line? =
            LibPhantom.PhantomIsoChannel.receivedData .little buffer len := by
  obtain ⟨s, reached, -⟩ := exists_closed
  exact ⟨s, reached, screen_of_session oneDevice _ _ _ s reached⟩

end Sessions

end RevEng
