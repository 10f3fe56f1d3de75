import PhantomDrivers.LibPhantom.ReceivedData
import PhantomDrivers.RevEng.Omni

/-!
# The length of a packet

The sender decides how long a packet is, and the buffer it arrives in is used
again and again.  Neither of the two drivers looks at the length: what is behind
the end of a short packet is taken for a part of it.

* `recvHandler_dependsOn_iff` — the reference driver copies 44 bytes.
* `WithinPacket` — a packet is all that the handlers of both drivers look at.
* `withinPacket_iff` — for which lengths this is so.
-/

namespace RevEng

open Semantics Raw1394
open LibPhantom (CommunicationLibraw1394 Library PhantomIsoChannel dependsOn_iff)

section Reference

variable {β : Type} {s : Omni β} {handle : Handle} {device n : Nat}

/-- What `recv_handler` does to the table. -/
theorem recvHandler_eq (found : findRecv s.devices handle = some device) (data : Nat → UInt8) :
    recvHandler handle data s = .returned ()
      { s with
        devices := s.devices.modify device fun info =>
          { info with phantomData := bytesOf data DataRead.size } } := by
  simp [recvHandler, found, modifyDevice]

/-- The copy of a packet in the table. -/
theorem phantomData_recvHandler (found : findRecv s.devices handle = some device)
    {data data' : Nat → UInt8} (same : recvHandler handle data s = recvHandler handle data' s) :
    bytesOf data DataRead.size = bytesOf data' DataRead.size := by
  have inside : device < s.devices.length := (List.findIdx?_eq_some_iff_getElem.mp found).1
  rw [recvHandler_eq found, recvHandler_eq found] at same
  have tables := congrArg Omni.devices (Outcome.returned.inj same).2
  have entries := congrArg (fun devices => devices[device]?.map DeviceInfo.phantomData) tables
  dsimp only at entries
  rw [List.getElem?_modify_eq, List.getElem?_modify_eq, List.getElem?_eq_getElem inside] at entries
  exact Option.some.inj entries

/-- **The reference driver** looks at the first 44 bytes of the buffer, if it
knows the handle. -/
theorem recvHandler_dependsOn_iff :
    DependsOn (fun data => recvHandler handle data s) (Set.Iio n) ↔
      findRecv s.devices handle = none ∨ 43 < n := by
  cases found : findRecv s.devices handle with
  | none =>
      have constant (data : Nat → UInt8) : recvHandler handle data s = .returned () s := by
        simp [recvHandler, found]
      refine iff_of_true (fun data data' _ => ?_) (.inl rfl)
      exact (constant data).trans (constant data').symm
  | some device =>
      rw [or_iff_right (Option.some_ne_none device)]
      refine dependsOn_iff (a := fun _ => 0) (b := fun i => if i = 43 then 1 else 0) ?_ ?_ ?_
      · intro data data' same
        have copies : bytesOf data DataRead.size = bytesOf data' DataRead.size :=
          List.map_congr_left fun i inside => same i (List.mem_range.mp inside)
        show recvHandler handle data s = recvHandler handle data' s
        rw [recvHandler_eq found, recvHandler_eq found, copies]
      · exact fun i inside => (if_neg (Nat.ne_of_lt inside)).symm
      · intro same
        have last := congrArg (·[43]?) (phantomData_recvHandler found same)
        revert last
        decide

end Reference

/-! ## Both drivers -/

/-- A packet of this length is all that is looked at: by the decoder of the
library, by the handler in front of it, and by the handler of the reference
driver. -/
structure WithinPacket {β γ : Type} (host : Endian) (len : UInt32) (com : CommunicationLibraw1394)
    (library : Library β) (handle : Handle) (omni : Omni γ) : Prop where
  decoder : DependsOn (fun data => PhantomIsoChannel.receivedData host data len) (Set.Iio len.toNat)
  handler : DependsOn (fun data => Library.recvHandler host com data len library)
    (Set.Iio len.toNat)
  reference : DependsOn (fun data => recvHandler handle data omni) (Set.Iio len.toNat)

/-- **The length of a packet.**  The handlers of the library look at a packet only
if it has 28 bytes at least, and the one of the reference driver if it has 44. -/
theorem withinPacket_iff {β γ : Type} (host : Endian) (len : UInt32) (com : CommunicationLibraw1394)
    (library : Library β) (q : Ptr) (c : PhantomIsoChannel) (called : com.isoChannel = some q)
    (live : library.isoChannels q = some c) (handle : Handle) (omni : Omni γ) :
    (DependsOn (fun data => PhantomIsoChannel.receivedData host data len) (Set.Iio len.toNat) ↔
      28 ≤ len.toNat) ∧
    (WithinPacket host len com library handle omni ↔
      28 ≤ len.toNat ∧ (findRecv omni.devices handle = none ∨ 44 ≤ len.toNat)) := by
  have decoder : DependsOn (fun data => PhantomIsoChannel.receivedData host data len)
      (Set.Iio len.toNat) ↔ 28 ≤ len.toNat :=
    PhantomIsoChannel.receivedData_dependsOn_iff host len
  have handler : DependsOn (fun data => Library.recvHandler host com data len library)
      (Set.Iio len.toNat) ↔ 28 ≤ len.toNat :=
    Library.recvHandler_dependsOn_iff called live
  have reference : DependsOn (fun data => recvHandler handle data omni) (Set.Iio len.toNat) ↔
      findRecv omni.devices handle = none ∨ 44 ≤ len.toNat :=
    recvHandler_dependsOn_iff
  refine ⟨decoder, fun within => ⟨decoder.mp within.decoder, reference.mp within.reference⟩, ?_⟩
  rintro ⟨enough, known⟩
  exact ⟨decoder.mpr enough, handler.mpr enough, reference.mpr known⟩

/-- A communication object whose transfer calls the channel object 0. -/
def receivingCom : CommunicationLibraw1394 := ⟨0xffc0, ⟨0, 0⟩, some 0, some ⟨true, 0⟩⟩

/-- That channel object. -/
def receivingLibrary : Library Unit :=
  { Library.initial () with
    isoChannels := Heap.empty.alloc ⟨0, true, receivingCom, ⟨0xffc0, ⟨1, 0⟩, none, none⟩, 0⟩ }

/-- The reference driver before it has found a device. -/
def nothingFound : Omni Unit where
  bus := ()
  nextHandle := 0
  contexts _ := none
  resetHandlers _ := false
  devices := []
  phantomDocked := false
  button2Pressed := false
  trace := []

theorem withinPacket_long :
    WithinPacket .little 44 receivingCom receivingLibrary ⟨7, 0⟩ nothingFound :=
  (withinPacket_iff .little 44 receivingCom receivingLibrary 0 _ rfl rfl ⟨7, 0⟩ nothingFound).2.mpr
    ⟨by decide, .inr (by decide)⟩

/-- An empty packet is decoded from what the buffer held before. -/
theorem empty_decoded :
    ¬DependsOn (fun data => PhantomIsoChannel.receivedData .little data 0) (Set.Iio 0) := by
  intro dependsOn
  refine PhantomIsoChannel.receivedData_differ .little 0 (dependsOn fun i inside => ?_)
  exact absurd inside (Nat.not_lt_zero i)

end RevEng
