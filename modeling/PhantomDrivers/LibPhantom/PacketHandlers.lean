import PhantomDrivers.LibPhantom.ChannelPointers
import PhantomDrivers.LibPhantom.Footprint
import PhantomDrivers.LibPhantom.Packets

/-!
# The handlers of the packets

libraw1394 calls the handlers while a transfer runs, and knows nothing but the
handle.  Whatever a program has done with the library, a handler of a running
transfer finds its channel object.  It shows the packet that was received, or
fills the buffer with the packet that is sent.

* `Transmission`, `xmitHandler` — the handler that fills a buffer.
* `preserves_selfCalling_*` — the handlers of a channel object reach that object.
* `packets_served` — the handlers, in every run.
-/

namespace LibPhantom

open Semantics Raw1394

/-- What `xmit_handler` hands back. -/
structure Transmission where
  data : Nat → UInt8
  len : UInt32
  tag : UInt8
  sy : UInt8

namespace Library

variable {β : Type}

/-- `Communication::callbackXmitHandler` -/
def callbackXmitHandler (host : Endian) (com : CommunicationLibraw1394) (data : Nat → UInt8) :
    Call Exn (Library β) ((Nat → UInt8) × UInt32) := do
  match com.isoChannel with
  | none => Call.undefined
  | some q =>
      let _ ← isoChannel q
      return PhantomIsoChannel.transmitData host data

/-- `CommunicationLibraw1394::xmit_handler`, for the object that the handle has
as its user data. -/
def xmitHandler (host : Endian) (com : CommunicationLibraw1394) (data : Nat → UInt8) :
    Call Exn (Library β) Transmission := do
  let (data, len) ← callbackXmitHandler host com data
  return { data, len, tag := 0, sy := 0 }

/-! ## One packet -/

section Packet

variable {s : Library β} {com : CommunicationLibraw1394} {q : Ptr} {c : PhantomIsoChannel}

/-- The 44 bytes are those of one packet, and this one is shown. -/
theorem recvHandler_packet (host : Endian) (called : com.isoChannel = some q)
    (live : s.isoChannels q = some c) (data : Nat → UInt8) (len : UInt32) :
    ∃! m : PhantomDataRead.Members, bytesOf data 44 = (PhantomDataRead.packing host).encode m ∧
      recvHandler host com data len s = .returned m.lines s := by
  rw [recvHandler_eq called live, PhantomIsoChannel.receivedData_eq]
  rw [← PhantomDataRead.size_packing host]
  obtain ⟨m, bytes, only⟩ := (PhantomDataRead.packing host).existsUnique_bytes data
  refine ⟨m, ⟨bytes, ?_⟩, fun other shown => only other shown.1⟩
  rw [(PhantomDataRead.packing host).decode_of_bytes m data bytes]

/-- The packet that is sent does not depend on what was in the buffer. -/
theorem xmitHandler_packet (host : Endian) (called : com.isoChannel = some q)
    (live : s.isoChannels q = some c) (data : Nat → UInt8) :
    ∃ data', xmitHandler host com data s = .returned ⟨data', 16, 0, 0⟩ s ∧
      bytesOf data' 16 = (PhantomDataWrite.packing host).encode (.noForces host) ∧
      ∀ i, 16 ≤ i → data' i = data i := by
  have size := PhantomDataWrite.size_packing host
  refine ⟨(PhantomDataWrite.packing host).store 0 (.noForces host) data, ?_, ?_, fun i outside => ?_⟩
  · simp [xmitHandler, callbackXmitHandler, called, isoChannel, live,
      PhantomIsoChannel.transmitData_eq]
  · have stored : bytesOf (behind ((PhantomDataWrite.packing host).store 0 (.noForces host) data) 0)
        (PhantomDataWrite.packing host).size = _ := Packing.bytesOf_store
    rw [size, behind_zero] at stored
    exact stored
  · refine Packing.store_outside (.inr ?_)
    rwa [size, Nat.zero_add]

end Packet

/-! ## Every call keeps the pointers of the handlers -/

section SelfCalling

variable {host : Host} {p : Ptr} {s : Library β}

theorem stable_selfCalling : Stable (SelfCalling : Library β → Prop) where
  handles _ _ _ _ _ _ calls := calls
  opened _ _ _ _ _ calls := calls
  deleted _ _ _ _ calls := calls

theorem preserves_selfCalling_of_fixes {α : Type} {m : Call Exn (Library β) α}
    (fixes : m.Fixes objects) : m.Preserves SelfCalling := by
  refine fixes.preserves fun s s' same calls => ?_
  have isoChannels : s'.isoChannels = s.isoChannels := congrArg Prod.snd same
  intro q c live
  rw [isoChannels] at live
  exact calls q c live

theorem preserves_selfCalling_onDevice {α : Type} (method : Call Exn (DeviceState β) α) :
    (onDevice p method).Preserves SelfCalling := by
  refine Call.preserves_bind Stable.device fun d => ?_
  refine Call.preserves_bind (stable_selfCalling.useHandle _) fun _ => ?_
  exact Call.preserves_within fun _ _ calls => calls

/-- A method that follows the pointers of one Phantom. -/
theorem preserves_selfCalling_of_pointed {α : Type} {m : Call Exn (Library β) α}
    (preserves : ∀ s₀, m.Preserves (Pointed s₀ p)) : m.Preserves SelfCalling := by
  intro s calls
  have start : Pointed s p s :=
    ⟨calls, Nat.le_refl _, fun _ ph _ live points => .inl ⟨ph, live, points⟩⟩
  exact (preserves s s start).imp (fun _ _ pointed => pointed.calls) fun _ _ pointed => pointed.calls

variable [Bus β]

theorem preserves_selfCalling_findPhantom (serial : UInt32) :
    (findPhantom host serial).Preserves (SelfCalling : Library β → Prop) :=
  stable_selfCalling.findPhantom (fun _ => preserves_selfCalling_onDevice _)
    (fun _ => preserves_selfCalling_onDevice _) (fun _ _ calls => calls) serial

theorem SelfCalling.clientCall {action : ClientAction} {s' : Library β} (calls : SelfCalling s)
    (called : s.clientCall host action = some s') : SelfCalling s' := by
  cases action with
  | createInstance => exact (stable_selfCalling.createInstance _ calls).of_state? called
  | next i => exact (stable_selfCalling.next _ calls).of_state? called
  | deleteIterator i => exact (stable_selfCalling.deleteIterator _ calls).of_state? called
  | read p address length => exact (preserves_selfCalling_onDevice _ _ calls).of_state? called
  | getVendorId p => exact (preserves_selfCalling_onDevice _ _ calls).of_state? called
  | getVendorName p => exact (preserves_selfCalling_onDevice _ _ calls).of_state? called
  | isSensableDevice p => exact (preserves_selfCalling_onDevice _ _ calls).of_state? called
  | getFreeChannel p =>
      exact (preserves_selfCalling_of_fixes (fixes_getFreeChannel host) _ calls).of_state? called
  | claimChannel p channel =>
      exact (preserves_selfCalling_of_fixes (fixes_claimChannel channel) _ calls).of_state? called
  | releaseChannel p channel =>
      exact (preserves_selfCalling_of_fixes (fixes_releaseChannel channel) _ calls).of_state? called
  | deleteDevice p => exact (stable_selfCalling.deleteDevice _ calls).of_state? called
  | findPhantom serial => exact absurd called (Option.some_ne_none s').symm
  | readDeviceSerial p =>
      refine (Call.preserves_bind (preserves_selfCalling_of_fixes fixes_phantom) (fun ph => ?_) _
        calls).of_state? called
      exact preserves_selfCalling_onDevice _
  | startPhantom p =>
      exact (preserves_selfCalling_of_pointed (fun _ => preserves_startPhantom) _ calls).of_state?
        called
  | stopPhantom p =>
      exact (preserves_selfCalling_of_pointed (fun _ => preserves_stopPhantom) _ calls).of_state?
        called
  | isoIterate p recv xmit =>
      exact (preserves_selfCalling_of_fixes (fixes_isoIterate recv xmit) _ calls).of_state? called
  | deletePhantom p =>
      exact (preserves_selfCalling_of_pointed (fun _ => preserves_deletePhantom) _ calls).of_state?
        called

end SelfCalling

end Library

/-! ## Runs -/

section Runs

variable {β : Type} [Bus β] {host : Host} {client client' : Client β} {action : ClientAction}

theorem Client.selfCalling_search {serial : UInt32}
    (calls : Library.SelfCalling client.library)
    (searched : client.search host serial = some client') :
    Library.SelfCalling client'.library := by
  have looked : (Library.findPhantom host serial client.library).Leaves _ _ :=
    Library.preserves_selfCalling_findPhantom serial _ calls
  rw [Client.search] at searched
  generalize Library.findPhantom host serial client.library = outcome at looked searched
  cases outcome with
  | returned found library =>
      cases found with
      | some p =>
          cases searched
          exact looked
      | none =>
          cases searched
          exact looked
  | thrown e library =>
      cases searched
      exact looked
  | undefined => cases searched

theorem Client.selfCalling_step (calls : Library.SelfCalling client.library)
    (stepped : (clients host).step client action = some client') :
    Library.SelfCalling client'.library := by
  have kept {action : ClientAction}
      (called : (client.library.clientCall host action).map
        (fun library => { client with library }) = some client') :
      Library.SelfCalling client'.library := by
    obtain ⟨library, left, rfl⟩ := Option.map_eq_some_iff.mp called
    exact calls.clientCall left
  cases action with
  | findPhantom serial => exact Client.selfCalling_search calls stepped
  | _ => exact kept stepped

/-- **Every packet is served.**  In every state of every run, whatever program,
bus and failures: the handlers of a transfer that runs find their channel object
and change nothing.  Any 44 bytes in the buffer are those of exactly one packet,
and this one is shown, whatever the length says and whatever is behind them.  A
buffer to send is filled with the packet without forces, up to its length. -/
theorem packets_served (host : Host) (bus : β) (actions : List ClientAction) :
    (clients host).Always
      (fun client => ∀ q c, client.library.isoChannels q = some c → c.com.context.isSome →
        (∀ (data : Nat → UInt8) (len : UInt32), ∃! m : PhantomDataRead.Members,
          bytesOf data 44 = (PhantomDataRead.packing host.endian).encode m ∧
            Library.recvHandler host.endian c.com data len client.library =
              .returned m.lines client.library) ∧
        ∀ data : Nat → UInt8, ∃ data',
          Library.xmitHandler host.endian c.com data client.library =
              .returned ⟨data', 16, 0, 0⟩ client.library ∧
            bytesOf data' 16 =
              (PhantomDataWrite.packing host.endian).encode (.noForces host.endian) ∧
            ∀ i, 16 ≤ i → data' i = data i)
      (Client.initial bus) actions := by
  refine System.always_iff_prefix.mpr fun before _ client reached q c live running => ?_
  have calls : Library.SelfCalling client.library :=
    System.run_induction (P := fun client : Client β => Library.SelfCalling client.library)
      (fun q c live => absurd live (Option.some_ne_none c).symm)
      (fun _ _ _ => Client.selfCalling_step) reached
  have called := calls q c live running
  exact ⟨Library.recvHandler_packet host.endian called live,
    Library.xmitHandler_packet host.endian called live⟩

end Runs

end LibPhantom
