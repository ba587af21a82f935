import Mathlib.Data.List.TakeDrop
import NeuroSpark.Net.Model

/-!
# The network stack: frames that are received

A frame with an IPv4 packet is checked and given to the handler of its protocol. Fragments are first
put together in one of four slots, each for one datagram, which is known by its addresses, its
protocol and its identification.
-/

namespace NeuroSpark

open Network

/-- What a datagram is known by: source, destination, identification and protocol. -/
abbrev Ipv4Key := UInt32 × UInt32 × UInt16 × UInt8

def Ipv4ReassSlot.key (slot : Ipv4ReassSlot) : Ipv4Key :=
  (slot.srcIp, slot.dstIp, slot.ident, slot.proto)

/-- The arguments of `ipv4_reassemble_packet`. -/
structure Ipv4Fragment where
  srcIp : UInt32
  dstIp : UInt32
  proto : UInt8
  ident : UInt16
  fragOffFlags : Nat
  ipHeader : List UInt8
  payload : List UInt8

namespace Ipv4Fragment

def key (f : Ipv4Fragment) : Ipv4Key := (f.srcIp, f.dstIp, f.ident, f.proto)

def fragOffset (f : Ipv4Fragment) : Nat := (f.fragOffFlags &&& 0x1FFF) * 8

def moreFrags (f : Ipv4Fragment) : Bool := f.fragOffFlags &&& 0x2000 ≠ 0

/-- The header and the place in the payload are within bounds. -/
def Accepted (f : Ipv4Fragment) : Prop :=
  20 ≤ f.ipHeader.length ∧ f.ipHeader.length ≤ ipv4MaxHeader ∧
    f.fragOffset + f.payload.length ≤ ipv4ReassMaxPayload

instance (f : Ipv4Fragment) : Decidable f.Accepted := inferInstanceAs (Decidable (_ ∧ _ ∧ _))

end Ipv4Fragment

/-- Slots to which nothing was added for a while are given up. -/
def ipv4ReassemblyGc (tick : UInt32) (r : Ipv4Reass) : Ipv4Reass := fun i =>
  if (r i).used ∧ (tick - (r i).lastTick).toNat > ipv4ReassTimeoutTicks then
    { r i with used := false }
  else r i

def ipv4ReassPresentGet (slot : Ipv4ReassSlot) (block : Nat) : Bool :=
  if h : block < 512 then slot.present ⟨block, h⟩ else false

def ipv4ReassPresentSet (slot : Ipv4ReassSlot) (block : Nat) : Ipv4ReassSlot :=
  if h : block < 512 then { slot with present := Function.update slot.present ⟨block, h⟩ true }
  else slot

/-- The search for a slot: the one of the datagram, or else the first free one, or else the oldest.
`free` and `oldest` are what was found so far. -/
def reassFindSlot (r : Ipv4Reass) (key : Ipv4Key) :
    List (Fin 4) → Option (Fin 4) → UInt32 → Option (Fin 4) → Fin 4
  | [], free, _, oldest => free.getD (oldest.getD 0)
  | i :: is, free, oldestTick, oldest =>
    if !(r i).used then reassFindSlot r key is (free.or (some i)) oldestTick oldest
    else if (r i).key = key then i
    else if (r i).lastTick < oldestTick then reassFindSlot r key is free (r i).lastTick (some i)
    else reassFindSlot r key is free oldestTick oldest

/-- The slot for a fragment, cleared when it held no datagram or another one. -/
def Ipv4ReassSlot.claim (slot : Ipv4ReassSlot) (f : Ipv4Fragment) : Ipv4ReassSlot :=
  if !slot.used ∨ slot.key ≠ f.key then
    { slot with
      used := true, srcIp := f.srcIp, dstIp := f.dstIp, ident := f.ident, proto := f.proto
      header := [], haveFirst := false, totalKnown := false, totalPayloadLen := 0
      present := fun _ => false }
  else slot

/-- Put a fragment into its slot. -/
def Ipv4ReassSlot.store (slot : Ipv4ReassSlot) (tick : UInt32) (f : Ipv4Fragment) : Ipv4ReassSlot :=
  let slot := { slot with lastTick := tick }
  let slot :=
    if f.fragOffset = 0 then { slot with haveFirst := true, header := f.ipHeader } else slot
  let slot :=
    if f.payload.length > 0 then
      let firstBlock := f.fragOffset / 8
      let lastBlock := (f.fragOffset + f.payload.length + 7) / 8
      (List.range' firstBlock (lastBlock - firstBlock)).foldl ipv4ReassPresentSet
        { slot with payload := slot.payload.patch f.fragOffset f.payload }
    else slot
  if !f.moreFrags then
    { slot with totalKnown := true, totalPayloadLen := f.fragOffset + f.payload.length }
  else slot

/-- Nothing of the datagram is missing. -/
def Ipv4ReassSlot.Complete (slot : Ipv4ReassSlot) : Prop :=
  slot.haveFirst ∧ slot.totalKnown ∧
    ∀ block < (slot.totalPayloadLen + 7) / 8, ipv4ReassPresentGet slot block

instance (slot : Ipv4ReassSlot) : Decidable slot.Complete := inferInstanceAs (Decidable (_ ∧ _ ∧ _))

/-- The packet that is put together, with the header of the first fragment. -/
def Ipv4ReassSlot.packet (slot : Ipv4ReassSlot) : List UInt8 :=
  let header := writeBe16 slot.header 2 (slot.header.length + slot.totalPayloadLen)
  let header := writeBe16 (writeBe16 header 6 0) 10 0
  writeBe16 header 10 (internetChecksum header) ++ slot.payload.slice 0 slot.totalPayloadLen

/-- The packet, if the fragment completes one. -/
def ipv4ReassemblePacket (tick : UInt32) (r : Ipv4Reass) (f : Ipv4Fragment) :
    Ipv4Reass × Option (List UInt8) :=
  if ¬ f.Accepted then (r, none)
  else
    let r := ipv4ReassemblyGc tick r
    let i := reassFindSlot r f.key (List.finRange 4) none 0xFFFFFFFF none
    let slot := ((r i).claim f).store tick f
    if slot.Complete then (Function.update r i { slot with used := false }, some slot.packet)
    else (Function.update r i slot, none)

/-- The fragment in a frame, as `net_handle_ipv4_frame` takes it apart. A total length that wraps
around in its check goes past the frame; the bytes there are taken to be 0. -/
def ipv4FragmentOf (frame : List UInt8) : Ipv4Fragment :=
  let headerLen := (frame.getD 14 0 &&& 0x0F).toNat * 4
  { srcIp := readBe32 frame 26
    dstIp := readBe32 frame 30
    proto := frame.getD 23 0
    ident := UInt16.ofNat (readBe16 frame 18)
    fragOffFlags := readBe16 frame 20
    ipHeader := (frame.drop 14).take headerLen
    payload := (frame.drop (14 + headerLen)).takeD (readBe16 frame 16 - headerLen) 0 }

/-- The frame holds a whole packet with a valid header. -/
def Ipv4FrameOk (frame : List UInt8) : Prop :=
  let headerLen := (frame.getD 14 0 &&& 0x0F).toNat * 4
  34 ≤ frame.length ∧ frame.getD 14 0 >>> 4 = 4 ∧ 20 ≤ headerLen ∧ headerLen ≤ 60 ∧
    14 + headerLen ≤ frame.length ∧ headerLen ≤ readBe16 frame 16 ∧
    (14 + readBe16 frame 16) % 65536 ≤ frame.length ∧
      internetChecksum ((frame.drop 14).take headerLen) = 0

instance (frame : List UInt8) : Decidable (Ipv4FrameOk frame) :=
  inferInstanceAs (Decidable (_ ∧ _ ∧ _ ∧ _ ∧ _ ∧ _ ∧ _ ∧ _))

/-- What is given to the handler of a protocol. -/
structure Ipv4Datagram where
  srcIp : UInt32
  dstIp : UInt32
  protocol : UInt8
  payload : List UInt8
  deriving DecidableEq

/-- The datagram in a packet. -/
def ipv4DatagramOf (packet : List UInt8) : Ipv4Datagram :=
  { srcIp := readBe32 packet 12
    dstIp := readBe32 packet 16
    protocol := packet.getD 9 0
    payload := packet.drop ((packet.getD 0 0 &&& 0x0F).toNat * 4) }

def ForUs (s : Net) (dstIp : UInt32) : Prop := dstIp = s.netIp ∨ dstIp = 0xFFFFFFFF

instance (s : Net) (dstIp : UInt32) : Decidable (ForUs s dstIp) :=
  inferInstanceAs (Decidable (_ ∨ _))

def netForwardIpv4Packet (s : Net) (packet : List UInt8) : Net :=
  let ihl := (packet.getD 0 0 &&& 0x0F).toNat * 4
  let ttl := packet.getD 8 0
  if !s.netReady ∨ packet.length < 20 ∨ packet.length > ipv4EthMtu then s
  else if ihl < 20 ∨ ihl > packet.length ∨ ttl ≤ 1 then s
  else
    match routeLookup s (readBe32 packet 16) with
    | none => s
    | some nextHop =>
      let r := match arpCacheLookup s nextHop with
        | some mac => (s, mac)
        | none => ((netSendArpRequest s nextHop).1, broadcastMac)
      let packet := writeBe16 (packet.set 8 (ttl - 1)) 10 0
      let packet := writeBe16 packet 10 (internetChecksum (packet.take ihl))
      (rtl8139SendFrame r.1 (padFrame (r.2.1 ++ s.rtlMac.1 ++ be16 ethTypeIpv4 ++ packet))).1

/-- `net_handle_ipv4_frame` up to the handlers of the protocols. -/
def netHandleIpv4Frame (s : Net) (frame : List UInt8) : Net × Option Ipv4Datagram :=
  let s := if frame.length < 34 then s
    else { s with ipv4Reass := ipv4ReassemblyGc s.tick s.ipv4Reass }
  if ¬ Ipv4FrameOk frame then (s, none)
  else
    let f := ipv4FragmentOf frame
    let s := arpCacheUpdate s f.srcIp (macAt frame 6)
    if ¬ ForUs s f.dstIp then
      (netForwardIpv4Packet s ((frame.drop 14).takeD (readBe16 frame 16) 0), none)
    else if f.fragOffFlags &&& 0x3FFF ≠ 0 then
      let r := ipv4ReassemblePacket s.tick s.ipv4Reass f
      let s := { s with ipv4Reass := r.1 }
      match r.2 with
      | none => (s, none)
      | some packet =>
        let d := ipv4DatagramOf packet
        if packet.length < (packet.getD 0 0 &&& 0x0F).toNat * 4 ∨ ¬ ForUs s d.dstIp then (s, none)
        else (s, some d)
    else (s, some ⟨f.srcIp, f.dstIp, f.proto, f.payload⟩)

end NeuroSpark
