import Mathlib.Data.List.FinRange
import NeuroSpark.Lib.Bytes
import NeuroSpark.Lib.Network
import NeuroSpark.Lib.RingBuffer
import NeuroSpark.Lib.Sizes

/-!
# The network stack: frames that are sent

`net.c` builds Ethernet frames in buffers and gives them to the network card; here a frame is the
list of its bytes and `tx` is what the card has been given, oldest first. A payload that does not
fit in one frame is split into fragments.
-/

namespace NeuroSpark

open Network

def ethTypeIpv4 : Nat := 0x0800
def ethTypeArp : Nat := 0x0806
def ipProtoIcmp : UInt8 := 1
def ipProtoTcp : UInt8 := 6
def ipProtoUdp : UInt8 := 17
def ipv4EthMtu : Nat := 1500
def ipv4MaxHeader : Nat := 60
def ipv4ReassMaxPayload : Nat := 4096
def ipv4ReassTimeoutTicks : Nat := 300
def udpMaxPayload : Nat := 1200

/-- A hardware address. -/
abbrev Mac := { mac : List UInt8 // mac.length = 6 }

/-- The hardware address at an offset. -/
def macAt (src : List UInt8) (off : Nat) : Mac :=
  ⟨[src.getD off 0, src.getD (off + 1) 0, src.getD (off + 2) 0, src.getD (off + 3) 0,
    src.getD (off + 4) 0, src.getD (off + 5) 0], rfl⟩

def broadcastMac : Mac := ⟨[0xFF, 0xFF, 0xFF, 0xFF, 0xFF, 0xFF], rfl⟩

def zeroMac : Mac := ⟨[0, 0, 0, 0, 0, 0], rfl⟩

structure RouteEntry where
  used : Bool
  network : UInt32
  mask : UInt32
  gateway : UInt32
  prefixLen : Nat
  metric : Nat

/-- A datagram that is being put together. `header` has `header_len` bytes; a block of `present` is
eight bytes of the payload. -/
structure Ipv4ReassSlot where
  used : Bool
  srcIp : UInt32
  dstIp : UInt32
  ident : UInt16
  proto : UInt8
  haveFirst : Bool
  totalKnown : Bool
  totalPayloadLen : Nat
  lastTick : UInt32
  header : List UInt8
  payload : Bytes 4096
  present : Fin 512 → Bool

/-- `Ipv4ReassSlot ipv4_reass[IPV4_REASS_SLOT_MAX]` -/
abbrev Ipv4Reass := Fin 4 → Ipv4ReassSlot

/-- `data` has `len` bytes. -/
structure UdpPacket where
  srcIp : UInt32
  srcPort : UInt16
  data : List UInt8
  deriving DecidableEq

structure UdpBinding where
  used : Bool
  port : UInt16
  dropped : UInt32
  queue : RingBuffer UdpPacket 16

structure UdpReorderHold where
  valid : Bool
  packet : UdpPacket
  dstPort : UInt16

/-- The static storage of `net.c` for IPv4 and UDP, with the clock. -/
structure Net where
  netReady : Bool
  rtlIobase : UInt32
  rtlMac : Mac
  netIp : UInt32
  routeTable : Fin 8 → RouteEntry
  arpCacheValid : Bool
  arpCacheIp : UInt32
  arpCacheMac : Mac
  ipv4Reass : Ipv4Reass
  ipv4TxIdent : UInt16
  udpBindings : Fin 16 → UdpBinding
  udpReorderHold : UdpReorderHold
  netFaultLossPercent : Nat
  netFaultReorderPercent : Nat
  netFaultPrngState : UInt32
  tick : UInt32
  tx : List (List UInt8)

/-- The stack after `net_init`, on a host of the network 10.0.2.0/24. -/
def Net.booted (ip : UInt32) : Net where
  netReady := true
  rtlIobase := 0xC000
  rtlMac := ⟨[0x52, 0x54, 0x00, 0x12, 0x34, 0x56], rfl⟩
  netIp := ip
  routeTable i :=
    if i = 0 then ⟨true, 0x0A000200, 0xFFFFFF00, 0, 24, 10⟩
    else if i = 1 then ⟨true, 0, 0, 0x0A000201, 0, 100⟩
    else ⟨false, 0, 0, 0, 0, 0⟩
  arpCacheValid := false
  arpCacheIp := 0
  arpCacheMac := zeroMac
  ipv4Reass _ := ⟨false, 0, 0, 0, 0, false, false, 0, 0, [], Bytes.zero, fun _ => false⟩
  ipv4TxIdent := 1
  udpBindings _ := ⟨false, 0, 0, RingBuffer.empty ⟨0, 0, []⟩ Sizes.sixteen_pos⟩
  udpReorderHold := ⟨false, ⟨0, 0, []⟩, 0⟩
  netFaultLossPercent := 0
  netFaultReorderPercent := 0
  netFaultPrngState := 0xC0FFEE11
  tick := 0
  tx := []

/-- The entry with the longest prefix, and among these with the least metric; -1 and 255 before one
is found. -/
def routeBest (s : Net) (dstIp : UInt32) :
    List (Fin 8) → Option (Fin 8) → Int → Nat → Option (Fin 8)
  | [], best, _, _ => best
  | i :: is, best, bestPrefix, bestMetric =>
    let e := s.routeTable i
    if !e.used then routeBest s dstIp is best bestPrefix bestMetric
    else if dstIp &&& e.mask ≠ e.network then routeBest s dstIp is best bestPrefix bestMetric
    else if (e.prefixLen : Int) > bestPrefix ∨ (e.prefixLen : Int) = bestPrefix ∧ e.metric < bestMetric
    then routeBest s dstIp is (some i) e.prefixLen e.metric
    else routeBest s dstIp is best bestPrefix bestMetric

def routeLookup (s : Net) (dstIp : UInt32) : Option UInt32 :=
  (routeBest s dstIp (List.finRange 8) none (-1) 0xFF).map fun i =>
    if (s.routeTable i).gateway ≠ 0 then (s.routeTable i).gateway else dstIp

def netRouteNextHop (s : Net) (dstIp : UInt32) : UInt32 :=
  if dstIp = 0 ∨ dstIp = 0xFFFFFFFF then dstIp else (routeLookup s dstIp).getD dstIp

/-- The card is given frames. -/
def Net.send (s : Net) (frames : List (List UInt8)) : Net := { s with tx := s.tx ++ frames }

@[simp] lemma Net.send_nil (s : Net) : s.send [] = s := by simp [Net.send]

@[simp] lemma Net.send_send (s : Net) (frames frames' : List (List UInt8)) :
    (s.send frames).send frames' = s.send (frames ++ frames') := by simp [Net.send]

/-- The frame is sent, unless the card is not there or the length is wrong. -/
def rtl8139SendFrame (s : Net) (frame : List UInt8) : Net × Bool :=
  if !s.netReady ∨ s.rtlIobase = 0 then (s, false)
  else if frame.length = 0 ∨ frame.length > 1514 then (s, false)
  else (s.send [frame], true)

def arpCacheUpdate (s : Net) (ip : UInt32) (mac : Mac) : Net :=
  { s with arpCacheIp := ip, arpCacheMac := mac, arpCacheValid := true }

def arpCacheLookup (s : Net) (ip : UInt32) : Option Mac :=
  if s.arpCacheValid ∧ s.arpCacheIp = ip then some s.arpCacheMac else none

/-- Without a target's hardware address the frame has zeros there. -/
def netSendArpPacket (s : Net) (op : Nat) (dstMac : Mac) (senderIp targetIp : UInt32)
    (targetMac : Option Mac) : Net × Bool :=
  if !s.netReady then (s, false)
  else rtl8139SendFrame s (dstMac.1 ++ s.rtlMac.1 ++ be16 ethTypeArp ++ be16 1 ++ be16 0x0800 ++
    [6, 4] ++ be16 op ++ s.rtlMac.1 ++ be32 senderIp ++ (targetMac.getD zeroMac).1 ++ be32 targetIp)

def netSendArpRequest (s : Net) (targetIp : UInt32) : Net × Bool :=
  netSendArpPacket s 1 broadcastMac s.netIp targetIp none

def netSendArpReply (s : Net) (requesterMac : Mac) (requesterIp : UInt32) : Net × Bool :=
  netSendArpPacket s 2 requesterMac s.netIp requesterIp (some requesterMac)

/-- The 20 bytes of a header without options, with a given checksum. -/
def ipv4HeaderWith (checksum : Nat) (totalLen : Nat) (ident : UInt16) (flagsOff : Nat)
    (ttl protocol : UInt8) (src dst : UInt32) : List UInt8 :=
  [0x45, 0x00] ++ be16 totalLen ++ be16 ident.toNat ++ be16 flagsOff ++ [ttl, protocol] ++
    be16 checksum ++ (be32 src ++ be32 dst)

/-- The checksum is computed over the header with 0 in its place. -/
def ipv4Header (totalLen : Nat) (ident : UInt16) (flagsOff : Nat) (ttl protocol : UInt8)
    (src dst : UInt32) : List UInt8 :=
  ipv4HeaderWith (internetChecksum (ipv4HeaderWith 0 totalLen ident flagsOff ttl protocol src dst))
    totalLen ident flagsOff ttl protocol src dst

/-- Short frames are filled up with zeros. -/
def padFrame (frame : List UInt8) : List UInt8 := frame ++ List.replicate (60 - frame.length) 0

/-- A frame with a header and a part of the payload. -/
def ipv4Frame (dstMac rtlMac : Mac) (header payload : List UInt8) : List UInt8 :=
  padFrame (dstMac.1 ++ rtlMac.1 ++ be16 ethTypeIpv4 ++ header ++ payload)

/-- The length of the next fragment: all that remains, or as many blocks of eight bytes as fit. -/
def fragPayload (remain : Nat) : Nat :=
  let mtuPayload := (ipv4EthMtu - 20) / 8 * 8
  let len := if remain > mtuPayload then mtuPayload else remain
  if len ≠ remain then len / 8 * 8 else len

/-- The offset in blocks, and whether there are more fragments. -/
def flagsOff (offset fragLen payloadLen : Nat) : Nat :=
  if offset + fragLen < payloadLen then offset / 8 &&& 0x1FFF ||| 0x2000 else offset / 8 &&& 0x1FFF

/-- The loop of `net_send_ipv4_raw` over the fragments. -/
def sendFragments (s : Net) (dstMac : Mac) (dstIp : UInt32) (protocol : UInt8)
    (payload : List UInt8) (ttl : UInt8) (ident : UInt16) (offset : Nat) : Net × Bool :=
  if _ : offset < payload.length then
    if _ : fragPayload (payload.length - offset) = 0 then (s, false)
    else
      let fragLen := fragPayload (payload.length - offset)
      let header := ipv4Header (20 + fragLen) ident (flagsOff offset fragLen payload.length) ttl
        protocol s.netIp dstIp
      let r := rtl8139SendFrame s
        (ipv4Frame dstMac s.rtlMac header ((payload.drop offset).take fragLen))
      if r.2 then sendFragments r.1 dstMac dstIp protocol payload ttl ident (offset + fragLen)
      else (r.1, false)
  else (s, true)
termination_by payload.length - offset
decreasing_by omega

/-- The lengths are 16-bit words. -/
def netSendIpv4Raw (s : Net) (dstIp : UInt32) (protocol : UInt8) (payload : List UInt8)
    (ttl : UInt8) (ident : UInt16) : Net × Bool :=
  if !s.netReady then (s, false)
  else
    let nextHop := netRouteNextHop s dstIp
    let r :=
      if dstIp ≠ 0xFFFFFFFF then
        match arpCacheLookup s nextHop with
        | some mac => (s, mac)
        | none => ((netSendArpRequest s nextHop).1, broadcastMac)
      else (s, broadcastMac)
    if (20 + payload.length) % 65536 ≤ ipv4EthMtu then
      let header := ipv4Header (20 + payload.length) ident 0 ttl protocol s.netIp dstIp
      rtl8139SendFrame r.1 (ipv4Frame r.2 s.rtlMac header payload)
    else sendFragments r.1 r.2 dstIp protocol payload ttl ident 0

end NeuroSpark
