import TunServer.Packets.Header

/-!
# The packet object of `session`

`TCPPacket` is kept as what the session reads from it and writes into it.  Here the `make*` calls
form the header only; the payload is cleared and appended to by calls of its own.
-/

namespace TunServer.Session

structure Packet where
  source : SockAddr
  destination : SockAddr
  header : Header
  windowSize : U16
  windowShift : U8
  mss : U16
  payload : List Byte
  payload_lt : payload.length < 2 ^ 16
  deriving DecidableEq, Repr

namespace Packet

def isSyn (p : Packet) : Bool := p.header.isSyn
def isAck (p : Packet) : Bool := p.header.isAck
def isReset (p : Packet) : Bool := p.header.isReset
def isFin (p : Packet) : Bool := p.header.isFin
def isPush (p : Packet) : Bool := p.header.isPush
def getSequenceNumber (p : Packet) : U32 := p.header.getSequenceNumber
def getAcknowledgmentNumber (p : Packet) : U32 := p.header.getAcknowledgmentNumber
def getSegmentLength (p : Packet) : U32 := p.header.getSegmentLength
def getDataLength (p : Packet) : U32 := BitVec.ofNat 32 p.payload.length

def swapEnds (p : Packet) : Packet := { p with source := p.destination, destination := p.source }
def setEnds (p : Packet) (source destination : SockAddr) : Packet :=
  { p with source := source, destination := destination }
def setWindowSize (p : Packet) (w : U32) : Packet := { p with windowSize := w.setWidth 16 }
def clearData (p : Packet) : Packet := { p with payload := [], payload_lt := noBytes_lt }
def makeSyn (p : Packet) (seq ack : U32) : Packet := { p with header := .syn seq ack }
def makeNormal (p : Packet) (seq ack : U32) : Packet := { p with header := .normal seq ack false }
def makeResetSeq (p : Packet) (seq : U32) : Packet := { p with header := .resetSeq seq }
def makeResetAck (p : Packet) (ack : U32) : Packet := { p with header := .resetAck ack }
def setFinFlag (p : Packet) (b : Bool) : Packet := { p with header := p.header.setFinFlag b }

/-- data that does not fit into a datagram is cut off -/
def appendData (p : Packet) (bytes : List Byte) : Packet :=
  { p with
    payload := (p.payload ++ bytes).take (2 ^ 16 - 1)
    payload_lt := by rw [List.length_take]; omega }

/-- what `copyDataTo` copies when there is room for `room` bytes -/
def copiedData (p : Packet) (room : U32) : List Byte := p.payload.take room.toNat

@[simp] theorem getDataLength_toNat (p : Packet) : p.getDataLength.toNat = p.payload.length := by
  have h := p.payload_lt
  unfold getDataLength
  rw [BitVec.toNat_ofNat]
  omega

end Packet

/-! ## packets read from a tunnel -/

/-- a packet as it is read from a tunnel -/
abbrev Incoming := { p : Packet // p.header.isReceived = true }

def synPacket (client server : SockAddr) (seq : U32) (mss : U16) : Incoming :=
  ⟨⟨client, server, .received true false false false false seq 0 1, 65535, 0, mss, [], noBytes_lt⟩,
    rfl⟩

/-- an ACK without a payload -/
def ackPacket (client server : SockAddr) (isFin : Bool) (seq ack : U32) : Incoming :=
  ⟨⟨client, server, .received false true false isFin false seq ack (b32 isFin), 65535, 0, 0, [],
    noBytes_lt⟩, rfl⟩

/-- an ACK with a payload -/
def dataPacket (client server : SockAddr) (seq ack : U32) (payload : List Byte)
    (h : payload.length < 2 ^ 16) : Incoming :=
  ⟨⟨client, server, .received false true false false false seq ack (BitVec.ofNat 32 payload.length),
    65535, 0, 0, payload, h⟩, rfl⟩

def resetPacket (client server : SockAddr) (seq : U32) : Incoming :=
  ⟨⟨client, server, .received false false true false false seq 0 0, 65535, 0, 0, [],
    noBytes_lt⟩, rfl⟩

end TunServer.Session
