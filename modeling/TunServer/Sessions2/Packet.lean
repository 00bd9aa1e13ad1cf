import TunServer.Packets.Header

/-!
# The packet object of `sessions2`

`CompressedTCPPacket` is kept as what the session can read from it and what the session wrote into
it: the two ends, the window field, the payload and the header.  The `make*` calls leave the ends and
the window alone, and `makeNormal` leaves an ACK without payload.
-/

namespace TunServer.Sessions2

@[ext] structure Packet where
  source : SockAddr
  destination : SockAddr
  header : Header
  windowSize : U16
  windowShift : U8
  payload : List Byte
  payload_lt : payload.length < 2 ^ 16
  deriving Repr

instance : DecidableEq Packet := fun _ _ => decidable_of_iff _ Packet.ext_iff.symm

namespace Packet

def isSyn (p : Packet) : Bool := p.header.isSyn
def isAck (p : Packet) : Bool := p.header.isAck
def isReset (p : Packet) : Bool := p.header.isReset
def isFin (p : Packet) : Bool := p.header.isFin
def getSequenceNumber (p : Packet) : U32 := p.header.getSequenceNumber
def getAcknowledgmentNumber (p : Packet) : U32 := p.header.getAcknowledgmentNumber
def getSegmentLength (p : Packet) : U32 := p.header.getSegmentLength
def getTCPPayloadSize (p : Packet) : U32 := BitVec.ofNat 32 p.payload.length

def swapEnds (p : Packet) : Packet := { p with source := p.destination, destination := p.source }
def setSourceAddress (p : Packet) (a : SockAddr) : Packet := { p with source := a }
def setDestinationAddress (p : Packet) (a : SockAddr) : Packet := { p with destination := a }
def setWindow (p : Packet) (w : U32) : Packet := { p with windowSize := w.setWidth 16 }
def makeSyn (p : Packet) (seq ack : U32) : Packet := { p with header := .syn seq ack }
def makeNormal (p : Packet) (seq ack : U32) : Packet :=
  { p with header := .normal seq ack false, payload := [], payload_lt := noBytes_lt }
def makeResetSeq (p : Packet) (seq : U32) : Packet := { p with header := .resetSeq seq }
def makeResetAck (p : Packet) (ack : U32) : Packet := { p with header := .resetAck ack }
def setFinFlag (p : Packet) (b : Bool) : Packet := { p with header := p.header.setFinFlag b }

/-- a payload that does not fit into a datagram is cut off -/
def setTCPPayload (p : Packet) (bytes : List Byte) : Packet :=
  { p with
    payload := bytes.take (2 ^ 16 - 1)
    payload_lt := by rw [List.length_take]; omega }

end Packet

/-! ## packets read from a tunnel -/

/-- a packet as it is read from a tunnel -/
abbrev Incoming := { p : Packet // p.header.isReceived = true }

def synPacket (client server : SockAddr) (seq : U32) (window : U16) : Incoming :=
  ⟨⟨client, server, .received true false false false false seq 0 1, window, 0, [], noBytes_lt⟩, rfl⟩

def ackPacket (client server : SockAddr) (seq ack : U32) (window : U16) : Incoming :=
  ⟨⟨client, server, .received false true false false false seq ack 0, window, 0, [], noBytes_lt⟩, rfl⟩

theorem oneByte_lt : ([99] : List Byte).length < 2 ^ 16 := by decide
theorem twoBytes_lt : ([97, 98] : List Byte).length < 2 ^ 16 := by decide

/-- an ACK with a payload -/
def dataPacket (client server : SockAddr) (seq ack : U32) (window : U16) (payload : List Byte)
    (h : payload.length < 2 ^ 16) : Incoming :=
  ⟨⟨client, server, .received false true false false false seq ack (BitVec.ofNat 32 payload.length),
    window, 0, payload, h⟩, rfl⟩

/-- an ACK with FIN, and no payload -/
def finPacket (client server : SockAddr) (seq ack : U32) (window : U16) : Incoming :=
  ⟨⟨client, server, .received false true false true false seq ack 1, window, 0, [], noBytes_lt⟩, rfl⟩

def resetPacket (client server : SockAddr) (seq : U32) : Incoming :=
  ⟨⟨client, server, .received false false true false false seq 0 0, 0, 0, [], noBytes_lt⟩, rfl⟩

end TunServer.Sessions2
