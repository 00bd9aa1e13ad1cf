import TunServer.Base.Word

/-!
# The TCP header of a packet object

The packet classes come from a library that is not part of the repository.  `Header` is what the
sessions read from a header, or the `make*` call that formed it last, with its numbers; nothing more
is assumed about these calls than the fields they name:

* `makeSyn a b`, `makeNormal a b`   sequence number `a`, acknowledgement number `b`;
* `makeResetSeq a`                  a reset with sequence number `a`;
* `makeResetAck b`                  a reset acknowledging `b`.
-/

namespace TunServer

theorem noBytes_lt : ([] : List Byte).length < 2 ^ 16 := by decide

/-- an IPv4 socket address -/
structure SockAddr where
  ip : U32
  port : U16
  deriving DecidableEq, Repr

inductive Header where
  | received (isSyn isAck isReset isFin isPush : Bool) (seq ack segmentLength : U32)
  | syn (seq ack : U32)
  | normal (seq ack : U32) (isFin : Bool)
  | resetSeq (seq : U32)
  | resetAck (ack : U32)
  deriving DecidableEq, Repr

namespace Header

def isSyn : Header → Bool
  | received s _ _ _ _ _ _ _ => s
  | syn _ _ => true
  | _ => false

def isAck : Header → Bool
  | received _ a _ _ _ _ _ _ => a
  | resetSeq _ => false
  | _ => true

def isReset : Header → Bool
  | received _ _ r _ _ _ _ _ => r
  | resetSeq _ => true
  | resetAck _ => true
  | _ => false

def isFin : Header → Bool
  | received _ _ _ f _ _ _ _ => f
  | normal _ _ f => f
  | _ => false

def isPush : Header → Bool
  | received _ _ _ _ p _ _ _ => p
  | _ => false

def getSequenceNumber : Header → U32
  | received _ _ _ _ _ seq _ _ => seq
  | syn seq _ => seq
  | normal seq _ _ => seq
  | resetSeq seq => seq
  | resetAck _ => 0

def getAcknowledgmentNumber : Header → U32
  | received _ _ _ _ _ _ ack _ => ack
  | syn _ ack => ack
  | normal _ ack _ => ack
  | resetSeq _ => 0
  | resetAck ack => ack

/-- the length the packet takes in sequence space; only asked of packets read from a tunnel -/
def getSegmentLength : Header → U32
  | received _ _ _ _ _ _ _ len => len
  | _ => 0

def setFinFlag : Header → Bool → Header
  | received s a r _ p seq ack len, f => received s a r f p seq ack len
  | normal seq ack _, f => normal seq ack f
  | h, _ => h

/-- the header was read, and not formed since -/
def isReceived : Header → Bool
  | received _ _ _ _ _ _ _ _ => true
  | _ => false

/-- The sender's numbers are shifted by `ks` and the other side's by `kr`; a header that was read
comes from the other side, and has an acknowledgement number only with its ACK flag. -/
def shift (ks kr : U32) : Header → Header
  | received s a r f p seq ack len =>
    received s a r f p (seq + kr) (if a then ack + ks else ack) len
  | syn seq ack => syn (seq + ks) (ack + kr)
  | normal seq ack f => normal (seq + ks) (ack + kr) f
  | resetSeq seq => resetSeq (seq + ks)
  | resetAck ack => resetAck (ack + kr)

section
variable (ks kr : U32) (h : Header)

@[simp] theorem isSyn_shift : (h.shift ks kr).isSyn = h.isSyn := by cases h <;> rfl
@[simp] theorem isAck_shift : (h.shift ks kr).isAck = h.isAck := by cases h <;> rfl
@[simp] theorem isReset_shift : (h.shift ks kr).isReset = h.isReset := by cases h <;> rfl
@[simp] theorem isFin_shift : (h.shift ks kr).isFin = h.isFin := by cases h <;> rfl
@[simp] theorem isPush_shift : (h.shift ks kr).isPush = h.isPush := by cases h <;> rfl
@[simp] theorem getSegmentLength_shift : (h.shift ks kr).getSegmentLength = h.getSegmentLength := by
  cases h <;> rfl
@[simp] theorem isReceived_shift : (h.shift ks kr).isReceived = h.isReceived := by cases h <;> rfl
theorem setFinFlag_shift (f : Bool) :
    (h.shift ks kr).setFinFlag f = (h.setFinFlag f).shift ks kr := by cases h <;> rfl

end

section
variable {ks kr : U32} {h : Header}

theorem getSequenceNumber_shift (hr : h.isReceived = true) :
    (h.shift ks kr).getSequenceNumber = h.getSequenceNumber + kr := by
  cases h with
  | received => rfl
  | _ => cases hr

theorem getAcknowledgmentNumber_shift (hr : h.isReceived = true) (ha : h.isAck = true) :
    (h.shift ks kr).getAcknowledgmentNumber = h.getAcknowledgmentNumber + ks := by
  cases h with
  | received => exact if_pos ha
  | _ => cases hr

end

end Header

end TunServer
