import TunServer.Base.Checksum
import TunServer.Base.Memory
import TunServer.Base.Word

/-!
# `TCPRaw.c`: the packets of a raw socket

The headers are structures whose members are written in the order of the machine, which is little
endian; members in network order are converted before.

* `checksum`           the sum of the words of a buffer, folded and inverted;
* `IpHdr`, `TcpHdr`, `PseudoHeader`   the headers, with their bytes;
* `create_packet`      what the three functions that create a packet do alike;
* `read_seq_and_ack`, `receive_from`   what is read of a packet that arrives.

What `rand` draws comes with the calls.  The lines that are printed are left out.
-/

set_option linter.unusedVariables false

namespace TunServer.Raw

def DATAGRAM_LEN : Nat := 4096
def OPT_SIZE : Nat := 20
def IPPROTO_TCP : U8 := 6

/-! ## words in memory -/

def store16 (v : U16) : List Byte := [v.extractLsb' 0 8, v.extractLsb' 8 8]

def store32 (v : U32) : List Byte :=
  [v.extractLsb' 0 8, v.extractLsb' 8 8, v.extractLsb' 16 8, v.extractLsb' 24 8]

def htons (v : U16) : U16 := v.extractLsb' 0 8 ++ v.extractLsb' 8 8

def htonl (v : U32) : U32 :=
  v.extractLsb' 0 8 ++ v.extractLsb' 8 8 ++ v.extractLsb' 16 8 ++ v.extractLsb' 24 8

def ntohl (v : U32) : U32 := htonl v

/-! ## the checksum -/

/-- the first loop, and the byte that is left -/
def accumulate : U32 → List Byte → U32
  | sum, [] => sum
  | sum, [a] => sum + a.setWidth 32
  | sum, a :: b :: l => accumulate (sum + (b ++ a).setWidth 32) l

/-- The second loop, for so many turns.  Two are enough (`fold_settled`). -/
def fold : Nat → U32 → U32
  | 0, sum => sum
  | turns + 1, sum => if sum >>> 16 = 0 then sum else fold turns ((sum &&& (0xFFFF : U32)) + sum >>> 16)

def checksum (buf : List Byte) : U16 := ~~~ (fold 2 (accumulate 0 buf)).setWidth 16

/-! ## headers -/

structure SockaddrIn where
  sin_port : U16
  s_addr : U32
  deriving DecidableEq, Repr

structure IpHdr where
  ihl : BitVec 4
  version : BitVec 4
  tos : U8
  tot_len : U16
  id : U16
  frag_off : U16
  ttl : U8
  protocol : U8
  check : U16
  saddr : U32
  daddr : U32
  deriving DecidableEq, Repr

/-- up to `check` -/
def IpHdr.front (h : IpHdr) : List Byte :=
  [h.version ++ h.ihl, h.tos] ++ store16 h.tot_len ++ store16 h.id ++ store16 h.frag_off ++
    [h.ttl, h.protocol]

def IpHdr.bytes (h : IpHdr) : List Byte :=
  h.front ++ store16 h.check ++ store32 h.saddr ++ store32 h.daddr

structure TcpHdr where
  source : U16
  dest : U16
  seq : U32
  ack_seq : U32
  res1 : BitVec 4
  doff : BitVec 4
  fin : BitVec 1
  syn : BitVec 1
  rst : BitVec 1
  psh : BitVec 1
  ack : BitVec 1
  urg : BitVec 1
  res2 : BitVec 2
  window : U16
  check : U16
  urg_ptr : U16
  deriving DecidableEq, Repr

/-- up to `check` -/
def TcpHdr.front (h : TcpHdr) : List Byte :=
  store16 h.source ++ store16 h.dest ++ store32 h.seq ++ store32 h.ack_seq ++
    [h.doff ++ h.res1, h.res2 ++ h.urg ++ h.ack ++ h.psh ++ h.rst ++ h.syn ++ h.fin] ++ store16 h.window

def TcpHdr.bytes (h : TcpHdr) : List Byte := h.front ++ store16 h.check ++ store16 h.urg_ptr

structure PseudoHeader where
  source_address : U32
  dest_address : U32
  placeholder : U8
  protocol : U8
  tcp_length : U16
  deriving DecidableEq, Repr

def PseudoHeader.bytes (h : PseudoHeader) : List Byte :=
  store32 h.source_address ++ store32 h.dest_address ++ [h.placeholder, h.protocol] ++ store16 h.tcp_length

/-! ## the packets -/

/-- the header of a packet with `data_len` bytes of data, before its checksum; `r` is drawn by `rand` -/
def ipHeader (src dst : SockaddrIn) (data_len : Nat) (r : U32) : IpHdr where
  ihl := 5
  version := 4
  tos := 0
  tot_len := BitVec.ofNat 16 (20 + 20 + OPT_SIZE + data_len)
  id := (htonl (r % 65535)).setWidth 16
  frag_off := 0
  ttl := 64
  protocol := IPPROTO_TCP
  check := 0
  saddr := src.s_addr
  daddr := dst.s_addr

/-- a header with no flag set, before its checksum -/
def tcpHeader (src dst : SockaddrIn) (seq ack_seq : U32) : TcpHdr where
  source := src.sin_port
  dest := dst.sin_port
  seq := htonl seq
  ack_seq := htonl ack_seq
  res1 := 0
  doff := 10
  fin := 0
  syn := 0
  rst := 0
  psh := 0
  ack := 0
  urg := 0
  res2 := 0
  window := htons 5840
  check := 0
  urg_ptr := 0

def pseudoHeader (src dst : SockaddrIn) (data_len : Nat) : PseudoHeader where
  source_address := src.s_addr
  dest_address := dst.s_addr
  placeholder := 0
  protocol := IPPROTO_TCP
  tcp_length := htons (BitVec.ofNat 16 (20 + OPT_SIZE + data_len))

/-- The checksum of the TCP header is taken first, and the one of the IP header over the whole packet. -/
def create_packet (src dst : SockaddrIn) (tcph : TcpHdr) (r : U32) (options data : List Byte) : List Byte :=
  let iph := ipHeader src dst data.length r
  let pseudogram := (pseudoHeader src dst data.length).bytes ++ (tcph.bytes ++ options ++ data)
  let tcph := { tcph with check := checksum pseudogram }
  let iph := { iph with check := checksum (iph.bytes ++ (tcph.bytes ++ options ++ data)) }
  iph.bytes ++ (tcph.bytes ++ options ++ data)

/-- the options of a packet that sets none -/
def noOptions : List Byte := List.replicate OPT_SIZE 0

/-- the segment size, and that selective acknowledgements are understood -/
def synOptions : List Byte :=
  [0x02, 0x04] ++ store16 (htons 1460) ++ [0x04, 0x02] ++ List.replicate 14 0

def create_syn_packet (src dst : SockaddrIn) (r r' : U32) : List Byte :=
  create_packet src dst { tcpHeader src dst (r' % 4294967295) 0 with syn := 1 } r synOptions []

def create_ack_packet (src dst : SockaddrIn) (seq ack_seq r : U32) : List Byte :=
  create_packet src dst { tcpHeader src dst seq ack_seq with ack := 1 } r noOptions []

/-- the data do not fit behind the headers: nothing is said of what happens then -/
def create_data_packet (src dst : SockaddrIn) (seq ack_seq : U32) (data : List Byte) (r : U32) :
    Option (List Byte) :=
  if 20 + 20 + OPT_SIZE + data.length ≤ DATAGRAM_LEN then
    some (create_packet src dst { tcpHeader src dst seq ack_seq with psh := 1, ack := 1 } r noOptions data)
  else none

/-! ## what arrives -/

def load16 (m : Mem Byte) (a : Nat) : U16 := m (a + 1) ++ m a
def load32 (m : Mem Byte) (a : Nat) : U32 := m (a + 3) ++ m (a + 2) ++ m (a + 1) ++ m a

def read_seq_and_ack (packet : Mem Byte) : U32 × U32 := (ntohl (load32 packet 24), ntohl (load32 packet 28))

/-- Each `recvfrom` gives a packet, or fails (`none`).  The result is what is returned, with the buffer as
it is then; `none` when there was no more answer.  A packet leaves what it does not reach of the buffer. -/
def receive_from (buffer_length : Nat) (dst : SockaddrIn) :
    Mem Byte → List (Option (List Byte)) → Option (Int × Mem Byte)
  | _, [] => none
  | buffer, none :: _ => some (-1, buffer)
  | buffer, some packet :: answers =>
    let received := packet.take buffer_length
    let buffer := buffer.write 0 received
    if load16 buffer 22 = dst.sin_port then some (received.length, buffer)
    else receive_from buffer_length dst buffer answers

end TunServer.Raw
