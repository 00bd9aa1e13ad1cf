import TunServer.Base.Memory
import TunServer.Base.Word
import TunServer.Packets.Header

/-!
# The connection fetcher

A thread of its own asks the server for connection requests again and again: it updates its public
address, performs a request, parses the response and hands the connections to a callback.

* `ResponseData`, `reader`, `receive`   the buffer that the chunks of a response are put in;
* `Library`     what the repository takes from other libraries: the JSON document and the addresses;
* `St`          the fetcher, its thread's variables and the callbacks that were called;
* `attempt`     one turn of the loop of `fetchConnections`;
* `step`        a turn, or a call of the class from outside between two turns.
-/

set_option linter.unusedVariables false

namespace TunServer.Connection

/-- an access outside the allocation, or memory that cannot be had (`exitWithError`) -/
inductive Fault where
  | outside
  | noMemory
  deriving DecidableEq, Repr

/-! ## the response buffer -/

/-- `size` is what is allocated behind `buf`. -/
structure ResponseData where
  buf : Mem Byte
  size : Nat
  len : Nat
  ind : Nat

/-- The initializer of `buf` reads `len` before `len` has its value, so that the size of the first
allocation is as open as its contents. -/
def ResponseData.new (buf : Mem Byte) (size : Nat) : ResponseData := ⟨buf, size, 1000, 0⟩

/-- a call of `reader`: the bytes it is given, and the memory that a reallocation would get, if any -/
structure Chunk where
  bytes : List Byte
  fresh : Option (Mem Byte)

/-- The first half of `reader`.  A reallocation keeps the bytes there were. -/
def makeRoom (r : ResponseData) (c : Chunk) : Except Fault ResponseData :=
  if r.len - r.ind < c.bytes.length then
    let len := r.len + c.bytes.length
    match c.fresh with
    | some fresh => .ok { r with
        buf := fun k => if k < min r.size len then r.buf k else fresh k
        size := len
        len := len }
    | none => .error .noMemory
  else .ok r

/-- `::memcpy(responseData->buf, buf, len)` -/
def copyIn (r : ResponseData) (c : Chunk) : Except Fault ResponseData :=
  if c.bytes.length ≤ r.size then .ok { r with buf := r.buf.write 0 c.bytes } else .error .outside

def reader (r : ResponseData) (c : Chunk) : Except Fault ResponseData :=
  makeRoom r c >>= fun r' => copyIn r' c

/-- the calls of `reader` during one request -/
def receive (r : ResponseData) (chunks : List Chunk) : Except Fault ResponseData :=
  runM reader r chunks

/-! ## what is parsed -/

/-- an entry of the `connections` of a response, by the fields that are read -/
structure Entry (J : Type*) where
  clientId : J
  addr : J
  port : J

/-- the keys that are looked up; `none` is a key that the document does not have -/
structure Document (J : Type*) where
  id : Option J
  connections : Option (List (Entry J))

/-- JSON values and addresses.  `deserializeJson` gets the bytes of the allocation and writes in them,
`none` is a read behind the last; a conversion or an address that is `none` throws. -/
structure Library (J : Type*) where
  deserializeJson : List Byte → Option (Document J × Mem Byte)
  asUnsigned : J → U32
  asLong : J → Option Int
  asString : J → Option String
  asInt : J → Option Int
  initializeAddr : String → Int → Option SockAddr

structure ConnectRequest where
  id : U32
  addr : SockAddr
  deriving DecidableEq, Repr

/-! ## the fetcher -/

/-- a callback that was called -/
inductive Event where
  | onRequest (result : List ConnectRequest)
  | onError
  deriving DecidableEq, Repr

def MAX_RETRY : U32 := 5

/-- `url` is the id and the address that were last put in the address of the request. -/
structure Data where
  id : U32 := 0
  publicAddr : Option SockAddr := none
  url : Option (U32 × Option SockAddr) := none
  started : Bool := false
  shouldRun : Bool := false
  retryCount : U32 := 0
  maxRetries : U32 := MAX_RETRY

/-- the fetcher with the variables of its thread; times are in nanoseconds -/
structure St where
  data : Data := {}
  responseData : ResponseData
  lastTimeUpdatedAddress : Int := 0
  log : List Event := []

def STUN_INTERVAL : Int := 5000000000

def updateURL (d : Data) : Data := { d with url := some (d.id, d.publicAddr) }

/-- what a turn of the loop meets: the clock, the public address and the clock behind it, the chunks of
the response and how the request ended -/
structure Attempt where
  now : Int
  address : Option SockAddr
  updated : Int
  chunks : List Chunk
  performed : Bool
  httpCode : Int

def updateAddress (s : St) (a : Attempt) : St × Bool :=
  match a.address with
  | none => (s, false)
  | some res =>
    let s := { s with lastTimeUpdatedAddress := a.updated }
    if some res ≠ s.data.publicAddr then
      ({ s with data := updateURL { s.data with publicAddr := some res } }, true)
    else (s, true)

def stop (d : Data) : Data := { d with shouldRun := false }

/-- the end of a turn that failed, the same behind both failures -/
def retry (s : St) : St :=
  if s.data.retryCount = s.data.maxRetries then
    { s with data := stop { s.data with retryCount := 0 }, log := s.log ++ [.onError] }
  else { s with data := { s.data with retryCount := s.data.retryCount + 1 } }

section
variable {J : Type*} (L : Library J)

/-- the `id` of a response -/
def storeId (d : Data) (doc : Document J) : Data :=
  match doc.id with
  | none => d
  | some j => if L.asUnsigned j ≠ d.id then updateURL { d with id := L.asUnsigned j } else d

/-- The body of the `try`: the request that is pushed, `none` where it goes on with the next entry. -/
def connectRequest (d : Data) (conn : Entry J) : Option ConnectRequest := do
  let clientId ← L.asLong conn.clientId
  if clientId < 1 then none
  else
    let addrName ← L.asString conn.addr
    let port ← L.asInt conn.port
    if port < 1 ∨ port > 65535 then none
    else
      let addr ← L.initializeAddr addrName port
      return { id := d.id, addr := addr }

/-- the loop over the connections -/
def collect (d : Data) : List (Entry J) → List ConnectRequest → List ConnectRequest
  | [], result => result
  | conn :: conns, result =>
    match connectRequest L d conn with
    | none => collect d conns result
    | some r => collect d conns (result ++ [r])

/-- a parsed response -/
def process (s : St) (doc : Document J) : St :=
  let s := { s with data := storeId L s.data doc }
  match doc.connections with
  | none => s
  | some conns =>
    let result := collect L s.data conns []
    if result ≠ [] then { s with log := s.log ++ [.onRequest result] } else s

/-- the public address, where it is time for it -/
def checkAddress (s : St) (a : Attempt) : St × Bool :=
  if a.now - s.lastTimeUpdatedAddress ≥ STUN_INTERVAL then updateAddress s a else (s, true)

/-- One turn of the loop. -/
def attempt (s : St) (a : Attempt) : Except Fault St :=
  let u := checkAddress s a
  if u.2 = false then .ok (retry u.1)
  else do
    let r ← receive { u.1.responseData with ind := 0 } a.chunks
    let s := { u.1 with responseData := r }
    if a.performed = false ∨ a.httpCode ≠ 200 then .ok (retry s)
    else
      match L.deserializeJson (r.buf.read 0 r.size) with
      | none => .error .outside
      | some (doc, buf) =>
        let s := process L { s with responseData := { r with buf := buf } } doc
        .ok { s with data := { s.data with retryCount := 0 } }

/-- What happens between two turns, and a turn.  A thread that starts has variables of its own. -/
inductive Op where
  | setMaximumRetries (count : U32)
  | start (buf : Mem Byte) (size : Nat)
  | stop
  | attempt (a : Attempt)
  | leave

def step (s : St) : Op → Except Fault St
  | .setMaximumRetries count => .ok { s with data := { s.data with maxRetries := count } }
  | .start buf size =>
    if s.data.started = false then
      .ok { s with
        data := { s.data with started := true, shouldRun := true }
        responseData := .new buf size
        lastTimeUpdatedAddress := 0 }
    else .ok s
  | .stop => .ok { s with data := stop s.data }
  | .attempt a => if s.data.started ∧ s.data.shouldRun then attempt L s a else .ok s
  | .leave =>
    if s.data.started ∧ s.data.shouldRun = false then
      .ok { s with data := { s.data with started := false } }
    else .ok s

end

end TunServer.Connection
