import HakoniwaBridge.Types

/-!
# What the bridge uses of the endpoint library

`Endpoint`, `EndpointContainer`, the time source and `hako_pdu_get_epoch` are not part of the
repository. They are the parameter `Env ε` of the whole development: `ε` is the state of
everything outside the bridge, and every call may change it. Nothing is assumed of it unless a
theorem names the assumption.

`CacheSpec.env` is the instance that the statements about source caches use: per endpoint and
channel a cache in one of the two modes of the repository's configurations. In mode `latest`
a reception replaces the stored PDU and `recv` leaves it; in mode `queue` a reception appends to
the entries and `recv` removes the oldest.
-/

namespace HakoniwaBridge

/-- The calls the bridge makes outside the repository, over the outside state `ε`.
`recv` yields an error or the bytes received (of any length); the bridge hands over a buffer of
the given size. `deliver` is the arrival of a PDU at an endpoint, before its callbacks run.
`errorCode` is the numeric value of an error. -/
structure Env (ε : Type) where
  getPduChannelId : EndpointRef → PduKey → Int
  getPduName : EndpointRef → PduResolvedKey → String
  getPduSize : EndpointRef → PduKey → Nat
  recv : EndpointRef → ApiKey → Nat → ε → ε × Except HakoPduErrorType Bytes
  isRunning : EndpointRef → ε → HakoPduErrorType × Bool
  send : EndpointRef → ApiKey → Bytes → ε → ε × HakoPduErrorType
  processRecvEvents : EndpointRef → ε → ε
  deliver : EndpointRef → PduResolvedKey → Bytes → ε → ε
  stop : EndpointRef → ε → ε
  close : EndpointRef → ε → ε
  getMicroseconds : ε → ε × UInt64
  hakoPduGetEpoch : Bytes → Option UInt8
  errorCode : HakoPduErrorType → Int

/-- The transfer buffer of `size` zero bytes after `recv` wrote the received bytes into it. -/
def fillBuffer (size : Nat) (received : Bytes) : Bytes :=
  received.take size ++ List.replicate (size - received.length) 0

/-- The buffer is what was received just when that fills it. -/
theorem fillBuffer_eq_iff {size : Nat} {received : Bytes} :
    fillBuffer size received = received ↔ received.length = size := by
  constructor
  · intro h
    have hlen := congrArg List.length h
    simp only [fillBuffer, List.length_append, List.length_take, List.length_replicate] at hlen
    omega
  · intro h
    have htake : received.take size = received := List.take_of_length_le (by omega)
    have hpad : size - received.length = 0 := by omega
    rw [fillBuffer, htake, hpad, List.replicate_zero, List.append_nil]

/-- A buffer of the length of the received bytes holds just these. -/
theorem fillBuffer_length (data : Bytes) : fillBuffer data.length data = data :=
  fillBuffer_eq_iff.2 rfl

/-! ## Source caches -/

/-- The two store modes of the repository's cache configurations. -/
inductive CacheMode
  | latest
  | queue
  deriving DecidableEq

/-- The static part of a cache environment: the PDU definitions, the modes, how a stored PDU is
read into a buffer of a given size (`load`), what a bounded queue keeps when a PDU is appended
(`push`), and the answers of the destinations. -/
structure CacheSpec where
  getPduChannelId : EndpointRef → PduKey → Int
  getPduName : EndpointRef → PduResolvedKey → String
  getPduSize : EndpointRef → PduKey → Nat
  mode : EndpointRef → CacheMode
  load : Nat → Bytes → Except HakoPduErrorType Bytes
  push : List Bytes → Bytes → List Bytes
  running : EndpointRef → HakoPduErrorType × Bool
  sendResult : EndpointRef → ApiKey → Bytes → HakoPduErrorType
  hakoPduGetEpoch : Bytes → Option UInt8
  errorCode : HakoPduErrorType → Int

/-- The moving part: the entries of each cache, oldest first, and the clock. -/
structure CacheState where
  cells : EndpointRef → PduResolvedKey → List Bytes
  clock : UInt64

namespace CacheSpec

variable (C : CacheSpec)

/-- The channel-form key that an API key addresses on an endpoint. -/
def resolve (ep : EndpointRef) : ApiKey → PduResolvedKey
  | .named k => ⟨k.robot, C.getPduChannelId ep k⟩
  | .resolved k => k

/-- Replace the entries of one cache. -/
def setCell (ep : EndpointRef) (key : PduResolvedKey) (entries : List Bytes)
    (e : CacheState) : CacheState :=
  { e with cells := Function.update e.cells ep (Function.update (e.cells ep) key entries) }

@[simp] theorem setCell_same (ep : EndpointRef) (key : PduResolvedKey) (entries : List Bytes)
    (e : CacheState) : (setCell ep key entries e).cells ep key = entries := by
  simp [setCell]

/-- The arrival of a PDU: it replaces the stored value, or is appended. -/
def deliver (ep : EndpointRef) (key : PduResolvedKey) (data : Bytes) (e : CacheState) :
    CacheState :=
  match C.mode ep with
  | .latest => setCell ep key [data] e
  | .queue => setCell ep key (C.push (e.cells ep key) data) e

/-- `recv`: reads the oldest entry (the only one in mode `latest`), and removes it in mode
`queue`. It fails on an empty cache. The clock shows `after` from then on, if that is given:
the time that passes while a PDU is being transferred. -/
def recv (after : Option UInt64) (ep : EndpointRef) (key : ApiKey) (size : Nat)
    (e : CacheState) : CacheState × Except HakoPduErrorType Bytes :=
  match e.cells ep (C.resolve ep key) with
  | [] => ({ e with clock := after.getD e.clock }, .error .noEntry)
  | data :: rest =>
    match C.mode ep with
    | .latest => ({ e with clock := after.getD e.clock }, C.load size data)
    | .queue =>
      ({ setCell ep (C.resolve ep key) rest e with clock := after.getD e.clock },
        C.load size data)

/-- The cache environment. -/
def env (after : Option UInt64) : Env CacheState where
  getPduChannelId := C.getPduChannelId
  getPduName := C.getPduName
  getPduSize := C.getPduSize
  recv := C.recv after
  isRunning ep _ := C.running ep
  send ep key data e := (e, C.sendResult ep key data)
  processRecvEvents _ e := e
  deliver := C.deliver
  stop _ e := e
  close _ e := e
  getMicroseconds e := (e, e.clock)
  hakoPduGetEpoch := C.hakoPduGetEpoch
  errorCode := C.errorCode

@[simp] theorem env_recv (after : Option UInt64) : (C.env after).recv = C.recv after := rfl
@[simp] theorem env_getPduSize (after : Option UInt64) :
    (C.env after).getPduSize = C.getPduSize := rfl
@[simp] theorem env_send (after : Option UInt64) (ep : EndpointRef) (key : ApiKey) (data : Bytes)
    (e : CacheState) : (C.env after).send ep key data e = (e, C.sendResult ep key data) := rfl
@[simp] theorem env_isRunning (after : Option UInt64) (ep : EndpointRef) (e : CacheState) :
    (C.env after).isRunning ep e = C.running ep := rfl

/-- What `recv` reads. -/
def stored (ep : EndpointRef) (key : ApiKey) (size : Nat) (e : CacheState) :
    Except HakoPduErrorType Bytes :=
  match e.cells ep (C.resolve ep key) with
  | [] => .error .noEntry
  | data :: _ => C.load size data

/-- In mode `latest` a `recv` moves the clock and nothing else. -/
theorem recv_eq_of_latest {ep : EndpointRef} (h : C.mode ep = .latest) (after : Option UInt64)
    (key : ApiKey) (size : Nat) (e : CacheState) :
    C.recv after ep key size e =
      ({ e with clock := after.getD e.clock }, C.stored ep key size e) := by
  unfold recv stored
  cases e.cells ep (C.resolve ep key) <;> simp [h]

/-- With no time passing it leaves the environment alone. -/
theorem recv_latest {ep : EndpointRef} (h : C.mode ep = .latest) (key : ApiKey) (size : Nat)
    (e : CacheState) : (C.recv none ep key size e).1 = e := by
  rw [C.recv_eq_of_latest h]
  rfl

/-- A small instance: the PDUs `pos` (channel 1) and `vel` (channel 2) of every robot, of two
bytes each, the first of which is the epoch. -/
def small (mode : CacheMode) : CacheSpec where
  getPduChannelId _ key := if key.pdu = "pos" then 1 else if key.pdu = "vel" then 2 else -1
  getPduName _ key := if key.channelId = 1 then "pos" else if key.channelId = 2 then "vel" else ""
  getPduSize _ key := if key.pdu = "pos" ∨ key.pdu = "vel" then 2 else 0
  mode _ := mode
  load size data := if data.length ≤ size then .ok data else .error (.other 1)
  push entries data := entries ++ [data]
  running _ := (.ok, true)
  sendResult _ _ _ := .ok
  hakoPduGetEpoch data := data.head?
  errorCode _ := 1

end CacheSpec

/-- Empty caches at time 0. -/
def CacheState.empty : CacheState where
  cells _ _ := []
  clock := 0

end HakoniwaBridge
