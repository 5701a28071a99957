import HakoniwaBridge.Builder
import HakoniwaBridge.Lib.Machine

/-!
# One transfer under timed receptions

A `Link` is a connection and the host around it, seen from one of its transfers: the one at
position `i`. Its runs are made of the PDUs that arrive at the transfer's source, each with the
time of its arrival and the time when it was read, and of epoch increments. Over source caches.

* `Heard` — the record of a reception that ran the transfer's callback: the key, the time of the
  sends, and the sends.
* `Link.single`, `Link.group` — a transfer just made and handed to a connection.
-/

namespace HakoniwaBridge

open Lib

/-- A connection with the host around it. -/
structure Link where
  host : Host CacheState
  connection : BridgeConnection

/-- A PDU arrives, or the ownership of the connection changes. -/
inductive LinkOp
  | reception (key : PduResolvedKey) (arrival done : UInt64) (data : Bytes)
  | incrementEpoch

/-- What a reception made the transfer do. -/
structure Heard where
  key : PduResolvedKey
  time : UInt64
  sends : List Send
  deriving DecidableEq

/-- The transfer's constructor has registered its callback for this key of its source. -/
def ITransferPdu.hears (t : ITransferPdu) (key : PduResolvedKey) : Bool :=
  match t.body with
  | .transferPdu _ resolvedKey => decide (key = resolvedKey)
  | .transferAtomicPduGroup keys => decide (key ∈ keys)

namespace Link

variable (C : CacheSpec)

/-- The host when a PDU has arrived at the transfer's source. -/
def deliver (t : ITransferPdu) (key : PduResolvedKey) (arrival : UInt64) (data : Bytes)
    (h : Host CacheState) : Host CacheState :=
  { h with env := C.deliver t.srcEndpoint key data { h.env with clock := arrival } }

/-- One operation, for the transfer at position `i`. -/
def step (i : Nat) (s : Link) (op : LinkOp) : Link × List Heard :=
  match op with
  | .reception key arrival done data =>
    match s.connection.transferPdus[i]? with
    | some t =>
      let h := deliver C t key arrival data s.host
      if t.hears key then
        ({ s with host := (t.onRecvCallback (C.env (some done)) key h).1 },
          [⟨key, done, (t.onRecvCallback (C.env (some done)) key h).2⟩])
      else ({ s with host := h }, [])
    | none => (s, [])
  | .incrementEpoch => ({ s with connection := s.connection.incrementEpoch }, [])

/-- A connection that takes over a new `TransferPdu`. -/
def single (key : BridgePduKey) (policy : Policy) (src dst : EndpointRef) (c : BridgeConnection)
    (h : Host CacheState) : Link :=
  let p := h.newPolicy policy
  let t := newTransferPdu (C.env none) key p.1 src dst p.2
  ⟨t.2, c.addTransferPdu t.1⟩

/-- A connection for which `build` makes an atomic group. -/
def group (keys : List BridgePduKey) (src dst : EndpointRef) (c : BridgeConnection)
    (h : Host CacheState) : Link :=
  let s := Builder.addGroup (C.env none) keys src dst (c, h)
  ⟨s.2, s.1⟩

/-- A validating connection, of epoch 0, without transfers. -/
def validating : BridgeConnection where
  nodeId := "node"
  connectionId := "conn"
  srcEndpoint := some (.container "src")
  epochValidation := true

/-- A reception on a key that the transfer hears. -/
theorem step_heard {i : Nat} {s : Link} {t : ITransferPdu}
    (hget : s.connection.transferPdus[i]? = some t) {key : PduResolvedKey}
    (hhears : t.hears key = true) (arrival done : UInt64) (data : Bytes) :
    step C i s (.reception key arrival done data) =
      ({ s with host :=
          (t.onRecvCallback (C.env (some done)) key (deliver C t key arrival data s.host)).1 },
        [⟨key, done, (t.onRecvCallback (C.env (some done)) key
          (deliver C t key arrival data s.host)).2⟩]) := by
  simp only [step, hget, hhears, if_true]

/-- A reception on any other key. -/
theorem step_unheard {i : Nat} {s : Link} {t : ITransferPdu}
    (hget : s.connection.transferPdus[i]? = some t) {key : PduResolvedKey}
    (hhears : t.hears key = false) (arrival done : UInt64) (data : Bytes) :
    step C i s (.reception key arrival done data) =
      ({ s with host := deliver C t key arrival data s.host }, []) := by
  simp only [step, hget, hhears, Bool.false_eq_true, if_false]

/-- The transfer after an increment. -/
theorem get_incrementEpoch {i : Nat} {c : BridgeConnection} {t : ITransferPdu}
    (hget : c.transferPdus[i]? = some t) :
    c.incrementEpoch.transferPdus[i]? = some (t.setEpoch (c.epoch + 1)) := by
  simp [BridgeConnection.incrementEpoch, hget]

/-- A PDU that arrived in mode `latest` is what the cache holds. -/
theorem cells_deliver {t : ITransferPdu} (hlatest : C.mode t.srcEndpoint = .latest)
    (key : PduResolvedKey) (arrival : UInt64) (data : Bytes) (h : Host CacheState) :
    (deliver C t key arrival data h).env.cells t.srcEndpoint key = [data] := by
  simp only [deliver, CacheSpec.deliver, hlatest]
  exact CacheSpec.setCell_same t.srcEndpoint key [data] _

theorem clock_deliver (t : ITransferPdu) (key : PduResolvedKey) (arrival : UInt64) (data : Bytes)
    (h : Host CacheState) : (deliver C t key arrival data h).env.clock = arrival := by
  simp only [deliver, CacheSpec.deliver]
  split <;> rfl

end Link

end HakoniwaBridge
