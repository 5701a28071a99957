import HakoniwaBridge.Transfer

/-!
# Connections

`BridgeConnection` of `bridge_connection.cpp`: it owns its transfers (`unique_ptr`s, here the
objects themselves, in order), hands its epoch and validation flag to each transfer it takes over,
and runs their cyclic triggers while it is active.

`refs` lists the owned objects, and `without refs` is the connection without some of them: what
every removal amounts to once no object is owned twice (`removeTransferPdu_fst`).
-/

namespace HakoniwaBridge

/-- Source: `bridge_connection.hpp`, `BridgeConnection`; a null source endpoint is `none`. -/
structure BridgeConnection where
  nodeId : String
  connectionId : String
  srcEndpoint : Option EndpointRef
  transferPdus : List ITransferPdu := []
  isActive : Bool := true
  epoch : UInt8 := 0
  epochValidation : Bool

variable {ε : Type}

namespace BridgeConnection

/-- The fields that the constructor of a connection sets and nothing changes. -/
def header (c : BridgeConnection) : String × String × Option EndpointRef × Bool :=
  (c.nodeId, c.connectionId, c.srcEndpoint, c.epochValidation)

/-- Source: `bridge_connection.cpp`, `BridgeConnection::add_transfer_pdu`. -/
def addTransferPdu (c : BridgeConnection) (pdu : ITransferPdu) : BridgeConnection :=
  { c with transferPdus :=
      c.transferPdus ++ [(pdu.setEpoch c.epoch).setEpochValidation c.epochValidation] }

/-- Source: `bridge_connection.cpp`, `BridgeConnection::add_monitor_transfer_pdu`. The raw pointer
handed back is the transfer's `self`. -/
def addMonitorTransferPdu (c : BridgeConnection) (pdu : ITransferPdu) : BridgeConnection :=
  { c with transferPdus :=
      c.transferPdus ++ [(pdu.setEpoch c.epoch).setEpochValidation c.epochValidation] }

/-- Source: `bridge_connection.cpp`, `BridgeConnection::remove_transfer_pdu`. -/
def removeTransferPdu (c : BridgeConnection) (transfer : Nat) : BridgeConnection × Bool :=
  if c.transferPdus.any fun t => t.self == transfer then
    ({ c with transferPdus := c.transferPdus.eraseP fun t => t.self == transfer }, true)
  else (c, false)

/-- Source: `bridge_connection.cpp`, `BridgeConnection::set_active`. -/
def setActive (c : BridgeConnection) (isActive : Bool) : BridgeConnection :=
  { c with isActive := isActive, transferPdus := c.transferPdus.map (·.setActive isActive) }

/-- Source: `bridge_connection.cpp`, `BridgeConnection::increment_epoch`; the addition wraps at
eight bits. -/
def incrementEpoch (c : BridgeConnection) : BridgeConnection :=
  { c with epoch := c.epoch + 1, transferPdus := c.transferPdus.map (·.setEpoch (c.epoch + 1)) }

/-- Source: `BridgeConnection::cyclic_trigger`, the loop over the transfers. -/
def triggerAll (E : Env ε) : List ITransferPdu → Host ε → Host ε × List Send
  | [], h => (h, [])
  | t :: ts, h =>
    ((triggerAll E ts (t.cyclicTrigger E h).1).1,
      (t.cyclicTrigger E h).2 ++ (triggerAll E ts (t.cyclicTrigger E h).1).2)

/-- Source: `bridge_connection.cpp`, `BridgeConnection::cyclic_trigger`. -/
def cyclicTrigger (E : Env ε) (c : BridgeConnection) (h : Host ε) : Host ε × List Send :=
  if c.isActive then triggerAll E c.transferPdus h else (h, [])

/-! ## Ownership -/

/-- The objects the connection owns, in order. -/
def refs (c : BridgeConnection) : List Nat := c.transferPdus.map ITransferPdu.self

/-- The connection without the transfers of `drop`. -/
def without (c : BridgeConnection) (drop : List Nat) : BridgeConnection :=
  { c with transferPdus := c.transferPdus.filter fun t => !decide (t.self ∈ drop) }

@[simp] theorem refs_addTransferPdu (c : BridgeConnection) (t : ITransferPdu) :
    (c.addTransferPdu t).refs = c.refs ++ [t.self] := by
  simp [refs, addTransferPdu]

@[simp] theorem refs_without (c : BridgeConnection) (drop : List Nat) :
    (c.without drop).refs = c.refs.filter fun r => !decide (r ∈ drop) := by
  simp [refs, without, List.filter_map, Function.comp_def]

/-- What is left are the transfers that are not dropped. -/
theorem mem_without {c : BridgeConnection} {drop : List Nat} {t : ITransferPdu} :
    t ∈ (c.without drop).transferPdus ↔ t ∈ c.transferPdus ∧ t.self ∉ drop := by
  simp [without]

/-- Nothing is dropped from a connection that owns none of the dropped objects. -/
theorem without_of_disjoint {c : BridgeConnection} {drop : List Nat}
    (h : ∀ r ∈ c.refs, r ∉ drop) : c.without drop = c := by
  have hkeep : c.transferPdus.filter (fun t => !decide (t.self ∈ drop)) = c.transferPdus :=
    List.filter_eq_self.2 fun t ht => by simpa using h t.self (List.mem_map_of_mem ht)
  simp only [without, hkeep]

@[simp] theorem without_nil (c : BridgeConnection) : c.without [] = c :=
  without_of_disjoint fun _ _ => List.not_mem_nil

/-- Two removals are one. -/
theorem without_without (c : BridgeConnection) (xs ys : List Nat) :
    (c.without xs).without ys = c.without (xs ++ ys) := by
  simp only [without, List.filter_filter, List.mem_append]
  congr 1
  apply List.filter_congr
  intro t _
  by_cases hx : t.self ∈ xs <;> by_cases hy : t.self ∈ ys <;> simp [hx, hy]

/-- Removing an object from a connection that owns no object twice. -/
theorem removeTransferPdu_fst {c : BridgeConnection} (h : c.refs.Nodup) (r : Nat) :
    (c.removeTransferPdu r).1 = c.without [r] := by
  unfold removeTransferPdu
  split_ifs with hmem
  · have herase : ∀ ts : List ITransferPdu, (ts.map ITransferPdu.self).Nodup →
        (ts.eraseP fun t => t.self == r) = ts.filter fun t => !decide (t.self ∈ [r]) := by
      intro ts
      induction ts with
      | nil => intro _; rfl
      | cons t ts ih =>
        intro hnd
        rw [List.map_cons, List.nodup_cons] at hnd
        by_cases ht : t.self = r
        · have hrest : ts.filter (fun t => !decide (t.self ∈ [r])) = ts := by
            apply List.filter_eq_self.2
            intro t' ht'
            have hne : t'.self ≠ r := fun h' => hnd.1 (by
              rw [ht, ← h']
              exact List.mem_map_of_mem ht')
            simpa using hne
          rw [List.eraseP_cons_of_pos (by simpa using ht), List.filter_cons_of_neg (by simp [ht]),
            hrest]
        · simp only [List.mem_singleton] at ih
          simp [ht, ih hnd.2]
    simp only [without, herase c.transferPdus h]
  · refine (without_of_disjoint fun r' hr' => ?_).symm
    obtain ⟨t, ht, rfl⟩ := List.mem_map.1 hr'
    intro hr
    exact hmem (List.any_eq_true.2 ⟨t, ht, by simpa using List.mem_singleton.1 hr⟩)

/-- The removal reports whether the transfer was there. -/
theorem removeTransferPdu_snd (c : BridgeConnection) (r : Nat) :
    (c.removeTransferPdu r).2 = decide (r ∈ c.refs) := by
  unfold removeTransferPdu
  split_ifs with hmem
  · obtain ⟨t, ht, hself⟩ := List.any_eq_true.1 hmem
    have hself' : t.self = r := by simpa using hself
    exact (decide_eq_true (hself' ▸ List.mem_map_of_mem ht)).symm
  · refine (decide_eq_false fun hr => hmem ?_).symm
    obtain ⟨t, ht, rfl⟩ := List.mem_map.1 hr
    exact List.any_eq_true.2 ⟨t, ht, by simp⟩

/-! ## What a cyclic trigger can do -/

/-- The triggers of transfers leave the registry and the counters as they are. -/
theorem triggerAll_sameBook (E : Env ε) (ts : List ITransferPdu) (h : Host ε) :
    Host.SameBook h (triggerAll E ts h).1 := by
  induction ts generalizing h with
  | nil => exact Host.SameBook.refl h
  | cons t ts ih => exact (t.cyclicTrigger_sameBook E h).trans (ih _)

/-- So does the trigger of a connection. -/
theorem cyclicTrigger_sameBook (E : Env ε) (c : BridgeConnection) (h : Host ε) :
    Host.SameBook h (c.cyclicTrigger E h).1 := by
  unfold cyclicTrigger
  split_ifs
  · exact triggerAll_sameBook E c.transferPdus h
  · exact Host.SameBook.refl h

/-- A send of a trigger loop is a send of a transfer of the loop with a cyclic policy. -/
theorem mem_triggerAll {E : Env ε} {ts : List ITransferPdu} {h : Host ε} {s : Send}
    (hs : s ∈ (triggerAll E ts h).2) :
    ∃ t ∈ ts, ITransferPdu.Sent E t s ∧ (h.policies t.policy).isCyclicTrigger = true := by
  induction ts generalizing h with
  | nil => simp [triggerAll] at hs
  | cons t ts ih =>
    rcases List.mem_append.1 hs with hs | hs
    · exact ⟨t, List.mem_cons_self, ITransferPdu.sent_of_cyclicTrigger hs⟩
    · obtain ⟨t', ht', hsent, hcyclic⟩ := ih hs
      refine ⟨t', List.mem_cons_of_mem _ ht', hsent, ?_⟩
      rw [← (t.cyclicTrigger_sameBook E h).cyclic]
      exact hcyclic

/-- A send of a connection's cyclic trigger needs an active connection. -/
theorem mem_cyclicTrigger {E : Env ε} {c : BridgeConnection} {h : Host ε} {s : Send}
    (hs : s ∈ (c.cyclicTrigger E h).2) :
    c.isActive = true ∧ ∃ t ∈ c.transferPdus, ITransferPdu.Sent E t s ∧
      (h.policies t.policy).isCyclicTrigger = true := by
  unfold cyclicTrigger at hs
  split_ifs at hs with hactive
  · exact ⟨hactive, mem_triggerAll hs⟩
  · simp at hs

end BridgeConnection

end HakoniwaBridge
