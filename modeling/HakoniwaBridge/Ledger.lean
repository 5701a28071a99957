import HakoniwaBridge.Run

/-!
# The session ledger

The sessions of a bridge are kept in three places: the two session tables of the runtime and the
transfer list of each connection. `LedgerInv b₀ n b` ties them together, where `b₀` is the bridge
before its first session and `n` the number of session ids issued since: each connection is that
of `b₀` followed by the transfers of the listed sessions on it, in the order of their attachment.
The `k`-th id is the numeral of a 64-bit counter, so ids repeat after `2 ^ 64` sessions
(`id_repeats`); up to that number `ledger_run` is the conservation law for whole runs.
-/

namespace HakoniwaBridge

open Lib

variable {ε : Type} {E : Env ε}

/-! ## Session ids -/

/-- The session ids among some observations. -/
def issued : List Event → List String :=
  List.filterMap fun
    | .issued id => some id
    | _ => none

@[simp] theorem issued_append (xs ys : List Event) : issued (xs ++ ys) = issued xs ++ issued ys :=
  List.filterMap_append

/-- The `k`-th session id, from 0 on. -/
def sessionIdOf (k : Nat) : String := "ms-" ++ toString ((k + 1) % 2 ^ 64)

/-- Printing a number loses nothing. -/
theorem repr_injective {m n : Nat} (h : Nat.repr m = Nat.repr n) : m = n := by
  have hchars := congrArg (fun s => Nat.ofDigitChars 10 s.toList 0) h
  simpa [Nat.toList_repr, Nat.ofDigitChars_toDigits] using hchars

/-- The first `2 ^ 64` ids differ. -/
theorem sessionIdOf_inj {j k : Nat} (hj : j < 2 ^ 64) (hk : k < 2 ^ 64)
    (h : sessionIdOf j = sessionIdOf k) : j = k := by
  have hrepr : (j + 1) % 2 ^ 64 = (k + 1) % 2 ^ 64 :=
    repr_injective (String.append_right_inj "ms-" |>.1 h)
  omega

theorem nodup_sessionIdOf {n : Nat} (hn : n ≤ 2 ^ 64) :
    ((List.range n).map sessionIdOf).Nodup := by
  refine List.Nodup.map_on (fun j hj k hk heq => ?_) List.nodup_range
  have hj' := List.mem_range.1 hj
  have hk' := List.mem_range.1 hk
  exact sessionIdOf_inj (by omega) (by omega) heq

/-- The counter after `n` sessions gives the `n`-th id. -/
theorem sessionIdOf_eq {rt : BridgeMonitorRuntime} {n : Nat}
    (h : rt.nextMonitorSessionId = UInt64.ofNat (n + 1)) :
    "ms-" ++ toString rt.nextMonitorSessionId.toNat = sessionIdOf n := by
  rw [h, UInt64.toNat_ofNat']
  rfl

/-! ## The tables -/

/-- Erasing a key of a list of distinct keys. -/
theorem kerase_eq_filter {β : String → Type} (key : String) {l : List (Sigma β)}
    (h : l.NodupKeys) : l.kerase key = l.filter fun s => !decide (s.1 = key) := by
  induction l with
  | nil => rfl
  | cons s l ih =>
    have hnd := List.nodupKeys_cons.1 h
    by_cases hs : s.1 = key
    · have hrest : l.filter (fun s => !decide (s.1 = key)) = l := by
        apply List.filter_eq_self.2
        intro s' hs'
        have hne : s'.1 ≠ key := by
          intro heq
          exact hnd.1 (by rw [hs, ← heq]; exact List.mem_map_of_mem hs')
        rw [decide_eq_false hne]
        rfl
      rw [List.kerase_cons_eq hs.symm, List.filter_cons_of_neg (by simp [hs]), hrest]
    · rw [List.kerase_cons_ne (Ne.symm hs), List.filter_cons_of_pos (by simp [hs]), ih hnd.2]

/-- Filtering what a list yields, when each element keeps all or nothing. -/
theorem filter_flatMap_of_split {α β : Type} {l : List α} {f : α → List β} {p : β → Bool}
    {q : α → Bool} (hkeep : ∀ a ∈ l, q a = true → ∀ x ∈ f a, p x = true)
    (hdrop : ∀ a ∈ l, q a = false → ∀ x ∈ f a, p x = false) :
    (l.flatMap f).filter p = (l.filter q).flatMap f := by
  induction l with
  | nil => rfl
  | cons a l ih =>
    have hrest := ih (fun a' ha' => hkeep a' (List.mem_cons_of_mem _ ha'))
      fun a' ha' => hdrop a' (List.mem_cons_of_mem _ ha')
    rw [List.flatMap_cons, List.filter_append, hrest]
    cases hq : q a with
    | true =>
      rw [List.filter_eq_self.2 (hkeep a List.mem_cons_self hq), List.filter_cons_of_pos hq,
        List.flatMap_cons]
    | false =>
      have hnone : (f a).filter p = [] :=
        List.filter_eq_nil_iff.2 fun x hx => by
          rw [hdrop a List.mem_cons_self hq x hx]
          exact Bool.false_ne_true
      rw [hnone, List.nil_append, List.filter_cons_of_neg (by simp [hq])]

namespace BridgeMonitorRuntime

/-- The monitor transfers of the listed sessions on the connection at position `i`, oldest
session first (a table keeps its newest entry at the front). -/
def listedTransfers (rt : BridgeMonitorRuntime) (core : BridgeCore) (i : Nat) : List Nat :=
  rt.monitorSessions.entries.reverse.flatMap fun s =>
    if core.findConnection s.2.connectionId = some i then rt.sessionTransfers s.1 else []

/-- When sessions leave the tables with their transfers, the transfers of the others stay listed. -/
theorem listedTransfers_remove {rt rt' : BridgeMonitorRuntime} {gone : String → Bool}
    {drop : List Nat} (hdrop : ∀ id r, r ∈ rt.sessionTransfers id → (gone id = true ↔ r ∈ drop))
    (hsessions : rt'.monitorSessions.entries =
      rt.monitorSessions.entries.filter fun s => !gone s.1)
    (htransfers : ∀ id, rt'.sessionTransfers id = if gone id then [] else rt.sessionTransfers id)
    (core : BridgeCore) (i : Nat) :
    rt'.listedTransfers core i =
      (rt.listedTransfers core i).filter fun r => !decide (r ∈ drop) := by
  unfold listedTransfers
  rw [hsessions, ← List.filter_reverse]
  have hsplit := @filter_flatMap_of_split _ _ rt.monitorSessions.entries.reverse
    (fun s => if core.findConnection s.2.connectionId = some i then
      rt.sessionTransfers s.1 else [])
    (fun r => !decide (r ∈ drop)) (fun s => !gone s.1) ?_ ?_
  · rw [hsplit]
    apply List.flatMap_congr
    intro s hs
    have hstay : gone s.1 = false := by
      have hs' := (List.mem_filter.1 hs).2
      simpa using hs'
    rw [htransfers, hstay]
    rfl
  · intro s _ hq r hr
    split_ifs at hr
    · have hnot : r ∉ drop := fun hin => by
        have hgone := (hdrop s.1 r hr).2 hin
        rw [hgone] at hq
        exact Bool.noConfusion hq
      rw [decide_eq_false hnot]
      rfl
    · exact absurd hr List.not_mem_nil
  · intro s _ hq r hr
    split_ifs at hr
    · have hgone : gone s.1 = true := by simpa using hq
      rw [decide_eq_true ((hdrop s.1 r hr).1 hgone)]
      rfl
    · exact absurd hr List.not_mem_nil

/-- A session with a new id is listed last, at its connection. -/
theorem listedTransfers_insertSession {rt : BridgeMonitorRuntime} (info : MonitorSessionInfo)
    (transfers : List Nat) (dst : Option EndpointRef) {sessionId : String}
    (hid : "ms-" ++ toString rt.nextMonitorSessionId.toNat = sessionId)
    (hnew : sessionId ∉ rt.monitorSessions) (htable : sessionId ∉ rt.monitorRuntimeSessions)
    (core : BridgeCore) (i : Nat) :
    (rt.insertSession info transfers dst).1.listedTransfers core i =
      rt.listedTransfers core i ++
        if core.findConnection info.connectionId = some i then transfers else [] := by
  obtain ⟨hsessions, htransfers, -⟩ := insertSession_new info transfers dst hid hnew htable
  have hentries := congrArg AList.entries hsessions
  rw [AList.entries_insert_of_notMem hnew] at hentries
  -- the sessions that were there keep their transfers
  have hrest : ∀ s ∈ rt.monitorSessions.entries.reverse,
      (if core.findConnection s.2.connectionId = some i then
        (rt.insertSession info transfers dst).1.sessionTransfers s.1 else []) =
      if core.findConnection s.2.connectionId = some i then rt.sessionTransfers s.1 else [] := by
    intro s hs
    have hne : s.1 ≠ sessionId := by
      intro heq
      have hs' := List.mem_reverse.1 hs
      exact hnew (heq ▸ AList.mem_keys.2 (List.mem_map_of_mem hs'))
    rw [htransfers, if_neg hne]
  unfold listedTransfers
  rw [hentries, List.reverse_cons, List.flatMap_append, List.flatMap_congr hrest,
    List.flatMap_singleton, htransfers, if_pos rfl]

/-- The tables after `n` session ids were issued. -/
structure Numbered (n : Nat) (rt : BridgeMonitorRuntime) : Prop where
  tables : ∀ id ∈ rt.monitorRuntimeSessions, id ∈ rt.monitorSessions
  ids : ∀ id ∈ rt.monitorSessions, ∃ k < n, id = sessionIdOf k
  counter : rt.nextMonitorSessionId = UInt64.ofNat (n + 1)

namespace Numbered

variable {n : Nat} {rt rt' : BridgeMonitorRuntime}

/-- The next session id is in neither table. -/
theorem fresh (h : rt.Numbered n) (hn : n < 2 ^ 64) :
    sessionIdOf n ∉ rt.monitorSessions ∧ sessionIdOf n ∉ rt.monitorRuntimeSessions := by
  have hnew : sessionIdOf n ∉ rt.monitorSessions := by
    intro hmem
    obtain ⟨k, hk, heq⟩ := h.ids _ hmem
    have hkn := sessionIdOf_inj hn (hk.trans hn) heq
    omega
  exact ⟨hnew, fun hmem => hnew (h.tables _ hmem)⟩

theorem congr (h : rt.Numbered n) (hsame : rt.SameTables rt') : rt'.Numbered n := by
  refine ⟨?_, ?_, hsame.nextMonitorSessionId.trans h.counter⟩
  · rw [hsame.monitorRuntimeSessions, hsame.monitorSessions]
    exact h.tables
  · rw [hsame.monitorSessions]
    exact h.ids

/-- Empty tables hold no id. -/
theorem of_empty (hsessions : rt.monitorSessions = ∅) (hruntime : rt.monitorRuntimeSessions = ∅)
    (hcounter : rt.nextMonitorSessionId = UInt64.ofNat (n + 1)) : rt.Numbered n := by
  refine ⟨fun id hid => ?_, fun id hid => ?_, hcounter⟩
  · rw [hruntime] at hid
    exact absurd hid (AList.notMem_empty id)
  · rw [hsessions] at hid
    exact absurd hid (AList.notMem_empty id)

theorem detachMonitor {b : Bridge ε} (h : b.runtime.Numbered n) (sessionId : String) :
    (b.detachMonitor sessionId).1.runtime.Numbered n := by
  unfold Bridge.detachMonitor
  split_ifs
  · refine ⟨fun id hid => ?_, fun id hid => ?_, h.counter⟩
    · obtain ⟨hne, hin⟩ := AList.mem_erase.1 hid
      exact AList.mem_erase.2 ⟨hne, h.tables id hin⟩
    · exact h.ids id (AList.mem_erase.1 hid).2
  · exact h

theorem shutdown {b : Bridge ε} (h : b.runtime.Numbered n) :
    (b.shutdown E).runtime.Numbered n := by
  unfold Bridge.shutdown
  split_ifs
  · exact h
  · exact of_empty rfl rfl h.counter

theorem insertSession (h : rt.Numbered n) (hn : n < 2 ^ 64) (info : MonitorSessionInfo)
    (transfers : List Nat) (dst : Option EndpointRef) :
    (rt.insertSession info transfers dst).1.Numbered (n + 1) := by
  obtain ⟨hnew, htable⟩ := h.fresh hn
  obtain ⟨hsessions, -, hkeys⟩ :=
    insertSession_new info transfers dst (sessionIdOf_eq h.counter) hnew htable
  refine ⟨fun id hid => ?_, fun id hid => ?_, ?_⟩
  · rw [hsessions]
    apply (AList.mem_insert _).2
    exact (hkeys id hid).imp_right (h.tables id)
  · rw [hsessions] at hid
    rcases (AList.mem_insert _).1 hid with heq | hold
    · exact ⟨n, Nat.lt_succ_self n, heq⟩
    · obtain ⟨k, hk, heq⟩ := h.ids id hold
      exact ⟨k, hk.trans (Nat.lt_succ_self n), heq⟩
  · show rt.nextMonitorSessionId + 1 = _
    rw [h.counter]
    exact (UInt64.ofNat_add (n + 1) 1).symm

end Numbered

end BridgeMonitorRuntime

/-! ## The invariant -/

/-- The tables and the connections after `n` session ids were issued, counted from the bridge
`b₀`. -/
structure LedgerInv (b₀ : Bridge ε) (n : Nat) (b : Bridge ε) : Prop where
  wf : b.WellFormed
  host : b₀.host.nextTransfer ≤ b.host.nextTransfer
  length : b.core.connections.length = b₀.core.connections.length
  connection : ∀ i c₀, b₀.core.connections[i]? = some c₀ → ∃ monitors,
    b.core.connections[i]? = some { c₀ with transferPdus := c₀.transferPdus ++ monitors } ∧
      monitors.map ITransferPdu.self = b.runtime.listedTransfers b₀.core i
  fresh : ∀ id, ∀ r ∈ b.runtime.sessionTransfers id,
    b₀.host.nextTransfer ≤ r ∧ r < b.host.nextTransfer
  disjoint : ∀ id id', id ≠ id' → ∀ r ∈ b.runtime.sessionTransfers id,
    r ∉ b.runtime.sessionTransfers id'
  active : ∀ s ∈ b.runtime.monitorSessions.entries, s.2.state = .active
  numbered : b.runtime.Numbered n

namespace LedgerInv

variable {b₀ b : Bridge ε} {n : Nat}

/-- The configured transfers are older than every session's. -/
theorem configured_lt (hwf : b₀.WellFormed) {i : Nat} {c₀ : BridgeConnection}
    (hget : b₀.core.connections[i]? = some c₀) {t : ITransferPdu} (ht : t ∈ c₀.transferPdus) :
    t.self < b₀.host.nextTransfer :=
  hwf.transfer_lt c₀ (List.mem_of_getElem? hget) t ht

/-- The connection ids never change. -/
theorem findConnection_eq (h : LedgerInv b₀ n b) (id : String) :
    b.core.findConnection id = b₀.core.findConnection id := by
  refine BridgeCore.findConnection_congr (List.ext_getElem? fun i => ?_) id
  rw [List.getElem?_map, List.getElem?_map]
  cases hget : b₀.core.connections[i]? with
  | none =>
    have hlen := h.length
    have hnone : b.core.connections[i]? = none := by
      rw [List.getElem?_eq_none_iff] at hget ⊢
      omega
    rw [hnone]
  | some c₀ =>
    obtain ⟨monitors, hb, -⟩ := h.connection i c₀ hget
    rw [hb]
    rfl

/-- Steps that touch neither the tables nor the connections. -/
theorem congr (h : LedgerInv b₀ n b) {b' : Bridge ε} (hwf : b'.WellFormed)
    (hhost : b.host.nextTransfer ≤ b'.host.nextTransfer)
    (hcore : b'.core.connections = b.core.connections) (htables : b.runtime.SameTables b'.runtime) :
    LedgerInv b₀ n b' := by
  have htransfers : ∀ id, b'.runtime.sessionTransfers id = b.runtime.sessionTransfers id := by
    intro id
    unfold BridgeMonitorRuntime.sessionTransfers
    rw [htables.monitorRuntimeSessions]
  refine ⟨hwf, h.host.trans hhost, by rw [hcore, h.length], fun i c₀ hget => ?_, fun id r hr => ?_,
    fun id id' hne r hr => ?_, ?_, h.numbered.congr htables⟩
  · obtain ⟨monitors, hb, hlisted⟩ := h.connection i c₀ hget
    refine ⟨monitors, by rw [hcore, hb], ?_⟩
    unfold BridgeMonitorRuntime.listedTransfers
    rw [htables.monitorSessions]
    simp only [htransfers]
    exact hlisted
  · rw [htransfers] at hr
    exact ⟨(h.fresh id r hr).1, (h.fresh id r hr).2.trans_le hhost⟩
  · rw [htransfers] at hr ⊢
    exact h.disjoint id id' hne r hr
  · rw [htables.monitorSessions]
    exact h.active

/-- Dropping the transfers of some sessions, which leave the tables. -/
theorem remove (h : LedgerInv b₀ n b) (hwf₀ : b₀.WellFormed) {b' : Bridge ε} (hwf : b'.WellFormed)
    {gone : String → Bool} {drop : List Nat}
    (hdrop : ∀ id r, r ∈ b.runtime.sessionTransfers id → (gone id = true ↔ r ∈ drop))
    (hmem : ∀ r ∈ drop, ∃ id, r ∈ b.runtime.sessionTransfers id)
    (hhost : b'.host.nextTransfer = b.host.nextTransfer)
    (hcore : b'.core.connections = b.core.connections.map (·.without drop))
    (hsessions : b'.runtime.monitorSessions.entries =
      b.runtime.monitorSessions.entries.filter fun s => !gone s.1)
    (htransfers : ∀ id, b'.runtime.sessionTransfers id =
      if gone id then [] else b.runtime.sessionTransfers id)
    (hnumbered : b'.runtime.Numbered n) : LedgerInv b₀ n b' := by
  have hsub : ∀ id r, r ∈ b'.runtime.sessionTransfers id → r ∈ b.runtime.sessionTransfers id := by
    intro id r hr
    rw [htransfers] at hr
    split_ifs at hr
    · exact absurd hr List.not_mem_nil
    · exact hr
  have hentry : ∀ s ∈ b'.runtime.monitorSessions.entries,
      s ∈ b.runtime.monitorSessions.entries := by
    intro s hs
    rw [hsessions] at hs
    exact (List.mem_filter.1 hs).1
  refine ⟨hwf, by rw [hhost]; exact h.host, by rw [hcore, List.length_map, h.length],
    fun i c₀ hget => ?_, fun id r hr => ?_, fun id id' hne r hr hr' => ?_,
    fun s hs => h.active s (hentry s hs), hnumbered⟩
  · obtain ⟨monitors, hb, hlisted⟩ := h.connection i c₀ hget
    refine ⟨monitors.filter fun t => !decide (t.self ∈ drop), ?_, ?_⟩
    · -- a configured transfer belongs to no session
      have hconf : c₀.transferPdus.filter (fun t => !decide (t.self ∈ drop)) =
          c₀.transferPdus := by
        apply List.filter_eq_self.2
        intro t ht
        have hnot : t.self ∉ drop := by
          intro hin
          obtain ⟨id, hr⟩ := hmem _ hin
          have hge := (h.fresh id _ hr).1
          have hlt := configured_lt hwf₀ hget ht
          omega
        rw [decide_eq_false hnot]
        rfl
      rw [hcore, List.getElem?_map, hb, Option.map_some, BridgeConnection.without,
        List.filter_append, hconf]
    · have hmap : (monitors.filter fun t => !decide (t.self ∈ drop)).map ITransferPdu.self =
          (monitors.map ITransferPdu.self).filter fun r => !decide (r ∈ drop) := by
        rw [List.filter_map]
        rfl
      rw [hmap, hlisted,
        BridgeMonitorRuntime.listedTransfers_remove hdrop hsessions htransfers b₀.core i]
  · rw [hhost]
    exact h.fresh id r (hsub id r hr)
  · exact h.disjoint id id' hne r (hsub id r hr) (hsub id' r hr')

/-- A detached session leaves the tables, and its transfers the connections. -/
theorem detach (h : LedgerInv b₀ n b) (hwf₀ : b₀.WellFormed) (sessionId : String) :
    LedgerInv b₀ n (b.detachMonitor sessionId).1 := by
  by_cases hmem : sessionId ∈ b.runtime.monitorSessions
  · have hstate : (b.detachMonitor sessionId).1 = { b with
        core := b.core.retireTransfers (b.runtime.sessionTransfers sessionId)
        runtime := { b.runtime with
          monitorRuntimeSessions := b.runtime.monitorRuntimeSessions.erase sessionId
          monitorSessions := b.runtime.monitorSessions.erase sessionId } } := by
      unfold Bridge.detachMonitor
      rw [if_pos hmem]
    have hwf := Bridge.wellFormed_detachMonitor h.wf sessionId
    have hcore := Bridge.detachMonitor_core h.wf hmem
    have hnumbered := h.numbered.detachMonitor sessionId
    rw [hstate] at hwf hcore hnumbered ⊢
    refine @remove _ _ _ _ h hwf₀ _ hwf (fun id => decide (id = sessionId))
      (b.runtime.sessionTransfers sessionId) ?_ (fun r hr => ⟨sessionId, hr⟩) rfl
      (congrArg BridgeCore.connections hcore) ?_ ?_ hnumbered
    · intro id r hr
      constructor
      · intro hid
        rw [← of_decide_eq_true hid]
        exact hr
      · intro hin
        by_contra hid
        exact h.disjoint id sessionId (by simpa using hid) r hr hin
    · exact kerase_eq_filter sessionId b.runtime.monitorSessions.nodupKeys
    · intro id
      have herase := BridgeMonitorRuntime.sessionTransfers_erase b.runtime sessionId id
        (b.runtime.monitorSessions.erase sessionId)
      simpa using herase
  · rw [Bridge.detachMonitor_of_not_mem hmem]
    exact h

/-- A shutdown empties both tables. -/
theorem shutdown (h : LedgerInv b₀ n b) (hwf₀ : b₀.WellFormed) : LedgerInv b₀ n (b.shutdown E) := by
  cases hinit : b.runtime.initialized with
  | false =>
    rw [Bridge.shutdown_of_not_initialized E hinit]
    exact h
  | true =>
    have hwf := (Bridge.wellFormed_closed E).shutdown b h.wf
    have hcore := Bridge.shutdown_core E h.wf hinit
    have hhost := (Bridge.shutdown_sameBook E b).nextTransfer
    have hruntime : (b.shutdown E).runtime = { b.runtime with
        monitorRuntimeSessions := ∅, monitorSessions := ∅, endpointSessionIds := ∅,
        disconnectedControlEndpoints := [], ondemandSessions := [], ondemandMux := false,
        controlHandler := false, initialized := false } := by
      unfold Bridge.shutdown
      rw [if_neg (by simp [hinit])]
    have hgone : ∀ id, (b.shutdown E).runtime.sessionTransfers id = [] := by
      intro id
      rw [hruntime]
      rfl
    refine @remove _ _ _ _ h hwf₀ _ hwf (fun _ => true) b.monitorTransfers ?_ ?_ hhost
      (congrArg BridgeCore.connections hcore) ?_ hgone h.numbered.shutdown
    · intro id r hr
      refine ⟨fun _ => ?_, fun _ => rfl⟩
      exact Bridge.mem_monitorTransfers.2 ⟨id, hr⟩
    · intro r hr
      exact Bridge.mem_monitorTransfers.1 hr
    · rw [hruntime]
      simp

/-- A new session at the end of the tables and of its connection. -/
theorem attached (h : LedgerInv b₀ n b) (hn : n < 2 ^ 64) {spec : MonitorSessionSpec}
    {selection : ResolvedMonitorSelection} {i : Nat} {c : BridgeConnection} {src : EndpointRef}
    (hplace : MonitorPlace b.core spec i c src) {ts : List ITransferPdu} {h' : Host ε}
    (hcreated : CreatedAll b.host ts h') (dst : Option EndpointRef) :
    LedgerInv b₀ (n + 1) { b with
      host := h'
      core := b.core.modifyConnection i (·.takeOver ts)
      runtime := (b.runtime.insertSession (Bridge.sessionInfo spec selection)
        (ts.map ITransferPdu.self) dst).1 } := by
  have hid := sessionIdOf_eq h.numbered.counter
  obtain ⟨hnew, htable⟩ := h.numbered.fresh hn
  obtain ⟨hsessions, htransfers, -⟩ := BridgeMonitorRuntime.insertSession_new
    (Bridge.sessionInfo spec selection) (ts.map ITransferPdu.self) dst hid hnew htable
  have hentries := congrArg AList.entries hsessions
  rw [AList.entries_insert_of_notMem hnew] at hentries
  have hbounds : ∀ r ∈ ts.map ITransferPdu.self,
      b.host.nextTransfer ≤ r ∧ r < h'.nextTransfer := by
    intro r hr
    obtain ⟨t, ht, rfl⟩ := List.mem_map.1 hr
    exact ⟨(hcreated.bounds t ht).1, (hcreated.bounds t ht).2.1⟩
  have hgrow := hcreated.extends.nextTransfer
  refine ⟨h.wf.takeOver hplace.lt hcreated, h.host.trans hgrow, ?_, fun j c₀ hget => ?_,
    fun id r hr => ?_, fun id id' hne r hr hr' => ?_, fun s hs => ?_,
    h.numbered.insertSession hn _ _ dst⟩
  · show (b.core.connections.modify i _).length = _
    rw [List.length_modify, h.length]
  · obtain ⟨monitors, hb, hlisted⟩ := h.connection j c₀ hget
    have hfind : b₀.core.findConnection spec.connectionId = some i :=
      (h.findConnection_eq spec.connectionId).symm.trans hplace.find
    have hlist : (b.runtime.insertSession (Bridge.sessionInfo spec selection)
        (ts.map ITransferPdu.self) dst).1.listedTransfers b₀.core j =
        b.runtime.listedTransfers b₀.core j ++ if i = j then ts.map ITransferPdu.self else [] := by
      rw [BridgeMonitorRuntime.listedTransfers_insertSession _ _ dst hid hnew htable]
      show _ ++ (if b₀.core.findConnection spec.connectionId = some j then _ else _) = _
      rw [hfind]
      simp only [Option.some.injEq]
    by_cases hij : i = j
    · refine ⟨monitors ++ ts.map (BridgeConnection.stamp { c₀ with
        transferPdus := c₀.transferPdus ++ monitors }), ?_, ?_⟩
      · show (b.core.connections.modify i _)[j]? = _
        rw [hij, List.getElem?_modify_eq, hb, Option.map_eq_map, Option.map_some,
          BridgeConnection.takeOver_eq, List.append_assoc]
      · rw [hlist, if_pos hij, List.map_append, hlisted, List.map_map]
        rfl
    · refine ⟨monitors, ?_, ?_⟩
      · show (b.core.connections.modify i _)[j]? = _
        rw [List.getElem?_modify_ne _ _ hij, hb]
      · rw [hlist, if_neg hij, List.append_nil, hlisted]
  · rw [htransfers] at hr
    split_ifs at hr
    · exact ⟨h.host.trans (hbounds r hr).1, (hbounds r hr).2⟩
    · exact ⟨(h.fresh id r hr).1, (h.fresh id r hr).2.trans_le hgrow⟩
  · rw [htransfers] at hr hr'
    split_ifs at hr hr' with heq heq'
    · exact hne (heq.trans heq'.symm)
    · exact absurd (hbounds r hr).1 (Nat.not_le.2 (h.fresh id' r hr').2)
    · exact absurd (hbounds r hr').1 (Nat.not_le.2 (h.fresh id r hr).2)
    · exact h.disjoint id id' hne r hr hr'
  · rw [hentries] at hs
    rcases List.mem_cons.1 hs with rfl | hold
    · rfl
    · exact h.active s hold

/-- What a step is made of, apart from attaches, keeps the invariant. -/
theorem closed (hwf₀ : b₀.WellFormed) (n : Nat) : ControlClosed E (LedgerInv b₀ n) where
  host b h' hsame h := h.congr ((Bridge.wellFormed_closed E).host b h' hsame h.wf)
    hsame.nextTransfer.ge rfl (BridgeMonitorRuntime.SameTables.refl b.runtime)
  core b core hcore h := h.congr ((Bridge.wellFormed_closed E).core b core hcore h.wf) le_rfl hcore
    (BridgeMonitorRuntime.SameTables.refl b.runtime)
  runtime _ _ htables h := h.congr h.wf le_rfl rfl htables
  attached b _ h := h.congr h.wf le_rfl rfl (BridgeMonitorRuntime.SameTables.refl b.runtime)
  accept b ep key h := h.congr ((Bridge.wellFormed_closed E).accept b ep key h.wf) le_rfl rfl
    (BridgeMonitorRuntime.SameTables.refl b.runtime)
  detach _ sessionId h := h.detach hwf₀ sessionId
  shutdown _ h := h.shutdown hwf₀

/-- An attach issues the next id, or none. -/
theorem attach (h : LedgerInv b₀ n b) (stopAt : Option Nat) (spec : MonitorSessionSpec) :
    ((b.attachMonitor E stopAt spec).2 = none ∧
      LedgerInv b₀ n (b.attachMonitor E stopAt spec).1) ∨
    ((b.attachMonitor E stopAt spec).2 = some (sessionIdOf n) ∧
      (n < 2 ^ 64 → LedgerInv b₀ (n + 1) (b.attachMonitor E stopAt spec).1)) := by
  have hout := Bridge.attachMonitor_outcome E stopAt spec h.wf
  have hwf := Bridge.wellFormed_attachMonitor E stopAt spec h.wf
  revert hout hwf
  generalize b.attachMonitor E stopAt spec = r
  intro hout hwf
  cases hout with
  | rejected _ =>
    refine Or.inl ⟨rfl, h.congr hwf le_rfl ?_ (BridgeMonitorRuntime.SameTables.refl b.runtime)⟩
    unfold Bridge.loadRunning
    split_ifs <;> rfl
  | rolledBack _ _ hcreated _ _ _ _ =>
    exact Or.inl ⟨rfl, h.congr hwf hcreated.extends.nextTransfer rfl
      (BridgeMonitorRuntime.SameTables.refl b.runtime)⟩
  | attached _ hplace hcreated _ _ =>
    exact Or.inr ⟨congrArg some (sessionIdOf_eq h.numbered.counter),
      fun hn => h.attached hn hplace hcreated spec.destinationEndpoint⟩

end LedgerInv

/-! ## Steps -/

namespace Bridge

@[simp] theorem issued_issuedEvents (id : Option String) :
    issued (issuedEvents id) = id.toList := by
  cases id <;> rfl

theorem issued_map_send (sends : List Send) : issued (sends.map .send) = [] := by
  induction sends with
  | nil => rfl
  | cons s sends ih => exact ih

/-- Callbacks issue nothing. -/
theorem issued_fireCallbacks (E : Env ε) (core : BridgeCore) (key : PduResolvedKey)
    (callbacks : List Callback) (h : Host ε) :
    issued (fireCallbacks E core key callbacks h).2 = [] := by
  induction callbacks generalizing h with
  | nil => rfl
  | cons callback rest ih =>
    have hfirst : issued (fireCallback E core key callback h).2 = [] := by
      unfold fireCallback
      split
      · split
        · exact issued_map_send _
        · rfl
      · rfl
      · rfl
    unfold fireCallbacks
    rw [issued_append, hfirst, ih, List.nil_append]

/-- A request issues an id if it is answered by an attach, and nothing else. -/
theorem issued_handleRequest (E : Env ε) (authorizer : Option Authorizer) (stopAt : Option Nat)
    (req : Json) (ep : Option EndpointRef) (b : Bridge ε) :
    (issued (issuedIn (b.handleRequest E authorizer stopAt req ep).2) = [] ∧
      ∀ P, ControlClosed E P → P b → P (b.handleRequest E authorizer stopAt req ep).1) ∨
    ∃ spec, requestedSpec E authorizer req ep = some spec ∧
      (b.handleRequest E authorizer stopAt req ep).1 = (b.attachMonitor E stopAt spec).1 ∧
      issued (issuedIn (b.handleRequest E authorizer stopAt req ep).2) =
        (b.attachMonitor E stopAt spec).2.toList := by
  rcases handleRequest_cases E authorizer stopAt req ep b with
    ⟨⟨e, -, heq⟩, hnone⟩ | ⟨id, -, heq, hnone⟩ | ⟨spec, hspec, heq, hsome⟩
  · refine Or.inl ⟨by rw [hnone]; rfl, fun P hP hb => ?_⟩
    rw [heq]
    exact hP.env hb e
  · refine Or.inl ⟨by rw [hnone]; rfl, fun P hP hb => ?_⟩
    rw [heq]
    exact hP.detach b id hb
  · exact Or.inr ⟨spec, hspec, heq, by rw [hsome, issued_issuedEvents]⟩

/-- **Ids of a step.** A step that is no operation on a connection issues nothing and is made of
control operations, or it is an attach followed by control operations, and issues its id. -/
theorem issued_step (E : Env ε) (b : Bridge ε) {op : Op ε} (hop : op.onConnection = false) :
    (issued (b.step E op).2 = [] ∧ ∀ P, ControlClosed E P → P b → P (b.step E op).1) ∨
    ∃ stopAt spec, op.attaches E = some (stopAt, spec) ∧
      issued (b.step E op).2 = (b.attachMonitor E stopAt spec).2.toList ∧
      ∀ P, ControlClosed E P → P (b.attachMonitor E stopAt spec).1 → P (b.step E op).1 := by
  have hclosed : op.attaches E = none →
      ∀ P, ControlClosed E P → P b → P (b.step E op).1 := by
    intro hnone P hP hb
    refine hP.step hb (fun stopAt spec hsome => ?_) fun hconnection => ?_
    · rw [hnone] at hsome
      exact absurd hsome (by simp)
    · rw [hop] at hconnection
      exact absurd hconnection Bool.false_ne_true
  cases op with
  | reception endpointId key data =>
    exact Or.inl ⟨issued_fireCallbacks E b.core key _ _, hclosed rfl⟩
  | cyclicTrigger accepted =>
    refine Or.inl ⟨?_, hclosed rfl⟩
    show issued (b.cyclicTrigger E accepted).2 = []
    unfold cyclicTrigger
    split_ifs
    · rfl
    all_goals exact issued_map_send _
  | controlMessage stopAt name message =>
    simp only [step]
    unfold controlMessage
    split_ifs with hlisted
    · exact Or.inl ⟨rfl, fun P _ hb => hb⟩
    · cases message with
      | none => exact Or.inl ⟨rfl, fun P _ hb => hb⟩
      | some req =>
        dsimp only
        rw [issued_append]
        rcases issued_handleRequest E none stopAt req (some (.session name)) b with
          ⟨hnone, hkeep⟩ | ⟨spec, hspec, heq, hsome⟩
        · exact Or.inl ⟨by rw [hnone]; rfl,
            fun P hP hb => hP.recordAnswer (hkeep P hP hb) name req _⟩
        · refine Or.inr ⟨stopAt, spec, by rw [Op.attaches, hspec]; rfl,
            by rw [hsome]; exact List.append_nil _, fun P hP hb => ?_⟩
          rw [← heq] at hb
          exact hP.recordAnswer hb name req _
  | session op =>
    cases op with
    | attachMonitor stopAt spec =>
      exact Or.inr ⟨stopAt, spec, rfl, issued_issuedEvents _, fun P _ hb => hb⟩
    | detachMonitor id => exact Or.inl ⟨rfl, hclosed rfl⟩
    | handleRequest authorizer stopAt req ep =>
      simp only [step, sessionStep]
      rw [issued_append]
      rcases issued_handleRequest E authorizer stopAt req ep b with
        ⟨hnone, hkeep⟩ | ⟨spec, hspec, heq, hsome⟩
      · exact Or.inl ⟨by rw [hnone]; rfl, hkeep⟩
      · refine Or.inr ⟨stopAt, spec, by rw [Op.attaches, hspec]; rfl,
          by rw [hsome]; exact List.append_nil _, fun P _ hb => ?_⟩
        rw [heq]
        exact hb
    | shutdown => exact Or.inl ⟨rfl, hclosed rfl⟩
  | _ => exact Or.inl ⟨rfl, hclosed rfl⟩

/-- A property of bridges with the number of ids issued so far is kept by a step, if it is by an
attach and by what steps are made of otherwise. -/
theorem numbered_step {P : Nat → Bridge ε → Prop} {n : Nat} {b : Bridge ε}
    (hclosed : ∀ n, ControlClosed E (P n)) (hb : P n b)
    (hattach : ∀ stopAt spec, ((b.attachMonitor E stopAt spec).2 = none ∧
        P n (b.attachMonitor E stopAt spec).1) ∨
      ((b.attachMonitor E stopAt spec).2 = some (sessionIdOf n) ∧
        (n < 2 ^ 64 → P (n + 1) (b.attachMonitor E stopAt spec).1)))
    {op : Op ε} (hop : op.onConnection = false) :
    (issued (b.step E op).2 = [] ∧ P n (b.step E op).1) ∨
      (issued (b.step E op).2 = [sessionIdOf n] ∧ (n < 2 ^ 64 → P (n + 1) (b.step E op).1)) := by
  rcases issued_step E b hop with ⟨hnone, hkeep⟩ | ⟨stopAt, spec, -, hsome, hkeep⟩
  · exact Or.inl ⟨hnone, hkeep _ (hclosed n) hb⟩
  · rcases hattach stopAt spec with ⟨hout, hnext⟩ | ⟨hout, hnext⟩
    · rw [hout] at hsome
      exact Or.inl ⟨hsome, hkeep _ (hclosed n) hnext⟩
    · rw [hout] at hsome
      exact Or.inr ⟨hsome, fun hn => hkeep _ (hclosed (n + 1)) (hnext hn)⟩

/-- What is known after some steps: the property after the ids issued so far, which are the first
ones in order. -/
def NumberedAfter (P : Nat → Bridge ε → Prop) (b : Bridge ε) (es : List Event) : Prop :=
  (issued es).length ≤ 2 ^ 64 →
    P (issued es).length b ∧ issued es = (List.range (issued es).length).map sessionIdOf

theorem NumberedAfter.step {P : Nat → Bridge ε → Prop} {b b' : Bridge ε} {es es' : List Event}
    (h : NumberedAfter P b es) (hstep : ∀ n, P n b → (issued es' = [] ∧ P n b') ∨
      (issued es' = [sessionIdOf n] ∧ (n < 2 ^ 64 → P (n + 1) b'))) :
    NumberedAfter P b' (es ++ es') := by
  intro hcount
  rw [issued_append, List.length_append] at hcount ⊢
  obtain ⟨hP, hids⟩ := h (by omega)
  rcases hstep _ hP with ⟨hnone, hnext⟩ | ⟨hsome, hnext⟩
  · rw [hnone, List.append_nil, List.length_nil, Nat.add_zero]
    exact ⟨hnext, hids⟩
  · rw [hsome, List.length_singleton] at hcount ⊢
    refine ⟨hnext (by omega), ?_⟩
    rw [List.range_succ, List.map_append, ← hids]
    rfl

/-- No id was issued twice. -/
theorem NumberedAfter.nodup {P : Nat → Bridge ε → Prop} {b : Bridge ε} {es : List Event}
    (h : NumberedAfter P b es) (hcount : (issued es).length ≤ 2 ^ 64) : (issued es).Nodup := by
  rw [(h hcount).2]
  exact nodup_sessionIdOf hcount

/-! ## Runs -/

/-- The conservation law between a bridge `b₀` without sessions and a later state `b` of it. -/
structure Ledger (b₀ b : Bridge ε) : Prop where
  length : b.core.connections.length = b₀.core.connections.length
  /-- Configured transfers first and unchanged, then those of the listed sessions. -/
  connection : ∀ i c₀, b₀.core.connections[i]? = some c₀ → ∃ monitors,
    b.core.connections[i]? = some { c₀ with transferPdus := c₀.transferPdus ++ monitors } ∧
      monitors.map ITransferPdu.self = b.runtime.listedTransfers b.core i
  /-- No transfer is owned twice. -/
  once : b.core.ownedRefs.Nodup
  tables : ∀ id ∈ b.runtime.monitorRuntimeSessions, id ∈ b.runtime.monitorSessions
  active : ∀ s ∈ b.runtime.monitorSessions.entries, s.2.state = .active

theorem ledger_of_inv {b₀ b : Bridge ε} {n : Nat} (h : LedgerInv b₀ n b) : Ledger b₀ b := by
  refine ⟨h.length, fun i c₀ hget => ?_, h.wf.nodup, h.numbered.tables, h.active⟩
  obtain ⟨monitors, hb, hlisted⟩ := h.connection i c₀ hget
  refine ⟨monitors, hb, hlisted.trans ?_⟩
  unfold BridgeMonitorRuntime.listedTransfers
  simp only [h.findConnection_eq]

/-- No session so far. -/
structure Unattached (b : Bridge ε) : Prop where
  wf : b.WellFormed
  monitorSessions : b.runtime.monitorSessions = ∅
  monitorRuntimeSessions : b.runtime.monitorRuntimeSessions = ∅
  nextMonitorSessionId : b.runtime.nextMonitorSessionId = 1

theorem Unattached.tables {b b' : Bridge ε} (h : b.Unattached) (hwf : b'.WellFormed)
    (htables : b.runtime.SameTables b'.runtime) : b'.Unattached :=
  ⟨hwf, htables.monitorSessions.trans h.monitorSessions,
    htables.monitorRuntimeSessions.trans h.monitorRuntimeSessions,
    htables.nextMonitorSessionId.trans h.nextMonitorSessionId⟩

theorem unattached_closed (E : Env ε) : ControlClosed E (Unattached (ε := ε)) where
  host b h' hsame h := h.tables ((wellFormed_closed E).host b h' hsame h.wf) (.refl b.runtime)
  core b core hcore h := h.tables ((wellFormed_closed E).core b core hcore h.wf) (.refl b.runtime)
  runtime _ _ htables h := h.tables h.wf htables
  attached b _ h := h.tables h.wf (.refl b.runtime)
  accept b ep key h := h.tables ((wellFormed_closed E).accept b ep key h.wf) (.refl b.runtime)
  detach b sessionId h := by
    have hmem : sessionId ∉ b.runtime.monitorSessions := by
      rw [h.monitorSessions]
      exact AList.notMem_empty sessionId
    rw [detachMonitor_of_not_mem hmem]
    exact h
  shutdown b h := by
    have hwf := (wellFormed_closed E).shutdown b h.wf
    cases hinit : b.runtime.initialized with
    | false =>
      rw [shutdown_of_not_initialized E hinit]
      exact h
    | true =>
      refine ⟨hwf, ?_, ?_, ?_⟩
      all_goals
        unfold shutdown
        rw [if_neg (by simp [hinit])]
      · exact h.nextMonitorSessionId

/-- A bridge that was just built has no session. -/
theorem unattached_of_boot {cfg : BridgeConfig} {nodeName : String} {container : List String}
    {e : ε} {b : Bridge ε} (hboot : boot E cfg nodeName container e = some b) : b.Unattached := by
  have hbooted := booted_of_boot hboot
  refine ⟨hbooted.wellFormed, ?_, ?_, ?_⟩
  all_goals
    rw [hbooted.noSessions]

/-- Steps that ask for no attach start no session. -/
theorem Unattached.step {b : Bridge ε} (h : b.Unattached) {op : Op ε}
    (hop : op.attaches E = none) : (b.step E op).1.Unattached := by
  refine (unattached_closed E).step h (fun stopAt spec hsome => ?_) fun hconnection => ?_
  · rw [hop] at hsome
    exact absurd hsome (by simp)
  · apply h.tables (wellFormed_step E h.wf op)
    rw [runtime_step_onConnection E b hconnection]
    exact .refl b.runtime

/-- Before the first session the ledger is balanced. -/
theorem Unattached.ledgerInv {b : Bridge ε} (h : b.Unattached) : LedgerInv b 0 b := by
  have hnone : ∀ id, b.runtime.sessionTransfers id = [] := by
    intro id
    unfold BridgeMonitorRuntime.sessionTransfers
    rw [h.monitorRuntimeSessions]
    rfl
  refine ⟨h.wf, le_rfl, rfl, fun i c₀ hget => ⟨[], ?_, ?_⟩, fun id r hr => ?_,
    fun id _ _ r hr => ?_, fun s hs => ?_,
    .of_empty h.monitorSessions h.monitorRuntimeSessions h.nextMonitorSessionId⟩
  · rw [List.append_nil, hget]
  · unfold BridgeMonitorRuntime.listedTransfers
    rw [h.monitorSessions]
    rfl
  · rw [hnone] at hr
    exact absurd hr List.not_mem_nil
  · rw [hnone] at hr
    exact absurd hr List.not_mem_nil
  · rw [h.monitorSessions] at hs
    exact absurd hs List.not_mem_nil

/-- What is known after some steps: the ledger after the ids issued so far, which are the first
ones in order. -/
def LedgerAfter (b₀ : Bridge ε) (b : Bridge ε) (es : List Event) : Prop :=
  (issued es).length ≤ 2 ^ 64 →
    LedgerInv b₀ (issued es).length b ∧ issued es = (List.range (issued es).length).map sessionIdOf

theorem LedgerAfter.step {b₀ b : Bridge ε} (hwf₀ : b₀.WellFormed) {es : List Event} {op : Op ε}
    (h : LedgerAfter b₀ b es) (hop : op.onConnection = false) :
    LedgerAfter b₀ (b.step E op).1 (es ++ (b.step E op).2) :=
  NumberedAfter.step h fun _ hinv =>
    numbered_step (fun n => LedgerInv.closed hwf₀ n) hinv
      (fun stopAt spec => hinv.attach stopAt spec) hop

/-- **The session ledger.** From the first session on, and whatever happens to the bridge but
operations on the connections themselves: as long as at most `2 ^ 64` session ids were issued,
the ledger is balanced and no id was issued twice. -/
theorem ledger_run {cfg : BridgeConfig} {nodeName : String} {container : List String} {e : ε}
    {b : Bridge ε} (hboot : boot E cfg nodeName container e = some b) {setup ops : List (Op ε)}
    (hsetup : ∀ op ∈ setup, op.attaches E = none) (hops : ∀ op ∈ ops, op.onConnection = false)
    (hcount : (issued (run (step E) (run (step E) b setup).1 ops).2).length ≤ 2 ^ 64) :
    Ledger (run (step E) b setup).1 (run (step E) (run (step E) b setup).1 ops).1 ∧
      (issued (run (step E) (run (step E) b setup).1 ops).2).Nodup := by
  have hnone := unattached_of_boot hboot
  have hstart : (run (step E) b setup).1.Unattached :=
    run_invariant (fun b' op hb' hop => hb'.step hop) hnone (along_of_ops hsetup)
  have hafter : LedgerAfter (run (step E) b setup).1
      (run (step E) (run (step E) b setup).1 ops).1
      ([] ++ (run (step E) (run (step E) b setup).1 ops).2) := by
    refine run_history (fun b' es op hb' hop => hb'.step hstart.wf hop) (fun _ => ?_)
      (along_of_ops hops)
    exact ⟨hstart.ledgerInv, rfl⟩
  rw [List.nil_append] at hafter
  exact ⟨ledger_of_inv (hafter hcount).1, NumberedAfter.nodup hafter hcount⟩

/-- Two overlapping sessions on the small bridge, and a shutdown after one was detached. -/
theorem ledger_small :
    let E := (CacheSpec.small .latest).env none
    let b := (run (step E) ((bootSmall .latest ⟨"immediate", none, none⟩ [⟨"k", "r", "pos"⟩]
      false).get rfl) [.start, .initializeRuntime {} .ok .ok]).1
    let ops : List (Op CacheState) := [
      .session (.attachMonitor none ⟨"conn", [], ⟨"ticker", 10⟩, some (.session "m")⟩),
      .session (.attachMonitor none ⟨"conn", [], ⟨"immediate", 0⟩, some (.session "m")⟩),
      .session (.detachMonitor "ms-1"), .session .shutdown]
    Ledger b (run (step E) b ops).1 ∧ (issued (run (step E) b ops).2).Nodup := by
  have hboot : bootSmall .latest ⟨"immediate", none, none⟩ [⟨"k", "r", "pos"⟩] false =
      some ((bootSmall .latest ⟨"immediate", none, none⟩ [⟨"k", "r", "pos"⟩] false).get rfl) :=
    (Option.some_get rfl).symm
  exact ledger_run hboot (by simp [Op.attaches]) (by simp [Op.onConnection]) (by decide)

/-- A session without a destination on `conn`. -/
def emptySession : SessionOp := .attachMonitor none ⟨"conn", [], ⟨"", 0⟩, none⟩

/-- Such a session is a row of the session table, and nothing else. -/
theorem step_emptySession {b : Bridge ε} {selection : ResolvedMonitorSelection}
    (hadmitted : b.core.admitMonitor E ⟨"conn", [], ⟨"", 0⟩, none⟩ = some selection) :
    b.step E (.session emptySession) =
      ({ b with runtime := (b.runtime.insertSession
          (sessionInfo ⟨"conn", [], ⟨"", 0⟩, none⟩ selection) [] none).1 },
        [.issued b.runtime.nextSessionId]) := by
  have hattach : b.attachMonitor E none ⟨"conn", [], ⟨"", 0⟩, none⟩ =
      ({ b with runtime := (b.runtime.insertSession (sessionInfo ⟨"conn", [], ⟨"", 0⟩, none⟩
          selection) [] none).1 }, some b.runtime.nextSessionId) := by
    unfold attachMonitor
    simp only [loadRunning_of_ne (show none ≠ some 0 by simp), hadmitted]
    rfl
  show ((b.attachMonitor E none _).1, issuedEvents (b.attachMonitor E none _).2) = _
  rw [hattach]
  rfl

/-- Detached at once, it has moved the counter on, and that is all. -/
theorem run_briefSession {b : Bridge ε} {selection : ResolvedMonitorSelection}
    (hadmitted : b.core.admitMonitor E ⟨"conn", [], ⟨"", 0⟩, none⟩ = some selection)
    (hsessions : b.runtime.monitorSessions = ∅) (hruntime : b.runtime.monitorRuntimeSessions = ∅) :
    run (step E) b [.session emptySession, .session (.detachMonitor b.runtime.nextSessionId)] =
      ({ b with runtime :=
          { b.runtime with nextMonitorSessionId := b.runtime.nextMonitorSessionId + 1 } },
        [.issued b.runtime.nextSessionId]) := by
  -- the session is the only one
  let info := { sessionInfo ⟨"conn", [], ⟨"", 0⟩, none⟩ selection with
    sessionId := b.runtime.nextSessionId }
  have htable : emplace b.runtime.monitorSessions b.runtime.nextSessionId info =
      AList.insert b.runtime.nextSessionId info ∅ := by
    rw [hsessions]
    exact if_neg (AList.notMem_empty _)
  let listed : Bridge ε := { b with runtime := { b.runtime with
    nextMonitorSessionId := b.runtime.nextMonitorSessionId + 1
    monitorSessions := emplace b.runtime.monitorSessions b.runtime.nextSessionId info } }
  have hattach : b.step E (.session emptySession) =
      (listed, [.issued b.runtime.nextSessionId]) := step_emptySession hadmitted
  -- and goes as it came
  have herased : listed.runtime.monitorSessions.erase b.runtime.nextSessionId =
      b.runtime.monitorSessions := by
    show (emplace b.runtime.monitorSessions b.runtime.nextSessionId info).erase _ = _
    rw [htable, hsessions]
    exact AList.ext (List.kerase_cons_eq rfl)
  have hdetach : listed.step E (.session (.detachMonitor b.runtime.nextSessionId)) =
      ({ b with runtime :=
          { b.runtime with nextMonitorSessionId := b.runtime.nextMonitorSessionId + 1 } }, []) := by
    have hmem : b.runtime.nextSessionId ∈ listed.runtime.monitorSessions := by
      show _ ∈ emplace b.runtime.monitorSessions b.runtime.nextSessionId info
      rw [htable]
      exact (AList.mem_insert _).2 (.inl rfl)
    have hempty : b.runtime.monitorRuntimeSessions.erase b.runtime.nextSessionId =
        b.runtime.monitorRuntimeSessions := by
      rw [hruntime]
      rfl
    have hnone : listed.runtime.sessionTransfers b.runtime.nextSessionId = [] := by
      show b.runtime.sessionTransfers b.runtime.nextSessionId = []
      unfold BridgeMonitorRuntime.sessionTransfers
      rw [hruntime]
      rfl
    show ((listed.detachMonitor b.runtime.nextSessionId).1, []) = _
    unfold detachMonitor
    rw [if_pos hmem, hnone, herased]
    show (({ b with runtime := { b.runtime with
      nextMonitorSessionId := b.runtime.nextMonitorSessionId + 1
      monitorRuntimeSessions := b.runtime.monitorRuntimeSessions.erase b.runtime.nextSessionId } },
      []) : Bridge ε × List Event) = _
    rw [hempty]
  rw [run, hattach, run, hdetach, run]
  rfl

/-- Sessions without a destination, each detached before the next one is attached. -/
def briefSessions (counter : UInt64) : Nat → List (Op ε)
  | 0 => []
  | n + 1 =>
    .session emptySession :: .session (.detachMonitor ("ms-" ++ toString counter.toNat)) ::
      briefSessions (counter + 1) n

/-- They are handed out the counter, one after another. -/
theorem issued_briefSessions {b : Bridge ε} {selection : ResolvedMonitorSelection}
    (hadmitted : b.core.admitMonitor E ⟨"conn", [], ⟨"", 0⟩, none⟩ = some selection)
    (hsessions : b.runtime.monitorSessions = ∅) (hruntime : b.runtime.monitorRuntimeSessions = ∅)
    (n : Nat) :
    issued (run (step E) b (briefSessions b.runtime.nextMonitorSessionId n)).2 =
      (List.range n).map fun k =>
        "ms-" ++ toString (b.runtime.nextMonitorSessionId + UInt64.ofNat k).toNat := by
  induction n generalizing b with
  | zero => rfl
  | succ n ih =>
    let next : Bridge ε := { b with runtime :=
      { b.runtime with nextMonitorSessionId := b.runtime.nextMonitorSessionId + 1 } }
    have hrest := ih (b := next) hadmitted hsessions hruntime
    have hsplit : briefSessions (ε := ε) b.runtime.nextMonitorSessionId (n + 1) =
        [.session emptySession, .session (.detachMonitor b.runtime.nextSessionId)] ++
          briefSessions next.runtime.nextMonitorSessionId n := rfl
    rw [hsplit, run_append_snd, run_briefSession hadmitted hsessions hruntime, issued_append,
      hrest, List.range_succ_eq_map, List.map_cons, List.map_map]
    refine congrArg₂ List.cons ?_ ?_
    · simp
      rfl
    · apply List.map_congr_left
      intro k _
      simp only [Function.comp_apply, Nat.succ_eq_add_one]
      rw [UInt64.ofNat_add, UInt64.add_assoc, UInt64.add_comm 1]
      rfl

/-- After `2 ^ 64` sessions the first id is issued again, even if there is one session at a time. -/
theorem id_repeats :
    let E := (CacheSpec.small .latest).env none
    let b := (run (step E) ((bootSmall .latest ⟨"immediate", none, none⟩ [⟨"k", "r", "pos"⟩]
      false).get rfl) [.start]).1
    ¬ (issued (run (step E) b (briefSessions 1 (2 ^ 64 + 1))).2).Nodup := by
  intro E b hnodup
  have hadmitted : b.core.admitMonitor E ⟨"conn", [], ⟨"", 0⟩, none⟩ =
      some ((b.core.admitMonitor E ⟨"conn", [], ⟨"", 0⟩, none⟩).get rfl) :=
    (Option.some_get rfl).symm
  have hcounter : b.runtime.nextMonitorSessionId = 1 := rfl
  rw [← hcounter, issued_briefSessions hadmitted rfl rfl] at hnodup
  have hinj := List.inj_on_of_nodup_map hnodup
  have hwrap : UInt64.ofNat (2 ^ 64) = UInt64.ofNat 0 := by decide
  have habs := hinj (List.mem_range.2 (Nat.succ_pos _)) (List.mem_range.2 (Nat.lt_succ_self _))
    (by rw [hwrap])
  exact absurd habs (by decide)

end Bridge

end HakoniwaBridge
