import HakoniwaBridge.Plan
import HakoniwaBridge.Sessions
import Mathlib.Data.List.Induction

/-!
# The PDUs of a connection

A build collects, for each connection id, the PDUs that can be monitored; `list_pdus` and
`resolve_monitor_selection` each read them in a shape of their own.

* `transferablePdus` — the PDUs that a configuration names for a connection id, each once.
* `pdusOf_build` — a build tabulates exactly these, for every id but the empty one.
* `PduViews` — the views of a bridge on a connection id agree on a list of PDUs; `pduViews_run`.
-/

namespace HakoniwaBridge

open Lib

variable {ε : Type} {E : Env ε}

/-! ## First occurrences -/

section FirstOccurrences

variable {α : Type} [BEq α] [LawfulBEq α] {xs : List α} {x : α}

theorem eraseDups_concat_of_mem (hx : x ∈ xs) : (xs ++ [x]).eraseDups = xs.eraseDups := by
  rw [List.eraseDups_append]
  simp [List.removeAll, hx]

theorem eraseDups_concat_of_not_mem (hx : x ∉ xs) :
    (xs ++ [x]).eraseDups = xs.eraseDups ++ [x] := by
  rw [List.eraseDups_append]
  simp [List.removeAll, hx, List.eraseDups_cons]

theorem nodup_eraseDups (xs : List α) : xs.eraseDups.Nodup := by
  induction xs using List.reverseRecOn with
  | nil => simp
  | append_singleton xs x ih =>
    by_cases hx : x ∈ xs
    · rw [eraseDups_concat_of_mem hx]
      exact ih
    · rw [eraseDups_concat_of_not_mem hx]
      apply List.nodup_append.2
      refine ⟨ih, List.nodup_singleton x, fun y hy z hz => ?_⟩
      rintro rfl
      rw [List.mem_singleton.1 hz] at hy
      exact hx (List.mem_eraseDups.1 hy)

end FirstOccurrences

/-! ## What a configuration names -/

/-- The PDUs that some keys name; a key with an empty name names none. -/
def namedPdus (keys : List BridgePduKey) : List (String × String) :=
  (keys.map BridgePduKey.pdu).filter fun p => !decide (p.1 = "" ∨ p.2 = "")

/-- The PDUs of the group of an entry of `transferPdus`. -/
def entryPdus (cfg : BridgeConfig) (entry : TransferPduConfig) : List (String × String) :=
  namedPdus ((cfg.pduKeyGroups.lookup entry.pduKeyGroupId).getD [])

/-- The PDUs of those of some connections that are on a node and go by an id. -/
def connectionPdus (cfg : BridgeConfig) (nodeName id : String) (connDefs : List Connection) :
    List (String × String) :=
  connDefs.flatMap fun connDef =>
    if connDef.nodeId = nodeName ∧ connDef.id = id then connDef.transferPdus.flatMap (entryPdus cfg)
    else []

/-- The PDUs of a connection id of a node, each at its first occurrence. -/
def transferablePdus (cfg : BridgeConfig) (nodeName id : String) : List (String × String) :=
  (connectionPdus cfg nodeName id cfg.connections).eraseDups

/-! ## What a build tabulates -/

/-- The PDUs in the table. -/
def BridgeCore.pdusOf (core : BridgeCore) (id : String) : List (String × String) :=
  (core.connectionTransferablePdus.lookup id).getD []

namespace Builder

variable {cfg : BridgeConfig} {nodeName id : String} {container : List String}
  {xs : List (String × String)} {core core' : BridgeCore}

/-- One key of a connection. -/
theorem pdusOf_register (hid : id ≠ "") (h : core.pdusOf id = xs.eraseDups) (connectionId : String)
    (key : BridgePduKey) :
    (core.registerConnectionTransferPduKey connectionId key.robotName key.pduName).pdusOf id =
      (xs ++ if connectionId = id then namedPdus [key] else []).eraseDups := by
  unfold BridgeCore.registerConnectionTransferPduKey
  by_cases hkey : key.robotName = "" ∨ key.pduName = ""
  · have hnone : namedPdus [key] = [] := by
      apply List.filter_eq_nil_iff.2
      intro p hp
      obtain rfl := List.mem_singleton.1 hp
      show ¬ (!decide (key.robotName = "" ∨ key.pduName = "")) = true
      rw [decide_eq_true hkey]
      exact Bool.false_ne_true
    rw [if_pos (Or.inr hkey), hnone, ite_self, List.append_nil]
    exact h
  · have hnamed : namedPdus [key] = [key.pdu] := by
      apply List.filter_eq_self.2
      intro p hp
      obtain rfl := List.mem_singleton.1 hp
      show (!decide (key.robotName = "" ∨ key.pduName = "")) = true
      rw [decide_eq_false hkey]
      rfl
    rw [hnamed]
    unfold BridgeCore.pdusOf at h ⊢
    by_cases heq : connectionId = id
    · subst heq
      rw [if_neg (not_or.2 ⟨hid, hkey⟩), if_pos rfl]
      simp only [AList.lookup_insert, Option.getD_some, h]
      by_cases hknown : key.pdu ∈ xs
      · rw [eraseDups_concat_of_mem hknown]
        exact if_pos (List.mem_eraseDups.2 hknown)
      · rw [eraseDups_concat_of_not_mem hknown]
        exact if_neg fun hmem => hknown (List.mem_eraseDups.1 hmem)
    · rw [if_neg heq, List.append_nil]
      split_ifs
      · exact h
      · rw [AList.lookup_insert_ne (Ne.symm heq)]
        exact h

/-- An entry adds its PDUs to the table, under the id of its connection. -/
theorem pdusOf_registerKeyGroup (hid : id ≠ "") (h : core.pdusOf id = xs.eraseDups)
    {connectionId : String} {entry : TransferPduConfig}
    (hstep : registerKeyGroup cfg connectionId entry core = (core', none)) :
    core'.pdusOf id = (xs ++ if connectionId = id then entryPdus cfg entry else []).eraseDups := by
  unfold registerKeyGroup at hstep
  unfold entryPdus
  split at hstep
  · simp at hstep
  · next keys hkeys =>
    rw [hkeys, Option.getD_some]
    clear hkeys
    simp only [Prod.mk.injEq, and_true] at hstep
    subst hstep
    induction keys generalizing core xs with
    | nil => simpa [namedPdus] using h
    | cons key keys ih =>
      have hcons : namedPdus (key :: keys) = namedPdus [key] ++ namedPdus keys := by
        rw [namedPdus, List.map_cons, ← List.singleton_append, List.filter_append]
        rfl
      rw [List.foldl_cons, ih (pdusOf_register hid h connectionId key), hcons]
      split_ifs
      · rw [List.append_assoc]
      · simp

/-- All groups of a connection. -/
theorem pdusOf_registerKeyGroups (hid : id ≠ "") (h : core.pdusOf id = xs.eraseDups)
    {connectionId : String} {entries : List TransferPduConfig}
    (hloop : forEach (registerKeyGroup cfg connectionId) entries core = (core', none)) :
    core'.pdusOf id =
      (xs ++ if connectionId = id then entries.flatMap (entryPdus cfg) else []).eraseDups := by
  refine forEach_ok_done (fun done core => core.pdusOf id =
    (xs ++ if connectionId = id then done.flatMap (entryPdus cfg) else []).eraseDups)
    (fun done entry _ c c' hc hstep => ?_) ?_ hloop
  · rw [pdusOf_registerKeyGroup hid hc hstep]
    split_ifs
    · rw [List.flatMap_append, List.flatMap_singleton, List.append_assoc]
    · simp
  · simpa using h

/-- A connection adds the PDUs of its entries. -/
theorem pdusOf_addConnection (hid : id ≠ "") {connDef : Connection} {s s' : BridgeCore × Host ε}
    (h : s.1.pdusOf id = xs.eraseDups)
    (hstep : addConnection E cfg nodeName container connDef s = (s', none)) :
    s'.1.pdusOf id = (xs ++ connectionPdus cfg nodeName id [connDef]).eraseDups := by
  unfold addConnection at hstep
  unfold connectionPdus
  rw [List.flatMap_singleton]
  split_ifs at hstep with hnode
  · split at hstep
    · simp at hstep
    · dsimp only at hstep
      split at hstep
      · simp at hstep
      · next core hcore =>
        have hloop := pdusOf_registerKeyGroups hid h hcore
        split at hstep
        · simp at hstep
        · next connection h₁ _ =>
          simp only [Prod.mk.injEq, and_true] at hstep
          subst hstep
          simp only [hnode, true_and]
          rw [← hloop]
          -- a connection that is added puts an empty list into the table at most
          unfold BridgeCore.pdusOf BridgeCore.addConnection
          split_ifs with hknown
          · rfl
          · by_cases heq : id = connection.connectionId
            · rw [heq, AList.lookup_insert, AList.lookup_eq_none.2 hknown]
              rfl
            · rw [AList.lookup_insert_ne heq]
  · simp only [Prod.mk.injEq, and_true] at hstep
    subst hstep
    rw [if_neg fun hboth => hnode hboth.1, List.append_nil]
    exact h

end Builder

/-- **Build.** For every id but the empty one, a built core knows the PDUs that the configuration
names, each once. -/
theorem pdusOf_build {cfg : BridgeConfig} {nodeName : String} {container : List String}
    {h₀ h : Host ε} {core : BridgeCore}
    (hbuild : build E cfg nodeName container h₀ = (h, .ok core)) {id : String} (hid : id ≠ "") :
    core.pdusOf id = transferablePdus cfg nodeName id := by
  unfold build at hbuild
  split at hbuild
  · simp at hbuild
  · next core' h' heq =>
    simp only [Prod.mk.injEq, Except.ok.injEq] at hbuild
    obtain ⟨-, rfl⟩ := hbuild
    refine forEach_ok_done (fun done (s : BridgeCore × Host ε) =>
      s.1.pdusOf id = (connectionPdus cfg nodeName id done).eraseDups)
      (fun done connDef _ s s' hs hstep => ?_) rfl heq
    rw [Builder.pdusOf_addConnection hid hs hstep]
    unfold connectionPdus
    rw [List.flatMap_append]

/-! ## The views -/

/-- The names of the PDU of a row of `list_pdus`. -/
def PduStateDto.pdu (row : PduStateDto) : String × String := (row.robot, row.pduName)

/-- The filter that shows what a row of `list_pdus` shows: robot, channel and PDU name. -/
def PduStateDto.filter (row : PduStateDto) : MonitorFilter :=
  ⟨row.robot, row.channelId, some row.pduName⟩

/-- The views of a bridge on a connection id: the rows of `list_pdus`, the keys and the filters of
`resolve_monitor_selection` and the filters of the listed sessions all show the PDUs `pdus`, and
the filters the channels of the rows too. -/
structure PduViews (E : Env ε) (pdus : List (String × String)) (id : String) (b : Bridge ε)
    (rows : List PduStateDto) : Prop where
  nodup : pdus.Nodup
  listed : b.core.listPdus E id = some rows
  shown : rows.map PduStateDto.pdu = pdus
  fails_iff : (∃ message, b.core.resolveMonitorSelection E id [] = .error message) ↔ pdus = []
  keys : ∀ selection, b.core.resolveMonitorSelection E id [] = .ok selection →
    selection.keys.map BridgePduKey.pdu = pdus
  filters : ∀ selection, b.core.resolveMonitorSelection E id [] = .ok selection →
    selection.filters = rows.map PduStateDto.filter
  sessions : ∀ sessionId info, b.runtime.monitorSessions.lookup sessionId = some info →
    info.connectionId = id → info.filters = rows.map PduStateDto.filter

namespace Bridge

/-- The filters of a session are those that its connection selects. -/
def Selected (E : Env ε) (b₀ b : Bridge ε) : Prop :=
  b.EverySession fun _ info => ∃ selection,
    b₀.core.resolveMonitorSelection E info.connectionId [] = .ok selection ∧
      info.filters = selection.filters

/-- It is so in every run after a build. -/
theorem selected_run {cfg : BridgeConfig} {nodeName : String} {container : List String} {e : ε}
    {b₀ : Bridge ε} (hboot : boot E cfg nodeName container e = some b₀) (ops : List (Op ε)) :
    Selected E b₀ (run (step E) b₀ ops).1 := by
  have hkeep : ∀ (b : Bridge ε) (op : Op ε), BridgeCore.SameSetup b₀.core b.core ∧ Selected E b₀ b →
      BridgeCore.SameSetup b₀.core (b.step E op).1.core ∧ Selected E b₀ (b.step E op).1 := by
    rintro b op ⟨hsetup, hselected⟩
    refine ⟨hsetup.trans (sameSetup_step E b op), everySession_step E hselected ?_ op⟩
    intro spec selection hadmitted
    obtain ⟨-, -, -, hresolve⟩ := BridgeCore.admitMonitor_eq_some.1 hadmitted
    rw [hsetup.resolveMonitorSelection] at hresolve
    obtain ⟨-, -, -, -, hfilters, -⟩ := BridgeCore.resolveMonitorSelection_eq_ok.1 hresolve
    rw [hfilters] at hresolve
    exact ⟨selection, hresolve, rfl⟩
  exact (run_invariant_of_forall hkeep ⟨.refl b₀.core, everySession_of_boot hboot⟩ ops).2

/-- After the build the table has the PDUs of the configuration. -/
theorem pdusOf_of_boot {cfg : BridgeConfig} {nodeName : String} {container : List String} {e : ε}
    {b₀ : Bridge ε} (hboot : boot E cfg nodeName container e = some b₀) {id : String}
    (hid : id ≠ "") : b₀.core.pdusOf id = transferablePdus cfg nodeName id := by
  unfold boot at hboot
  split at hboot
  · next h core heq =>
    obtain rfl := Option.some.inj hboot
    exact pdusOf_build heq hid
  · simp at hboot

/-- The connection that an id of the node finds. -/
theorem find_of_boot {cfg : BridgeConfig} {nodeName : String} {container : List String} {e : ε}
    {b₀ : Bridge ε} (hboot : boot E cfg nodeName container e = some b₀) (ops : List (Op ε))
    {connDef : Connection} (hmem : connDef ∈ cfg.connections) (hnode : connDef.nodeId = nodeName) :
    ∃ c src, (run (step E) b₀ ops).1.core.connections.find?
      (fun c => c.connectionId == connDef.id) = some c ∧ c.srcEndpoint = some src := by
  have hsetup := sameSetup_run E b₀ ops
  have hconnected : ∃ c ∈ (run (step E) b₀ ops).1.core.connections,
      c.connectionId = connDef.id := by
    unfold boot at hboot
    split at hboot
    · next h core heq =>
      obtain rfl := Option.some.inj hboot
      obtain ⟨c₀, hc₀, hrealizes⟩ :=
        exists_of_forall₂ (assembled_of_build heq).connections.flip
          (List.mem_filter.2 ⟨hmem, by simpa using hnode⟩)
      have hheader := List.mem_map_of_mem (f := (·.header)) hc₀
      rw [← hsetup.headers] at hheader
      obtain ⟨c, hc, hsame⟩ := List.mem_map.1 hheader
      have hid := hsame.trans hrealizes.header
      simp only [BridgeConnection.header, Prod.mk.injEq] at hid
      exact ⟨c, hc, hid.2.1⟩
    · simp at hboot
  obtain ⟨c₀, hc₀, hid⟩ := hconnected
  obtain ⟨c, hfind⟩ := Option.isSome_iff_exists.1
    (List.find?_isSome (p := fun c => c.connectionId == connDef.id).2 ⟨c₀, hc₀, by simp [hid]⟩)
  obtain ⟨src, hsrc⟩ := source_of_boot hboot ops (List.mem_of_find?_eq_some hfind)
  exact ⟨c, src, hfind, hsrc⟩

/-- What `resolve_monitor_selection` selects for an id without filters. -/
theorem resolveMonitorSelection_unfiltered {core : BridgeCore} {id : String} {c : BridgeConnection}
    {src : EndpointRef} (hfind : core.connections.find? (fun c => c.connectionId == id) = some c)
    (hsrc : c.srcEndpoint = some src) {selection : ResolvedMonitorSelection} :
    core.resolveMonitorSelection E id [] = .ok selection ↔
      core.pdusOf id ≠ [] ∧ selection = BridgeCore.selectionOf E src (core.pdusOf id) := by
  rw [BridgeCore.resolveMonitorSelection_eq_ok]
  constructor
  · rintro ⟨c', src', hfind', hsrc', -, hne, hsel⟩
    obtain rfl := Option.some.inj (hfind.symm.trans hfind')
    obtain rfl := Option.some.inj (hsrc.symm.trans hsrc')
    exact ⟨hne, hsel⟩
  · rintro ⟨hne, hsel⟩
    exact ⟨c, src, hfind, hsrc, rfl, hne, hsel⟩

/-- **Views.** In every state that a built bridge reaches, the views on an id of the node, unless
it is empty, agree on the PDUs that the configuration names for it. -/
theorem pduViews_run {cfg : BridgeConfig} {nodeName : String} {container : List String} {e : ε}
    {b₀ : Bridge ε} (hboot : boot E cfg nodeName container e = some b₀) (ops : List (Op ε))
    {connDef : Connection} (hmem : connDef ∈ cfg.connections) (hnode : connDef.nodeId = nodeName)
    (hid : connDef.id ≠ "") :
    ∃ rows, PduViews E (transferablePdus cfg nodeName connDef.id) connDef.id
      (run (step E) b₀ ops).1 rows := by
  have hsetup := sameSetup_run E b₀ ops
  have hselected := selected_run hboot ops
  obtain ⟨c, src, hfind, hsrc⟩ := find_of_boot hboot ops hmem hnode
  have hpdus : (run (step E) b₀ ops).1.core.pdusOf connDef.id =
      transferablePdus cfg nodeName connDef.id := by
    rw [BridgeCore.pdusOf, hsetup.transferable]
    exact pdusOf_of_boot hboot hid
  have hresolved := hsetup.resolveMonitorSelection connDef.id [] (E := E)
  generalize (run (step E) b₀ ops).1 = b at hselected hfind hpdus hresolved ⊢
  have hlisted := BridgeCore.listPdus_of_find (E := E) hfind
  rw [← BridgeCore.pdusOf, hpdus, hsrc] at hlisted
  have hselection : ∀ selection, b.core.resolveMonitorSelection E connDef.id [] = .ok selection ↔
      transferablePdus cfg nodeName connDef.id ≠ [] ∧
        selection = BridgeCore.selectionOf E src (transferablePdus cfg nodeName connDef.id) := by
    intro selection
    rw [resolveMonitorSelection_unfiltered hfind hsrc, hpdus]
  refine ⟨_, nodup_eraseDups _, hlisted, ?_, ?_, fun selection hok => ?_, fun selection hok => ?_,
    fun sessionId info hinfo hconnection => ?_⟩
  · rw [List.map_map]
    exact List.map_id _
  · constructor
    · rintro ⟨message, herror⟩
      by_contra hne
      have hok := (hselection _).2 ⟨hne, rfl⟩
      exact absurd (herror.symm.trans hok) (by simp)
    · intro hempty
      cases hcase : b.core.resolveMonitorSelection E connDef.id [] with
      | error message => exact ⟨message, rfl⟩
      | ok selection => exact absurd hempty ((hselection selection).1 hcase).1
  · rw [((hselection selection).1 hok).2, BridgeCore.selectionOf, List.map_map]
    exact List.map_id _
  · rw [((hselection selection).1 hok).2, BridgeCore.selectionOf, List.map_map]
    rfl
  · obtain ⟨selection, hok, hfilters⟩ := hselected sessionId info hinfo
    rw [hconnection, ← hresolved] at hok
    rw [hfilters, ((hselection selection).1 hok).2, BridgeCore.selectionOf, List.map_map]
    rfl

end Bridge

end HakoniwaBridge
