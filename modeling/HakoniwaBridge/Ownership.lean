import HakoniwaBridge.Core
import Mathlib.Data.List.Lattice
import Mathlib.Order.Basic

/-!
# Ownership of transfers

What ties the connections of a bridge to the host around them, and what every operation keeps.

* `Host.Extends h h'` — the only way a host ever changes: registrations and objects are added,
  never taken away, and no policy object changes its class.
* `Created h t h'` — what either constructor does: `t` is a fresh active object, and the only
  callbacks added are those of `t`.
* `BridgeConnection.InSync` — every transfer of a connection carries the connection's epoch and
  validation flag.
* `Wf cs h` — the invariant of a list of connections: no object is owned twice, every reference
  points below the allocation counters, a registered callback of an owned transfer is one that
  the transfer listens on, and every connection is in sync.

`Wf.grow`, `Wf.modify`, `Wf.add`, `Wf.without` are the preservation rules, one for each way an
operation can touch the connections.
-/

namespace HakoniwaBridge

variable {ε : Type}

/-! ## Hosts only grow -/

/-- The host `h'` extends the host `h`. -/
structure Host.Extends (h h' : Host ε) : Prop where
  registry : ∀ reg ∈ h.registry, reg ∈ h'.registry
  fresh : ∀ reg ∈ h'.registry, ∀ r, reg.callback = .transfer r →
    reg ∈ h.registry ∨ (h.nextTransfer ≤ r ∧ r < h'.nextTransfer)
  nextPolicy : h.nextPolicy ≤ h'.nextPolicy
  nextTransfer : h.nextTransfer ≤ h'.nextTransfer
  cyclic : ∀ p < h.nextPolicy, (h'.policies p).isCyclicTrigger = (h.policies p).isCyclicTrigger

namespace Host

theorem Extends.refl (h : Host ε) : Extends h h :=
  ⟨fun _ hreg => hreg, fun _ hreg _ _ => Or.inl hreg, le_rfl, le_rfl, fun _ _ => rfl⟩

theorem Extends.trans {h₁ h₂ h₃ : Host ε} (h₁₂ : Extends h₁ h₂) (h₂₃ : Extends h₂ h₃) :
    Extends h₁ h₃ := by
  refine ⟨fun reg hreg => h₂₃.registry reg (h₁₂.registry reg hreg), fun reg hreg r hr => ?_,
    h₁₂.nextPolicy.trans h₂₃.nextPolicy, h₁₂.nextTransfer.trans h₂₃.nextTransfer,
    fun p hp => (h₂₃.cyclic p (hp.trans_le h₁₂.nextPolicy)).trans (h₁₂.cyclic p hp)⟩
  rcases h₂₃.fresh reg hreg r hr with hold | ⟨hle, hlt⟩
  · rcases h₁₂.fresh reg hold r hr with hold | ⟨hle, hlt⟩
    · exact Or.inl hold
    · exact Or.inr ⟨hle, hlt.trans_le h₂₃.nextTransfer⟩
  · exact Or.inr ⟨h₁₂.nextTransfer.trans hle, hlt⟩

/-- A host that kept its books extends the earlier one. -/
theorem SameBook.extends {h h' : Host ε} (hsame : SameBook h h') : Extends h h' := by
  refine ⟨fun reg hreg => ?_, fun reg hreg r _ => ?_, hsame.nextPolicy.ge, hsame.nextTransfer.ge,
    fun p _ => hsame.cyclic p⟩
  · rw [hsame.registry]
    exact hreg
  · rw [hsame.registry] at hreg
    exact Or.inl hreg

end Host

/-! ## Constructed transfers -/

namespace ITransferPdu

/-- The transfer's constructor registers a callback that captures it for this endpoint and key. -/
def Listens (h : Host ε) (t : ITransferPdu) (ep : EndpointRef) (key : PduResolvedKey) : Prop :=
  match t.body with
  | .transferPdu _ resolvedKey =>
    ep = t.srcEndpoint ∧ key = resolvedKey ∧ (h.policies t.policy).isCyclicTrigger = false
  | .transferAtomicPduGroup keys => ep = t.srcEndpoint ∧ key ∈ keys

/-- The transfer sends from `cyclic_trigger` only. -/
def IsCyclic (h : Host ε) (t : ITransferPdu) : Prop :=
  match t.body with
  | .transferPdu _ _ => (h.policies t.policy).isCyclicTrigger = true
  | .transferAtomicPduGroup _ => False

/-- A cyclic transfer listens on nothing. -/
theorem not_listens_of_isCyclic {h : Host ε} {t : ITransferPdu} (hcyclic : t.IsCyclic h)
    (ep : EndpointRef) (key : PduResolvedKey) : ¬ t.Listens h ep key := by
  unfold IsCyclic at hcyclic
  unfold Listens
  split at hcyclic
  · rintro ⟨-, -, hevent⟩
    rw [hcyclic] at hevent
    exact Bool.noConfusion hevent
  · exact hcyclic.elim

/-- Listening depends on the host through the class of the policy object only. -/
theorem listens_congr {h h' : Host ε} {t : ITransferPdu} {ep : EndpointRef} {key : PduResolvedKey}
    (hclass : (h'.policies t.policy).isCyclicTrigger = (h.policies t.policy).isCyclicTrigger) :
    t.Listens h' ep key ↔ t.Listens h ep key := by
  unfold Listens
  rw [hclass]

/-- So does being cyclic. -/
theorem isCyclic_congr {h h' : Host ε} {t : ITransferPdu}
    (hclass : (h'.policies t.policy).isCyclicTrigger = (h.policies t.policy).isCyclicTrigger) :
    t.IsCyclic h' ↔ t.IsCyclic h := by
  unfold IsCyclic
  rw [hclass]

end ITransferPdu

/-- What a constructor of a transfer does to the host, after its policy object was allocated. -/
structure Created (h : Host ε) (t : ITransferPdu) (h' : Host ε) : Prop where
  self : t.self = h.nextTransfer
  active : t.isActive = true
  nextTransfer : h'.nextTransfer = h.nextTransfer + 1
  policy_ge : h.nextPolicy ≤ t.policy
  policy_lt : t.policy < h'.nextPolicy
  appended : ∃ more, h'.registry = h.registry ++ more ∧ ∀ reg ∈ more, ∀ r,
    reg.callback = .transfer r → r = t.self ∧ t.Listens h' reg.endpoint reg.key
  policies : ∀ p < h.nextPolicy, h'.policies p = h.policies p
  env : h'.env = h.env

/-- No callback is lost. -/
theorem Created.registry {h h' : Host ε} {t : ITransferPdu} (hc : Created h t h') :
    ∀ reg ∈ h.registry, reg ∈ h'.registry := by
  obtain ⟨more, hmore, -⟩ := hc.appended
  intro reg hreg
  rw [hmore]
  exact List.mem_append_left _ hreg

/-- The callbacks added are the new object's, on what it listens on. -/
theorem Created.fresh {h h' : Host ε} {t : ITransferPdu} (hc : Created h t h') :
    ∀ reg ∈ h'.registry, reg ∈ h.registry ∨
      (∀ r, reg.callback = .transfer r → r = t.self ∧ t.Listens h' reg.endpoint reg.key) := by
  obtain ⟨more, hmore, hnew⟩ := hc.appended
  intro reg hreg
  rw [hmore] at hreg
  exact (List.mem_append.1 hreg).imp_right (hnew reg)

theorem Created.extends {h h' : Host ε} {t : ITransferPdu} (hc : Created h t h') :
    Host.Extends h h' := by
  refine ⟨hc.registry, fun reg hreg r hr => ?_, ?_, ?_, fun p hp => by rw [hc.policies p hp]⟩
  · rcases hc.fresh reg hreg with hold | hnew
    · exact Or.inl hold
    · have hself := (hnew r hr).1
      have ht := hc.self
      have hnext := hc.nextTransfer
      exact Or.inr ⟨by omega, by omega⟩
  · exact (hc.policy_ge.trans_lt hc.policy_lt).le
  · have hnext := hc.nextTransfer
    omega

/-- Source: the two lines of `build` and of `create_monitor_transfer` that make a policy object
and a `TransferPdu` with it. -/
theorem created_newTransferPdu (E : Env ε) (key : BridgePduKey) (p : Policy)
    (src dst : EndpointRef) (h : Host ε) :
    Created h (newTransferPdu E key (h.newPolicy p).1 src dst (h.newPolicy p).2).1
      (newTransferPdu E key (h.newPolicy p).1 src dst (h.newPolicy p).2).2 := by
  refine ⟨rfl, rfl, rfl, le_rfl, Nat.lt_succ_self _, ⟨_, rfl, fun reg hreg r hr => ?_⟩,
    fun q hq => ?_, rfl⟩
  · rw [List.mem_singleton] at hreg
    subst hreg
    -- a cyclic policy makes the callback silent
    cases hcyclic : p.isCyclicTrigger with
    | true => simp [Host.newPolicy, hcyclic] at hr
    | false =>
      simp only [Host.newPolicy, Function.update_self, hcyclic, Bool.false_eq_true, if_false,
        Callback.transfer.injEq] at hr
      exact ⟨hr.symm, rfl, rfl, by simp [newTransferPdu, Host.newPolicy, hcyclic]⟩
  · have hne : q ≠ h.nextPolicy := Nat.ne_of_lt hq
    simp [newTransferPdu, Host.newPolicy, Function.update_of_ne hne]

/-- Source: the lines of `build` that make the policy object of an atomic group and the group. -/
theorem created_newTransferAtomicPduGroup (E : Env ε) (keys : List BridgePduKey) (p : Policy)
    (src dst : EndpointRef) (h : Host ε) :
    Created h (newTransferAtomicPduGroup E keys (h.newPolicy p).1 src dst (h.newPolicy p).2).1
      (newTransferAtomicPduGroup E keys (h.newPolicy p).1 src dst (h.newPolicy p).2).2 := by
  refine ⟨rfl, rfl, rfl, le_rfl, Nat.lt_succ_self _, ⟨_, rfl, fun reg hreg r hr => ?_⟩,
    fun q hq => ?_, rfl⟩
  · obtain ⟨key, hkey, rfl⟩ := List.mem_map.1 hreg
    rw [Callback.transfer.injEq] at hr
    exact ⟨hr.symm, rfl, hkey⟩
  · have hne : q ≠ h.nextPolicy := Nat.ne_of_lt hq
    simp [newTransferAtomicPduGroup, Host.newPolicy, Function.update_of_ne hne]

/-- Several transfers made one after another. -/
inductive CreatedAll : Host ε → List ITransferPdu → Host ε → Prop
  | nil (h : Host ε) : CreatedAll h [] h
  | cons {h h₁ h₂ : Host ε} {t : ITransferPdu} {ts : List ITransferPdu} :
      Created h t h₁ → CreatedAll h₁ ts h₂ → CreatedAll h (t :: ts) h₂

theorem CreatedAll.extends {h h' : Host ε} {ts : List ITransferPdu} (hc : CreatedAll h ts h') :
    Host.Extends h h' := by
  induction hc with
  | nil h => exact Host.Extends.refl h
  | cons ht _ ih => exact ht.extends.trans ih

/-- The objects made are fresh and below the new counter. -/
theorem CreatedAll.bounds {h h' : Host ε} {ts : List ITransferPdu} (hc : CreatedAll h ts h') :
    ∀ t ∈ ts, h.nextTransfer ≤ t.self ∧ t.self < h'.nextTransfer ∧ h.nextPolicy ≤ t.policy := by
  induction hc with
  | nil h => simp
  | cons ht hts ih =>
    have hnext := ht.nextTransfer
    have hself := ht.self
    have hle := hts.extends.nextTransfer
    have hpolicy := ht.policy_ge.trans_lt ht.policy_lt
    intro t' ht'
    rcases List.mem_cons.1 ht' with rfl | ht'
    · exact ⟨by omega, by omega, ht.policy_ge⟩
    · obtain ⟨hge, hlt, hpge⟩ := ih t' ht'
      exact ⟨by omega, hlt, by omega⟩

/-- The callbacks added are callbacks of the objects made, on what these listen on. -/
theorem CreatedAll.fresh {h h' : Host ε} {ts : List ITransferPdu} (hc : CreatedAll h ts h') :
    ∀ reg ∈ h'.registry, reg ∈ h.registry ∨ ∀ r, reg.callback = .transfer r →
      ∃ t ∈ ts, r = t.self ∧ t.Listens h' reg.endpoint reg.key := by
  induction hc with
  | nil h => exact fun reg hreg => Or.inl hreg
  | @cons h h₁ h₂ t ts ht hts ih =>
    intro reg hreg
    rcases ih reg hreg with hmid | hnew
    · rcases ht.fresh reg hmid with hold | hnew
      · exact Or.inl hold
      · apply Or.inr
        intro r hr
        obtain ⟨hself, hlistens⟩ := hnew r hr
        have hclass := hts.extends.cyclic t.policy ht.policy_lt
        exact ⟨t, List.mem_cons_self, hself, (ITransferPdu.listens_congr hclass).2 hlistens⟩
    · apply Or.inr
      intro r hr
      obtain ⟨t', ht', hself, hlistens⟩ := hnew r hr
      exact ⟨t', List.mem_cons_of_mem _ ht', hself, hlistens⟩

/-- What was there before is kept: the outside state, the policy objects, and the callbacks in
their order. -/
theorem CreatedAll.kept {h h' : Host ε} {ts : List ITransferPdu} (hc : CreatedAll h ts h') :
    h'.env = h.env ∧ (∀ p < h.nextPolicy, h'.policies p = h.policies p) ∧
      ∃ more, h'.registry = h.registry ++ more ∧ ∀ reg ∈ more, ∀ r,
        reg.callback = .transfer r → h.nextTransfer ≤ r := by
  induction hc with
  | nil h => exact ⟨rfl, fun _ _ => rfl, [], (List.append_nil _).symm, by simp⟩
  | @cons h h₁ h₂ t ts ht hts ih =>
    obtain ⟨henv, hpolicies, more, hmore, hnew⟩ := ih
    obtain ⟨first, hfirst, hone⟩ := ht.appended
    have hself := ht.self
    have hnext := ht.nextTransfer
    refine ⟨henv.trans ht.env, fun p hp => ?_, first ++ more, ?_, fun reg hreg r hr => ?_⟩
    · have hlt := ht.policy_ge.trans_lt ht.policy_lt
      exact (hpolicies p (hp.trans hlt)).trans (ht.policies p hp)
    · rw [hmore, hfirst, List.append_assoc]
    · rcases List.mem_append.1 hreg with hreg | hreg
      · have hr' := (hone reg hreg r hr).1
        omega
      · have hr' := hnew reg hreg r hr
        omega

/-! ## The invariant of the connections -/

namespace BridgeConnection

/-- Every transfer carries the connection's epoch and validation flag. -/
def InSync (c : BridgeConnection) : Prop :=
  ∀ t ∈ c.transferPdus, t.ownerEpoch = c.epoch ∧ t.epochValidation = c.epochValidation

theorem InSync.addTransferPdu {c : BridgeConnection} (h : c.InSync) (t : ITransferPdu) :
    (c.addTransferPdu t).InSync := by
  intro t' ht'
  rcases List.mem_append.1 ht' with hold | hnew
  · exact h t' hold
  · rw [List.mem_singleton] at hnew
    subst hnew
    exact ⟨rfl, rfl⟩

theorem InSync.incrementEpoch {c : BridgeConnection} (h : c.InSync) : c.incrementEpoch.InSync := by
  intro t' ht'
  obtain ⟨t, ht, rfl⟩ := List.mem_map.1 ht'
  exact ⟨rfl, (h t ht).2⟩

theorem InSync.setActive {c : BridgeConnection} (h : c.InSync) (b : Bool) :
    (c.setActive b).InSync := by
  intro t' ht'
  obtain ⟨t, ht, rfl⟩ := List.mem_map.1 ht'
  exact h t ht

theorem InSync.without {c : BridgeConnection} (h : c.InSync) (drop : List Nat) :
    (c.without drop).InSync :=
  fun t ht => h t (mem_without.1 ht).1

end BridgeConnection

/-- The invariant of a list of connections within a host. -/
structure Wf (cs : List BridgeConnection) (h : Host ε) : Prop where
  nodup : (cs.flatMap (·.refs)).Nodup
  transfer_lt : ∀ c ∈ cs, ∀ t ∈ c.transferPdus, t.self < h.nextTransfer
  policy_lt : ∀ c ∈ cs, ∀ t ∈ c.transferPdus, t.policy < h.nextPolicy
  registry_lt : ∀ reg ∈ h.registry, ∀ r, reg.callback = .transfer r → r < h.nextTransfer
  listens : ∀ reg ∈ h.registry, ∀ c ∈ cs, ∀ t ∈ c.transferPdus,
    reg.callback = .transfer t.self → t.Listens h reg.endpoint reg.key
  inSync : ∀ c ∈ cs, c.InSync

/-- A member of a list with one element changed. -/
theorem mem_of_mem_modify {α : Type} {f : α → α} {i : Nat} {xs : List α} {x : α}
    (h : x ∈ xs.modify i f) : x ∈ xs ∨ ∃ y, xs[i]? = some y ∧ x = f y := by
  obtain ⟨j, hj⟩ := List.mem_iff_getElem?.1 h
  rw [List.getElem?_modify] at hj
  split_ifs at hj with hij
  · subst hij
    obtain ⟨y, hy, rfl⟩ := Option.map_eq_some_iff.1 hj
    exact Or.inr ⟨y, hy, rfl⟩
  · rw [Option.map_eq_map, Option.map_id_fun', id] at hj
    exact Or.inl (List.mem_of_getElem? hj)

/-- Changing one element by a function that a view does not see. -/
theorem map_modify_of_invisible {α β : Type} {f : α → α} {g : α → β} (h : ∀ a, g (f a) = g a)
    (xs : List α) (i : Nat) : (xs.modify i f).map g = xs.map g := by
  induction xs generalizing i with
  | nil => simp
  | cons x xs ih => cases i <;> simp [h, ih]

/-- What is owned after one connection changed was owned before, or is what it took over. -/
theorem BridgeCore.mem_ownedRefs_modify {core : BridgeCore} {i : Nat}
    {f : BridgeConnection → BridgeConnection} {new : List Nat}
    (hf : ∀ c, ∀ r ∈ (f c).refs, r ∈ c.refs ∨ r ∈ new) {r : Nat}
    (h : r ∈ (core.modifyConnection i f).ownedRefs) : r ∈ core.ownedRefs ∨ r ∈ new := by
  obtain ⟨c, hc, hr⟩ := List.mem_flatMap.1 h
  rcases mem_of_mem_modify hc with hc | ⟨c₀, hc₀, rfl⟩
  · exact Or.inl (List.mem_flatMap.2 ⟨c, hc, hr⟩)
  · apply (hf c₀ r hr).imp_left
    intro hold
    exact List.mem_flatMap.2 ⟨c₀, List.mem_of_getElem? hc₀, hold⟩

/-- The objects owned after one connection took over some more. -/
theorem flatMap_refs_modify_perm {f : BridgeConnection → BridgeConnection}
    {new : List Nat} {cs : List BridgeConnection} {i : Nat} (hi : i < cs.length)
    (hf : ∀ c, (f c).refs = c.refs ++ new) :
    ((cs.modify i f).flatMap (·.refs)).Perm (cs.flatMap (·.refs) ++ new) := by
  induction cs generalizing i with
  | nil => simp at hi
  | cons c cs ih =>
    cases i with
    | zero =>
      simp only [List.modify_zero_cons, List.flatMap_cons, hf, List.append_assoc]
      exact (List.perm_append_comm).append_left _
    | succ i =>
      simp only [List.modify_succ_cons, List.flatMap_cons, List.append_assoc]
      exact (ih (by simpa using hi)).append_left _

namespace Wf

variable {cs : List BridgeConnection} {h h' : Host ε}

/-- The empty list of connections. -/
theorem nil (hreg : ∀ reg ∈ h.registry, ∀ r, reg.callback = .transfer r → r < h.nextTransfer) :
    Wf [] h :=
  ⟨by simp, by simp, by simp, hreg, by simp, by simp⟩

/-- Growing hosts keep the invariant. -/
theorem grow (hwf : Wf cs h) (hext : Host.Extends h h') : Wf cs h' := by
  refine ⟨hwf.nodup, fun c hc t ht => (hwf.transfer_lt c hc t ht).trans_le hext.nextTransfer,
    fun c hc t ht => (hwf.policy_lt c hc t ht).trans_le hext.nextPolicy,
    fun reg hreg r hr => ?_, fun reg hreg c hc t ht hself => ?_, hwf.inSync⟩
  · rcases hext.fresh reg hreg r hr with hold | ⟨-, hlt⟩
    · exact (hwf.registry_lt reg hold r hr).trans_le hext.nextTransfer
    · exact hlt
  · have hclass := hext.cyclic t.policy (hwf.policy_lt c hc t ht)
    rcases hext.fresh reg hreg t.self hself with hold | ⟨hge, -⟩
    · exact (ITransferPdu.listens_congr hclass).2 (hwf.listens reg hold c hc t ht hself)
    · exact absurd (hwf.transfer_lt c hc t ht) (Nat.not_lt.2 hge)

/-- A change of one connection that keeps its objects, and that keeps it in sync. -/
theorem modify (hwf : Wf cs h) (i : Nat) {f : BridgeConnection → BridgeConnection}
    (g : BridgeConnection → ITransferPdu → ITransferPdu)
    (hf : ∀ c, (f c).transferPdus = c.transferPdus.map (g c))
    (hg : ∀ c t, (g c t).self = t.self ∧ (g c t).policy = t.policy ∧ (g c t).body = t.body ∧
      (g c t).srcEndpoint = t.srcEndpoint)
    (hsync : ∀ c, c.InSync → (f c).InSync) : Wf (cs.modify i f) h := by
  -- every transfer of the changed list is one of the old list up to `g`
  have hold : ∀ c ∈ cs.modify i f, ∀ t ∈ c.transferPdus, ∃ c₀ ∈ cs, ∃ t₀ ∈ c₀.transferPdus,
      t.self = t₀.self ∧ t.policy = t₀.policy ∧ t.body = t₀.body ∧
        t.srcEndpoint = t₀.srcEndpoint := by
    intro c hc t ht
    rcases mem_of_mem_modify hc with hc | ⟨c₀, hc₀, rfl⟩
    · exact ⟨c, hc, t, ht, rfl, rfl, rfl, rfl⟩
    · rw [hf] at ht
      obtain ⟨t₀, ht₀, rfl⟩ := List.mem_map.1 ht
      exact ⟨c₀, List.mem_of_getElem? hc₀, t₀, ht₀, hg c₀ t₀⟩
  have hrefs : (cs.modify i f).flatMap (·.refs) = cs.flatMap (·.refs) := by
    have hc : ∀ c, (f c).refs = c.refs := by
      intro c
      simp only [BridgeConnection.refs, hf, List.map_map]
      exact List.map_congr_left fun t _ => (hg c t).1
    clear hold hwf
    induction cs generalizing i with
    | nil => simp
    | cons c cs ih => cases i <;> simp [hc, ih]
  refine ⟨hrefs ▸ hwf.nodup, fun c hc t ht => ?_, fun c hc t ht => ?_, hwf.registry_lt,
    fun reg hreg c hc t ht hself => ?_, fun c hc => ?_⟩
  · obtain ⟨c₀, hc₀, t₀, ht₀, hself, -⟩ := hold c hc t ht
    exact hself ▸ hwf.transfer_lt c₀ hc₀ t₀ ht₀
  · obtain ⟨c₀, hc₀, t₀, ht₀, -, hpolicy, -⟩ := hold c hc t ht
    exact hpolicy ▸ hwf.policy_lt c₀ hc₀ t₀ ht₀
  · obtain ⟨c₀, hc₀, t₀, ht₀, hself₀, hpolicy, hbody, hsrc⟩ := hold c hc t ht
    have hlisten := hwf.listens reg hreg c₀ hc₀ t₀ ht₀ (hself₀ ▸ hself)
    unfold ITransferPdu.Listens at hlisten ⊢
    rw [hbody, hsrc, hpolicy]
    exact hlisten
  · rcases mem_of_mem_modify hc with hc | ⟨c₀, hc₀, rfl⟩
    · exact hwf.inSync c hc
    · exact hsync c₀ (hwf.inSync c₀ (List.mem_of_getElem? hc₀))

/-- A connection takes over a transfer that was just made. -/
theorem add (hwf : Wf cs h) {i : Nat} (hi : i < cs.length) {t : ITransferPdu}
    (hc : Created h t h') : Wf (cs.modify i (·.addTransferPdu t)) h' := by
  have hwf' := hwf.grow hc.extends
  have hself := hc.self
  have hnext := hc.nextTransfer
  -- a transfer of the changed list is an old one or the new one
  have hold : ∀ c ∈ cs.modify i (·.addTransferPdu t), ∀ t' ∈ c.transferPdus,
      (∃ c₀ ∈ cs, t' ∈ c₀.transferPdus) ∨
        t'.self = t.self ∧ t'.policy = t.policy ∧ t'.body = t.body ∧
          t'.srcEndpoint = t.srcEndpoint := by
    intro c hc' t' ht'
    rcases mem_of_mem_modify hc' with hc' | ⟨c₀, hc₀, rfl⟩
    · exact Or.inl ⟨c, hc', ht'⟩
    · rcases List.mem_append.1 ht' with ht' | ht'
      · exact Or.inl ⟨c₀, List.mem_of_getElem? hc₀, ht'⟩
      · rw [List.mem_singleton] at ht'
        subst ht'
        exact Or.inr ⟨rfl, rfl, rfl, rfl⟩
  refine ⟨?_, fun c hc' t' ht' => ?_, fun c hc' t' ht' => ?_, hwf'.registry_lt,
    fun reg hreg c hc' t' ht' hcallback => ?_, fun c hc' => ?_⟩
  · have hperm := flatMap_refs_modify_perm hi fun c => BridgeConnection.refs_addTransferPdu c t
    refine hperm.nodup_iff.2
      (List.nodup_append.2 ⟨hwf.nodup, List.nodup_singleton _, fun r hr r' hr' heq => ?_⟩)
    rw [List.mem_singleton] at hr'
    obtain ⟨c, hc', hrc⟩ := List.mem_flatMap.1 hr
    obtain ⟨t₀, ht₀, rfl⟩ := List.mem_map.1 hrc
    have hlt := hwf.transfer_lt c hc' t₀ ht₀
    omega
  · rcases hold c hc' t' ht' with ⟨c₀, hc₀, ht₀⟩ | ⟨hs, -⟩
    · exact hwf'.transfer_lt c₀ hc₀ t' ht₀
    · omega
  · rcases hold c hc' t' ht' with ⟨c₀, hc₀, ht₀⟩ | ⟨-, hp, -⟩
    · exact hwf'.policy_lt c₀ hc₀ t' ht₀
    · exact hp ▸ hc.policy_lt
  · rcases hold c hc' t' ht' with ⟨c₀, hc₀, ht₀⟩ | ⟨hs, hp, hb, hsrc⟩
    · exact hwf'.listens reg hreg c₀ hc₀ t' ht₀ hcallback
    · rw [hs] at hcallback
      have hlisten : t.Listens h' reg.endpoint reg.key := by
        rcases hc.fresh reg hreg with hreg | hnew
        · have hlt := hwf.registry_lt reg hreg t.self hcallback
          omega
        · exact (hnew t.self hcallback).2
      unfold ITransferPdu.Listens at hlisten ⊢
      rw [hb, hsrc, hp]
      exact hlisten
  · rcases mem_of_mem_modify hc' with hc' | ⟨c₀, hc₀, rfl⟩
    · exact hwf.inSync c hc'
    · exact (hwf.inSync c₀ (List.mem_of_getElem? hc₀)).addTransferPdu t

/-- Dropping transfers from every connection. -/
theorem without (hwf : Wf cs h) (drop : List Nat) :
    Wf (cs.map (·.without drop)) h := by
  have hold : ∀ c ∈ cs.map (·.without drop), ∀ t ∈ c.transferPdus,
      ∃ c₀ ∈ cs, t ∈ c₀.transferPdus := by
    intro c hc t ht
    obtain ⟨c₀, hc₀, rfl⟩ := List.mem_map.1 hc
    exact ⟨c₀, hc₀, (BridgeConnection.mem_without.1 ht).1⟩
  refine ⟨?_, fun c hc t ht => ?_, fun c hc t ht => ?_, hwf.registry_lt,
    fun reg hreg c hc t ht hself => ?_, fun c hc => ?_⟩
  · have hfilter : (cs.map (·.without drop)).flatMap (·.refs) =
        (cs.flatMap (·.refs)).filter fun r => !decide (r ∈ drop) :=
      BridgeCore.ownedRefs_without { nodeName := "", connections := cs } drop
    rw [hfilter]
    exact hwf.nodup.filter _
  · obtain ⟨c₀, hc₀, ht₀⟩ := hold c hc t ht
    exact hwf.transfer_lt c₀ hc₀ t ht₀
  · obtain ⟨c₀, hc₀, ht₀⟩ := hold c hc t ht
    exact hwf.policy_lt c₀ hc₀ t ht₀
  · obtain ⟨c₀, hc₀, ht₀⟩ := hold c hc t ht
    exact hwf.listens reg hreg c₀ hc₀ t ht₀ hself
  · obtain ⟨c₀, hc₀, rfl⟩ := List.mem_map.1 hc
    exact (hwf.inSync c₀ hc₀).without drop

/-- A new connection that owns nothing. -/
theorem append_empty (hwf : Wf cs h) (c : BridgeConnection) (hempty : c.transferPdus = []) :
    Wf (cs ++ [c]) h := by
  have hold : ∀ c' ∈ cs ++ [c], ∀ t ∈ c'.transferPdus, c' ∈ cs := by
    intro c' hc' t ht
    rcases List.mem_append.1 hc' with hc' | hc'
    · exact hc'
    · rw [List.mem_singleton] at hc'
      subst hc'
      rw [hempty] at ht
      exact absurd ht List.not_mem_nil
  refine ⟨?_, fun c' hc' t ht => hwf.transfer_lt c' (hold c' hc' t ht) t ht,
    fun c' hc' t ht => hwf.policy_lt c' (hold c' hc' t ht) t ht, hwf.registry_lt,
    fun reg hreg c' hc' t ht hself => hwf.listens reg hreg c' (hold c' hc' t ht) t ht hself,
    fun c' hc' t ht => hwf.inSync c' (hold c' hc' t ht) t ht⟩
  simpa [BridgeConnection.refs, hempty] using hwf.nodup

/-- An object has one owner, and one record there. -/
theorem unique (hwf : Wf cs h) {c c' : BridgeConnection} (hc : c ∈ cs) (hc' : c' ∈ cs)
    {t t' : ITransferPdu} (ht : t ∈ c.transferPdus) (ht' : t' ∈ c'.transferPdus)
    (hself : t.self = t'.self) : c = c' ∧ t = t' := by
  have hnd := List.nodup_flatMap.1 hwf.nodup
  by_cases hcc : c = c'
  · subst hcc
    exact ⟨rfl, List.inj_on_of_nodup_map (hnd.1 c hc) ht ht' hself⟩
  · have hsymm : Std.Symm (Function.onFun List.Disjoint BridgeConnection.refs) :=
      ⟨fun _ _ hxy => List.Disjoint.symm hxy⟩
    have hdisj : List.Disjoint c.refs c'.refs := hnd.2.forall hc hc' hcc
    have hmem : t.self ∈ c'.refs := hself ▸ List.mem_map_of_mem ht'
    exact absurd hmem (hdisj (List.mem_map_of_mem ht))

end Wf

end HakoniwaBridge
