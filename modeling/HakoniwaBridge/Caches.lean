import HakoniwaBridge.Transfer

/-!
# What transfers take from the source caches

Over source caches (`CacheSpec`) a transfer changes the outside by its calls of `recv` alone, and
it reads from its source only, under the keys `ITransferPdu.reads`.

* `onRecvCallback_keeps` — **the rule**: a reflexive and transitive relation that every such `recv`
  keeps, a callback keeps as well; likewise `transfer_keeps` and `tryTransferGroup_keeps`.
* `CacheState.Drained` — entries were taken out, and nothing else happened.
* `cells_onRecvCallback` — a cache that the transfer does not read stays as it is, and so does one
  in mode `latest`.
-/

namespace HakoniwaBridge

variable {C : CacheSpec}

/-! ## One `recv` -/

/-- Entries were taken out of caches, and nothing else happened. -/
structure CacheState.Drained (e e' : CacheState) : Prop where
  cells : ∀ ep key, e'.cells ep key <:+ e.cells ep key
  clock : e'.clock = e.clock

theorem CacheState.Drained.refl (e : CacheState) : CacheState.Drained e e :=
  ⟨fun _ _ => List.suffix_rfl, rfl⟩

theorem CacheState.Drained.trans {e₁ e₂ e₃ : CacheState} (h₁₂ : CacheState.Drained e₁ e₂)
    (h₂₃ : CacheState.Drained e₂ e₃) : CacheState.Drained e₁ e₃ :=
  ⟨fun ep key => (h₂₃.cells ep key).trans (h₁₂.cells ep key), h₂₃.clock.trans h₁₂.clock⟩

/-- An empty cache stays empty. -/
theorem CacheState.Drained.empty {e e' : CacheState} (h : CacheState.Drained e e')
    {ep : EndpointRef} {key : PduResolvedKey} (hempty : e.cells ep key = []) :
    e'.cells ep key = [] := by
  have hcells := h.cells ep key
  rw [hempty] at hcells
  exact List.suffix_nil.1 hcells

namespace CacheSpec

variable {ep ep' : EndpointRef} {a : ApiKey} {key : PduResolvedKey} {size : Nat} {e : CacheState}

theorem setCell_of_ne (entries : List Bytes) (h : ¬ (ep' = ep ∧ key = C.resolve ep a)) :
    (setCell ep (C.resolve ep a) entries e).cells ep' key = e.cells ep' key := by
  unfold setCell
  by_cases hep : ep' = ep
  · subst hep
    have hkey : key ≠ C.resolve ep' a := fun heq => h ⟨rfl, heq⟩
    simp [Function.update_of_ne hkey]
  · simp [Function.update_of_ne hep]

/-- What `recv` does to the caches: nothing, or it takes the oldest entry of a queue. -/
theorem recv_cells (C : CacheSpec) (ep : EndpointRef) (a : ApiKey) (size : Nat) (e : CacheState) :
    (C.recv none ep a size e).1 = e ∨
      (C.mode ep = .queue ∧ ∃ data rest, e.cells ep (C.resolve ep a) = data :: rest ∧
        (C.recv none ep a size e).1 = setCell ep (C.resolve ep a) rest e) := by
  unfold recv
  cases hcell : e.cells ep (C.resolve ep a) with
  | nil => exact .inl rfl
  | cons data rest =>
    cases hmode : C.mode ep with
    | latest => exact .inl rfl
    | queue => exact .inr ⟨rfl, data, rest, rfl, rfl⟩

theorem recv_drained (C : CacheSpec) (ep : EndpointRef) (a : ApiKey) (size : Nat)
    (e : CacheState) : CacheState.Drained e (C.recv none ep a size e).1 := by
  rcases C.recv_cells ep a size e with hsame | ⟨-, data, rest, hcell, htaken⟩
  · rw [hsame]
    exact .refl e
  · rw [htaken]
    refine ⟨fun ep' key => ?_, rfl⟩
    by_cases hown : ep' = ep ∧ key = C.resolve ep a
    · obtain ⟨rfl, rfl⟩ := hown
      rw [setCell_same, hcell]
      exact List.suffix_cons data rest
    · have hsame := setCell_of_ne (e := e) rest hown
      exact hsame.symm ▸ List.suffix_rfl

/-- Another cache, or one in mode `latest`, stays as it is. -/
theorem cells_recv (h : ¬ (ep' = ep ∧ key = C.resolve ep a) ∨ C.mode ep' = .latest) :
    (C.recv none ep a size e).1.cells ep' key = e.cells ep' key := by
  rcases C.recv_cells ep a size e with hsame | ⟨hqueue, data, rest, -, htaken⟩
  · rw [hsame]
  · rw [htaken]
    apply setCell_of_ne rest
    rintro ⟨rfl, hkey⟩
    rcases h with hne | hlatest
    · exact hne ⟨rfl, hkey⟩
    · rw [hlatest] at hqueue
      exact absurd hqueue (by simp)

/-- From an empty cache nothing is received. -/
theorem recv_of_empty (C : CacheSpec) (hcell : e.cells ep (C.resolve ep a) = []) (size : Nat) :
    C.recv none ep a size e = (e, .error .noEntry) := by
  unfold recv
  rw [hcell]
  rfl

/-- A queue of one entry is empty afterwards. -/
theorem cells_recv_queue (hqueue : C.mode ep = .queue) {data : Bytes}
    (hcell : e.cells ep (C.resolve ep a) = [data]) :
    (C.recv none ep a size e).1.cells ep (C.resolve ep a) = [] := by
  unfold recv
  rw [hcell]
  simp [hqueue]

end CacheSpec

/-! ## One call of a transfer -/

namespace ITransferPdu

/-- The keys under which a transfer calls `recv`: its own, as far as the source knows their size. -/
def reads (C : CacheSpec) (t : ITransferPdu) : List ApiKey :=
  match t.body with
  | .transferPdu configKey _ =>
    if C.getPduSize t.srcEndpoint configKey.endpointKey = 0 then []
    else [.named configKey.endpointKey]
  | .transferAtomicPduGroup keys =>
    (keys.filter fun key =>
      C.getPduSize t.srcEndpoint ⟨key.robot, C.getPduName t.srcEndpoint key⟩ ≠ 0).map .resolved

variable {t : ITransferPdu} {R : CacheState → CacheState → Prop}

theorem transfer_keeps (hrefl : ∀ e, R e e) {key : PduKey}
    (hrecv : C.getPduSize t.srcEndpoint key ≠ 0 →
      ∀ size e, R e (C.recv none t.srcEndpoint (.named key) size e).1) (e : CacheState) :
    R e (t.transfer (C.env none) key e).1 := by
  unfold transfer
  dsimp only [CacheSpec.env_getPduSize, CacheSpec.env_recv, CacheSpec.env_send]
  split_ifs with hsize
  · exact hrefl e
  · have hread := hrecv hsize (C.getPduSize t.srcEndpoint key) e
    split
    · next heq =>
      rw [heq] at hread
      exact hread
    · next heq =>
      rw [heq] at hread
      split_ifs
      · exact hread
      · exact hread
      · exact hread

theorem readMember_keeps (hrefl : ∀ e, R e e) {key : PduResolvedKey}
    (hrecv : C.getPduSize t.srcEndpoint ⟨key.robot, C.getPduName t.srcEndpoint key⟩ ≠ 0 →
      ∀ size e, R e (C.recv none t.srcEndpoint (.resolved key) size e).1) (e : CacheState) :
    R e (t.readMember (C.env none) key e).1 := by
  have hname : (C.env none).getPduName = C.getPduName := rfl
  unfold readMember
  simp only [CacheSpec.env_getPduSize, CacheSpec.env_recv, hname]
  split_ifs with hsize
  · exact hrefl e
  · have hread := hrecv hsize
      (C.getPduSize t.srcEndpoint ⟨key.robot, C.getPduName t.srcEndpoint key⟩) e
    split
    · next heq =>
      rw [heq] at hread
      exact hread
    · next heq =>
      rw [heq] at hread
      split_ifs
      · exact hread
      · exact hread
      · exact hread

/-- A member whose cache is empty is skipped. -/
theorem readMember_of_empty {e : CacheState} {key : PduResolvedKey}
    (hcell : e.cells t.srcEndpoint key = []) :
    t.readMember (C.env none) key e = (e, .skipped) := by
  have hrecv : ∀ size, C.recv none t.srcEndpoint (.resolved key) size e =
      (e, .error .noEntry) := fun size => C.recv_of_empty hcell size
  unfold readMember
  dsimp only
  split_ifs
  · rfl
  · rw [CacheSpec.env_recv, hrecv]

theorem sendGroup_env (C : CacheSpec) (t : ITransferPdu) (buffers : List (PduResolvedKey × Bytes))
    (e : CacheState) : (t.sendGroup (C.env none) buffers e).1 = e := by
  induction buffers with
  | nil => rfl
  | cons b rest ih =>
    unfold sendGroup
    dsimp only [CacheSpec.env]
    rw [ite_self]
    exact ih

theorem tryTransferGroup_keeps (hrefl : ∀ e, R e e)
    (htrans : ∀ e₁ e₂ e₃, R e₁ e₂ → R e₂ e₃ → R e₁ e₃) {keys : List PduResolvedKey}
    (hrecv : ∀ key ∈ keys,
      C.getPduSize t.srcEndpoint ⟨key.robot, C.getPduName t.srcEndpoint key⟩ ≠ 0 →
      ∀ size e, R e (C.recv none t.srcEndpoint (.resolved key) size e).1) (e : CacheState) :
    R e (t.tryTransferGroup (C.env none) keys e).1 := by
  have hread : ∀ e, R e (t.readGroup (C.env none) keys e).1 := by
    induction keys with
    | nil => exact hrefl
    | cons key keys ih =>
      intro e
      have hkey := readMember_keeps hrefl (hrecv key List.mem_cons_self) e
      have hrest := ih fun key' hkey' => hrecv key' (List.mem_cons_of_mem _ hkey')
      unfold readGroup
      split
      · next heq =>
        rw [heq] at hkey
        exact hkey
      · next e₁ heq =>
        rw [heq] at hkey
        exact htrans _ _ _ hkey (hrest e₁)
      · next e₁ _ heq =>
        rw [heq] at hkey
        exact htrans _ _ _ hkey (hrest e₁)
  have hgroup := hread e
  unfold tryTransferGroup
  split
  · next heq =>
    rw [heq] at hgroup
    exact hgroup
  · next heq =>
    rw [heq] at hgroup
    rw [sendGroup_env]
    exact hgroup

/-- The gate adds the calls of the policy, which change nothing outside. -/
theorem gated_keeps (hrefl : ∀ e, R e e) (key : PduResolvedKey)
    {action : CacheState → CacheState × List Send} (haction : ∀ e, R e (action e).1)
    (h : Host CacheState) : R h.env (t.gated (C.env none) key action h).1.env := by
  have hgate := (h.policies t.policy).shouldTransfer_env C none key h.env
  unfold gated
  split_ifs
  · split
    · next heq =>
      rw [heq] at hgate
      dsimp only [Host.put] at hgate ⊢
      rw [hgate]
      exact hrefl h.env
    · next p e heq =>
      rw [heq] at hgate
      dsimp only [Host.put] at hgate ⊢
      rw [Policy.onTransferred_env, hgate]
      exact haction h.env
  · exact hrefl h.env

/-- The transfer is active, and its policy lets it fire at the key. -/
def Fires (C : CacheSpec) (h : Host CacheState) (key : PduResolvedKey) (t : ITransferPdu) : Prop :=
  t.isActive = true ∧
    ((h.policies t.policy).shouldTransfer (C.env none) key h.env).2.2 = true

/-- The gate lets the sends out when the transfer fires. -/
theorem gated_of_fires {h : Host CacheState} {key : PduResolvedKey} (hfires : t.Fires C h key)
    (action : CacheState → CacheState × List Send) :
    (t.gated (C.env none) key action h).2 = (action h.env).2 := by
  obtain ⟨hactive, hanswer⟩ := hfires
  have henv := (h.policies t.policy).shouldTransfer_env C none key h.env
  unfold gated
  rw [if_pos hactive]
  split
  · next heq =>
    rw [heq] at hanswer
    exact absurd hanswer Bool.false_ne_true
  · next heq =>
    rw [heq] at henv
    obtain rfl := henv
    rfl

theorem gated_of_not_fires {h : Host CacheState} {key : PduResolvedKey}
    (hfires : ¬ t.Fires C h key) (action : CacheState → CacheState × List Send) :
    (t.gated (C.env none) key action h).2 = [] := by
  unfold gated
  split_ifs with hactive
  · split
    · rfl
    · next heq => exact absurd ⟨hactive, congrArg (·.2.2) heq⟩ hfires
  · rfl

/-- A gate that stays closed leaves the outside alone. -/
theorem gated_env_of_not_fires {h : Host CacheState} {key : PduResolvedKey}
    (hfires : ¬ t.Fires C h key) (action : CacheState → CacheState × List Send) :
    (t.gated (C.env none) key action h).1.env = h.env := by
  have henv := (h.policies t.policy).shouldTransfer_env C none key h.env
  unfold gated
  split_ifs with hactive
  · split
    · next heq =>
      rw [heq] at henv
      exact henv
    · next heq => exact absurd ⟨hactive, congrArg (·.2.2) heq⟩ hfires
  · rfl

/-- **The rule.** What every `recv` of a transfer keeps, its callback keeps. -/
theorem onRecvCallback_keeps (hrefl : ∀ e, R e e)
    (htrans : ∀ e₁ e₂ e₃, R e₁ e₂ → R e₂ e₃ → R e₁ e₃)
    (hrecv : ∀ a ∈ t.reads C, ∀ size e, R e (C.recv none t.srcEndpoint a size e).1)
    (key : PduResolvedKey) (h : Host CacheState) :
    R h.env (t.onRecvCallback (C.env none) key h).1.env := by
  unfold onRecvCallback
  cases hbody : t.body with
  | transferPdu configKey resolvedKey =>
    refine gated_keeps hrefl resolvedKey (transfer_keeps hrefl fun hsize => hrecv _ ?_) h
    unfold reads
    rw [hbody]
    dsimp only
    rw [if_neg hsize]
    exact List.mem_singleton_self _
  | transferAtomicPduGroup keys =>
    refine gated_keeps hrefl key (tryTransferGroup_keeps hrefl htrans fun key' hkey' hsize =>
      hrecv _ ?_) h
    unfold reads
    rw [hbody]
    exact List.mem_map_of_mem (List.mem_filter.2 ⟨hkey', decide_eq_true hsize⟩)

/-- A callback takes entries out of caches. -/
theorem onRecvCallback_drained (C : CacheSpec) (t : ITransferPdu) (key : PduResolvedKey)
    (h : Host CacheState) :
    CacheState.Drained h.env (t.onRecvCallback (C.env none) key h).1.env :=
  onRecvCallback_keeps .refl (fun _ _ _ => .trans)
    (fun a _ size e => C.recv_drained t.srcEndpoint a size e) key h

/-- A cache that the transfer does not read, or one in mode `latest`, stays as it is. -/
theorem cells_onRecvCallback {ep : EndpointRef} {cell : PduResolvedKey}
    (hcell : (∀ a ∈ t.reads C, ¬ (ep = t.srcEndpoint ∧ cell = C.resolve t.srcEndpoint a)) ∨
      C.mode ep = .latest) (key : PduResolvedKey) (h : Host CacheState) :
    (t.onRecvCallback (C.env none) key h).1.env.cells ep cell = h.env.cells ep cell := by
  refine onRecvCallback_keeps (R := fun e e' => e'.cells ep cell = e.cells ep cell)
    (fun _ => rfl) (fun _ _ _ h₁₂ h₂₃ => h₂₃.trans h₁₂) (fun a ha size e => ?_) key h
  exact CacheSpec.cells_recv (hcell.imp (fun hreads => hreads a ha) id)

end ITransferPdu

end HakoniwaBridge
