import HakoniwaBridge.MonitorScreen
import HakoniwaBridge.SessionPdus
import HakoniwaBridge.Sessions

/-!
# What a command of the monitor client leaves behind

`tail` on a bridge in operation. Atomic requests (`MonitorProcess.reaches_run`) reduce the question
to proof outlines (`Lib.Script.Outline`).

* `tailTargets_answer` — what `tail` makes of the list of PDUs.
* `tailLine_addTarget` — **the names that `tail` shows**: where its endpoint has none, the table
  under the texts `robot:channel` serves as a table of channels.
* `Bridge.Since`, `Bridge.IssuedSince`, `Bridge.EndedSince` — what is known of a session while
  anything may happen.
* `tail_leavesNothing` — **`tail` ends its session**: whatever else happens, it leaves the session
  behind only if the answer to its last request does not arrive in time.
-/

namespace HakoniwaBridge

open Lib

variable {ε : Type} {E : Env ε}

/-! ## The answers -/

namespace MonitorCli

/-- The channel that a PDU of the list stands for, and its name. -/
def tailTarget (cast : String → Int) (getPduChannelId : PduKey → Int) (pdu : PduStateDto) :
    PduResolvedKey × String :=
  let channelId := (pdu.channelId.map (Json.narrow cast)).getD (-1)
  let resolved :=
    if channelId < 0 then resolveChannelId getPduChannelId pdu.robot pdu.pduName else none
  (⟨pdu.robot, resolved.getD channelId⟩, pdu.pduName)

/-- A row of the answer, as `tail` reads it. -/
theorem tailRow_pduJson (cast : String → Int) (getPduChannelId : PduKey → Int)
    (pdu : PduStateDto) :
    tailRow cast getPduChannelId (pduJson pdu) = .ok (tailTarget cast getPduChannelId pdu) := by
  obtain ⟨connectionId, robot, pduName, channelId⟩ := pdu
  cases channelId <;> rfl

/-- The loop over the rows of the answer. -/
theorem tailTargets_answer (cast : String → Int) (getPduChannelId : PduKey → Int) (req : Json)
    (connectionId : String) (pdus : List PduStateDto) :
    tailTargets cast getPduChannelId (withRequestId req [("type", .str "pdus"),
      ("connection_id", .str connectionId), ("pdus", .arr (pdus.map pduJson))]) =
      .ok ((pdus.map (tailTarget cast getPduChannelId)).foldl addTarget {}) := by
  have hmember : member (withRequestId req [("type", .str "pdus"),
      ("connection_id", .str connectionId), ("pdus", .arr (pdus.map pduJson))]) "pdus" =
      .ok (.arr (pdus.map pduJson)) := by
    unfold member withRequestId
    cases hid : req.getString? "request_id" <;> rfl
  have hrows := mapM_encoded (tailTarget cast getPduChannelId) pdus fun pdu _ =>
    tailRow_pduJson cast getPduChannelId pdu
  unfold tailTargets
  rw [hmember]
  exact congrArg (Except.map _) hrows

end MonitorCli

/-! ## The names on the screen -/

namespace MonitorCli

/-- The colon before the number is the last one. -/
theorem channelText_inj {key key' : PduResolvedKey} (hkey : 0 ≤ key.channelId)
    (hkey' : 0 ≤ key'.channelId) (h : channelText key = channelText key') : key = key' := by
  obtain ⟨robot, channelId⟩ := key
  obtain ⟨robot', channelId'⟩ := key'
  obtain ⟨n, rfl⟩ := Int.eq_ofNat_of_zero_le hkey
  obtain ⟨n', rfl⟩ := Int.eq_ofNat_of_zero_le hkey'
  have hdigits : ∀ n : Nat, ∀ c ∈ (Nat.repr n).toList.reverse, (c != ':') = true := by
    intro n c hmem
    rw [List.mem_reverse, Nat.toList_repr] at hmem
    have hdigit := Nat.isDigit_of_mem_toDigits (by decide) (by decide) hmem
    refine bne_iff_ne.2 ?_
    rintro rfl
    exact absurd hdigit (by decide)
  have htext : ∀ (robot : String) (n : Nat), (channelText ⟨robot, n⟩).toList.reverse =
      (Nat.repr n).toList.reverse ++ ':' :: robot.toList.reverse := fun robot n => by
    unfold channelText
    rw [String.toList_append, String.toList_append, List.reverse_append, List.reverse_append]
    rfl
  have hreversed := congrArg (fun text => text.toList.reverse) h
  rw [htext, htext] at hreversed
  have hnumber := congrArg (List.takeWhile (· != ':')) hreversed
  have hrobot := congrArg (List.dropWhile (· != ':')) hreversed
  rw [List.takeWhile_append_of_pos (hdigits n), List.takeWhile_append_of_pos (hdigits n')]
    at hnumber
  rw [List.dropWhile_append_of_pos (hdigits n), List.dropWhile_append_of_pos (hdigits n')]
    at hrobot
  simp only [List.takeWhile_cons, List.dropWhile_cons, bne_self_eq_false, Bool.false_eq_true,
    if_false, List.append_nil, List.reverse_inj, String.toList_inj, List.cons.injEq, true_and]
    at hnumber hrobot
  rw [hrobot, repr_injective hnumber]

/-- What is kept of a row. -/
theorem addTarget_cases (targets : TailTargets) (row : PduResolvedKey × String) :
    (row.1.robot = "" ∨ row.1.channelId < 0) ∧ (addTarget targets row).names = targets.names ∧
        (addTarget targets row).channels = targets.channels ∨
      (row.1.robot ≠ "" ∧ 0 ≤ row.1.channelId) ∧
        (addTarget targets row).names = (channelText row.1, row.2) :: targets.names ∧
        (addTarget targets row).channels = targets.channels ++ [row.1] := by
  unfold addTarget
  split_ifs with hunresolved
  · exact .inl ⟨hunresolved, rfl, rfl⟩
  · obtain ⟨hrobot, hchannel⟩ := not_or.1 hunresolved
    exact .inr ⟨⟨hrobot, Int.not_lt.1 hchannel⟩, rfl, rfl⟩

/-- A channel that is subscribed to has a robot and a number. -/
theorem channelId_of_mem (rows : List (PduResolvedKey × String)) :
    ∀ key ∈ (rows.foldl addTarget {}).channels, key.robot ≠ "" ∧ 0 ≤ key.channelId := by
  induction rows using List.reverseRecOn with
  | nil => exact nofun
  | append_singleton rows row ih =>
    intro key hkey
    rw [List.foldl_append, List.foldl_cons, List.foldl_nil] at hkey
    rcases addTarget_cases (rows.foldl addTarget {}) row with ⟨-, -, hsame⟩ | ⟨hresolved, -, hmore⟩
    · exact ih key (hsame ▸ hkey)
    · rw [hmore, List.mem_append, List.mem_singleton] at hkey
      rcases hkey with hkey | rfl
      · exact ih key hkey
      · exact hresolved

/-- The names are kept under texts, in which a robot and a channel run together. Still a channel is
found under the name that the list gave it last. -/
theorem resolvePduName_addTarget (rows : List (PduResolvedKey × String)) {key : PduResolvedKey}
    (hkey : key ∈ (rows.foldl addTarget {}).channels) :
    ∃ before name after, rows = before ++ (key, name) :: after ∧ (∀ row ∈ after, row.1 ≠ key) ∧
      resolvePduName "" key (rows.foldl addTarget {}).names = name := by
  induction rows using List.reverseRecOn with
  | nil => exact absurd hkey List.not_mem_nil
  | append_singleton rows row ih =>
    rw [List.foldl_append, List.foldl_cons, List.foldl_nil] at hkey ⊢
    unfold resolvePduName at ih ⊢
    rw [if_neg (by decide)] at ih ⊢
    rcases addTarget_cases (rows.foldl addTarget {}) row with
      ⟨hunresolved, hnames, hchannels⟩ | ⟨⟨-, hchannel⟩, hnames, hchannels⟩
    · -- the row is skipped
      rw [hchannels] at hkey
      obtain ⟨before, name, after, hrows, hafter, hname⟩ := ih hkey
      refine ⟨before, name, after ++ [row], ?_, fun row' hrow' => ?_, hnames ▸ hname⟩
      · rw [hrows, List.append_assoc, List.cons_append]
      · rcases List.mem_append.1 hrow' with hrow' | hrow'
        · exact hafter row' hrow'
        · obtain rfl := List.mem_singleton.1 hrow'
          rintro rfl
          obtain ⟨hrobot, hchannel⟩ := channelId_of_mem rows row'.1 hkey
          exact hunresolved.elim hrobot (Int.not_lt.2 hchannel)
    · rw [hnames]
      by_cases hrow : row.1 = key
      · subst hrow
        exact ⟨rows, row.2, [], rfl, nofun, by rw [List.lookup_cons_self]; rfl⟩
      · rw [hchannels, List.mem_append, List.mem_singleton] at hkey
        have hkey := hkey.resolve_right fun heq => hrow heq.symm
        obtain ⟨before, name, after, hrows, hafter, hname⟩ := ih hkey
        obtain ⟨-, hkept⟩ := channelId_of_mem rows key hkey
        refine ⟨before, name, after ++ [row], ?_, fun row' hrow' => ?_, ?_⟩
        · rw [hrows, List.append_assoc, List.cons_append]
        · rcases List.mem_append.1 hrow' with hrow' | hrow'
          · exact hafter row' hrow'
          · exact List.mem_singleton.1 hrow' ▸ hrow
        · have hother : (channelText key == channelText row.1) = false :=
            beq_eq_false_iff_ne.2 fun htext => hrow (channelText_inj hkept hchannel htext).symm
          rw [List.lookup_cons, hother]
          exact hname

/-- **The name of a channel.** What arrives on a channel that `tail` has subscribed to is shown
under the name that the client's endpoint has for it; if it has none, under the name that the list
gave the channel last, whatever the robots are called. -/
theorem tailLine_addTarget (rows : List (PduResolvedKey × String)) {key : PduResolvedKey}
    (hkey : key ∈ (rows.foldl addTarget {}).channels) (getPduName : PduResolvedKey → String)
    (hakoPduGetEpoch : Bytes → Option UInt8) (timestampUsec : Int) (data : Bytes) :
    ∃ before name after, rows = before ++ (key, name) :: after ∧ (∀ row ∈ after, row.1 ≠ key) ∧
      tailLine getPduName hakoPduGetEpoch (rows.foldl addTarget {}) timestampUsec key data =
        formatTailLine timestampUsec key data.length
          (if getPduName key = "" then name else getPduName key)
          (tryGetEpoch hakoPduGetEpoch data) := by
  obtain ⟨before, name, after, hrows, hafter, hname⟩ := resolvePduName_addTarget rows hkey
  refine ⟨before, name, after, hrows, hafter, ?_⟩
  unfold tailLine
  congr 1
  split_ifs with hdirect
  · rw [hdirect, hname]
  · exact if_pos hdirect

/-- Two robots, of which one is called like a channel of the other. -/
def colonRows : List (PduResolvedKey × String) :=
  [(⟨"a", 11⟩, "pos"), (⟨"a:1", 1⟩, "vel"), (⟨"a", 11⟩, "acc")]

theorem tailLine_colonRows : ∃ before name after,
    colonRows = before ++ (⟨"a", 11⟩, name) :: after ∧ (∀ row ∈ after, row.1 ≠ ⟨"a", 11⟩) ∧
      tailLine (fun _ => "") List.head? (colonRows.foldl addTarget {}) 5 ⟨"a", 11⟩ [7] =
        formatTailLine 5 ⟨"a", 11⟩ 1 name "7" :=
  tailLine_addTarget colonRows (by decide) (fun _ => "") List.head? 5 [7]

end MonitorCli

namespace Bridge

variable {name : String} {how : Option Nat × String} {b : Bridge ε} {res : Json}

/-- The session is not in the table. -/
def Unlisted (sessionId : String) : Bridge ε → Prop := EverySession fun id _ => id ≠ sessionId

theorem unlisted_iff {sessionId : String} :
    b.Unlisted sessionId ↔ sessionId ∉ b.runtime.monitorSessions := by
  constructor
  · intro h hmem
    obtain ⟨info, hinfo⟩ := Option.isSome_iff_exists.1 (AList.lookup_isSome.2 hmem)
    exact h sessionId info hinfo rfl
  · rintro h id info hinfo rfl
    exact h (AList.lookup_isSome.1 (Option.isSome_iff_exists.2 ⟨info, hinfo⟩))

/-- A session that is detached is not listed. -/
theorem unlisted_detachMonitor (b : Bridge ε) (sessionId : String) :
    (b.detachMonitor sessionId).1.Unlisted sessionId := by
  rw [unlisted_iff]
  unfold detachMonitor
  split_ifs with hmem
  · exact fun herased => (AList.mem_erase.1 herased).1 rfl
  · exact hmem

/-- After the answer to an unsubscription its session is not listed, whatever the answer. -/
theorem unsubscribe_answer {sessionId : String}
    (h : answerOf E name how (MonitorCli.unsubscribeRequest sessionId) b = some res) :
    (b.step E (requestOp name how (MonitorCli.unsubscribeRequest sessionId))).1.Unlisted
      sessionId := by
  obtain ⟨-, hstep⟩ := answered_request h
  rw [hstep]
  refine (everySession_closed E fun id _ => id ≠ sessionId).recordAnswer ?_ _ _ _
  set req := stamped how.2 (MonitorCli.unsubscribeRequest sessionId) with hreq
  have htype : req.getString? "type" = some "unsubscribe" :=
    getString?_stamped how.2 _ (by decide)
  have hid : req.getString? "session_id" = some sessionId :=
    getString?_stamped how.2 _ (by decide)
  have hdecode : decodeRequest E none req (some (.session name)) =
      .ok (.unsubscribe sessionId) := by
    rw [decodeRequest_of_type E (by simp) htype]
    simp [decodeByType, hid]
  unfold handleRequest
  rw [hdecode]
  have hdetached := unlisted_detachMonitor b sessionId
  unfold serve
  dsimp only
  revert hdetached
  rcases b.detachMonitor sessionId with ⟨b', ok⟩
  intro hdetached
  cases ok <;> exact hdetached

/-! ## The session ids -/

/-- The bridge was `b₀` once, and the session ids since then are those of the counter. -/
def Since (b₀ : Bridge ε) (es : List Event) (b : Bridge ε) : Prop :=
  BridgeCore.SameSetup b₀.core b.core ∧ NumberedAfter (Supplied b₀.core.pdusOf) b es

/-- The id is one of them. -/
def IssuedSince (b₀ : Bridge ε) (sessionId : String) (es : List Event) (b : Bridge ε) : Prop :=
  Since b₀ es b ∧ sessionId ∈ issued es

/-- The session was there, and is not any more. -/
def EndedSince (b₀ : Bridge ε) (sessionId : String) (es : List Event) (b : Bridge ε) : Prop :=
  IssuedSince b₀ sessionId es b ∧ ((issued es).length < 2 ^ 64 → b.Unlisted sessionId)

variable {b₀ : Bridge ε} {sessionId : String} {es : List Event}

/-- Whatever happens to a bridge in operation, it stays one. -/
theorem stable_since (E : Env ε) (b₀ : Bridge ε) : Script.Stable (Bridge.step E) (Since b₀) := by
  rintro es b op ⟨hsetup, hafter⟩
  refine ⟨hsetup.trans (sameSetup_step E b op), hafter.step fun n hb => ?_⟩
  have hpdus : b₀.core.pdusOf = b.core.pdusOf := by
    funext id
    unfold BridgeCore.pdusOf
    rw [hsetup.transferable]
  rw [hpdus] at hb ⊢
  exact hb.step op

/-- An id stays issued. -/
theorem stable_issuedSince (E : Env ε) (b₀ : Bridge ε) (sessionId : String) :
    Script.Stable (Bridge.step E) (IssuedSince b₀ sessionId) := by
  rintro es b op ⟨hsince, hissued⟩
  refine ⟨stable_since E b₀ es b op hsince, ?_⟩
  rw [issued_append]
  exact List.mem_append_left _ hissued

/-- An id that was issued is not issued again. -/
theorem nextSessionId_ne (h : IssuedSince b₀ sessionId es b)
    (hcount : (issued es).length < 2 ^ 64) : b.runtime.nextSessionId ≠ sessionId := by
  obtain ⟨⟨-, hafter⟩, hissued⟩ := h
  obtain ⟨hsupplied, hids⟩ := hafter hcount.le
  rw [hids] at hissued
  obtain ⟨k, hk, rfl⟩ := List.mem_map.1 hissued
  have hnext : b.runtime.nextSessionId = sessionIdOf (issued es).length :=
    sessionIdOf_eq hsupplied.numbered.counter
  rw [hnext]
  intro heq
  have hlt := List.mem_range.1 hk
  have hsame := sessionIdOf_inj hcount (hlt.trans hcount) heq
  omega

/-- A session that has ended is not listed again. -/
theorem stable_endedSince (E : Env ε) (b₀ : Bridge ε) (sessionId : String) :
    Script.Stable (Bridge.step E) (EndedSince b₀ sessionId) := by
  rintro es b op ⟨hissued, hunlisted⟩
  refine ⟨stable_issuedSince E b₀ sessionId es b op hissued, fun hcount => ?_⟩
  rw [issued_append, List.length_append] at hcount
  have hbefore : (issued es).length < 2 ^ 64 := by omega
  apply everySession_step E (hunlisted hbefore)
  intro _ _ _
  exact nextSessionId_ne hissued hbefore

end Bridge

/-! ## Outlines of the commands -/

/-- A proof outline of a command, over the bridge that its client knows as `name`. -/
abbrev Outlined (E : Env ε) (name : String)
    (P : List Event → Bridge ε → Except JsonException CommandEnd → Prop)
    (I : List Event → Bridge ε → Prop) (script : CommandScript) : Prop :=
  Script.Outline (Bridge.step E) (requestOp name) (answerOf E name) P I script

section outlines

open Bridge

variable {name : String} {P : List Event → Bridge ε → Except JsonException CommandEnd → Prop}
  {I : List Event → Bridge ε → Prop}

/-- The outline of a request with what follows it. -/
theorem outline_requestOrDie {req : Members} {err : List String} {next : Json → CommandScript}
    (J : Json → List Event → Bridge ε → Prop) (hJ : ∀ res, Script.Stable (Bridge.step E) (J res))
    (hnone : ∀ es b, I es b → P es b (.ok { exitCode := 1, err := err }))
    (herror : ∀ res message es b, J res es b →
      P es b (.ok { exitCode := 1, err := err ++ [message] }))
    (hsome : ∀ how es b res, I es b → answerOf E name how req b = some res →
      J res (es ++ (b.step E (requestOp name how req)).2) (b.step E (requestOp name how req)).1 ∧
        (MonitorCli.isErrorResponse res = false → Outlined E name P (J res) (next res))) :
    Outlined E name P I (MonitorCli.requestOrDie req err next) := by
  refine ⟨hnone, J, hJ, fun how es b res hI hanswer => ?_⟩
  obtain ⟨hnow, hnext⟩ := hsome how es b res hI hanswer
  refine ⟨hnow, ?_⟩
  dsimp only [Option.elim_some]
  cases hmessage : MonitorCli.makeControlErrorMessage res with
  | some message => exact herror res message
  | none =>
    apply hnext
    by_contra herr
    unfold MonitorCli.makeControlErrorMessage at hmessage
    rw [if_neg herr] at hmessage
    exact absurd hmessage (by simp)

/-! ## Tail -/

/-- What `tail` writes once it has a session. -/
def subscribedLine (sessionId : String) : String := "tail subscribed session_id=" ++ sessionId

/-- What `tail` writes when the answer to its last request does not arrive. -/
def unsubscribeTimeout : String := "Failed to unsubscribe: timeout"

/-- The session is in neither table. -/
def IsClosed (sessionId : String) (b : Bridge ε) : Prop :=
  sessionId ∉ b.runtime.monitorSessions ∧ sessionId ∉ b.runtime.monitorRuntimeSessions

/-- How `tail` ends: without an exception, and with the exit code 0 only if it has closed its
session. A session that it names was issued, and it is closed unless the answer to the last
request did not arrive. -/
def TailEnds (es : List Event) (b : Bridge ε) (result : Except JsonException CommandEnd) : Prop :=
  ∃ e, result = .ok e ∧ ((issued es).length < 2 ^ 64 →
    (e.exitCode = 0 → ∃ id, e.out = [subscribedLine id, "tail unsubscribed session_id=" ++ id] ∧
      IsClosed id b) ∧
    ∀ id, e.out.head? = some (subscribedLine id) → id ∈ issued es ∧
      (e.err.getLast? = some unsubscribeTimeout ∨ IsClosed id b))

variable {es : List Event} {b b₀ : Bridge ε}

/-- Without a session. -/
theorem tailEnds_failWith (err : List String) :
    TailEnds es b (.ok { exitCode := 1, err := err }) :=
  ⟨_, rfl, fun _ => ⟨nofun, nofun⟩⟩

/-- With a session. -/
theorem tailEnds_of_said {sessionId : String} (hissued : IssuedSince b₀ sessionId es b)
    {e : CommandEnd} (hout : e.out.head? = some (subscribedLine sessionId))
    (hzero : e.exitCode = 0 → e.out =
        [subscribedLine sessionId, "tail unsubscribed session_id=" ++ sessionId] ∧
      ((issued es).length < 2 ^ 64 → b.Unlisted sessionId))
    (hend : (issued es).length < 2 ^ 64 →
      e.err.getLast? = some unsubscribeTimeout ∨ b.Unlisted sessionId) :
    TailEnds es b (.ok e) := by
  have hclosed : (issued es).length < 2 ^ 64 → b.Unlisted sessionId → IsClosed sessionId b := by
    intro hcount hunlisted
    have hlisted := unlisted_iff.1 hunlisted
    obtain ⟨hsupplied, -⟩ := hissued.1.2 hcount.le
    exact ⟨hlisted, fun hmem => hlisted (hsupplied.numbered.tables sessionId hmem)⟩
  refine ⟨e, rfl, fun hcount => ⟨fun hcode => ?_, fun id hid => ?_⟩⟩
  · obtain ⟨hlines, hunlisted⟩ := hzero hcode
    exact ⟨sessionId, hlines, hclosed hcount (hunlisted hcount)⟩
  · rw [hout] at hid
    obtain rfl : sessionId = id := String.append_right_inj _ |>.1 (Option.some.inj hid)
    exact ⟨hissued.2, (hend hcount).imp_right (hclosed hcount)⟩

/-- From the session on. -/
theorem outline_tailSession (err : List String) (sessionId : String) :
    Outlined E name TailEnds (IssuedSince b₀ sessionId)
      (MonitorCli.tailSession err sessionId) := by
  refine ⟨fun es b hI => ?_, fun _ => EndedSince b₀ sessionId,
    fun _ => stable_endedSince E b₀ sessionId,
    fun how es b res hI hanswer => ⟨⟨?_, fun _ => ?_⟩, ?_⟩⟩
  · exact tailEnds_of_said hI rfl nofun fun _ => .inl (List.getLast?_append_of_ne_nil _ nofun)
  · exact stable_issuedSince E b₀ sessionId es b _ hI
  · exact unsubscribe_answer hanswer
  · dsimp only [Option.elim_some]
    cases MonitorCli.makeControlErrorMessage res with
    | none =>
      exact fun es b hend => tailEnds_of_said hend.1 rfl (fun _ => ⟨rfl, hend.2⟩) fun hcount =>
        .inr (hend.2 hcount)
    | some message =>
      exact fun es b hend => tailEnds_of_said hend.1 rfl nofun fun hcount =>
        .inr (hend.2 hcount)

/-- The whole command. -/
theorem outline_runTail (cast : String → Int) (getPduChannelId : PduKey → Int)
    (connectionId policy : String) (intervalMs : Int) :
    Outlined E name TailEnds (Since b₀)
      (MonitorCli.runTail cast getPduChannelId connectionId policy intervalMs) := by
  refine outline_requestOrDie (fun _ => Since b₀) (fun _ => stable_since E b₀)
    (fun _ _ _ => tailEnds_failWith _) (fun _ _ _ _ _ => tailEnds_failWith _)
    fun how es b res hI hanswer => ⟨stable_since E b₀ es b _ hI, fun hok => ?_⟩
  obtain ⟨pdus, req, -, -, rfl⟩ := listPdus_answer hanswer hok
  rw [MonitorCli.tailTargets_answer]
  dsimp only
  split_ifs
  · exact fun _ _ _ => tailEnds_failWith _
  -- the session
  refine outline_requestOrDie
    (fun res es b => Since b₀ es b ∧ ∀ id, MonitorCli.isErrorResponse res = false →
      res.getString? "session_id" = some id → id ∈ issued es)
    (fun res es b op h => ?_) (fun _ _ _ => tailEnds_failWith _)
    (fun _ _ _ _ _ => tailEnds_failWith _) fun how es b res hI hanswer => ⟨?_, fun hok => ?_⟩
  · refine ⟨stable_since E b₀ es b op h.1, fun id hok hid => ?_⟩
    rw [issued_append]
    exact List.mem_append_left _ (h.2 id hok hid)
  · refine ⟨stable_since E b₀ es b _ hI, fun id hok hid => ?_⟩
    obtain ⟨-, hstep⟩ := answered_request hanswer
    rcases subscribe_answer hanswer with herror | ⟨htype, -⟩
    · exact absurd (hok.symm.trans herror) nofun
    · rw [hstep, issued_append, issued_append]
      have hnew : issued (issuedIn res) = [id] := by
        unfold issuedIn
        rw [htype, hid]
        rfl
      rw [hnew]
      simp
  · cases hid : res.getString? "session_id" with
    | none => exact fun _ _ _ => tailEnds_failWith _
    | some id => exact (outline_tailSession _ id).mono fun es b h => ⟨h.1, h.2 id hok rfl⟩

/-- What is known of a bridge in operation. -/
theorem since_run {cfg : BridgeConfig} {nodeName : String} {container : List String} {e : ε}
    (hboot : boot E cfg nodeName container e = some b₀) (before : List (Op ε)) :
    Since b₀ (run (Bridge.step E) b₀ before).2 (run (Bridge.step E) b₀ before).1 :=
  ⟨sameSetup_run E b₀ before, supplied_run hboot before⟩

/-- **`tail` ends its session.** Let `tail` be run on a bridge in operation, in any interleaving
with its connection and with whatever else happens to the bridge, its other clients included. It
does not throw. If it ends with 0, it has closed the session that it opened. And whenever it has
said that it opened one, the bridge had issued the id; if the session is not closed at the end, the
answer to the last request did not arrive in time, and `tail` says so. -/
theorem tail_leavesNothing {cfg : BridgeConfig} {nodeName : String} {container : List String}
    {e : ε} (hboot : boot E cfg nodeName container e = some b₀) (before : List (Op ε))
    (name : String) (cast : String → Int) (getPduChannelId : PduKey → Int)
    (connectionId policy : String) (intervalMs : Int) (ops : List (ProcessOp ε))
    {result : Except JsonException CommandEnd} :
    let served := run (Bridge.step E) b₀ before
    let r := run (MonitorProcess.step E name) (.start served.1
      (MonitorCli.runTail cast getPduChannelId connectionId policy intervalMs)) ops
    r.1.script = .done result →
      ∃ ended, result = .ok ended ∧ ((issued (served.2 ++ r.2)).length < 2 ^ 64 →
        (ended.exitCode = 0 → ∃ id,
          ended.out = [subscribedLine id, "tail unsubscribed session_id=" ++ id] ∧
            IsClosed id r.1.exchange.bridge) ∧
        ∀ id, ended.out.head? = some (subscribedLine id) → id ∈ issued (served.2 ++ r.2) ∧
          (ended.err.getLast? = some unsubscribeTimeout ∨ IsClosed id r.1.exchange.bridge)) := by
  intro served r hdone
  obtain ⟨-, -, turns, hrun, -, -⟩ := MonitorProcess.reaches_run E name served.1
    (MonitorCli.givesUp_runTail cast getPduChannelId connectionId policy intervalMs) ops
  rw [show (run (MonitorProcess.step E name) (.start served.1 _) ops).1.script = .done result
    from hdone] at hrun
  exact Script.outline_run
    (outline_runTail cast getPduChannelId connectionId policy intervalMs) (stable_since E b₀)
    (since_run hboot before) turns hrun

/-- A request is made, sent, served and answered. -/
def requesting (requestId : String) : List (ProcessOp CacheState) :=
  [.turn requestId .ok false, .turn requestId .ok false, .serve none, .deliver,
    .turn requestId .ok false]

/-- The bridge drives the session before the last request. -/
def tailOps : List (ProcessOp CacheState) :=
  requesting "1" ++ requesting "2" ++ [.bridge (.cyclicTrigger [])] ++ requesting "3"

/-- `tail` on the small bridge. -/
def tailSmall : MonitorProcess CacheState (Except JsonException CommandEnd) × List Event :=
  run (MonitorProcess.step ((CacheSpec.small .latest).env none) "client") (.start servedSmall.1
    (MonitorCli.runTail (fun _ => 0) (fun _ => -1) "conn" "throttle" 50)) tailOps

theorem tail_leavesNothing_small : IsClosed "ms-1" tailSmall.1.exchange.bridge := by
  have hboot : bootSmall .latest ⟨"immediate", none, none⟩ [⟨"k", "r", "pos"⟩] false =
      some Exchange.exchangeSmall.bridge := (Option.some_get rfl).symm
  have hcount : (issued (servedSmall.2 ++ tailSmall.2)).length < 2 ^ 64 := by decide
  obtain ⟨ended, hdone, hout, herr⟩ : ∃ ended, tailSmall.1.script = .done (.ok ended) ∧
      ended.out.head? = some (subscribedLine "ms-1") ∧ ended.err = [] := ⟨_, rfl, rfl, rfl⟩
  obtain ⟨ended', heq, hends⟩ := tail_leavesNothing hboot clientAccepted "client" (fun _ => 0)
    (fun _ => -1) "conn" "throttle" 50 tailOps hdone
  obtain rfl := Except.ok.inj heq
  obtain ⟨-, hlate | hclosed⟩ := (hends hcount).2 "ms-1" hout
  · rw [herr] at hlate
    exact absurd hlate nofun
  · exact hclosed

end outlines

end HakoniwaBridge
