import HakoniwaBridge.BridgeJson
import HakoniwaBridge.Builder

/-!
# Intervals of policies

An interval is written in milliseconds as a JSON integer, narrowed to an `int` (one outside 64 bits
is a `double` to the parser, and is converted), widened to 64 bits without a sign and multiplied by
1000. Two functions do this: `create_policy_instance` for the entries of a configuration and
`create_monitor_policy_` for the sessions, and only the second asks for an interval above zero.

* `toNat_intervalMicros_of_nonneg`, `toNat_intervalMicros_of_neg` — the number of microseconds.
* `intervalMicros_exact_iff` — for which integers it is 1000 times what was written.
* `intervals_iff` — **a configured interval is exact, and the two functions agree, exactly when the
  integer is positive and fits an `int`.**
-/

namespace HakoniwaBridge

/-! ## The number of microseconds -/

/-- The narrowing yields an `int`; what is lost is a multiple of `2 ^ 32`. -/
theorem Json.getInt_spec (n : Int) : -2 ^ 31 ≤ getInt n ∧ getInt n < 2 ^ 31 ∧
    ∃ q, n = getInt n + 2 ^ 32 * q := by
  unfold getInt
  refine ⟨?_, ?_, ?_⟩
  · have hlow := Int.le_bmod (x := n) (m := 2 ^ 32) (by decide)
    omega
  · have hhigh := Int.bmod_lt (x := n) (m := 2 ^ 32) (by decide)
    omega
  · have hsum := Int.bmod_add_bdiv n (2 ^ 32)
    exact ⟨_, hsum.symm⟩

theorem toNat_intervalMicros (ms : Int) :
    ((intervalMicros ms).toNat : Int) = ms % 2 ^ 64 * 1000 % 2 ^ 64 := by
  unfold intervalMicros
  rw [UInt64.toNat_mul]
  simp [UInt64.ofInt]
  omega

/-- An `int` that is not negative is multiplied without loss. -/
theorem toNat_intervalMicros_of_nonneg {ms : Int} (hnonneg : 0 ≤ ms) (hhigh : ms < 2 ^ 31) :
    ((intervalMicros ms).toNat : Int) = 1000 * ms := by
  have hcast : ms % 2 ^ 64 = ms := Int.emod_eq_of_lt hnonneg (by omega)
  have hmul : ms * 1000 % 2 ^ 64 = ms * 1000 := Int.emod_eq_of_lt (by omega) (by omega)
  rw [toNat_intervalMicros, hcast, hmul]
  omega

/-- A negative one wraps at 64 bits. -/
theorem toNat_intervalMicros_of_neg {ms : Int} (hneg : ms < 0) (hlow : -2 ^ 31 ≤ ms) :
    ((intervalMicros ms).toNat : Int) = 1000 * ms + 2 ^ 64 := by
  rw [toNat_intervalMicros]
  omega

/-- A written number of milliseconds arrives as that many microseconds just when it is positive and
fits an `int`. -/
theorem intervalMicros_exact_iff (n : Int) :
    0 < n ∧ ((intervalMicros (Json.getInt n)).toNat : Int) = 1000 * n ↔ 1 ≤ n ∧ n < 2 ^ 31 := by
  obtain ⟨hlow, hhigh, q, hq⟩ := Json.getInt_spec n
  constructor
  · rintro ⟨hpos, hexact⟩
    rcases Int.lt_or_le (Json.getInt n) 0 with hneg | hnonneg
    · -- 1000 does not divide `2 ^ 32`
      rw [toNat_intervalMicros_of_neg hneg hlow] at hexact
      omega
    · rw [toNat_intervalMicros_of_nonneg hnonneg hhigh] at hexact
      omega
  · rintro ⟨hone, hlt⟩
    have hsame : Json.getInt n = n := by omega
    rw [hsame] at hhigh ⊢
    exact ⟨by omega, toNat_intervalMicros_of_nonneg (by omega) hhigh⟩

/-- What the decoder makes of it decides nothing else: an integer outside 64 bits is above every
number of microseconds, or not positive. -/
theorem narrow_exact_iff (cast : String → Int) (n : Int) :
    0 < n ∧ ((intervalMicros (Json.narrow cast n)).toNat : Int) = 1000 * n ↔
      1 ≤ n ∧ n < 2 ^ 31 := by
  by_cases hfits : Json.FitsInt64 n
  · rw [Json.narrow_of_fits cast hfits]
    exact intervalMicros_exact_iff n
  · have hlt := (intervalMicros (Json.narrow cast n)).toNat_lt
    unfold Json.FitsInt64 at hfits
    constructor
    · rintro ⟨hpos, hexact⟩
      omega
    · rintro ⟨hone, hhigh⟩
      omega

/-! ## The two functions -/

/-- The interval of a policy object. -/
def Policy.interval? : Policy → Option UInt64
  | immediate _ => none
  | throttle p => some p.intervalMicros
  | ticker p => some p.interval

/-- A definition that is decoded and accepted holds 1000 times the written number, which is
positive. -/
def ExactInterval (cast : String → Int) (j : Json) (n : Int) : Prop :=
  ∀ policyDef policy interval, FromJson.transferPolicy cast j = .ok policyDef →
    Builder.createPolicyInstance policyDef = .ok policy → policy.interval? = some interval →
      0 < n ∧ (interval.toNat : Int) = 1000 * n

/-- The two functions take the same definitions, and make the same policies of them. -/
def FactoriesAgree (type : String) (intervalMs : Int) : Prop :=
  (Builder.createPolicyInstance ⟨type, some intervalMs, none⟩).toOption =
    createMonitorPolicy ⟨type, intervalMs⟩

namespace FromJson

variable {cast : String → Int} {j : Json} {type : String} {n : Int}

/-- A definition with a type and an integer is decoded if its `atomic` is. -/
theorem transferPolicy_eq_ok (htype : j.get? "type" = some (.str type))
    (hinterval : j.get? "intervalMs" = some (.int n)) {policyDef : TransferPolicy} :
    transferPolicy cast j = .ok policyDef ↔ ∃ atomic, optional boolean "atomic" j = .ok atomic ∧
      policyDef = ⟨type, some (Json.narrow cast n), atomic⟩ := by
  obtain ⟨members, rfl⟩ : ∃ members, j = .obj members := by
    cases j with
    | obj members => exact ⟨members, rfl⟩
    | _ => exact absurd htype (by simp [Json.get?])
  have hstring : member string "type" (.obj members) = .ok type := member_of_get? htype
  have hint : optional (scalar (Json.toInt cast)) "intervalMs" (.obj members) =
      .ok (some (Json.narrow cast n)) := optional_of_get? hinterval rfl
  unfold transferPolicy
  simp only [bind_eq_ok, hstring, hint]
  constructor
  · rintro ⟨type', htype', interval, hinterval', atomic, hatomic, hdef⟩
    obtain rfl := Except.ok.inj htype'
    obtain rfl := Except.ok.inj hinterval'
    exact ⟨atomic, hatomic, (Except.ok.inj hdef).symm⟩
  · rintro ⟨atomic, hatomic, rfl⟩
    exact ⟨type, rfl, _, rfl, atomic, hatomic, rfl⟩

end FromJson

/-- The interval of a policy that `create_policy_instance` makes. -/
theorem interval_of_createPolicyInstance {type : String} {intervalMs : Int} {atomic : Option Bool}
    {policy : Policy} {interval : UInt64}
    (hcreate : Builder.createPolicyInstance ⟨type, some intervalMs, atomic⟩ = .ok policy)
    (hinterval : policy.interval? = some interval) :
    (type = "throttle" ∨ type = "ticker") ∧ interval = intervalMicros intervalMs := by
  unfold Builder.createPolicyInstance at hcreate
  split_ifs at hcreate with himmediate hthrottle hticker
  · obtain rfl := Except.ok.inj hcreate
    exact nomatch hinterval
  · obtain rfl := Except.ok.inj hcreate
    exact ⟨.inl hthrottle, (Option.some.inj hinterval).symm⟩
  · obtain rfl := Except.ok.inj hcreate
    exact ⟨.inr hticker, (Option.some.inj hinterval).symm⟩

/-- A throttle or ticker with an interval is always accepted. -/
theorem createPolicyInstance_of_timed {type : String} (htimed : type = "throttle" ∨ type = "ticker")
    (intervalMs : Int) (atomic : Option Bool) :
    ∃ policy, Builder.createPolicyInstance ⟨type, some intervalMs, atomic⟩ = .ok policy ∧
      policy.interval? = some (intervalMicros intervalMs) := by
  rcases htimed with rfl | rfl
  · exact ⟨_, rfl, rfl⟩
  · exact ⟨_, rfl, rfl⟩

/-- **A configured interval is exact exactly when** it is positive and fits an `int`. -/
theorem exactInterval_iff (cast : String → Int) {j : Json} {type : String} {n : Int}
    (htype : j.get? "type" = some (.str type)) (hinterval : j.get? "intervalMs" = some (.int n)) :
    ExactInterval cast j n ↔ ((type = "throttle" ∨ type = "ticker") →
      (∃ atomic, FromJson.optional FromJson.boolean "atomic" j = .ok atomic) →
        1 ≤ n ∧ n < 2 ^ 31) := by
  constructor
  · rintro h htimed ⟨atomic, hatomic⟩
    obtain ⟨policy, hcreate, hpolicy⟩ :=
      createPolicyInstance_of_timed htimed (Json.narrow cast n) atomic
    have hdecode : FromJson.transferPolicy cast j =
        .ok ⟨type, some (Json.narrow cast n), atomic⟩ :=
      (FromJson.transferPolicy_eq_ok htype hinterval).2 ⟨atomic, hatomic, rfl⟩
    exact (narrow_exact_iff cast n).1 (h _ policy _ hdecode hcreate hpolicy)
  · intro h policyDef policy interval hdecode hcreate hpolicy
    obtain ⟨atomic, hatomic, rfl⟩ := (FromJson.transferPolicy_eq_ok htype hinterval).1 hdecode
    obtain ⟨htimed, rfl⟩ := interval_of_createPolicyInstance hcreate hpolicy
    exact (narrow_exact_iff cast n).2 (h htimed ⟨atomic, hatomic⟩)

/-- **The two functions agree exactly when** a throttle or ticker comes with a positive interval. -/
theorem factoriesAgree_iff {type : String} (hne : type ≠ "") (intervalMs : Int) :
    FactoriesAgree type intervalMs ↔
      ((type = "throttle" ∨ type = "ticker") → 0 < intervalMs) := by
  unfold FactoriesAgree Builder.createPolicyInstance createMonitorPolicy
  simp only [if_neg hne]
  by_cases himmediate : type = "immediate"
  · subst himmediate
    simp [Except.toOption]
  · by_cases hthrottle : type = "throttle"
    · subst hthrottle
      by_cases hpos : intervalMs ≤ 0
      · simp [Except.toOption, hpos]
      · simp [Except.toOption, hpos]
        omega
    · by_cases hticker : type = "ticker"
      · subst hticker
        by_cases hpos : intervalMs ≤ 0
        · simp [Except.toOption, hpos]
        · simp [Except.toOption, hpos]
          omega
      · simp [Except.toOption, himmediate, hthrottle, hticker]

/-- **Intervals.** For any definition with a type and an integer, and for any type and `int`. -/
theorem intervals_iff (cast : String → Int) {j : Json} {type : String} {n : Int}
    (htype : j.get? "type" = some (.str type)) (hinterval : j.get? "intervalMs" = some (.int n))
    {monitorType : String} (hne : monitorType ≠ "") (intervalMs : Int) :
    (ExactInterval cast j n ↔ ((type = "throttle" ∨ type = "ticker") →
      (∃ atomic, FromJson.optional FromJson.boolean "atomic" j = .ok atomic) →
        1 ≤ n ∧ n < 2 ^ 31)) ∧
    (FactoriesAgree monitorType intervalMs ↔
      ((monitorType = "throttle" ∨ monitorType = "ticker") → 0 < intervalMs)) :=
  ⟨exactInterval_iff cast htype hinterval, factoriesAgree_iff hne intervalMs⟩

/-- A definition of a throttle. -/
def throttleJson (n : Int) : Json := .obj [("type", .str "throttle"), ("intervalMs", .int n)]

theorem intervals_hundred :
    ExactInterval (fun _ => 0) (throttleJson 100) 100 ∧ FactoriesAgree "throttle" 100 := by
  obtain ⟨hexact, hagree⟩ := intervals_iff (fun _ => 0) (j := throttleJson 100) rfl rfl
    (show "throttle" ≠ "" by decide) 100
  exact ⟨hexact.2 fun _ _ => by decide, hagree.2 fun _ => by decide⟩

/-- A throttle of -1 ms: the configuration gets one of 584,942 years, and a session is refused. -/
theorem negative_interval :
    ¬ ExactInterval (fun _ => 0) (throttleJson (-1)) (-1) ∧ ¬ FactoriesAgree "throttle" (-1) := by
  constructor
  · intro h
    exact absurd (h _ _ _ rfl rfl rfl).1 (by decide)
  · intro h
    exact nomatch h

end HakoniwaBridge
