import Mathlib.Data.List.Dedup
import HakoniwaBridge.Lib.Cut
import HakoniwaBridge.ReceiptReader

/-!
# Reading a receipt back

A receipt that the bridge has written is read with the reader that the bridge has for the receipts
of its dependencies.

* `InstallContext.KeepsToLines` — the texts of the receipt keep to one line, apart from the limits
  that are passed on.
* `InstallContext.KeepsToLines.read_back`, `read_fails` — the receipt with limits that keep to one
  line too, and with others: a string with a line break that JSON does not escape ends on another
  line than it begins.
* `InstallContext.readBack_iff` — **a receipt is read back exactly if the limits keep to one line.**
-/

namespace HakoniwaBridge

open Lib PyStr NestedMap

/-! ## The lines of a receipt -/

/-- The texts that go into a receipt, apart from the limits that are passed on, keep to one line
each, and there is a revision. -/
structure InstallContext.KeepsToLines (ctx : InstallContext)
    (deps : List (PyStr × DependencyReceipt)) : Prop where
  revision : Written (.str ctx.revision)
  known : ctx.revision ≠ []
  platformName : Written (.str ctx.platformName)
  arch : Written (.str ctx.arch)
  installDir : Written (.str ctx.installDir)
  artifacts : ∀ artifact ∈ bridgeArtifacts ctx.tree, Written (.str artifact.1)
  deps : ∀ dep ∈ deps, KeepsToLine dep.2.version ∧ KeepsToLine dep.2.sourceRevision ∧
    (dep.2.buildLimits ≠ passedLimits deps → ∀ entry ∈ dep.2.buildLimits, KeepsToLine entry.2)

/-- The names under which dependencies are recorded. -/
def dependencyIds : List PyStr := [py "hakoniwa-pdu-endpoint", py "hakoniwa-core-pro"]

/-- A receipt stands under the id of its dependency, as the reader has gathered it. -/
theorem mem_dependencyReceipt {id : PyStr} {file : Option ReceiptFile}
    {receipts : List (PyStr × DependencyReceipt)} (h : dependencyReceipt id file = .ok receipts) :
    ∀ dep ∈ receipts, dep.1 = id ∧ dep.2.Gathered := by
  cases file with
  | none =>
    obtain rfl := Except.ok.inj h
    exact List.forall_mem_nil _
  | some file =>
    unfold dependencyReceipt at h
    rw [Option.elim_some] at h
    cases hread : readDependencyReceipt file with
    | error e =>
      rw [hread] at h
      cases h
    | ok receipt =>
      rw [hread] at h
      obtain rfl := Except.ok.inj h
      exact List.forall_mem_singleton.2 ⟨rfl, gathered_of_read hread⟩

/-- The receipts of an installation are those of the known dependencies. -/
theorem InstallContext.mem_dependencies {ctx : InstallContext}
    {deps : List (PyStr × DependencyReceipt)} (h : ctx.dependencies = .ok deps) :
    ∀ dep ∈ deps, dep.1 ∈ dependencyIds ∧ dep.2.Gathered := by
  unfold InstallContext.dependencies at h
  cases hendpoint : dependencyReceipt (py "hakoniwa-pdu-endpoint") ctx.endpointReceipt with
  | error e =>
    rw [hendpoint] at h
    cases h
  | ok endpoint =>
    cases hcore : dependencyReceipt (py "hakoniwa-core-pro") ctx.coreReceipt with
    | error e =>
      rw [hendpoint, hcore] at h
      cases h
    | ok core =>
      rw [hendpoint, hcore] at h
      obtain rfl := Except.ok.inj h
      intro dep hdep
      rcases List.mem_append.1 hdep with hdep | hdep
      · obtain ⟨hid, hgathered⟩ := mem_dependencyReceipt hendpoint dep hdep
        exact ⟨by simp [dependencyIds, hid], hgathered⟩
      · obtain ⟨hid, hgathered⟩ := mem_dependencyReceipt hcore dep hdep
        exact ⟨by simp [dependencyIds, hid], hgathered⟩

theorem Unbroken.append {x y : PyStr} (hx : Unbroken x) (hy : Unbroken y) : Unbroken (x ++ y) :=
  List.forall_mem_append.2 ⟨hx, hy⟩

theorem unbroken_blanks (indent : ℕ) : Unbroken (blanks indent) :=
  fun c hc => (inline_blanks indent c hc).2

/-- A line with a scalar is not broken. -/
theorem unbroken_scalarLine (indent : ℕ) {key : PyStr} (hkey : Unbroken key)
    {value : ManifestScalar} (hvalue : Written value) : Unbroken (scalarLine indent key value) := by
  refine (unbroken_blanks indent).append (hkey.append ?_)
  exact Unbroken.append (by decide) fun c hc => (inline_yamlScalar hvalue c hc).2

/-- A text without line breaks can be written. -/
theorem Unbroken.written {s : PyStr} (h : Unbroken s) : Written (.str s) := by
  intro c hc
  have hbreak := h c hc
  simp only [isLineBreak, Bool.or_eq_false_iff, beq_eq_false_iff_ne] at hbreak
  exact ⟨hbreak.1.1.2, hbreak.1.2, hbreak.2⟩

/-- A value of the CMake cache is not broken. -/
theorem unbroken_cmakeCacheValue (cache : Option PyStr) (key : PyStr) :
    Unbroken (cmakeCacheValue cache key) := by
  unfold cmakeCacheValue
  dsimp only
  cases hvalue : Option.filter (· ≠ []) _ with
  | none => exact (by decide : Unbroken (py "unknown"))
  | some value =>
    obtain ⟨line, hline, rfl⟩ := Option.map_eq_some_iff.1 (Option.filter_eq_some_iff.1 hvalue).1
    have hmem := List.mem_of_find?_eq_some hline
    cases cache with
    | none => exact absurd hmem List.not_mem_nil
    | some text =>
      intro c hc
      exact unbroken_splitlines hmem c
        ((List.dropWhile_sublist _).subset (List.mem_of_mem_tail hc))

/-- Scalars that can be written, with their keys. -/
def WritableScalars (entries : List (PyStr × ManifestScalar)) : Prop :=
  ∀ entry ∈ entries, ReceiptKey entry.1 ∧ Written entry.2

/-- The lines of a part are not broken. -/
theorem unbroken_partLines {name : PyStr} (hname : Unbroken name)
    {entries : List (PyStr × ManifestScalar)} (h : WritableScalars entries) :
    ∀ line ∈ partLines name entries, Unbroken line := by
  refine List.forall_mem_cons.2 ⟨hname.append (by decide), ?_⟩
  refine List.forall_mem_map.2 fun entry hentry => ?_
  obtain ⟨hkey, hvalue⟩ := h entry hentry
  exact unbroken_scalarLine 2 hkey.unbroken hvalue

/-- The capabilities can be written. -/
theorem capabilities_writable (cfg : BuildConfig) : WritableScalars
    [(py "library", .bool cfg.library),
     (py "standalone_app", .bool cfg.standaloneApp),
     (py "hakoniwa_app", .bool cfg.hakoniwaApp),
     (py "web_bridge", .bool cfg.hakoniwaApp),
     (py "monitor", .bool cfg.monitor),
     (py "web_bridge_fleets_config_format", .bool true),
     (py "cmake_package", .bool true)] := by
  simp only [WritableScalars, List.forall_mem_cons]
  exact ⟨⟨by decide, trivial⟩, ⟨by decide, trivial⟩, ⟨by decide, trivial⟩, ⟨by decide, trivial⟩,
    ⟨by decide, trivial⟩, ⟨by decide, trivial⟩, ⟨by decide, trivial⟩, List.forall_mem_nil _⟩

theorem InstallContext.KeepsToLines.install {ctx : InstallContext}
    {deps : List (PyStr × DependencyReceipt)} (h : ctx.KeepsToLines deps) :
    WritableScalars [(py "prefix", .str ctx.installDir)] :=
  List.forall_mem_singleton.2 ⟨(by decide : ReceiptKey (py "prefix")), h.installDir⟩

theorem InstallContext.KeepsToLines.platform {ctx : InstallContext}
    {deps : List (PyStr × DependencyReceipt)} (h : ctx.KeepsToLines deps) : WritableScalars
      [(py "os", .str ctx.platformName),
       (py "architecture", .str ctx.arch),
       (py "toolchain", .str (cmakeCacheValue ctx.cmakeCache (py "CMAKE_CXX_COMPILER")))] := by
  have hcompiler := (unbroken_cmakeCacheValue ctx.cmakeCache (py "CMAKE_CXX_COMPILER")).written
  simp only [WritableScalars, List.forall_mem_cons]
  exact ⟨⟨by decide, h.platformName⟩, ⟨by decide, h.arch⟩, ⟨by decide, hcompiler⟩,
    List.forall_mem_nil _⟩

/-- Limits that can be written. -/
structure WritableLimits (limits : ManifestEntries) : Prop where
  nodup : (limits.map Prod.fst).Nodup
  entries : ∀ entry ∈ limits, ReceiptKey entry.1 ∧ Written (shownScalar entry.2)

/-- Gathered limits can be written if their strings keep to a line. -/
theorem DependencyReceipt.Gathered.writableLimits {receipt : DependencyReceipt}
    (h : receipt.Gathered) (hlines : ∀ entry ∈ receipt.buildLimits, KeepsToLine entry.2) :
    WritableLimits receipt.buildLimits := by
  refine ⟨h.nodup, fun entry hentry => ?_⟩
  obtain ⟨hkey, hvalue⟩ := h.limits entry hentry
  exact ⟨hkey, hvalue.written (hlines entry hentry)⟩

/-- The lines of the limits are not broken. -/
theorem unbroken_limitLines (indent : ℕ) {limits : ManifestEntries} (h : WritableLimits limits) :
    ∀ line ∈ limitLines indent limits, Unbroken line := by
  unfold limitLines
  split_ifs
  · exact List.forall_mem_singleton.2 ((unbroken_blanks indent).append (by decide))
  · refine List.forall_mem_cons.2 ⟨(unbroken_blanks indent).append (by decide), ?_⟩
    refine List.forall_mem_map.2 fun entry hentry => ?_
    obtain ⟨hkey, hvalue⟩ := h.entries entry hentry
    exact unbroken_scalarLine _ hkey.unbroken hvalue

theorem unbroken_kind {tree : InstallTree} :
    ∀ artifact ∈ bridgeArtifacts tree, Unbroken artifact.2 := by
  intro artifact hartifact
  unfold bridgeArtifacts at hartifact
  simp only [List.mem_mergeSort, List.mem_dedup, List.mem_append, List.mem_map] at hartifact
  rcases hartifact with ((h | h) | ⟨name, -, rfl⟩) | ⟨name, -, rfl⟩
  · split_ifs at h
    · obtain rfl := List.mem_singleton.1 h
      decide
    · exact absurd h List.not_mem_nil
  · split_ifs at h
    · obtain rfl := List.mem_singleton.1 h
      decide
    · exact absurd h List.not_mem_nil
  · exact (by decide : Unbroken (py "executable"))
  · exact (by decide : Unbroken (py "library"))

/-- The lines of the artifacts are not broken. -/
theorem unbroken_artifactLines {artifacts : List (PyStr × PyStr)}
    (hpath : ∀ artifact ∈ artifacts, Written (.str artifact.1))
    (hkind : ∀ artifact ∈ artifacts, Unbroken artifact.2) :
    ∀ line ∈ artifactLines artifacts, Unbroken line := by
  refine List.forall_mem_cons.2 ⟨by decide, fun line hline => ?_⟩
  obtain ⟨artifact, hartifact, hline⟩ := List.mem_flatMap.1 hline
  simp only [List.mem_cons, List.not_mem_nil, or_false] at hline
  rcases hline with rfl | rfl
  · exact unbroken_scalarLine 2 (by decide) (hpath artifact hartifact)
  · exact (unbroken_blanks 4).append (Unbroken.append (by decide) (hkind artifact hartifact))

/-- The limits of one of the dependencies are passed on, or none. -/
theorem passedLimits_eq (deps : List (PyStr × DependencyReceipt)) :
    passedLimits deps = [] ∨ ∃ dep ∈ deps, passedLimits deps = dep.2.buildLimits := by
  have hlimits : ∀ id, limitsOf deps id = [] ∨
      ∃ dep ∈ deps, limitsOf deps id = dep.2.buildLimits := by
    intro id
    unfold limitsOf
    cases hlookup : deps.lookup id with
    | none => exact Or.inl rfl
    | some receipt =>
      obtain ⟨before, after, rfl, -⟩ := List.lookup_eq_some_iff.1 hlookup
      exact Or.inr ⟨(id, receipt), by simp, rfl⟩
  unfold passedLimits
  split_ifs
  · exact hlimits _
  · exact hlimits _

/-- The limits that are passed on are those of a dependency. -/
theorem passedLimits_gathered {deps : List (PyStr × DependencyReceipt)}
    (hdeps : ∀ dep ∈ deps, dep.1 ∈ dependencyIds ∧ dep.2.Gathered) :
    ((passedLimits deps).map Prod.fst).Nodup ∧
      ∀ entry ∈ passedLimits deps, ReceiptKey entry.1 ∧ FromText entry.2 := by
  rcases passedLimits_eq deps with hnil | ⟨dep, hdep, heq⟩
  · rw [hnil]
    exact ⟨List.nodup_nil, List.forall_mem_nil _⟩
  · rw [heq]
    exact ⟨(hdeps dep hdep).2.nodup, (hdeps dep hdep).2.limits⟩

/-- The limits that are passed on can be written. -/
theorem writable_passedLimits {deps : List (PyStr × DependencyReceipt)}
    (hdeps : ∀ dep ∈ deps, dep.1 ∈ dependencyIds ∧ dep.2.Gathered)
    (hpassed : ∀ entry ∈ passedLimits deps, KeepsToLine entry.2) :
    WritableLimits (passedLimits deps) := by
  obtain ⟨hnodup, hentries⟩ := passedLimits_gathered hdeps
  refine ⟨hnodup, fun entry hentry => ?_⟩
  obtain ⟨hkey, hvalue⟩ := hentries entry hentry
  exact ⟨hkey, hvalue.written (hpassed entry hentry)⟩

section lines

variable {ctx : InstallContext} {deps : List (PyStr × DependencyReceipt)}
  (h : ctx.KeepsToLines deps)

include h

/-- The lines before the limits have no breaks in them. -/
theorem InstallContext.KeepsToLines.unbroken_headLines : ∀ line ∈ ctx.headLines, Unbroken line := by
  unfold InstallContext.headLines
  simp only [List.forall_mem_append]
  refine ⟨⟨⟨?_, ?_⟩, ?_⟩, ?_⟩
  · simp only [List.forall_mem_cons]
    exact ⟨by decide, by decide, by decide, by decide,
      unbroken_scalarLine 2 (by decide) h.revision, List.forall_mem_nil _⟩
  · exact unbroken_partLines (by decide) h.platform
  · exact unbroken_partLines (by decide) h.install
  · exact unbroken_partLines (by decide) (capabilities_writable ctx.cfg)

variable (hdeps : ∀ dep ∈ deps, dep.1 ∈ dependencyIds ∧ dep.2.Gathered)
  (hpassed : ∀ entry ∈ passedLimits deps, KeepsToLine entry.2)

include hdeps hpassed

theorem InstallContext.KeepsToLines.limits : ∀ dep ∈ deps, WritableLimits dep.2.buildLimits := by
  intro dep hdep
  apply (hdeps dep hdep).2.writableLimits
  by_cases heq : dep.2.buildLimits = passedLimits deps
  · rw [heq]
    exact hpassed
  · exact (h.deps dep hdep).2.2 heq

theorem InstallContext.KeepsToLines.unbroken_dependencyLines :
    ∀ line ∈ dependencyLines deps, Unbroken line := by
  unfold dependencyLines
  split_ifs
  · exact List.forall_mem_singleton.2 (by decide)
  · refine List.forall_mem_cons.2 ⟨by decide, fun line hline => ?_⟩
    obtain ⟨dep, hdep, hline⟩ := List.mem_flatMap.1 hline
    obtain ⟨hid, hgathered⟩ := hdeps dep hdep
    obtain ⟨hversion, hrevision, -⟩ := h.deps dep hdep
    have hids : ∀ id ∈ dependencyIds, Unbroken id := by decide
    rcases List.mem_append.1 hline with hline | hline
    · simp only [List.mem_cons, List.not_mem_nil, or_false] at hline
      rcases hline with rfl | rfl | rfl
      · exact (unbroken_blanks 2).append ((hids dep.1 hid).append (by decide))
      · exact unbroken_scalarLine 4 (by decide) (hgathered.version.written hversion)
      · exact unbroken_scalarLine 4 (by decide) (hgathered.sourceRevision.written hrevision)
    · exact unbroken_limitLines 4 (h.limits hdeps hpassed dep hdep) line hline

/-- No line of the receipt has a break in it. -/
theorem InstallContext.KeepsToLines.unbroken_receiptLines :
    ∀ line ∈ ctx.receiptLines deps, Unbroken line := by
  unfold InstallContext.receiptLines
  simp only [List.forall_mem_append]
  refine ⟨⟨⟨⟨h.unbroken_headLines, ?_⟩, ?_⟩, ?_⟩, ?_⟩
  · exact unbroken_limitLines 0 (writable_passedLimits hdeps hpassed)
  · exact h.unbroken_dependencyLines hdeps hpassed
  · exact unbroken_artifactLines h.artifacts unbroken_kind
  · exact List.forall_mem_singleton.2
      (unbroken_scalarLine 0 (by decide) (Unbroken.written (by decide)))

end lines

/-! ## Reading the lines -/

/-- The limits as they are read back. -/
def shownLimits (limits : ManifestEntries) : ManifestEntries :=
  limits.map fun entry => (entry.1, .scalar (shownScalar entry.2))

namespace ReceiptReader

variable {s : ReceiptReader}

/-- A line without blanks in front that opens no part. -/
theorem line_other {raw : PyStr} (hopens : raw.getLast? ≠ some (cp ':'))
    (hblanks : ¬ blanks 2 <+: raw) : s.line raw = .ok s := by
  rw [line, if_neg fun h => hopens h.2.2, if_pos (Or.inl hblanks)]

/-- A part of which nothing is kept. -/
def Aside (part : PyStr) : Prop := part ≠ py "component" ∧ part ≠ py "build_limits"

instance (part : PyStr) : Decidable (Aside part) := inferInstanceAs (Decidable (_ ∧ _))

/-- An entry of a part that the reader does not keep is passed over. -/
theorem Aside.line_scalar (h : Aside s.part) {key : PyStr} (hkey : ReceiptKey key)
    {value : ManifestScalar} (hvalue : Written value) :
    s.line (scalarLine 2 key value) = .ok s := by
  rw [ReceiptReader.line_scalar hkey hvalue, store_of_part h.1 h.2]

/-- Limits with new keys. -/
theorem reads_limits {limits : ManifestEntries}
    (hentries : ∀ entry ∈ limits, ReceiptKey entry.1 ∧ Written (shownScalar entry.2))
    (hpart : s.part = py "build_limits")
    (hnodup : (s.buildLimits.map Prod.fst ++ limits.map Prod.fst).Nodup) :
    Reads s (limits.map fun entry => scalarLine 2 entry.1 (shownScalar entry.2))
      { s with buildLimits := s.buildLimits ++ shownLimits limits } := by
  induction limits generalizing s with
  | nil =>
    simp only [shownLimits, List.map_nil, List.append_nil]
    exact .nil
  | cons entry limits ih =>
    obtain ⟨⟨hkey, hvalue⟩, hrest⟩ := List.forall_mem_cons.1 hentries
    have hnew : entry.1 ∉ s.buildLimits.map Prod.fst := fun hmem =>
      (List.nodup_append.1 hnodup).2.2 entry.1 hmem entry.1 List.mem_cons_self rfl
    have hstore : s.store entry.1 (.scalar (shownScalar entry.2)) =
        { s with buildLimits := s.buildLimits ++ [(entry.1, .scalar (shownScalar entry.2))] } := by
      have hcomponent : s.part ≠ py "component" := by
        rw [hpart]
        decide
      rw [store, if_neg fun h => hcomponent h.1, if_neg fun h => hcomponent h.1, if_pos hpart,
        setEntry_of_new hnew]
    have hline := line_scalar (s := s) hkey hvalue
    rw [hstore] at hline
    have hnodup' : ((s.buildLimits ++
        [(entry.1, (.scalar (shownScalar entry.2) : ManifestValue))]).map Prod.fst ++
          limits.map Prod.fst).Nodup := by simpa using hnodup
    have htail := ih (s := { s with buildLimits :=
      s.buildLimits ++ [(entry.1, .scalar (shownScalar entry.2))] }) hrest hpart hnodup'
    rw [List.append_assoc] at htail
    exact .cons hline htail

/-- The reader takes the limits in, if it has none yet. -/
theorem reads_limitLines (s : ReceiptReader) {limits : ManifestEntries} (h : WritableLimits limits)
    (hnone : s.buildLimits = []) : ∃ part, Reads s (limitLines 0 limits)
      ⟨part, s.version, s.sourceRevision, shownLimits limits⟩ := by
  obtain ⟨part, version, sourceRevision, buildLimits⟩ := s
  dsimp only at hnone ⊢
  subst hnone
  unfold limitLines
  split_ifs with hnil
  · subst hnil
    exact ⟨part, .cons (line_other (by decide) (by decide)) .nil⟩
  · refine ⟨py "build_limits", .cons (line_part (py "build_limits") (by decide) (by decide)) ?_⟩
    exact reads_limits h.entries rfl (by simpa using h.nodup)

/-- The lines of the dependencies change the part only. -/
theorem reads_dependencyLines (s : ReceiptReader) {deps : List (PyStr × DependencyReceipt)}
    (hids : ∀ dep ∈ deps, dep.1 ∈ dependencyIds) :
    ∃ part, Reads s (dependencyLines deps) { s with part := part } := by
  unfold dependencyLines
  split_ifs with hnil
  · exact ⟨s.part, .cons (line_other (by decide) (by decide)) .nil⟩
  · refine ⟨py "dependencies", .cons (line_part (py "dependencies") (by decide) (by decide))
      (.pass fun raw hraw => ?_)⟩
    have haside : Aside (py "dependencies") := by decide
    have hkeys : ∀ id ∈ dependencyIds, ReceiptKey id := by decide +kernel
    obtain ⟨dep, hdep, hraw⟩ := List.mem_flatMap.1 hraw
    rcases List.mem_append.1 hraw with hraw | hraw
    · simp only [List.mem_cons, List.not_mem_nil, or_false] at hraw
      rcases hraw with rfl | rfl | rfl
      · rw [line_opening (hkeys dep.1 (hids dep hdep)), store_of_part haside.1 haside.2]
      · exact line_deep _
      · exact line_deep _
    · unfold limitLines at hraw
      split_ifs at hraw
      · obtain rfl := List.mem_singleton.1 hraw
        exact line_deep _
      · rcases List.mem_cons.1 hraw with rfl | hraw
        · exact line_deep _
        · obtain ⟨entry, -, rfl⟩ := List.mem_map.1 hraw
          exact line_deep (blanks 2 ++ _)

/-- The lines of the artifacts change the part only. -/
theorem reads_artifactLines (s : ReceiptReader) {artifacts : List (PyStr × PyStr)}
    (hpath : ∀ artifact ∈ artifacts, Written (.str artifact.1)) :
    Reads s (artifactLines artifacts) { s with part := py "artifacts" } := by
  refine .cons (line_part (py "artifacts") (by decide) (by decide)) (.pass fun raw hraw => ?_)
  have haside : Aside (py "artifacts") := by decide
  obtain ⟨artifact, hartifact, hraw⟩ := List.mem_flatMap.1 hraw
  simp only [List.mem_cons, List.not_mem_nil, or_false] at hraw
  rcases hraw with rfl | rfl
  · exact Aside.line_scalar haside (by decide +kernel) (hpath artifact hartifact)
  · exact line_deep _

end ReceiptReader

section receipt

variable {ctx : InstallContext} {deps : List (PyStr × DependencyReceipt)}

open ReceiptReader

/-- The reader behind the lines of the component. -/
def behindComponent (revision part : PyStr) (limits : ManifestEntries) : ReceiptReader :=
  ⟨part, some (.scalar (.str (py "1.0.0"))), some (.scalar (.str revision)), limits⟩

theorem parseScalar_id : parseScalar (py " hakoniwa-pdu-bridge-core") =
    .ok (.scalar (.str (py "hakoniwa-pdu-bridge-core"))) := by
  have hunquoted : Unquoted (py "hakoniwa-pdu-bridge-core") := ⟨by decide, by simp [py, cp]⟩
  have hint : int? (py "hakoniwa-pdu-bridge-core") = none := by decide
  have hread := parseScalar_unquoted hunquoted
  rw [if_neg (by decide), if_neg (by decide), if_neg (by decide), hint] at hread
  exact hread

theorem parseScalar_version : parseScalar (py " 1.0.0") = .ok (.scalar (.str (py "1.0.0"))) := by
  have hstrip : strip (py " 1.0.0") = py "1.0.0" := by decide
  have hlower : lower (py "1.0.0") = py "1.0.0" := by decide
  have hint : int? (py "1.0.0") = none := by decide
  unfold parseScalar
  dsimp only
  rw [hstrip, hlower, hint, if_neg (by decide), if_neg (by decide), if_neg (by decide),
    if_neg (by decide), if_neg (by decide)]

/-- The lines of the component. -/
theorem reads_component {revision : PyStr} (h : Written (.str revision)) : Reads initial
    [py "schema_version: 1",
      py "component:",
      py "  id: hakoniwa-pdu-bridge-core",
      py "  version: 1.0.0",
      scalarLine 2 (py "source_revision") (.str revision)]
    (behindComponent revision (py "component") []) := by
  have hid : ∀ s : ReceiptReader, s.line (py "  id: hakoniwa-pdu-bridge-core") =
      .ok (s.store (py "id") (.scalar (.str (py "hakoniwa-pdu-bridge-core")))) := by
    intro s
    have hline := s.line_entry (py "id") (py " hakoniwa-pdu-bridge-core") (by decide)
    rw [show rstrip (py " hakoniwa-pdu-bridge-core") = py " hakoniwa-pdu-bridge-core" by decide,
      parseScalar_id] at hline
    exact hline
  have hversion : ∀ s : ReceiptReader, s.line (py "  version: 1.0.0") =
      .ok (s.store (py "version") (.scalar (.str (py "1.0.0")))) := by
    intro s
    have hline := s.line_entry (py "version") (py " 1.0.0") (by decide)
    rw [show rstrip (py " 1.0.0") = py " 1.0.0" by decide, parseScalar_version] at hline
    exact hline
  refine .cons (line_other (by decide) (by decide)) ?_
  refine .cons (line_part (py "component") (by decide) (by decide)) ?_
  refine .cons (hid _) ?_
  refine .cons (hversion _) ?_
  exact .cons (line_scalar (by decide) h) .nil

/-- A part with scalars of which nothing is kept. -/
theorem reads_partLines (s : ReceiptReader) (name : PyStr) (hne : name ≠ [])
    (hhead : name.head? ≠ some (cp ' ')) (haside : Aside name)
    {entries : List (PyStr × ManifestScalar)} (h : WritableScalars entries) :
    Reads s (partLines name entries) { s with part := name } := by
  refine .cons (line_part name hne hhead) (.pass fun raw hraw => ?_)
  obtain ⟨entry, hentry, rfl⟩ := List.mem_map.1 hraw
  obtain ⟨hkey, hvalue⟩ := h entry hentry
  exact Aside.line_scalar haside hkey hvalue

/-- A line with a string ends in a quote. -/
theorem getLast?_scalarLine (indent : ℕ) (key t : PyStr) :
    (scalarLine indent key (.str t)).getLast? = some (cp '"') := by
  rw [scalarLine, yamlScalar, doubleQuoted, ← List.append_assoc, ← List.append_assoc,
    ← List.cons_append, ← List.append_assoc]
  exact List.getLast?_concat

/-- The last line of a receipt. -/
theorem line_resolvedManifest (s : ReceiptReader) (t : PyStr) :
    s.line (scalarLine 0 (py "resolved_manifest") (.str t)) = .ok s := by
  apply line_other
  · rw [getLast?_scalarLine]
    decide
  · rintro ⟨rest, hrest⟩
    have hhead := congrArg List.head? hrest
    change some (cp ' ') = some (cp 'r') at hhead
    exact absurd hhead (by decide)

/-- The lines before the limits are read. -/
theorem reads_headLines (h : ctx.KeepsToLines deps) :
    Reads initial ctx.headLines (behindComponent ctx.revision (py "capabilities") []) := by
  let behind := behindComponent ctx.revision
  have hplatform := reads_partLines (behind (py "component") []) (py "platform") (by decide)
    (by decide) (by decide) h.platform
  have hinstall := reads_partLines (behind (py "platform") []) (py "install") (by decide)
    (by decide) (by decide) h.install
  have hcapabilities := reads_partLines (behind (py "install") []) (py "capabilities") (by decide)
    (by decide) (by decide) (capabilities_writable ctx.cfg)
  exact (((reads_component h.revision).append hplatform).append hinstall).append hcapabilities

/-- The reader gets over a receipt. -/
theorem reads_receiptLines (h : ctx.KeepsToLines deps)
    (hdeps : ∀ dep ∈ deps, dep.1 ∈ dependencyIds ∧ dep.2.Gathered)
    (hpassed : ∀ entry ∈ passedLimits deps, KeepsToLine entry.2) :
    Reads initial (ctx.receiptLines deps)
      (behindComponent ctx.revision (py "artifacts") (shownLimits (passedLimits deps))) := by
  let behind := behindComponent ctx.revision
  obtain ⟨part, hlimits⟩ :=
    (behind (py "capabilities") []).reads_limitLines (writable_passedLimits hdeps hpassed) rfl
  obtain ⟨part', hdependencies⟩ :=
    (behind part (shownLimits (passedLimits deps))).reads_dependencyLines
      fun dep hdep => (hdeps dep hdep).1
  have hartifacts := (behind part' (shownLimits (passedLimits deps))).reads_artifactLines
    h.artifacts
  refine ((((reads_headLines h).append hlimits).append hdependencies).append hartifacts).append ?_
  exact .cons (line_resolvedManifest _ _) .nil

theorem InstallContext.KeepsToLines.read_back (h : ctx.KeepsToLines deps)
    (hdeps : ∀ dep ∈ deps, dep.1 ∈ dependencyIds ∧ dep.2.Gathered)
    (hpassed : ∀ entry ∈ passedLimits deps, KeepsToLine entry.2) (path : PyStr) :
    readDependencyReceipt ⟨path, some (joinLines (ctx.receiptLines deps) ++ py "\n")⟩ = .ok
      ⟨.scalar (.str (py "1.0.0")), .scalar (.str ctx.revision),
        shownLimits (passedLimits deps)⟩ := by
  have hsplit : splitlines (joinLines (ctx.receiptLines deps) ++ py "\n") = ctx.receiptLines deps :=
    splitlines_joinLines (List.cons_ne_nil _ _) (h.unbroken_receiptLines hdeps hpassed)
  have hreads := reads_receiptLines h hdeps hpassed
  have hversion : Option.filter truthy (some (.scalar (.str (py "1.0.0")))) =
      some (.scalar (.str (py "1.0.0"))) := rfl
  have hrevision : Option.filter truthy (some (.scalar (.str ctx.revision))) =
      some (.scalar (.str ctx.revision)) := by
    rw [Option.filter_some, if_pos (by simpa [truthy] using h.known)]
  unfold Reads at hreads
  unfold readDependencyReceipt
  dsimp only
  rw [hsplit, hreads]
  dsimp only [behindComponent]
  rw [hversion, hrevision]

/-! ## A limit with a line break -/

/-- A string in double quotes that is cut off is not read. -/
theorem parseScalar_cut {s part more : PyStr} (h : JsonString.dumpsChars s = part ++ more) :
    ∃ e, parseScalar (rstrip (cp ' ' :: cp '"' :: part)) = .error e := by
  obtain ⟨tail, htail⟩ := List.rdropWhile_prefix isspace part
  have hend : rstrip (cp ' ' :: cp '"' :: part) = cp ' ' :: cp '"' :: rstrip part :=
    rstrip_append_cons rfl [cp ' '] part
  have hscan : JsonString.scanString (rstrip part) = none := by
    have hchars : JsonString.JsonChars (rstrip part ++ (tail ++ more)) s := by
      rw [← List.append_assoc, rstrip, htail, ← h]
      exact JsonString.jsonChars_dumpsChars s
    exact JsonString.scanString_part hchars
  have hloads : JsonString.loads? (cp '"' :: rstrip part) = none := by
    rw [JsonString.loads?, if_pos rfl, hscan]
  have hstripped : rstrip (rstrip part) = rstrip part := List.rdropWhile_idempotent isspace part
  rw [hend, parseScalar_quote (Or.inr rfl) hstripped, hloads, if_pos rfl]
  split_ifs
  · exact ⟨_, rfl⟩
  · exact ⟨_, rfl⟩

/-- A line break that JSON does not escape is written as it is. -/
theorem written_of_unbroken {s : PyStr} (h : Unbroken (JsonString.dumpsChars s)) :
    Written (.str s) := by
  have hmem : ∀ c ∈ s, 0x7F < c.val → c ∈ JsonString.dumpsChars s := by
    intro c hc hhigh
    have hne : ∀ d : Char, d.toNat ≤ 0x7F → c ≠ cp d := by
      rintro d hd rfl
      exact absurd hhigh (not_lt.2 hd)
    have hself : JsonString.dumpsChar c = [c] := by
      unfold JsonString.dumpsChar
      rw [if_neg (hne '"' (by decide)), if_neg (hne '\\' (by decide)), if_neg (by omega),
        if_neg (by omega), if_neg (by omega), if_neg (by omega), if_neg (by omega),
        if_neg (by omega)]
    exact List.mem_flatMap.2 ⟨c, hc, hself ▸ List.mem_singleton_self c⟩
  intro c hc
  by_contra hbreak
  have hline := h c (hmem c hc (by omega))
  simp only [isLineBreak, Bool.or_eq_false_iff, beq_eq_false_iff_ne] at hline
  exact hbreak ⟨hline.1.1.2, hline.1.2, hline.2⟩

/-- The line of a string with such a break: the reader stops at what is left of it. -/
theorem exists_cut {key text : PyStr} (hkey : ReceiptKey key) (h : ¬ Written (.str text)) :
    ∃ a c b, scalarLine 2 key (.str text) = a ++ c :: b ∧ Unbroken a ∧ isLineBreak c = true ∧
      ∀ s : ReceiptReader, ∃ e, s.line a = .error e := by
  obtain ⟨part, c, more, hdumps, hpart, hc⟩ := exists_first (mt written_of_unbroken h)
  refine ⟨blanks 2 ++ (key ++ cp ':' :: cp ' ' :: cp '"' :: part), c, more ++ [cp '"'], ?_, ?_,
    by simpa using hc, fun s => ?_⟩
  · rw [scalarLine, yamlScalar, doubleQuoted, hdumps]
    simp [py]
  · have hquote : Unbroken (py ": \"") := by decide
    exact (unbroken_blanks 2).append (hkey.unbroken.append (hquote.append hpart))
  · obtain ⟨e, he⟩ := parseScalar_cut hdumps
    rw [s.line_entry key _ hkey, he]
    exact ⟨e, rfl⟩

/-- **A limit with such a break makes a receipt unreadable.** -/
theorem InstallContext.KeepsToLines.read_fails (h : ctx.KeepsToLines deps)
    (hdeps : ∀ dep ∈ deps, dep.1 ∈ dependencyIds ∧ dep.2.Gathered)
    (hpassed : ¬ ∀ entry ∈ passedLimits deps, KeepsToLine entry.2) (path : PyStr) :
    ∃ e, readDependencyReceipt ⟨path, some (joinLines (ctx.receiptLines deps) ++ py "\n")⟩ =
      .error e := by
  obtain ⟨before, entry, after, hlimits, hbefore, hentry⟩ := exists_first hpassed
  obtain ⟨text, hvalue, htext⟩ : ∃ text, entry.2 = .scalar (.str text) ∧ ¬ Written (.str text) := by
    simpa [KeepsToLine] using hentry
  obtain ⟨hnodup, hgathered⟩ := passedLimits_gathered hdeps
  rw [hlimits] at hgathered hnodup
  have hkey : ReceiptKey entry.1 := (hgathered entry (by simp)).1
  have hwritable : ∀ e ∈ before, ReceiptKey e.1 ∧ Written (shownScalar e.2) := by
    intro e he
    obtain ⟨hk, hv⟩ := hgathered e (by simp [he])
    exact ⟨hk, hv.written (hbefore e he)⟩
  obtain ⟨a, c, b, hline, ha, hc, hstops⟩ := exists_cut hkey htext
  -- the lines up to the broken one
  let lines := ctx.headLines ++
    py "build_limits:" :: before.map fun e => scalarLine 2 e.1 (shownScalar e.2)
  have hunbroken : ∀ line ∈ lines, Unbroken line := by
    refine List.forall_mem_append.2 ⟨h.unbroken_headLines, List.forall_mem_cons.2 ⟨by decide, ?_⟩⟩
    refine List.forall_mem_map.2 fun e he => ?_
    exact unbroken_scalarLine 2 (hwritable e he).1.unbroken (hwritable e he).2
  have hreads : Reads initial lines
      (behindComponent ctx.revision (py "build_limits") (shownLimits before)) := by
    have hopen := line_part (s := behindComponent ctx.revision (py "capabilities") [])
      (py "build_limits") (by decide) (by decide)
    rw [List.map_append] at hnodup
    have hlimits := reads_limits (s := behindComponent ctx.revision (py "build_limits") [])
      hwritable rfl (List.nodup_append.1 hnodup).1
    exact (reads_headLines h).append (.cons hopen hlimits)
  obtain ⟨rest, hrest⟩ : ∃ rest, ctx.receiptLines deps = lines ++ (a ++ c :: b) :: rest := by
    have hshown : scalarLine 2 entry.1 (shownScalar entry.2) = a ++ c :: b := by
      rw [hvalue]
      exact hline
    rw [InstallContext.receiptLines, hlimits, limitLines, if_neg (by simp), List.map_append,
      List.map_cons, hshown]
    simp only [lines, List.append_assoc, List.cons_append]
    exact ⟨_, rfl⟩
  obtain ⟨cut, hcut⟩ := splitlines_break hunbroken ha hc b rest
  obtain ⟨e, he⟩ := hstops (behindComponent ctx.revision (py "build_limits") (shownLimits before))
  refine ⟨e, ?_⟩
  have hfold : (lines ++ a :: cut).foldlM ReceiptReader.line initial = .error e := by
    unfold Reads at hreads
    rw [List.foldlM_append, hreads]
    change List.foldlM ReceiptReader.line _ (a :: cut) = _
    rw [List.foldlM_cons, he]
    rfl
  have hsplit : splitlines (joinLines (ctx.receiptLines deps) ++ py "\n") = lines ++ a :: cut := by
    rw [hrest]
    exact hcut
  unfold readDependencyReceipt
  dsimp only
  rw [hsplit, hfold]

/-- **When a receipt is read back.** What the bridge writes when it is installed is read as its
version and revision, with the build limits that were read from the core's receipt, or from that of
the endpoint library if the core has none, exactly if no string among these limits has one of the
line breaks that JSON does not escape. Otherwise it cannot be read at all. -/
theorem InstallContext.readBack_iff {text : PyStr} (hwritten : ctx.writeReceipt = .ok text)
    (hdependencies : ctx.dependencies = .ok deps) (h : ctx.KeepsToLines deps) (path : PyStr) :
    (readDependencyReceipt ⟨path, some text⟩ = .ok
      ⟨.scalar (.str (py "1.0.0")), .scalar (.str ctx.revision), shownLimits (passedLimits deps)⟩ ↔
        ∀ entry ∈ passedLimits deps, KeepsToLine entry.2) ∧
    ((∃ e, readDependencyReceipt ⟨path, some text⟩ = .error e) ↔
      ∃ entry ∈ passedLimits deps, ¬ KeepsToLine entry.2) := by
  have hdeps := InstallContext.mem_dependencies hdependencies
  obtain rfl : joinLines (ctx.receiptLines deps) ++ py "\n" = text := by
    unfold InstallContext.writeReceipt at hwritten
    rw [hdependencies] at hwritten
    split_ifs at hwritten
    dsimp only at hwritten
    split_ifs at hwritten
    exact Except.ok.inj hwritten
  by_cases hpassed : ∀ entry ∈ passedLimits deps, KeepsToLine entry.2
  · have hread := h.read_back hdeps hpassed path
    rw [hread]
    exact ⟨iff_of_true rfl hpassed, iff_of_false (by simp) (by simpa using hpassed)⟩
  · obtain ⟨e, hread⟩ := h.read_fails hdeps hpassed path
    rw [hread]
    exact ⟨iff_of_false (by simp) hpassed, iff_of_true ⟨e, rfl⟩ (by simpa using hpassed)⟩

end receipt

/-- A build with the defaults. -/
def BuildConfig.default : BuildConfig where
  version := .int 1
  type := py "Release"
  dir := py "build"
  parallel := 0
  library := true
  standaloneApp := true
  hakoniwaApp := false
  monitor := true
  tests := true
  examples := false
  integrationTcp := false
  pduEndpointRoot := []
  hakoniwaCoreRoot := []
  vcpkgRoot := []
  version_one := Or.inl rfl
  type_valid := by decide
  dir_nonempty := by decide
  parallel_nonneg := le_rfl
  apps_have_library := Or.inl rfl
  tcp_has_app := by decide

/-- An installed bridge whose endpoint library has a limit, and one without a value. -/
def InstallContext.small : InstallContext where
  cfg := .default
  platformName := py "linux"
  arch := py "x64"
  revision := py "abc"
  cmakeCache := none
  endpointReceipt := some ⟨py "e.yaml", some (joinLines
    [py "component:", py "  version: 1", py "  source_revision: f", py "build_limits:",
      py "  channels: 16", py "  names:"])⟩
  coreReceipt := none
  installDir := py "/usr/local"
  tree := ⟨true, false, [], []⟩

/-- What it reads of its dependencies. -/
def InstallContext.smallDeps : List (PyStr × DependencyReceipt) :=
  [(py "hakoniwa-pdu-endpoint", ⟨.scalar (.int 1), .scalar (.str (py "f")),
    [(py "channels", .scalar (.int 16)), (py "names", .map [])]⟩)]

/-- Both limits are read back, the second as a text. -/
theorem InstallContext.readBack_small :
    ∃ text, InstallContext.small.writeReceipt = .ok text ∧
      readDependencyReceipt ⟨py "r.yaml", some text⟩ = .ok
        ⟨.scalar (.str (py "1.0.0")), .scalar (.str (py "abc")),
          [(py "channels", .scalar (.int 16)), (py "names", .scalar (.str (py "\x7b\x7d")))]⟩ := by
  have hdependencies : InstallContext.small.dependencies = .ok InstallContext.smallDeps := rfl
  have htree : bridgeArtifacts InstallContext.small.tree =
      [(py "lib/cmake/hakoniwa_pdu_bridge", py "cmake-package")] := by
    simp [bridgeArtifacts, InstallContext.small]
  have hnumber : ∀ n : ℤ, KeepsToLine (.scalar (.int n)) := fun n s hs => by cases hs
  have hpassed : ∀ entry ∈ passedLimits InstallContext.smallDeps, KeepsToLine entry.2 := by
    intro entry hentry
    rcases List.mem_cons.1 hentry with rfl | hentry
    · exact hnumber 16
    · obtain rfl := List.mem_singleton.1 hentry
      exact fun s hs => by cases hs
  have hlines : InstallContext.small.KeepsToLines InstallContext.smallDeps :=
    { revision := Unbroken.written (by decide)
      known := List.cons_ne_nil _ _
      platformName := Unbroken.written (by decide)
      arch := Unbroken.written (by decide)
      installDir := Unbroken.written (by decide)
      artifacts := by
        rw [htree]
        exact List.forall_mem_singleton.2 (Unbroken.written (by decide))
      deps := by
        refine List.forall_mem_singleton.2 ⟨hnumber 1, ?_, fun hne => absurd rfl hne⟩
        rintro s hs
        obtain rfl : py "f" = s := ManifestScalar.str.inj (NestedMap.scalar.inj hs)
        exact Unbroken.written (by decide) }
  have hencoded : (joinLines (InstallContext.small.receiptLines InstallContext.smallDeps) ++
      py "\n").any isSurrogate = false := by
    unfold InstallContext.receiptLines
    rw [htree]
    decide +kernel
  have hwritten : InstallContext.small.writeReceipt =
      .ok (joinLines (InstallContext.small.receiptLines InstallContext.smallDeps) ++ py "\n") := by
    unfold InstallContext.writeReceipt
    rw [htree, hdependencies, if_pos (by decide)]
    dsimp only
    rw [hencoded]
    rfl
  exact ⟨_, hwritten, (InstallContext.readBack_iff hwritten hdependencies hlines _).1.2 hpassed⟩

end HakoniwaBridge
