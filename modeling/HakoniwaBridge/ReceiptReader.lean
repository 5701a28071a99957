import HakoniwaBridge.Receipt

/-!
# Reading receipts

What `_read_dependency_receipt` makes of one line and of several, and what is known of the receipts
that it yields.

* `ReceiptReader.line_part`, `line_deep`, `line_scalar` — the lines: those that open a part, those
  that are skipped, and those with a key and a scalar.
* `ReceiptReader.Reads` — what the reader holds after some lines.
* `gathered_of_read` — **what is read is in order**: no limit comes twice, and every value comes
  from a text, so it can be written again.
-/

namespace HakoniwaBridge

open Lib PyStr NestedMap

/-- No line break. -/
def Unbroken (line : PyStr) : Prop := ∀ c ∈ line, isLineBreak c = false

instance (line : PyStr) : Decidable (Unbroken line) := List.decidableBAll _ line

/-- A key as it stands in a line of a receipt. -/
structure ReceiptKey (key : PyStr) : Prop where
  unbroken : Unbroken key
  noColon : cp ':' ∉ key
  head : key.head?.any isspace = false

instance (key : PyStr) : Decidable (ReceiptKey key) :=
  decidable_of_iff (Unbroken key ∧ cp ':' ∉ key ∧ key.head?.any isspace = false)
    ⟨fun h => ⟨h.1, h.2.1, h.2.2⟩, fun h => ⟨h.unbroken, h.noColon, h.head⟩⟩

namespace ReceiptReader

variable {s t u : ReceiptReader} {key : PyStr}

/-! ## One line -/

/-- A line without indentation opens a part. -/
theorem line_part (name : PyStr) (hne : name ≠ []) (hhead : name.head? ≠ some (cp ' ')) :
    s.line (name ++ py ":") = .ok { s with part := name } := by
  have hlast : (name ++ py ":").getLast? = some (cp ':') := List.getLast?_concat
  have hfirst : (name ++ py ":").head? = name.head? := List.head?_append_of_ne_nil name hne
  have hdrop : (name ++ py ":").dropLast = name := List.dropLast_concat
  rw [line, if_pos ⟨by simp [hne], hfirst ▸ hhead, hlast⟩, hdrop]

/-- A line of four blanks. -/
theorem line_deep (text : PyStr) : s.line (blanks 4 ++ text) = .ok s := by
  have hhead : (blanks 4 ++ text).head? = some (cp ' ') := rfl
  rw [line, if_neg fun h => h.2.1 hhead, if_pos (Or.inr (Or.inl (List.prefix_append _ _)))]

/-- A line of two blanks, a key and what follows the colon. -/
theorem line_entry (s : ReceiptReader) (key value : PyStr) (hkey : ReceiptKey key) :
    s.line (blanks 2 ++ (key ++ cp ':' :: value)) =
      (parseScalar (rstrip value)).map (s.store key) := by
  have hhead : (blanks 2 ++ (key ++ cp ':' :: value)).head? = some (cp ' ') := rfl
  have hfirst : ∀ c, (key ++ cp ':' :: value).head? = some c → isspace c = false := by
    rintro c hc
    cases key with
    | nil => exact Option.some.inj hc ▸ rfl
    | cons d key => exact Option.some.inj hc ▸ hkey.head
  have hdeep : ¬ blanks 4 <+: blanks 2 ++ (key ++ cp ':' :: value) := by
    intro hprefix
    have hrest : blanks 2 <+: key ++ cp ':' :: value := by
      rw [show blanks 4 = blanks 2 ++ blanks 2 from rfl] at hprefix
      exact (List.prefix_append_right_inj _).1 hprefix
    obtain ⟨tail, htail⟩ := hrest
    have hblank := hfirst (cp ' ') (by rw [← htail]; rfl)
    exact absurd hblank (by decide)
  have hdrop : (blanks 2 ++ (key ++ cp ':' :: value)).dropWhile isspace =
      key ++ cp ':' :: value := by
    rw [List.dropWhile_append_of_pos fun c hc => List.eq_of_mem_replicate hc ▸ rfl]
    cases hsplit : key ++ cp ':' :: value with
    | nil => rfl
    | cons c rest =>
      rw [hsplit] at hfirst
      exact List.dropWhile_cons_of_neg (by simp [hfirst c rfl])
  have hcolon : ∀ c ∈ key, decide (c ≠ cp ':') = true := fun c hc =>
    decide_eq_true fun heq => hkey.noColon (heq ▸ hc)
  rw [line, if_neg fun h => h.2.1 hhead, if_neg (by simp [hdeep])]
  dsimp only
  rw [strip, hdrop, rstrip_append_cons rfl, List.takeWhile_append_of_pos hcolon,
    List.dropWhile_append_of_pos hcolon]
  simp

/-- An indented line stores its entry in the part. -/
theorem line_scalar (hkey : ReceiptKey key) {value : ManifestScalar} (hvalue : Written value) :
    s.line (scalarLine 2 key value) = .ok (s.store key (.scalar value)) := by
  have hline := s.line_entry key (cp ' ' :: yamlScalar value) hkey
  rw [show rstrip (cp ' ' :: yamlScalar value) = cp ' ' :: yamlScalar value from
    rstrip_yamlScalar value [cp ' '], parseScalar_yamlScalar hvalue] at hline
  exact hline

/-- The line that opens a dependency. -/
theorem line_opening (hkey : ReceiptKey key) :
    s.line (blanks 2 ++ (key ++ py ":")) = .ok (s.store key (.map [])) :=
  line_entry s key [] hkey

/-- Nothing is kept outside of two parts. -/
theorem store_of_part (hcomponent : s.part ≠ py "component") (hlimits : s.part ≠ py "build_limits")
    (key : PyStr) (parsed : ManifestValue) : s.store key parsed = s := by
  rw [store, if_neg fun h => hcomponent h.1, if_neg fun h => hcomponent h.1, if_neg hlimits]

/-! ## Several lines -/

/-- The reader gets over the lines. -/
def Reads (s : ReceiptReader) (lines : List PyStr) (t : ReceiptReader) : Prop :=
  lines.foldlM line s = .ok t

namespace Reads

theorem nil : Reads s [] s := rfl

theorem cons {raw : PyStr} {lines : List PyStr} (h : s.line raw = .ok t) (hrest : Reads t lines u) :
    Reads s (raw :: lines) u := by
  rw [Reads, List.foldlM_cons, h]
  exact hrest

/-- Lines behind lines. -/
theorem append {xs ys : List PyStr} (hx : Reads s xs t) (hy : Reads t ys u) :
    Reads s (xs ++ ys) u := by
  rw [Reads, List.foldlM_append, hx]
  exact hy

/-- Lines over which the reader passes. -/
theorem pass {lines : List PyStr} (h : ∀ raw ∈ lines, s.line raw = .ok s) : Reads s lines s := by
  induction lines with
  | nil => exact nil
  | cons raw lines ih =>
    rw [List.forall_mem_cons] at h
    exact cons h.1 (ih h.2)

end Reads

end ReceiptReader

/-! ## What the reader yields -/

/-- A value that `_parse_scalar` yields. -/
def FromText (v : ManifestValue) : Prop := ∃ text, parseScalar text = .ok v

/-- A value that is no string with a line break which JSON does not escape. -/
def KeepsToLine (v : ManifestValue) : Prop := ∀ s, v = .scalar (.str s) → Written (.str s)

/-- What is read as an integer is one, without the blanks around it. -/
theorem int?_of_parseScalar {text : PyStr} {n : ℤ} (h : parseScalar text = .ok (.scalar (.int n))) :
    int? (strip text) = some n := by
  unfold parseScalar at h
  dsimp only at h
  split_ifs at h
  · simp at h
  · simp at h
  · simp at h
  · simp at h
  · cases hloads : JsonString.loads? (strip text) <;> simp [hloads] at h
  · simp at h
  · cases hint : int? (strip text) with
    | none => simp [hint] at h
    | some m => simpa [hint] using h

/-- A value that was read can be written. -/
theorem FromText.written {v : ManifestValue} (h : FromText v) (hline : KeepsToLine v) :
    Written (shownScalar v) := by
  obtain ⟨text, htext⟩ := h
  cases v with
  | map entries => exact fun c hc => by simp [py, cp] at hc; rcases hc with rfl | rfl <;> decide
  | scalar value =>
    cases value with
    | none => trivial
    | bool b => trivial
    | int n => exact digitCount_of_int? (int?_of_parseScalar htext)
    | str s => exact hline s rfl

/-- What is known of a receipt that was read. -/
structure DependencyReceipt.Gathered (receipt : DependencyReceipt) : Prop where
  version : FromText receipt.version
  sourceRevision : FromText receipt.sourceRevision
  nodup : (receipt.buildLimits.map Prod.fst).Nodup
  limits : ∀ entry ∈ receipt.buildLimits, ReceiptKey entry.1 ∧ FromText entry.2

/-- The key of a line. -/
theorem receiptKey_of_line {raw : PyStr} (hraw : Unbroken raw) :
    ReceiptKey ((strip raw).takeWhile (· ≠ cp ':')) where
  unbroken c hc := by
    have hstrip : c ∈ strip raw := (List.takeWhile_prefix _).subset hc
    have hdrop : c ∈ raw.dropWhile isspace := (List.rdropWhile_prefix _ _).subset hstrip
    exact hraw c ((List.dropWhile_sublist _).subset hdrop)
  noColon hmem := by simpa using List.mem_takeWhile_imp hmem
  head := by
    rw [List.head?_takeWhile, Option.any_eq_false]
    intro c hc
    obtain ⟨rest, hrest⟩ := List.head?_eq_some_iff.1 (Option.mem_filter_iff.1 hc).1
    obtain ⟨tail, htail⟩ := List.rdropWhile_prefix isspace (raw.dropWhile isspace)
    have hhead : (raw.dropWhile isspace).head? = some c := by
      rw [← htail, show (raw.dropWhile isspace).rdropWhile isspace = c :: rest from hrest]
      rfl
    have hfirst := List.head?_dropWhile_not isspace raw
    rwa [hhead] at hfirst

namespace ReceiptReader

/-- What is known of the reader between two lines. -/
structure Gathered (s : ReceiptReader) : Prop where
  version : ∀ v ∈ s.version, FromText v
  sourceRevision : ∀ v ∈ s.sourceRevision, FromText v
  nodup : (s.buildLimits.map Prod.fst).Nodup
  limits : ∀ entry ∈ s.buildLimits, ReceiptKey entry.1 ∧ FromText entry.2

variable {s t : ReceiptReader}

/-- At the beginning nothing is gathered. -/
theorem gathered_initial : initial.Gathered :=
  ⟨nofun, nofun, List.nodup_nil, List.forall_mem_nil _⟩

/-- A stored entry is gathered. -/
theorem Gathered.store (h : s.Gathered) {key : PyStr} (hkey : ReceiptKey key) {v : ManifestValue}
    (hv : FromText v) : (s.store key v).Gathered := by
  unfold ReceiptReader.store
  split_ifs
  · exact { h with version := fun _ hw => Option.some.inj hw ▸ hv }
  · exact { h with sourceRevision := fun _ hw => Option.some.inj hw ▸ hv }
  · refine { h with nodup := nodup_setEntry h.nodup key v, limits := fun entry hentry => ?_ }
    rcases mem_setEntry hentry with rfl | hold
    · exact ⟨hkey, hv⟩
    · exact h.limits entry hold
  · exact h

/-- A line keeps what is gathered. -/
theorem Gathered.line (h : s.Gathered) {raw : PyStr} (hraw : Unbroken raw)
    (hline : s.line raw = .ok t) : t.Gathered := by
  unfold ReceiptReader.line at hline
  split_ifs at hline
  · obtain rfl := Except.ok.inj hline
    exact { h with }
  · obtain rfl := Except.ok.inj hline
    exact h
  · dsimp only at hline
    cases hparsed : parseScalar (((strip raw).dropWhile (· ≠ cp ':')).tail) with
    | error e =>
      rw [hparsed] at hline
      cases hline
    | ok v =>
      rw [hparsed] at hline
      obtain rfl := Except.ok.inj hline
      exact h.store (receiptKey_of_line hraw) ⟨_, hparsed⟩

/-- So do the lines of a receipt. -/
theorem Gathered.lines {lines : List PyStr} (h : s.Gathered)
    (hlines : ∀ raw ∈ lines, Unbroken raw) (hreads : Reads s lines t) :
    t.Gathered := by
  induction lines generalizing s with
  | nil =>
    obtain rfl := Except.ok.inj hreads
    exact h
  | cons raw lines ih =>
    obtain ⟨hraw, hrest⟩ := List.forall_mem_cons.1 hlines
    unfold Reads at hreads
    rw [List.foldlM_cons] at hreads
    cases hline : s.line raw with
    | error e => simp [hline, bind, Except.bind] at hreads
    | ok u =>
      rw [hline] at hreads
      exact ih (h.line hraw hline) hrest hreads

end ReceiptReader

/-- **What the reader yields can be written**, if its strings keep to one line. -/
theorem gathered_of_read {file : ReceiptFile} {receipt : DependencyReceipt}
    (h : readDependencyReceipt file = .ok receipt) : receipt.Gathered := by
  unfold readDependencyReceipt at h
  cases htext : file.text with
  | none =>
    rw [htext] at h
    obtain rfl := Except.ok.inj h
    exact ⟨⟨py "unknown", rfl⟩, ⟨py "unknown", rfl⟩, List.nodup_nil, List.forall_mem_nil _⟩
  | some text =>
    rw [htext] at h
    dsimp only at h
    cases hreads : (splitlines text).foldlM ReceiptReader.line ReceiptReader.initial with
    | error e => simp [hreads] at h
    | ok s =>
      have hgathered : s.Gathered := ReceiptReader.gathered_initial.lines
        (fun raw hraw => unbroken_splitlines hraw) hreads
      rw [hreads] at h
      dsimp only at h
      cases hversion : s.version.filter truthy with
      | none => simp [hversion] at h
      | some version =>
        cases hrevision : s.sourceRevision.filter truthy with
        | none => simp [hversion, hrevision] at h
        | some revision =>
          rw [hversion, hrevision] at h
          obtain rfl := Except.ok.inj h
          exact ⟨hgathered.version _ (Option.mem_filter_iff.1 hversion).1,
            hgathered.sourceRevision _ (Option.mem_filter_iff.1 hrevision).1,
            hgathered.nodup, hgathered.limits⟩

end HakoniwaBridge
