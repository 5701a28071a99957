import HakoniwaBridge.ManifestNesting

/-!
# Quoted scalars of a manifest

A quoted scalar is read twice: `_strip_comment` looks for its end, and `_parse_scalar` unquotes it.
For a double-quoted scalar both know the backslash. In single quotes only the first does, so it
misses a closing quote behind a backslash: then it takes a comment for part of the scalar, or a `#`
of the scalar for a comment.

* `QuotedForm`, `quotedLine` — the quoted forms of a string, and a line with one; `yamlScalar` is
  the writer, which takes double quotes.
* `LoadedAs` — the line is read as the string, alone and among other lines.
* `Paired`, `Cut` — the backslashes of a string come in pairs with what follows and none stands
  before a quote; and there is a `#` outside of quotes behind the first one that does.
* `loadedAs_iff` — **a line with a quoted scalar is read back always, in double quotes; and in
  single quotes exactly when the string is `Paired`, with a comment, or not `Cut`, without.**
* `loadedAs_yamlScalar` — what is written for a string is read back.
-/

namespace HakoniwaBridge

open Lib

/-- Neither tabs nor line breaks. -/
def Inline (s : PyStr) : Prop := ∀ c ∈ s, c ≠ cp '\t' ∧ PyStr.isLineBreak c = false

instance (s : PyStr) : Decidable (Inline s) := List.decidableBAll _ s

/-- A key that stands for itself. -/
structure PlainKey (key : PyStr) : Prop where
  nonempty : key ≠ []
  inline : Inline key
  plain : ∀ c ∈ key, c ≠ cp ':' ∧ c ≠ cp '#' ∧ c ≠ cp '\'' ∧ c ≠ cp '"'
  stripped : PyStr.strip key = key
  notItem : key.head? ≠ some (cp '-')

/-- In single quotes, the quotes of the string doubled. -/
def singleQuoted (s : PyStr) : PyStr := cp '\'' :: (PyStr.doubled (cp '\'') s ++ [cp '\''])

/-- In double quotes. -/
def doubleQuoted (text : PyStr) : PyStr := cp '"' :: (text ++ [cp '"'])

/-- Source: `tools/hako.py`, `_yaml_scalar`. -/
def yamlScalar : ManifestScalar → PyStr
  | .bool true => py "true"
  | .bool false => py "false"
  | .none => py "null"
  | .int n => py (toString n)
  | .str s => doubleQuoted (JsonString.dumpsChars s)

/-- The quoted forms of a string: in single quotes, or as JSON. -/
inductive QuotedForm (s : PyStr) : PyStr → Prop
  | single : QuotedForm s (singleQuoted s)
  | double {text} (h : JsonString.JsonChars text s) : QuotedForm s (doubleQuoted text)

/-- A blank and a comment, or nothing. -/
def trailing (comment : Option PyStr) : PyStr := comment.elim [] fun c => cp ' ' :: cp '#' :: c

/-- A line with a key and a quoted scalar. -/
def quotedLine (indent : ℕ) (key quoted : PyStr) (comment : Option PyStr) : PyStr :=
  List.replicate indent (cp ' ') ++ (key ++ cp ':' :: cp ' ' :: (quoted ++ trailing comment))

/-- A line is loaded as a key with the value `s`: as a manifest of its own, and at its place in any
manifest that is loaded. -/
structure LoadedAs (raw key s : PyStr) : Prop where
  alone : ∀ path text, PyStr.splitlines text = [raw] →
    loadSimpleYaml path text = .ok (.map [(key, .scalar (.str s))])
  among : ∀ path text before after root, PyStr.splitlines text = before ++ raw :: after →
    loadSimpleYaml path text = .ok root →
    ∃ parent, place (keyLines text) (before.filterMap keyLine?).length = parent ++ [key] ∧
      root.look (parent ++ [key]) = some (some (.str s))

/-- Characters other than backslashes, and pairs of a backslash and a character other than a single
quote: no odd number of backslashes stands before a single quote or at the end. -/
inductive Paired : PyStr → Prop
  | nil : Paired []
  | plain {c s} (h : c ≠ cp '\\') : Paired s → Paired (c :: s)
  | pair {c s} (h : c ≠ cp '\'') : Paired s → Paired (cp '\\' :: c :: s)

/-- What is read as a unit outside of double quotes and within them, with the quote that is open
before and after it: in double quotes a backslash takes the next character with it. -/
inductive Piece : Option CodePoint → PyStr → Option CodePoint → Prop
  | plain {c} (hquote : c ≠ cp '"') (hhash : c ≠ cp '#') : Piece none [c] none
  | quote : Piece none [cp '"'] (some (cp '"'))
  | within {c} (hquote : c ≠ cp '"') (hslash : c ≠ cp '\\') :
      Piece (some (cp '"')) [c] (some (cp '"'))
  | escape {c} : Piece (some (cp '"')) [cp '\\', c] (some (cp '"'))
  | unquote : Piece (some (cp '"')) [cp '"'] none

/-- A text ends outside of double quotes, and has no `#` outside of them. -/
inductive Outside : Option CodePoint → PyStr → Prop
  | nil : Outside none []
  | piece {quote x quote' s} (h : Piece quote x quote') : Outside quote' s → Outside quote (x ++ s)

/-- A text has a `#` outside of double quotes. -/
def HashOutside (quote : Option CodePoint) (s : PyStr) : Prop :=
  ∃ b r, s = b ++ cp '#' :: r ∧ Outside quote b

/-- Behind the first single quote with an odd number of backslashes before it, there is a `#`
outside of double quotes. -/
def Cut (s : PyStr) : Prop :=
  ∃ a v, s = a ++ cp '\\' :: cp '\'' :: v ∧ Paired a ∧ HashOutside none v

/-- In single quotes: with a comment behind it, the end of the scalar is found; without one, nothing
of it is lost. -/
def FoundAgain (s quoted : PyStr) (comment : Option PyStr) : Prop :=
  quoted = singleQuoted s → if comment.isSome then Paired s else ¬ Cut s

theorem hash_ne_quote : cp '#' ≠ cp '\'' := by decide

theorem doubled_backslash (s : PyStr) :
    PyStr.doubled (cp '\'') (cp '\\' :: s) = cp '\\' :: PyStr.doubled (cp '\'') s :=
  PyStr.doubled_cons_of_ne (by decide) s

/-! ## Looking for the comment -/

section strip

variable {c q : CodePoint} {text : PyStr}

theorem strip_escaped (quote : Option CodePoint) (c : CodePoint) (text : PyStr) :
    stripCommentFrom quote true (c :: text) = c :: stripCommentFrom quote false text := by
  rw [stripCommentFrom, if_pos rfl]

theorem strip_backslash (q : CodePoint) (text : PyStr) :
    stripCommentFrom (some q) false (cp '\\' :: text) =
      cp '\\' :: stripCommentFrom (some q) true text := by
  rw [stripCommentFrom, if_neg Bool.false_ne_true, if_pos ⟨rfl, Option.some_ne_none q⟩]

theorem strip_hash (text : PyStr) : stripCommentFrom none false (cp '#' :: text) = [] := by
  rfl

/-- A quote opens a scalar outside of quotes. -/
theorem strip_open (hc : c = cp '\'' ∨ c = cp '"') (text : PyStr) :
    stripCommentFrom none false (c :: text) = c :: stripCommentFrom (some c) false text := by
  rw [stripCommentFrom, if_neg Bool.false_ne_true, if_neg fun h => h.2 rfl, if_pos hc, if_pos rfl]

/-- In quotes, the same quote closes the scalar, and the other one is plain. -/
theorem strip_quote (hc : c = cp '\'' ∨ c = cp '"') (q : CodePoint) (text : PyStr) :
    stripCommentFrom (some q) false (c :: text) =
      c :: stripCommentFrom (if q = c then none else some q) false text := by
  have hslash : c ≠ cp '\\' := by rcases hc with rfl | rfl <;> decide
  rw [stripCommentFrom, if_neg Bool.false_ne_true, if_neg fun h => hslash h.1, if_pos hc,
    if_neg (Option.some_ne_none q)]
  simp only [Option.some.injEq]

theorem strip_within (hsingle : c ≠ cp '\'') (hdouble : c ≠ cp '"') (hslash : c ≠ cp '\\')
    (q : CodePoint) (text : PyStr) :
    stripCommentFrom (some q) false (c :: text) = c :: stripCommentFrom (some q) false text := by
  rw [stripCommentFrom, if_neg Bool.false_ne_true, if_neg fun h => hslash h.1,
    if_neg (not_or_intro hsingle hdouble), if_neg fun h => Option.some_ne_none q h.2]

theorem strip_outside (hsingle : c ≠ cp '\'') (hdouble : c ≠ cp '"') (hhash : c ≠ cp '#')
    (text : PyStr) :
    stripCommentFrom none false (c :: text) = c :: stripCommentFrom none false text := by
  rw [stripCommentFrom, if_neg Bool.false_ne_true, if_neg fun h => h.2 rfl,
    if_neg (not_or_intro hsingle hdouble), if_neg fun h => hhash h.1]

end strip

/-- In single quotes, a doubled quote closes and opens again. -/
theorem strip_paired {s : PyStr} (h : Paired s) (rest : PyStr) :
    stripCommentFrom (some (cp '\'')) false (PyStr.doubled (cp '\'') s ++ rest) =
      PyStr.doubled (cp '\'') s ++ stripCommentFrom (some (cp '\'')) false rest := by
  induction h with
  | nil => rfl
  | @plain c s hslash _ ih =>
    by_cases hsingle : c = cp '\''
    · rw [hsingle, PyStr.doubled_cons_self, List.cons_append, List.cons_append,
        strip_quote (Or.inl rfl), if_pos rfl, strip_open (Or.inl rfl), ih, List.cons_append,
        List.cons_append]
    · rw [PyStr.doubled_cons_of_ne hsingle, List.cons_append]
      by_cases hdouble : c = cp '"'
      · rw [strip_quote (Or.inr hdouble), if_neg (Ne.symm hsingle), ih, List.cons_append]
      · rw [strip_within hsingle hdouble hslash, ih, List.cons_append]
  | @pair c s hsingle _ ih =>
    rw [doubled_backslash, PyStr.doubled_cons_of_ne hsingle, List.cons_append,
      List.cons_append, strip_backslash, strip_escaped, ih, List.cons_append, List.cons_append]

/-- A backslash before a single quote: the closing quote of a doubled pair is taken for the end. -/
theorem strip_escaped_quote (rest : PyStr) :
    stripCommentFrom (some (cp '\'')) false (cp '\\' :: cp '\'' :: cp '\'' :: rest) =
      cp '\\' :: cp '\'' :: cp '\'' :: stripCommentFrom none false rest := by
  rw [strip_backslash, strip_escaped, strip_quote (Or.inl rfl), if_pos rfl]

/-- Behind a quote that was missed, a doubled quote changes nothing outside of double quotes, nor
within them. -/
theorem strip_piece {quote quote' : Option CodePoint} {x : PyStr} (h : Piece quote x quote')
    (rest : PyStr) :
    stripCommentFrom quote false (PyStr.doubled (cp '\'') x ++ rest) =
      PyStr.doubled (cp '\'') x ++ stripCommentFrom quote' false rest := by
  cases h with
  | @plain c hdouble hhash =>
    by_cases hsingle : c = cp '\''
    · rw [hsingle, PyStr.doubled_cons_self]
      exact (strip_open (Or.inl rfl) _).trans (congrArg _ (strip_quote (Or.inl rfl) _ _))
    · rw [PyStr.doubled_cons_of_ne hsingle]
      exact strip_outside hsingle hdouble hhash rest
  | quote => exact strip_open (Or.inr rfl) rest
  | @within c hdouble hslash =>
    by_cases hsingle : c = cp '\''
    · rw [hsingle, PyStr.doubled_cons_self]
      exact (strip_quote (Or.inl rfl) _ _).trans (congrArg _ (strip_quote (Or.inl rfl) _ _))
    · rw [PyStr.doubled_cons_of_ne hsingle]
      exact strip_within hsingle hdouble hslash _ rest
  | @escape c =>
    rw [doubled_backslash]
    by_cases hsingle : c = cp '\''
    · rw [hsingle, PyStr.doubled_cons_self]
      refine (strip_backslash _ _).trans (congrArg _ ((strip_escaped _ _ _).trans (congrArg _ ?_)))
      exact strip_quote (Or.inl rfl) _ _
    · rw [PyStr.doubled_cons_of_ne hsingle]
      exact (strip_backslash _ _).trans (congrArg _ (strip_escaped _ _ _))
  | unquote => exact strip_quote (Or.inr rfl) _ rest

theorem strip_doubled_outside {quote : Option CodePoint} {s : PyStr} (h : Outside quote s)
    (rest : PyStr) :
    stripCommentFrom quote false (PyStr.doubled (cp '\'') s ++ rest) =
      PyStr.doubled (cp '\'') s ++ stripCommentFrom none false rest := by
  induction h with
  | nil => rfl
  | piece hpiece _ ih =>
    rw [PyStr.doubled_append, List.append_assoc, strip_piece hpiece, ih, List.append_assoc]

/-! ## Single quotes -/

/-- A string has paired backslashes, or one stands alone at its end, or before a single quote. -/
theorem paired_cases (s : PyStr) : Paired s ∨ (∃ a, s = a ++ [cp '\\'] ∧ Paired a) ∨
    ∃ a v, s = a ++ cp '\\' :: cp '\'' :: v ∧ Paired a := by
  have hcons : ∀ {x s : PyStr}, (∀ {a}, Paired a → Paired (x ++ a)) →
      (Paired s ∨ (∃ a, s = a ++ [cp '\\'] ∧ Paired a) ∨
        ∃ a v, s = a ++ cp '\\' :: cp '\'' :: v ∧ Paired a) →
      Paired (x ++ s) ∨ (∃ a, x ++ s = a ++ [cp '\\'] ∧ Paired a) ∨
        ∃ a v, x ++ s = a ++ cp '\\' :: cp '\'' :: v ∧ Paired a := by
    rintro x s hx (h | ⟨a, rfl, ha⟩ | ⟨a, v, rfl, ha⟩)
    · exact Or.inl (hx h)
    · exact Or.inr (Or.inl ⟨x ++ a, (List.append_assoc ..).symm, hx ha⟩)
    · exact Or.inr (Or.inr ⟨x ++ a, v, (List.append_assoc ..).symm, hx ha⟩)
  induction s using List.twoStepInduction with
  | nil => exact Or.inl .nil
  | singleton c =>
    by_cases hslash : c = cp '\\'
    · exact Or.inr (Or.inl ⟨[], by rw [hslash]; rfl, .nil⟩)
    · exact Or.inl (.plain hslash .nil)
  | cons_cons c d s ih ih' =>
    by_cases hslash : c = cp '\\'
    · subst hslash
      by_cases hsingle : d = cp '\''
      · exact Or.inr (Or.inr ⟨[], s, by rw [hsingle]; rfl, .nil⟩)
      · exact hcons (x := [cp '\\', d]) (.pair hsingle) ih
    · exact hcons (x := [c]) (.plain hslash) (ih' d)

/-- The closing quote of a scalar leaves a quote open. -/
def Unclosed (quote : Option CodePoint) (s : PyStr) : Prop :=
  ∃ q, ∀ rest, stripCommentFrom quote false (PyStr.doubled (cp '\'') s ++ cp '\'' :: rest) =
    PyStr.doubled (cp '\'') s ++ cp '\'' :: stripCommentFrom (some q) false rest

theorem Unclosed.piece {quote quote' : Option CodePoint} {x s : PyStr} (h : Piece quote x quote')
    (hs : Unclosed quote' s) : Unclosed quote (x ++ s) := by
  obtain ⟨q, hq⟩ := hs
  refine ⟨q, fun rest => ?_⟩
  rw [PyStr.doubled_append, List.append_assoc, strip_piece h, hq, List.append_assoc]

theorem HashOutside.piece {quote quote' : Option CodePoint} {x s : PyStr}
    (h : Piece quote x quote') (hs : HashOutside quote' s) : HashOutside quote (x ++ s) := by
  obtain ⟨b, r, rfl, hb⟩ := hs
  exact ⟨x ++ b, r, (List.append_assoc ..).symm, .piece h hb⟩

/-- A text begins with a piece, or with a `#` outside, or with a backslash within double quotes. -/
theorem piece_cases {quote : Option CodePoint} (hquote : quote = none ∨ quote = some (cp '"'))
    (c : CodePoint) :
    (∃ quote', (quote' = none ∨ quote' = some (cp '"')) ∧ Piece quote [c] quote') ∨
      (quote = none ∧ c = cp '#') ∨ (quote = some (cp '"') ∧ c = cp '\\') := by
  by_cases hdouble : c = cp '"'
  · subst hdouble
    rcases hquote with rfl | rfl
    · exact Or.inl ⟨_, Or.inr rfl, .quote⟩
    · exact Or.inl ⟨_, Or.inl rfl, .unquote⟩
  rcases hquote with rfl | rfl
  · by_cases hhash : c = cp '#'
    · exact Or.inr (Or.inl ⟨rfl, hhash⟩)
    · exact Or.inl ⟨_, Or.inl rfl, .plain hdouble hhash⟩
  · by_cases hslash : c = cp '\\'
    · exact Or.inr (Or.inr ⟨rfl, hslash⟩)
    · exact Or.inl ⟨_, Or.inr rfl, .within hdouble hslash⟩

theorem unclosed_nil {quote : Option CodePoint} (hquote : quote = none ∨ quote = some (cp '"')) :
    Unclosed quote [] := by
  rcases hquote with rfl | rfl
  · exact ⟨cp '\'', fun rest => strip_open (Or.inl rfl) rest⟩
  · exact ⟨cp '"', fun rest => strip_quote (Or.inl rfl) _ rest⟩

/-- Behind a quote that was missed, the rest is cut at a `#`, or the closing quote opens a scalar or
is within one. -/
theorem hashOutside_or_unclosed (s : PyStr) {quote : Option CodePoint}
    (hquote : quote = none ∨ quote = some (cp '"')) : HashOutside quote s ∨ Unclosed quote s := by
  induction s using List.twoStepInduction generalizing quote with
  | nil => exact Or.inr (unclosed_nil hquote)
  | singleton c =>
    rcases piece_cases hquote c with ⟨quote', hquote', hpiece⟩ | ⟨rfl, rfl⟩ | ⟨rfl, rfl⟩
    · exact Or.inr (.piece hpiece (unclosed_nil hquote'))
    · exact Or.inl ⟨[], [], rfl, .nil⟩
    · refine Or.inr ⟨cp '"', fun rest => ?_⟩
      exact (strip_backslash _ _).trans (congrArg _ (strip_escaped _ _ _))
  | cons_cons c d s ih ih' =>
    rcases piece_cases hquote c with ⟨quote', hquote', hpiece⟩ | ⟨rfl, rfl⟩ | ⟨rfl, rfl⟩
    · exact (ih' d hquote').imp (.piece hpiece) (.piece hpiece)
    · exact Or.inl ⟨[], d :: s, rfl, .nil⟩
    · exact (ih hquote).imp (.piece .escape) (.piece .escape)

section single

variable {s : PyStr}

theorem singleQuoted_append (s rest : PyStr) : singleQuoted s ++ rest =
    cp '\'' :: (PyStr.doubled (cp '\'') s ++ cp '\'' :: rest) := by
  simp [singleQuoted]

theorem count_singleQuoted (s : PyStr) : (singleQuoted s).count (cp '#') = s.count (cp '#') := by
  simp [singleQuoted, PyStr.count_doubled hash_ne_quote]

/-- With paired backslashes the closing quote is found. -/
theorem strip_singleQuoted_of_paired (h : Paired s) (rest : PyStr) :
    stripCommentFrom none false (singleQuoted s ++ rest) =
      singleQuoted s ++ stripCommentFrom none false rest := by
  rw [singleQuoted_append, strip_open (Or.inl rfl), strip_paired h, strip_quote (Or.inl rfl),
    if_pos rfl, singleQuoted_append]

/-- Up to the backslash before a single quote, the scalar is kept. -/
theorem strip_singleQuoted_of_escaped {a v : PyStr} (ha : Paired a) (rest : PyStr) :
    stripCommentFrom none false (singleQuoted (a ++ cp '\\' :: cp '\'' :: v) ++ rest) =
      cp '\'' :: (PyStr.doubled (cp '\'') a ++ cp '\\' :: cp '\'' :: cp '\'' ::
        stripCommentFrom none false (PyStr.doubled (cp '\'') v ++ cp '\'' :: rest)) := by
  rw [singleQuoted_append, strip_open (Or.inl rfl), PyStr.doubled_append, List.append_assoc,
    strip_paired ha, doubled_backslash, PyStr.doubled_cons_self,
    List.cons_append, List.cons_append, List.cons_append, strip_escaped_quote]

/-- Otherwise the scalar is kept but not closed, unless it is cut. -/
theorem strip_singleQuoted_of_not (hpaired : ¬ Paired s) (hcut : ¬ Cut s) : ∃ q, ∀ rest,
    stripCommentFrom none false (singleQuoted s ++ rest) =
      singleQuoted s ++ stripCommentFrom (some q) false rest := by
  rcases paired_cases s with h | ⟨a, rfl, ha⟩ | ⟨a, v, rfl, ha⟩
  · exact absurd h hpaired
  · refine ⟨cp '\'', fun rest => ?_⟩
    rw [singleQuoted_append, strip_open (Or.inl rfl), PyStr.doubled_append, List.append_assoc,
      strip_paired ha, doubled_backslash, PyStr.doubled_nil, List.cons_append,
      List.nil_append, strip_backslash, strip_escaped, singleQuoted_append, PyStr.doubled_append,
      doubled_backslash, PyStr.doubled_nil, List.append_assoc, List.cons_append,
      List.nil_append]
  · rcases hashOutside_or_unclosed v (Or.inl rfl) with hhash | ⟨q, hq⟩
    · exact absurd ⟨a, v, rfl, ha, hhash⟩ hcut
    · refine ⟨q, fun rest => ?_⟩
      rw [strip_singleQuoted_of_escaped ha, hq, singleQuoted_append, PyStr.doubled_append,
        doubled_backslash, PyStr.doubled_cons_self, List.append_assoc,
        List.cons_append, List.cons_append, List.cons_append]

/-- Where the scalar is cut, a `#` of the string is lost. -/
theorem count_of_cut (h : Cut s) (rest : PyStr) :
    (stripCommentFrom none false (singleQuoted s ++ rest)).count (cp '#') < s.count (cp '#') := by
  obtain ⟨a, v, rfl, ha, b, r, rfl, hb⟩ := h
  rw [strip_singleQuoted_of_escaped ha, PyStr.doubled_append, List.append_assoc,
    strip_doubled_outside hb, PyStr.doubled_cons_of_ne hash_ne_quote, List.cons_append, strip_hash]
  simp [PyStr.count_doubled hash_ne_quote]

end single

/-! ## Double quotes -/

section double

open JsonString

variable {a b c d u : CodePoint} {text s : PyStr}

/-- A character of a literal that is neither its end nor a backslash. -/
theorem strip_in_double (hdouble : c ≠ cp '"') (hslash : c ≠ cp '\\') (text : PyStr) :
    stripCommentFrom (some (cp '"')) false (c :: text) =
      c :: stripCommentFrom (some (cp '"')) false text := by
  by_cases hsingle : c = cp '\''
  · rw [strip_quote (Or.inl hsingle), if_neg (Ne.symm hdouble)]
  · exact strip_within hsingle hdouble hslash _ text

theorem strip_escape (e : CodePoint) (text : PyStr) :
    stripCommentFrom (some (cp '"')) false (cp '\\' :: e :: text) =
      cp '\\' :: e :: stripCommentFrom (some (cp '"')) false text := by
  rw [strip_backslash, strip_escaped]

theorem strip_unicode (h : hex4? a b c d = some u) (text : PyStr) :
    stripCommentFrom (some (cp '"')) false (cp '\\' :: cp 'u' :: a :: b :: c :: d :: text) =
      cp '\\' :: cp 'u' :: a :: b :: c :: d :: stripCommentFrom (some (cp '"')) false text := by
  have hdigit : ∀ x ∈ [a, b, c, d], x ≠ cp '"' ∧ x ≠ cp '\\' := by
    intro x hx
    have hrange := hex4?_range h x hx
    constructor
    · rintro rfl
      exact absurd hrange.1 (by decide)
    · rintro rfl
      exact absurd hrange.2.2 (by decide)
  simp only [List.forall_mem_cons] at hdigit
  obtain ⟨ha, hb, hc, hd, -⟩ := hdigit
  rw [strip_escape, strip_in_double ha.1 ha.2, strip_in_double hb.1 hb.2,
    strip_in_double hc.1 hc.2, strip_in_double hd.1 hd.2]

theorem strip_jsonChars (h : JsonChars text s) (rest : PyStr) :
    stripCommentFrom (some (cp '"')) false (text ++ rest) =
      text ++ stripCommentFrom (some (cp '"')) false rest := by
  induction h with
  | nil => rfl
  | plain hquote hslash _ _ ih =>
    simp only [List.cons_append, strip_in_double hquote hslash, ih]
  | escape _ _ ih => simp only [List.cons_append, strip_escape, ih]
  | unicode h _ _ ih => simp only [List.cons_append, strip_unicode h, ih]
  | pair h h' _ _ _ ih => simp only [List.cons_append, strip_unicode h, strip_unicode h', ih]

/-- The closing quote of a literal is found. -/
theorem strip_doubleQuoted (h : JsonChars text s) (rest : PyStr) :
    stripCommentFrom none false (doubleQuoted text ++ rest) =
      doubleQuoted text ++ stripCommentFrom none false rest := by
  rw [doubleQuoted, List.cons_append, List.append_assoc, List.singleton_append,
    strip_open (Or.inr rfl), strip_jsonChars h, strip_quote (Or.inr rfl), if_pos rfl]
  simp

end double

/-! ## Reading the line -/

section reading

variable {key rest kept : PyStr} {q : CodePoint}

theorem PlainKey.head (h : PlainKey key) :
    ∃ k key', key = k :: key' ∧ PyStr.isspace k = false ∧ k ≠ cp '-' := by
  cases hcons : key with
  | nil => exact absurd hcons h.nonempty
  | cons k key' =>
    have hstripped := h.stripped
    have hitem := h.notItem
    rw [hcons] at hstripped hitem
    exact ⟨k, key', rfl, PyStr.isspace_of_strip_eq hstripped, fun hk => hitem (by rw [hk]; rfl)⟩

theorem strip_plain {x : PyStr} (h : ∀ c ∈ x, c ≠ cp '\'' ∧ c ≠ cp '"' ∧ c ≠ cp '#')
    (rest : PyStr) :
    stripCommentFrom none false (x ++ rest) = x ++ stripCommentFrom none false rest := by
  induction x with
  | nil => rfl
  | cons c x ih =>
    rw [List.forall_mem_cons] at h
    rw [List.cons_append, strip_outside h.1.1 h.1.2.1 h.1.2.2, ih h.2, List.cons_append]

/-- The key of a line, and what is left of the text after it without the comment. -/
theorem readLine_of_strip (hkey : PlainKey key) (hinline : Inline rest)
    (hspace : PyStr.isspace q = false)
    (hkept : stripCommentFrom none false rest = q :: kept) (indent : ℕ) :
    readLine (List.replicate indent (cp ' ') ++ (key ++ cp ':' :: cp ' ' :: rest)) =
      .ok (some ⟨indent, key, cp ' ' :: q :: PyStr.rstrip kept⟩) := by
  obtain ⟨k, key', hcons, hk, hitem⟩ := hkey.head
  have hcolon : ∀ c ∈ key, c ≠ cp ':' := fun c hc => (hkey.plain c hc).1
  have htab : cp '\t' ∉ List.replicate indent (cp ' ') ++ (key ++ cp ':' :: cp ' ' :: rest) := by
    intro hmem
    rcases List.mem_append.1 hmem with hmem | hmem
    · exact absurd (List.eq_of_mem_replicate hmem) (by decide)
    rcases List.mem_append.1 hmem with hmem | hmem
    · exact (hkey.inline _ hmem).1 rfl
    · simp only [List.mem_cons, cp_inj] at hmem
      rcases hmem with hmem | hmem | hmem
      · cases hmem
      · cases hmem
      · exact (hinline _ hmem).1 rfl
  have hline : stripComment (List.replicate indent (cp ' ') ++ (key ++ cp ':' :: cp ' ' :: rest)) =
      List.replicate indent (cp ' ') ++ (key ++ cp ':' :: cp ' ' :: q :: PyStr.rstrip kept) := by
    have hblank : ∀ c ∈ List.replicate indent (cp ' '), c ≠ cp '\'' ∧ c ≠ cp '"' ∧ c ≠ cp '#' :=
      fun c hc => List.eq_of_mem_replicate hc ▸ by decide
    have hplain : ∀ c ∈ key ++ [cp ':', cp ' '], c ≠ cp '\'' ∧ c ≠ cp '"' ∧ c ≠ cp '#' := by
      intro c hc
      rcases List.mem_append.1 hc with hc | hc
      · obtain ⟨-, hhash, hsingle, hdouble⟩ := hkey.plain c hc
        exact ⟨hsingle, hdouble, hhash⟩
      · simp only [List.mem_cons, List.not_mem_nil, or_false] at hc
        rcases hc with rfl | rfl <;> decide
    have hsplit : ∀ x : PyStr, key ++ cp ':' :: cp ' ' :: x = (key ++ [cp ':', cp ' ']) ++ x := by
      simp
    rw [stripComment, strip_plain hblank, hsplit, strip_plain hplain, hkept, ← List.append_assoc,
      PyStr.rstrip_append_cons hspace, List.append_assoc, ← hsplit]
  have hblanks : PyStr.lstripBlanks
      (List.replicate indent (cp ' ') ++ (key ++ cp ':' :: cp ' ' :: q :: PyStr.rstrip kept)) =
      key ++ cp ':' :: cp ' ' :: q :: PyStr.rstrip kept := by
    have hk' : k ≠ cp ' ' := by
      rintro rfl
      cases hk
    rw [PyStr.lstripBlanks, List.dropWhile_append_of_pos (by simp), hcons, List.cons_append,
      List.dropWhile_cons_of_neg (by simpa using hk')]
  have hne : PyStr.strip (List.replicate indent (cp ' ') ++
      (key ++ cp ':' :: cp ' ' :: q :: PyStr.rstrip kept)) ≠ [] :=
    PyStr.strip_ne_nil (c := q) (by simp) hspace
  rw [readLine, if_neg htab, hline]
  dsimp only
  rw [if_neg hne, hblanks, if_neg (by rw [hcons]; simpa using hitem), if_neg (by simp),
    List.takeWhile_append_of_pos (by simpa using hcolon),
    List.dropWhile_append_of_pos (by simpa using hcolon)]
  simp [hkey.stripped, hkey.nonempty]

/-- A value that begins with a quote. -/
theorem parseScalar_quote (hq : q = cp '\'' ∨ q = cp '"') {t : PyStr} (ht : PyStr.rstrip t = t) :
    parseScalar (cp ' ' :: q :: t) =
      if (q :: t).length < 2 ∨ (q :: t).getLast? ≠ some q then
        .error ⟨py "unterminated quoted scalar: " ++ (q :: t)⟩
      else if q = cp '"' then
        (JsonString.loads? (q :: t)).elim (.error ⟨py "invalid quoted scalar: " ++ (q :: t)⟩)
          fun s => .ok (.scalar (.str s))
      else .ok (.scalar (.str (PyStr.replacePairs (cp '\'') t.dropLast))) := by
  have hspace : PyStr.isspace q = false := by rcases hq with rfl | rfl <;> rfl
  have hstrip : PyStr.strip (cp ' ' :: q :: t) = q :: t := by
    rw [PyStr.strip, List.dropWhile_cons_of_pos rfl, List.dropWhile_cons_of_neg (by simp [hspace])]
    exact (PyStr.rstrip_append_cons hspace [] t).trans (by rw [ht]; rfl)
  have hlower : PyStr.lower (q :: t) = q :: PyStr.lower t := by rcases hq with rfl | rfl <;> rfl
  have hword : ∀ w : PyStr, w.head? ≠ some (cp '\'') → w.head? ≠ some (cp '"') →
      q :: PyStr.lower t ≠ w := by
    rintro w hsingle hdouble rfl
    rcases hq with rfl | rfl
    · exact hsingle rfl
    · exact hdouble rfl
  have hhead : (q :: t).head? = some (cp '"') ∨ (q :: t).head? = some (cp '\'') := by
    rcases hq with rfl | rfl
    · exact Or.inr rfl
    · exact Or.inl rfl
  unfold parseScalar
  dsimp only
  rw [hstrip, hlower, if_neg (List.cons_ne_nil q t),
    if_neg (hword (py "true") (by decide) (by decide)),
    if_neg (hword (py "false") (by decide) (by decide)),
    if_neg (not_or_intro (hword (py "null") (by decide) (by decide))
      (hword (py "~") (by decide) (by decide))), if_pos hhead]
  simp only [List.head?_cons, Option.some.injEq, List.tail_cons]
  cases JsonString.loads? (q :: t) with
  | none => rfl
  | some s => rfl

end reading

theorem parseScalar_singleQuoted (s : PyStr) :
    parseScalar (cp ' ' :: singleQuoted s) = .ok (.scalar (.str s)) := by
  have hend : PyStr.rstrip (PyStr.doubled (cp '\'') s ++ [cp '\'']) =
      PyStr.doubled (cp '\'') s ++ [cp '\''] := PyStr.rstrip_append_cons rfl _ []
  rw [singleQuoted, parseScalar_quote (Or.inl rfl) hend,
    if_neg (by simp [List.getLast?_cons]), if_neg (by decide),
    List.dropLast_concat, PyStr.replacePairs_doubled]

theorem parseScalar_doubleQuoted {text s : PyStr} (h : JsonString.JsonChars text s) :
    parseScalar (cp ' ' :: doubleQuoted text) = .ok (.scalar (.str s)) := by
  have hend : PyStr.rstrip (text ++ [cp '"']) = text ++ [cp '"'] :=
    PyStr.rstrip_append_cons rfl _ []
  rw [doubleQuoted, parseScalar_quote (Or.inr rfl) hend,
    if_neg (by simp [List.getLast?_cons]), if_pos rfl,
    JsonString.loads?_of_jsonChars h, Option.elim_some]

/-- A string read from single quotes has the `#` of the text. -/
theorem count_of_parseScalar {kept s : PyStr}
    (h : parseScalar (cp ' ' :: cp '\'' :: PyStr.rstrip kept) = .ok (.scalar (.str s))) :
    s.count (cp '#') = kept.count (cp '#') := by
  have hidem : PyStr.rstrip (PyStr.rstrip kept) = PyStr.rstrip kept :=
    List.rdropWhile_idempotent _ _
  rw [parseScalar_quote (Or.inl rfl) hidem] at h
  split_ifs at h with hend hdouble
  · exact absurd hdouble (by decide)
  obtain rfl : PyStr.replacePairs (cp '\'') (PyStr.rstrip kept).dropLast = s :=
    ManifestScalar.str.inj (NestedMap.scalar.inj (Except.ok.inj h))
  obtain ⟨hlength, hlast⟩ := not_or.1 hend
  have hne : PyStr.rstrip kept ≠ [] := by
    intro hnil
    rw [hnil] at hlength
    exact hlength (by decide)
  rw [not_not, List.getLast?_cons_of_ne_nil hne] at hlast
  obtain ⟨inner, hinner⟩ := List.getLast?_eq_some_iff.1 hlast
  rw [PyStr.count_replacePairs hash_ne_quote, ← PyStr.count_rstrip (by decide) kept, hinner,
    List.dropLast_concat]
  simp [hash_ne_quote.symm]

/-! ## The characters of the line -/

section inline

variable {s t : PyStr}

theorem Inline.append (hs : Inline s) (ht : Inline t) : Inline (s ++ t) :=
  List.forall_mem_append.2 ⟨hs, ht⟩

theorem Inline.cons {c : CodePoint} (hc : c ≠ cp '\t' ∧ PyStr.isLineBreak c = false)
    (hs : Inline s) : Inline (c :: s) :=
  List.forall_mem_cons.2 ⟨hc, hs⟩

/-- The form of a quoted string has no other characters than the string and printable ones. -/
theorem QuotedForm.inline {quoted : PyStr} (h : QuotedForm s quoted) (hs : Inline s) :
    Inline quoted := by
  cases h with
  | single =>
    refine .cons (by decide) (.append (fun c hc => ?_) (.cons (by decide) nofun))
    exact hs c (PyStr.mem_of_mem_doubled hc)
  | @double text h =>
    refine .cons (by decide) (.append (fun c hc => ?_) (.cons (by decide) nofun))
    rcases h.mem_or c hc with hmem | ⟨hlow, hhigh⟩
    · exact hs c hmem
    · constructor
      · rintro rfl
        exact absurd hlow (by decide)
      · simp [PyStr.isLineBreak]
        omega

theorem inline_trailing {comment : Option PyStr} (h : ∀ c ∈ comment, Inline c) :
    Inline (trailing comment) := by
  cases comment with
  | none => exact nofun
  | some c => exact .cons (by decide) (.cons (by decide) (h c rfl))

/-- The line is one line. -/
theorem splitlines_quotedLine {key quoted : PyStr} {comment : Option PyStr} (hkey : PlainKey key)
    (hs : Inline s) (hcomment : ∀ c ∈ comment, Inline c) (hquoted : QuotedForm s quoted)
    (indent : ℕ) : PyStr.splitlines (quotedLine indent key quoted comment) =
      [quotedLine indent key quoted comment] := by
  have hblanks : Inline (List.replicate indent (cp ' ')) :=
    fun c hc => List.eq_of_mem_replicate hc ▸ by decide
  have hinline : Inline (quotedLine indent key quoted comment) :=
    hblanks.append (hkey.inline.append (.cons (by decide) (.cons (by decide)
      ((hquoted.inline hs).append (inline_trailing hcomment)))))
  rw [PyStr.splitlines, PyStr.splitlinesFrom_of_unbroken fun c hc => (hinline c hc).2,
    List.nil_append, if_neg (by simp [quotedLine])]

end inline

/-! ## Loading the line -/

section loading

variable {raw key s : PyStr} {line : LineHead}

/-- A manifest of one line. -/
theorem loadSimpleYaml_line {text : PyStr} (htext : PyStr.splitlines text = [raw])
    (hraw : readLine raw = .ok (some line)) (path : PyStr) : loadSimpleYaml path text =
      (parseScalar line.rawValue).map fun parsed => .map [(line.key, parsed)] := by
  have hroot : (Loader.initial.stack.dropWhile fun entry => decide ((line.indent : ℤ) ≤ entry.1)) =
      [(-1, [])] :=
    List.dropWhile_cons_of_neg (by simp; omega)
  rw [loadSimpleYaml, htext, loadLines, hraw]
  dsimp only
  rw [placeLine, hroot]
  cases parseScalar line.rawValue with
  | error e => rfl
  | ok parsed => rfl

/-- A line whose scalar is read as `s` is loaded as such. -/
theorem loadedAs_of_readLine (hraw : readLine raw = .ok (some line))
    (hparse : parseScalar line.rawValue = .ok (.scalar (.str s))) : LoadedAs raw line.key s := by
  refine ⟨fun path text htext => ?_, fun path text before after root htext hroot => ?_⟩
  · rw [loadSimpleYaml_line htext hraw, hparse]
    rfl
  · have hkey : keyLine? raw = some ⟨line.indent, line.key, some (.str s)⟩ := by
      rw [keyLine?, readKeyLine_of_parseScalar hraw hparse]
      rfl
    have hlines : keyLines text = before.filterMap keyLine? ++
        ⟨line.indent, line.key, some (.str s)⟩ :: after.filterMap keyLine? := by
      rw [keyLines, htext, List.filterMap_append, List.filterMap_cons_some hkey]
    have hline : (keyLines text)[(before.filterMap keyLine?).length]? =
        some ⟨line.indent, line.key, some (.str s)⟩ := by
      rw [hlines]
      simp
    have hvalue : valueAt (keyLines text) (before.filterMap keyLine?).length = some (.str s) := by
      rw [valueAt, hline]
      rfl
    have hplace : ∃ parent, place (keyLines text) (before.filterMap keyLine?).length =
        parent ++ [line.key] := by
      rw [place, keyAt, hline]
      exact ⟨_, rfl⟩
    obtain ⟨parent, hparent⟩ := hplace
    refine ⟨parent, hparent, ?_⟩
    rcases loadSimpleYaml_cases path text with ⟨-, root', hroot', hlook⟩ | ⟨-, e, he⟩
    · obtain rfl : root = root' := Except.ok.inj (hroot.symm.trans hroot')
      rw [← hparent, hlook]
      exact Or.inr ⟨_, (List.getElem?_eq_some_iff.1 hline).1, rfl, hvalue.symm⟩
    · rw [he] at hroot
      cases hroot

end loading

section quotedLine

variable {key s quoted : PyStr} {comment : Option PyStr}

/-- The comment is dropped outside of quotes, up to a blank. -/
theorem rstrip_strip_trailing (comment : Option PyStr) :
    PyStr.rstrip (stripCommentFrom none false (trailing comment)) = [] := by
  cases comment with
  | none => rfl
  | some c => rfl

theorem QuotedForm.eq (h : QuotedForm s quoted) :
    ∃ q inner, quoted = q :: (inner ++ [q]) ∧ PyStr.isspace q = false := by
  cases h with
  | single => exact ⟨cp '\'', _, rfl, rfl⟩
  | double _ => exact ⟨cp '"', _, rfl, rfl⟩

theorem QuotedForm.parse (h : QuotedForm s quoted) :
    parseScalar (cp ' ' :: quoted) = .ok (.scalar (.str s)) := by
  cases h with
  | single => exact parseScalar_singleQuoted s
  | double h => exact parseScalar_doubleQuoted h

/-- A line is loaded as `s` where what is kept of it is the quoted scalar, up to blanks. -/
theorem loadedAs_of_strip (hkey : PlainKey key) (hs : Inline s)
    (hcomment : ∀ c ∈ comment, Inline c) (hquoted : QuotedForm s quoted) {blank : PyStr}
    (hstrip : stripCommentFrom none false (quoted ++ trailing comment) = quoted ++ blank)
    (hblank : PyStr.rstrip blank = []) (indent : ℕ) :
    LoadedAs (quotedLine indent key quoted comment) key s := by
  have hinline : Inline (quoted ++ trailing comment) :=
    (hquoted.inline hs).append (inline_trailing hcomment)
  obtain ⟨q, inner, hform, hq⟩ := hquoted.eq
  have hkept : stripCommentFrom none false (quoted ++ trailing comment) =
      q :: (inner ++ q :: blank) := by
    rw [hstrip, hform]
    simp
  have hraw := readLine_of_strip hkey hinline hq hkept indent
  rw [PyStr.rstrip_append_cons hq, hblank, ← hform] at hraw
  exact loadedAs_of_readLine hraw hquoted.parse

/-- A single-quoted scalar that is read back is kept with all its `#` and no other. -/
theorem count_of_loadedAs (hkey : PlainKey key) (hs : Inline s)
    (hcomment : ∀ c ∈ comment, Inline c) {indent : ℕ}
    (h : LoadedAs (quotedLine indent key (singleQuoted s) comment) key s) :
    (stripCommentFrom none false (singleQuoted s ++ trailing comment)).count (cp '#') =
      s.count (cp '#') := by
  have hinline : Inline (singleQuoted s ++ trailing comment) :=
    (QuotedForm.single.inline hs).append (inline_trailing hcomment)
  have hkept : stripCommentFrom none false (singleQuoted s ++ trailing comment) =
      cp '\'' :: stripCommentFrom (some (cp '\'')) false
        (PyStr.doubled (cp '\'') s ++ cp '\'' :: trailing comment) := by
    rw [singleQuoted_append, strip_open (Or.inl rfl)]
  have hraw := readLine_of_strip hkey hinline rfl hkept indent
  have hline := splitlines_quotedLine hkey hs hcomment .single indent
  have hload := h.alone [] _ hline
  rw [loadSimpleYaml_line hline hraw] at hload
  dsimp only at hload
  generalize hparse : parseScalar _ = result at hload
  cases result with
  | error e => cases hload
  | ok parsed =>
    obtain rfl : parsed = .scalar (.str s) := by
      have hmap := NestedMap.map.inj (Except.ok.inj hload)
      exact (Prod.mk.inj (List.cons.inj hmap).1).2
    rw [hkept, count_of_parseScalar hparse, List.count_cons_of_ne (by decide)]

/-- **Reading back.** A line with a quoted scalar is loaded as the string exactly when, in single
quotes, the string is `Paired`, with a comment, or not `Cut`, without. -/
theorem loadedAs_iff (hkey : PlainKey key) (hs : Inline s) (hcomment : ∀ c ∈ comment, Inline c)
    (hquoted : QuotedForm s quoted) (indent : ℕ) :
    LoadedAs (quotedLine indent key quoted comment) key s ↔ FoundAgain s quoted comment := by
  constructor
  · rintro h rfl
    have hcount := count_of_loadedAs hkey hs hcomment h
    have hcut : ¬ Cut s := fun hcut => (count_of_cut hcut _).ne hcount
    cases comment with
    | none => exact hcut
    | some c =>
      rw [Option.isSome_some, if_pos rfl]
      by_contra hpaired
      -- the comment is kept with its `#`
      obtain ⟨q, hq⟩ := strip_singleQuoted_of_not hpaired hcut
      have hkept : stripCommentFrom (some q) false (trailing (some c)) =
          cp ' ' :: cp '#' :: stripCommentFrom (some q) false c :=
        (strip_within (by decide) (by decide) (by decide) q _).trans
          (congrArg _ (strip_within (by decide) (by decide) (by decide) q c))
      rw [hq, hkept, List.count_append, count_singleQuoted, List.count_cons_of_ne (by decide),
        List.count_cons_self] at hcount
      omega
  · intro h
    have hloaded := @loadedAs_of_strip key s quoted comment hkey hs hcomment hquoted
    cases hquoted with
    | double hjson =>
      exact hloaded (strip_doubleQuoted hjson _) (rstrip_strip_trailing comment) indent
    | single =>
      by_cases hpaired : Paired s
      · exact hloaded (strip_singleQuoted_of_paired hpaired _) (rstrip_strip_trailing comment)
          indent
      · cases comment with
        | some c => exact absurd (h rfl) hpaired
        | none =>
          obtain ⟨q, hq⟩ := strip_singleQuoted_of_not hpaired (h rfl)
          exact hloaded (hq []) rfl indent

/-- What the writer of manifests writes for a string is read back. -/
theorem loadedAs_yamlScalar (hkey : PlainKey key) (hs : Inline s)
    (hcomment : ∀ c ∈ comment, Inline c) (indent : ℕ) :
    LoadedAs (quotedLine indent key (yamlScalar (.str s)) comment) key s := by
  have hjson := JsonString.jsonChars_dumpsChars s
  exact loadedAs_of_strip hkey hs hcomment (.double hjson) (strip_doubleQuoted hjson _)
    (rstrip_strip_trailing comment) indent

theorem plainKey_root : PlainKey (py "root") :=
  ⟨by decide, by decide, by simp [py], by decide, by decide⟩

/-- A path whose backslashes are paired, with a quote in it and a comment behind it. -/
theorem loadedAs_small : LoadedAs
    (quotedLine 2 (py "root") (singleQuoted (py "C:\\it's")) (some (py " build"))) (py "root")
    (py "C:\\it's") := by
  have hpaired : Paired (py "C:\\it's") :=
    .plain (by decide) (.plain (by decide) (.pair (by decide) (.plain (by decide)
      (.plain (by decide) (.plain (by decide) .nil)))))
  exact (loadedAs_iff plainKey_root (by decide) (by decide) .single 2).2 fun _ => hpaired

/-- A path that ends in a backslash is not read back from single quotes: the comment behind it is
taken for a part of it. -/
theorem trailing_backslash_rejected : PlainKey (py "root") ∧ Inline (py "C:\\") ∧
    Inline (py " build") ∧ ¬ LoadedAs
      (quotedLine 0 (py "root") (singleQuoted (py "C:\\")) (some (py " build"))) (py "root")
      (py "C:\\") := by
  refine ⟨plainKey_root, by decide, by decide, fun h => ?_⟩
  have hload : ∃ e, loadSimpleYaml (py "hakoniwa.yaml") (quotedLine 0 (py "root")
      (singleQuoted (py "C:\\")) (some (py " build"))) = .error e := ⟨_, rfl⟩
  have hline := @splitlines_quotedLine (py "C:\\") (py "root") _ (some (py " build")) plainKey_root
    (by decide) (by decide) .single 0
  obtain ⟨e, he⟩ := hload
  rw [h.alone _ _ hline] at he
  cases he

end quotedLine

end HakoniwaBridge
