import HakoniwaBridge.Lib.Cut

/-!
# The line filter of the programs

`LinePrefixFilterBuf` of `daemon.cpp` and `tools/bridge_monitor_cli.cpp` (the same text) stands in
front of the standard output and drops the debug lines of the libraries. It is unbuffered for the
stream above it, so that every character comes through `overflow`.

* `LinePrefixFilterBuf.call` — the two virtual functions.
* `portions` — a text cut behind every newline and at every flush.
* `filtered_calls` — **the portions that begin with the prefix are dropped, the others get through
  as they are**; a flush inside a line makes two portions of it.
-/

namespace HakoniwaBridge

open Lib

/-- Source: `daemon.cpp`, `LinePrefixFilterBuf`; `dest` is what `dest_` has been given. -/
structure LinePrefixFilterBuf where
  dropPrefix : List UInt8
  dest : List UInt8 := []
  buffer : List UInt8 := []

/-- The calls of a stream: a character or the end of file for `overflow`, and `sync`. -/
inductive StreamCall
  | overflow (ch : Option UInt8)
  | sync

namespace LinePrefixFilterBuf

/-- Source: `flush_line_`. -/
def flushLine (buf : LinePrefixFilterBuf) : LinePrefixFilterBuf :=
  { buf with
    dest := if buf.dropPrefix.isPrefixOf buf.buffer then buf.dest else buf.dest ++ buf.buffer
    buffer := [] }

/-- Source: `sync`, without the call for the destination. -/
def sync (buf : LinePrefixFilterBuf) : LinePrefixFilterBuf :=
  if buf.buffer = [] then buf else buf.flushLine

/-- Source: `overflow` and `sync`. -/
def call (buf : LinePrefixFilterBuf) : StreamCall → LinePrefixFilterBuf
  | .overflow none => buf.sync
  | .overflow (some ch) =>
    if ch = 0x0A then flushLine { buf with buffer := buf.buffer ++ [ch] }
    else { buf with buffer := buf.buffer ++ [ch] }
  | .sync => buf.sync

end LinePrefixFilterBuf

/-! ## Portions -/

namespace StreamCall

/-- The character of a call. -/
def char : StreamCall → Option UInt8
  | .overflow ch => ch
  | .sync => none

/-- The text of calls. -/
def text (calls : List StreamCall) : List UInt8 := calls.filterMap char

/-- A call without a character is a flush. -/
def isFlush (c : StreamCall) : Bool := c.char.isNone

/-- The newline. -/
def isNewline (ch : UInt8) : Bool := ch = 0x0A

/-- The lines of a text that is flushed at its end; the last may be incomplete. -/
def flushedLines (t : List UInt8) : List (List UInt8) :=
  (cut isNewline t).1 ++ if (cut isNewline t).2 = [] then [] else [(cut isNewline t).2]

/-- What has been handed over: the lines between the flushes, and those after the last one that are
complete. -/
def portions (calls : List StreamCall) : List (List UInt8) :=
  (cut isFlush calls).1.flatMap (fun part => flushedLines (text part)) ++
    (cut isNewline (text (cut isFlush calls).2)).1

/-- The incomplete line after the last flush. -/
def pending (calls : List StreamCall) : List UInt8 :=
  (cut isNewline (text (cut isFlush calls).2)).2

theorem text_append (xs ys : List StreamCall) : text (xs ++ ys) = text xs ++ text ys :=
  List.filterMap_append

/-- The lines of a text make up the text. -/
theorem flatten_flushedLines (t : List UInt8) : (flushedLines t).flatten = t := by
  have hcut := (cut_spec isNewline t).flatten
  unfold flushedLines
  split_ifs with hrest
  · rw [hrest] at hcut
    simpa using hcut
  · simpa using hcut

/-- Nothing of the text is lost between the portions, and nothing changes its place. -/
theorem flatten_portions (calls : List StreamCall) :
    (portions calls).flatten ++ pending calls = text calls := by
  have hparts : ∀ parts : List (List StreamCall),
      (parts.flatMap fun part => flushedLines (text part)).flatten = text parts.flatten := by
    intro parts
    induction parts with
    | nil => rfl
    | cons part parts ih =>
      rw [List.flatMap_cons, List.flatten_append, ih, flatten_flushedLines, List.flatten_cons,
        text_append]
  have hrest := (cut_spec isNewline (text (cut isFlush calls).2)).flatten
  rw [portions, pending, List.flatten_append, hparts, List.append_assoc, hrest, ← text_append,
    (cut_spec isFlush calls).flatten]

end StreamCall

/-! ## Runs -/

namespace LinePrefixFilterBuf

open StreamCall

variable {dropPrefix dest buffer : List UInt8}

/-- The portions that are not dropped. -/
def kept (dropPrefix : List UInt8) (portions : List (List UInt8)) : List UInt8 :=
  (portions.filter fun p => !dropPrefix.isPrefixOf p).flatten

theorem kept_append (dropPrefix : List UInt8) (xs ys : List (List UInt8)) :
    kept dropPrefix (xs ++ ys) = kept dropPrefix xs ++ kept dropPrefix ys := by
  rw [kept, List.filter_append, List.flatten_append, kept, kept]

/-- A line is passed on or dropped, and the buffer is empty. -/
theorem flushLine_eq (buf : LinePrefixFilterBuf) : buf.flushLine =
    { buf with dest := buf.dest ++ kept buf.dropPrefix [buf.buffer], buffer := [] } := by
  unfold flushLine kept
  cases h : buf.dropPrefix.isPrefixOf buf.buffer <;> simp [h]

/-- `sync` ends the line that has been begun. -/
theorem sync_eq (buf : LinePrefixFilterBuf) : buf.sync = { buf with
    dest := buf.dest ++ kept buf.dropPrefix (if buf.buffer = [] then [] else [buf.buffer])
    buffer := [] } := by
  obtain ⟨dropPrefix, dest, buffer⟩ := buf
  cases buffer with
  | nil => simp [sync, kept]
  | cons ch buffer => exact flushLine_eq _

/-- Calls without a flush, after an incomplete line. -/
theorem foldl_call_open {calls : List StreamCall} (hcalls : ∀ c ∈ calls, c.isFlush = false)
    (hbuffer : ∀ ch ∈ buffer, isNewline ch = false) :
    calls.foldl call ⟨dropPrefix, dest, buffer⟩ =
      ⟨dropPrefix, dest ++ kept dropPrefix (cut isNewline (buffer ++ text calls)).1,
        (cut isNewline (buffer ++ text calls)).2⟩ := by
  induction calls generalizing dest buffer with
  | nil => simp [text, cut_open hbuffer, kept]
  | cons c calls ih =>
    rw [List.forall_mem_cons] at hcalls
    obtain ⟨hc, hcalls⟩ := hcalls
    cases c with
    | sync => cases hc
    | overflow ch =>
      cases ch with
      | none => cases hc
      | some ch =>
        have htext : text (.overflow (some ch) :: calls) = ch :: text calls := rfl
        rw [List.foldl_cons, call, htext]
        by_cases hch : ch = 0x0A
        · have hend : isNewline ch = true := decide_eq_true hch
          rw [if_pos hch, flushLine_eq, ih hcalls (by simp), cut_append_end hbuffer hend,
            List.nil_append, List.append_assoc, ← kept_append, List.singleton_append]
        · have hopen : isNewline ch = false := decide_eq_false hch
          rw [if_neg hch, ih hcalls (List.forall_mem_append.2 ⟨hbuffer, by simpa using hopen⟩),
            ← List.append_cons]

/-- Calls up to a flush. -/
theorem foldl_call_flush {calls : List StreamCall} {flush : StreamCall}
    (hcalls : ∀ c ∈ calls, c.isFlush = false) (hflush : flush.isFlush = true) :
    (calls ++ [flush]).foldl call ⟨dropPrefix, dest, []⟩ =
      ⟨dropPrefix, dest ++ kept dropPrefix (flushedLines (text (calls ++ [flush]))), []⟩ := by
  have hsync : ∀ buf : LinePrefixFilterBuf, buf.call flush = buf.sync := by
    intro buf
    rcases flush with (_ | ch) | _
    · rfl
    · cases hflush
    · rfl
  have htext : text (calls ++ [flush]) = text calls := by
    have hchar : flush.char = none := Option.isNone_iff_eq_none.1 hflush
    simp [text, hchar]
  rw [List.foldl_append, foldl_call_open hcalls (by simp), List.foldl_cons, List.foldl_nil,
    hsync, sync_eq, htext, flushedLines, kept_append, List.nil_append, List.append_assoc]

/-- **The filter.** After any calls, in whatever portions the text has come, the destination has the
portions that do not begin with the prefix, as they are and in their order; the rest of the text is
an incomplete line that is held back. -/
theorem filtered_calls (dropPrefix : List UInt8) (calls : List StreamCall) :
    calls.foldl call ⟨dropPrefix, [], []⟩ =
        ⟨dropPrefix, kept dropPrefix (portions calls), pending calls⟩ ∧
      (portions calls).flatten ++ pending calls = text calls := by
  refine ⟨?_, flatten_portions calls⟩
  have hcut := cut_spec isFlush calls
  have hparts : ∀ (parts : List (List StreamCall)) (dest : List UInt8),
      (∀ p ∈ parts, ∃ q a, p = q ++ [a] ∧ isFlush a = true ∧ ∀ x ∈ q, isFlush x = false) →
      parts.flatten.foldl call ⟨dropPrefix, dest, []⟩ = ⟨dropPrefix, dest ++ kept dropPrefix
        (parts.flatMap fun part => flushedLines (text part)), []⟩ := by
    intro parts
    induction parts with
    | nil => simp [kept]
    | cons part parts ih =>
      intro dest hparts
      rw [List.forall_mem_cons] at hparts
      obtain ⟨⟨calls, flush, rfl, hflush, hcalls⟩, hrest⟩ := hparts
      rw [List.flatten_cons, List.foldl_append, foldl_call_flush hcalls hflush, ih _ hrest,
        List.flatMap_cons, kept_append, List.append_assoc]
  conv_lhs => rw [← hcut.flatten]
  rw [List.foldl_append, hparts _ _ hcut.piece, foldl_call_open hcut.open (by simp), portions,
    pending, kept_append]
  simp

-- a flush inside a line: neither half begins with the prefix
example : ([.overflow (some 68), .sync, .overflow (some 58), .overflow (some 10)].foldl call
    ⟨[68, 58], [], []⟩).dest = [68, 58, 10] := by
  decide

end LinePrefixFilterBuf

end HakoniwaBridge
