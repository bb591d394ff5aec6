import Mathlib.Algebra.Order.Floor.Div
import Logbook.Proofs.Openings

/-! Where a sequence of lines may be cut. A cut between two calls of an assembler leaves no trace,
wherever it falls. Assemblers of their own on both sides give the same entries, but for their ids,
where the first line after the cut that is not blank has a valid stamp with a date. -/

namespace Logbook

open Calendar

namespace Assembler

inductive Call where
  | feed (ls : List SourceLine)
  | push (l : SourceLine)

def Call.lines : Call → List SourceLine
  | .feed ls => ls
  | .push l => [l]

def call (a : Assembler) : Call → Assembler
  | .feed ls => a.feed ls
  | .push l => a.push l

theorem call_eq_feed (a : Assembler) (c : Call) : a.call c = a.feed c.lines := by
  cases c <;> rfl

theorem calls_eq_feed (a : Assembler) (calls : List Call) :
    calls.foldl call a = a.feed (calls.flatMap Call.lines) := by
  induction calls generalizing a with
  | nil => rfl
  | cons c calls ih => rw [List.foldl_cons, ih, call_eq_feed, ← feed_append, List.flatMap_cons]

def visible (l : SourceLine) : Bool := Text.trim l.text ≠ []

theorem linesSeen_push (a : Assembler) (l : SourceLine) :
    (a.push l).linesSeen = a.linesSeen + if visible l then 1 else 0 := by
  by_cases blank : Text.trim l.text = []
  · simp [push_blank a blank, visible, blank]
  · have closed : ∀ b : Assembler, b.close.linesSeen = b.linesSeen := by
      intro b
      unfold close
      cases b.draft <;> rfl
    have shown : visible l = true := decide_eq_true blank
    rw [push, if_neg blank, shown, if_pos rfl]
    simp only
    split
    · exact closed _
    · rfl
    · rfl

theorem linesSeen_feed (a : Assembler) (ls : List SourceLine) :
    (a.feed ls).linesSeen = a.linesSeen + ls.countP visible := by
  induction ls generalizing a with
  | nil => rfl
  | cons l ls ih =>
    show ((a.push l).feed ls).linesSeen = _
    rw [ih, linesSeen_push, List.countP_cons]
    omega

theorem feedBatches_eq (a : Assembler) (bs : List (List SourceLine)) :
    a.feedBatches bs = (a.feed bs.flatten,
      (List.range bs.length).map fun k => (a.feed (bs.take (k + 1)).flatten).linesSeen) := by
  induction bs generalizing a with
  | nil => rfl
  | cons b bs ih =>
    rw [feedBatches, ih]
    simp [List.range_succ_eq_map, ← feed_append]

end Assembler

open Assembler

section Batches

variable {α : Type}

theorem batches_of_ne_nil (size : Nat) {l : List α} (h : l ≠ []) :
    batches size l = l.take (max size 1) :: batches size (l.drop (max size 1)) := by
  obtain ⟨a, r, rfl⟩ := List.exists_cons_of_ne_nil h
  have step : max size 1 = (size - 1) + 1 := by omega
  rw [batches, step, List.take_succ_cons, List.drop_succ_cons]

theorem flatten_take_batches (size k : Nat) (l : List α) :
    ((batches size l).take k).flatten = l.take (k * max size 1) := by
  induction k generalizing l with
  | zero => simp
  | succ k ih =>
    by_cases h : l = []
    · simp [h, batches]
    · rw [batches_of_ne_nil size h, List.take_succ_cons, List.flatten_cons, ih, ← List.take_add]
      congr 1
      ring

theorem length_batches (size : Nat) (l : List α) :
    (batches size l).length = l.length ⌈/⌉ max size 1 := by
  have positive : 0 < max size 1 := by omega
  fun_induction batches size l with
  | case1 => simp
  | case2 a r ih =>
    have whole : (r.length + 1 + max size 1 - 1) / max size 1 = r.length / max size 1 + 1 := by
      rw [← Nat.add_div_right _ positive]
      congr 1
      omega
    rw [List.length_cons, ih, List.length_drop, List.length_cons, Nat.ceilDiv_eq_add_pred_div,
      Nat.ceilDiv_eq_add_pred_div, whole, Nat.add_right_cancel_iff]
    by_cases more : size - 1 ≤ r.length
    · congr 1
      omega
    · rw [Nat.div_eq_of_lt (by omega), Nat.div_eq_of_lt (by omega)]

theorem flatten_batches (size : Nat) (l : List α) : (batches size l).flatten = l := by
  have reach : l.length ≤ (batches size l).length * max size 1 := by
    rw [length_batches, Nat.mul_comm]
    exact (ceilDiv_le_iff_le_mul (by omega)).1 le_rfl
  have front := flatten_take_batches size (batches size l).length l
  rwa [List.take_length, List.take_of_length_le reach] at front

end Batches

theorem assembleInBatches_eq (size : Nat) (ls : List SourceLine) :
    assembleInBatches size ls = (assemble ls,
      (List.range (ls.length ⌈/⌉ max size 1)).map fun k =>
        (ls.take ((k + 1) * max size 1)).countP visible) := by
  rw [assembleInBatches, feedBatches_eq, flatten_batches]
  simp only [length_batches, flatten_take_batches, linesSeen_feed, Nat.zero_add]
  rfl

/-- How lines are cut into calls or into batches does not show in the entries. After each batch the
lines so far that are not blank have been seen, which in the content of a text are all lines. -/
theorem assemble_in_pieces :
    (∀ calls : List Call,
      (calls.foldl call {}).finish = assemble (calls.flatMap Call.lines)) ∧
    (∀ (size : Nat) (ls : List SourceLine),
      assembleInBatches size ls = (assemble ls,
        (List.range (ls.length ⌈/⌉ max size 1)).map fun k =>
          (ls.take (min ((k + 1) * max size 1) ls.length)).countP fun l =>
            Text.trim l.text ≠ [])) ∧
    ∀ (size : Nat) (t : Text),
      let ls := (Source.ofText t).lines
      (assembleInBatches size ls).2 = (List.range (ls.length ⌈/⌉ max size 1)).map fun k =>
        min ((k + 1) * max size 1) ls.length := by
  refine ⟨fun calls => congrArg finish (calls_eq_feed {} calls), fun size ls => ?_,
    fun size t => ?_⟩
  · simp only [← List.take_eq_take_min]
    exact assembleInBatches_eq size ls
  · intro ls
    rw [assembleInBatches_eq]
    apply List.map_congr_left
    intro k hk
    have all : ∀ l ∈ ls.take ((k + 1) * max size 1), visible l = true := fun l hl =>
      decide_eq_true (Source.content_not_blank (List.mem_of_mem_take hl))
    rw [List.countP_eq_length.2 all, List.length_take]

namespace Entry

def shift (n : Nat) (e : Entry) : Entry := { e with id := e.id + n }

theorem shift_ofLine (n id : Nat) (l : SourceLine) (stamp : Option Text)
    (instant : Option Instant) :
    (ofLine id l stamp instant).shift n = ofLine (id + n) l stamp instant := rfl

theorem shift_withLine (n : Nat) (e : Entry) (l : SourceLine) :
    (e.withLine l).shift n = (e.shift n).withLine l := rfl

end Entry

namespace Assembler

/-- What one assembler has is what another has, after entries `es` of its own. -/
structure Ahead (es : List Entry) (a b : Assembler) : Prop where
  finish_eq : a.finish = es ++ b.finish.map (Entry.shift es.length)
  nonempty : b.finish ≠ []
  anchor_eq : a.anchor = b.anchor
  started : a.Started
  started' : b.Started

variable {es : List Entry} {a b : Assembler}

theorem carries_ahead (es : List Entry) :
    Carries fun fs => es ++ fs.map (Entry.shift es.length) where
  opens fs l stamp instant _ := by simp [Entry.shift_ofLine, Nat.add_comm]
  grows fs e l :=
    ⟨es ++ fs.map (Entry.shift es.length), e.shift es.length, by simp,
      by simp [Entry.shift_withLine]⟩

theorem Ahead.feed (h : Ahead es a b) (ls : List SourceLine) :
    Ahead es (a.feed ls) (b.feed ls) := by
  have start : Mirrors (fun fs => es ++ fs.map (Entry.shift es.length)) a b :=
    ⟨h.finish_eq, h.nonempty, h.anchor_eq, h.started, h.started'⟩
  obtain ⟨finish_eq, nonempty, anchor_eq, started, started'⟩ := start.feed (carries_ahead es) ls
  exact ⟨finish_eq, nonempty, anchor_eq, started, started'⟩

theorem resolve_of_dated {s : Stamp} (dated : s.kind.isTimeOnly = false) {anchor : Option Date}
    (valid : (Stamp.instant? s.kind anchor s.text).isSome) (anchor' : Option Date) :
    resolve anchor' s = resolve anchor s := by
  have same := Stamp.instant?_of_dated dated anchor' anchor s.text
  obtain ⟨i, found⟩ := Option.isSome_iff_exists.1 valid
  simp only [resolve, same, found, dated]
  rfl

theorem ahead_of_dated (a : Assembler) {l : SourceLine} {s : Stamp}
    (stamp : Stamp.find? l.text = some s) (dated : s.kind.isTimeOnly = false)
    {anchor : Option Date} (valid : (Stamp.instant? s.kind anchor s.text).isSome) :
    Ahead a.finish (a.push l) (push {} l) := by
  have visible := Stamp.visible_of_find? stamp
  obtain ⟨finish, day, started⟩ := a.push_stamp visible stamp
  obtain ⟨finish', day', started'⟩ := push_stamp {} visible stamp
  have same : resolve a.anchor s = resolve none s :=
    (resolve_of_dated dated valid a.anchor).trans (resolve_of_dated dated valid none).symm
  refine ⟨?_, by simp [finish'], by rw [day, day', same], started, started'⟩
  rw [finish, finish', same]
  simp [Assembler.finish, close, Entry.shift_ofLine]

theorem feed_blank (a : Assembler) {ls : List SourceLine} (h : ∀ l ∈ ls, Text.trim l.text = []) :
    a.feed ls = a := by
  have none_left : ls.filter (Text.trim ·.text ≠ []) = [] :=
    List.filter_eq_nil_iff.2 fun l hl => by simp [h l hl]
  rw [← feed_filter, none_left]
  rfl

end Assembler

theorem assemble_append (ls : List SourceLine) {ls' : List SourceLine} {l : SourceLine} {s : Stamp}
    {anchor : Option Date} (first : ls'.find? (Text.trim ·.text ≠ []) = some l)
    (stamp : Stamp.find? l.text = some s) (dated : s.kind.isTimeOnly = false)
    (valid : (Stamp.instant? s.kind anchor s.text).isSome) :
    assemble (ls ++ ls') = assemble ls ++
      (assemble ls').map fun e => { e with id := e.id + (assemble ls).length } := by
  obtain ⟨-, blanks, rest, rfl, blank⟩ := List.find?_eq_some_iff_append.1 first
  have blank : ∀ l ∈ blanks, Text.trim l.text = [] := fun l hl => by simpa using blank l hl
  have cut : ∀ a : Assembler, a.feed (blanks ++ l :: rest) = (a.push l).feed rest := by
    intro a
    rw [feed_append, feed_blank a blank]
    rfl
  have ahead := (ahead_of_dated (feed {} ls) stamp dated valid).feed rest
  rw [assemble, feed_append, cut, ahead.finish_eq, assemble, assemble, cut]
  rfl

theorem assemble_append_two_days :
    let ls : List SourceLine := [⟨1, "boot".toList⟩, ⟨2, "2025-03-01 10:00:00 up".toList⟩]
    let l : SourceLine := ⟨4, "x 29/02/24 23:59:59.999 y".toList⟩
    let ls' : List SourceLine :=
      [⟨3, " \t".toList⟩, l, ⟨5, "00:00:00.500 z".toList⟩, ⟨6, "more".toList⟩]
    let s : Stamp := ⟨.slashShortYear, "x ".toList, "29/02/24 23:59:59.999".toList⟩
    ls'.find? (Text.trim ·.text ≠ []) = some l ∧ Stamp.find? l.text = some s ∧
      s.kind.isTimeOnly = false ∧ (Stamp.instant? s.kind none s.text).isSome ∧
      assemble (ls ++ ls') = assemble ls ++
        (assemble ls').map fun e => { e with id := e.id + (assemble ls).length } := by
  intro ls l ls' s
  have first : ls'.find? (Text.trim ·.text ≠ []) = some l := by decide +kernel
  have stamp : Stamp.find? l.text = some s := by decide +kernel
  have valid : (Stamp.instant? s.kind none s.text).isSome := by decide +kernel
  exact ⟨first, stamp, rfl, valid, assemble_append ls first stamp rfl valid⟩

end Logbook
