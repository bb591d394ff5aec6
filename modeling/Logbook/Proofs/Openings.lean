import Logbook.Proofs.Finding
import Logbook.Proofs.Partition

/-! How entries are opened. What holds of entries when they are opened and stays when they grow
holds of all that are assembled; the day that is remembered for later stamps goes along. -/

namespace Logbook

open Calendar

namespace Stamp

theorem instant?_of_dated {k : Kind} (dated : k.isTimeOnly = false) (anchor anchor' : Option Date)
    (t : Text) : instant? k anchor t = instant? k anchor' t := by
  simp only [instant?, dated]
  rfl

end Stamp

namespace Assembler

theorem feed_of_push {I : Assembler → Prop} (step : ∀ a l, I a → I (a.push l)) {a : Assembler}
    (h : I a) (ls : List SourceLine) : I (a.feed ls) := by
  induction ls generalizing a with
  | nil => exact h
  | cons l ls ih => exact ih (step a l h)

def Started (a : Assembler) : Prop := a.draft = none → a.finish = []

theorem started_of_draft {a : Assembler} {d : Draft} (h : a.draft = some d) : a.Started := by
  intro missing
  cases h.symm.trans missing

theorem push_blank (a : Assembler) {l : SourceLine} (h : Text.trim l.text = []) : a.push l = a :=
  if_pos h

theorem push_stamp (a : Assembler) {l : SourceLine} (h : Text.trim l.text ≠ []) {s : Stamp}
    (stamp : Stamp.find? l.text = some s) :
    (a.push l).finish = a.finish ++
        [Entry.ofLine a.finish.length l (some s.text) (resolve a.anchor s).1] ∧
      (a.push l).anchor = (resolve a.anchor s).2 ∧ (a.push l).Started := by
  have closed := closed_close a (a.linesSeen + 1)
  have anchor : ({ a with linesSeen := a.linesSeen + 1 } : Assembler).close.anchor = a.anchor := by
    unfold close
    cases a.draft <;> rfl
  generalize closing :
    ({ a with linesSeen := a.linesSeen + 1 } : Assembler).close = b at closed anchor
  have next : a.push l = b.openDraft l (some s) := by
    rw [push, if_neg h, stamp, ← closing]
  rw [next, ← closed, ← anchor, Array.length_toList]
  refine ⟨?_, rfl, started_of_draft rfl⟩
  rw [finish_of_some rfl, Draft.toEntry_opened]
  rfl

theorem push_other (a : Assembler) (started : a.Started) {l : SourceLine}
    (h : Text.trim l.text ≠ []) (no_stamp : Stamp.find? l.text = none) :
    (a.finish = [] ∧ (a.push l).finish = [Entry.ofLine 0 l none none] ∨
      ∃ es e, a.finish = es ++ [e] ∧ (a.push l).finish = es ++ [e.withLine l]) ∧
    (a.push l).anchor = a.anchor ∧ (a.push l).Started := by
  cases draft : a.draft with
  | some d =>
    have next : a.push l =
        { a with linesSeen := a.linesSeen + 1, draft := some (d.continueWith l) } := by
      simp only [push, if_neg h, no_stamp, draft]
    rw [next]
    refine ⟨.inr ⟨a.closed.toList, d.toEntry, finish_of_some draft, ?_⟩, rfl,
      started_of_draft rfl⟩
    rw [finish_of_some rfl, Draft.toEntry_continueWith]
  | none =>
    have nothing : a.closed.toList = [] := (finish_of_none draft).symm.trans (started draft)
    have size : a.closed.size = 0 := by rw [← Array.length_toList, nothing, List.length_nil]
    have next : a.push l = openDraft { a with linesSeen := a.linesSeen + 1 } l none := by
      simp only [push, if_neg h, no_stamp, draft]
    rw [next]
    refine ⟨.inl ⟨started draft, ?_⟩, rfl, started_of_draft rfl⟩
    rw [finish_of_some rfl, Draft.toEntry_opened]
    simp [openDraft, nothing, size]

/-- A change to the entries so far that makes no difference to how a line is taken in: the next
entry opens after the changed ones, and the last one grows as if it were not changed. -/
structure Carries (f : List Entry → List Entry) : Prop where
  opens : ∀ es l stamp instant, es ≠ [] →
    f (es ++ [Entry.ofLine es.length l stamp instant]) =
      f es ++ [Entry.ofLine (f es).length l stamp instant]
  grows : ∀ es e l, ∃ fs e', f (es ++ [e]) = fs ++ [e'] ∧
    f (es ++ [e.withLine l]) = fs ++ [e'.withLine l]

structure Mirrors (f : List Entry → List Entry) (a b : Assembler) : Prop where
  finish_eq : a.finish = f b.finish
  nonempty : b.finish ≠ []
  anchor_eq : a.anchor = b.anchor
  started : a.Started
  started' : b.Started

section Mirrors

variable {f : List Entry → List Entry} {a b : Assembler}

theorem Mirrors.push (carries : Carries f) (h : Mirrors f a b) (l : SourceLine) :
    Mirrors f (a.push l) (b.push l) := by
  by_cases blank : Text.trim l.text = []
  · rwa [push_blank a blank, push_blank b blank]
  cases stamp : Stamp.find? l.text with
  | some s =>
    obtain ⟨finish, anchor, started⟩ := a.push_stamp blank stamp
    obtain ⟨finish', anchor', started'⟩ := b.push_stamp blank stamp
    refine ⟨?_, by simp [finish'], by rw [anchor, anchor', h.anchor_eq], started, started'⟩
    rw [finish, finish', h.finish_eq, h.anchor_eq, carries.opens _ _ _ _ h.nonempty]
  | none =>
    obtain ⟨grown, anchor, started⟩ := a.push_other h.started blank stamp
    obtain ⟨grown', anchor', started'⟩ := b.push_other h.started' blank stamp
    obtain ⟨nothing, -⟩ | ⟨es, e, last, more⟩ := grown'
    · exact absurd nothing h.nonempty
    obtain ⟨fs, e', same, same'⟩ := carries.grows es e l
    have entries : a.finish = fs ++ [e'] := by rw [h.finish_eq, last, same]
    obtain ⟨nothing, -⟩ | ⟨fs', e'', last', more'⟩ := grown
    · simp [nothing] at entries
    -- The last entry of `a` is the changed last entry of `b`, and both grow by the line.
    obtain ⟨rfl, one⟩ := List.append_inj' (last'.symm.trans entries) rfl
    cases one
    exact ⟨by rw [more', more, same'], by simp [more], by rw [anchor, anchor', h.anchor_eq],
      started, started'⟩

theorem Mirrors.feed (carries : Carries f) (h : Mirrors f a b) (ls : List SourceLine) :
    Mirrors f (a.feed ls) (b.feed ls) := by
  induction ls generalizing a b with
  | nil => exact h
  | cons l ls ih => exact ih (h.push carries l)

end Mirrors

structure Invariant (P : Entry → Prop) (A : Option Date → Prop) (a : Assembler) : Prop where
  entries : ∀ e ∈ a.finish, P e
  anchor : A a.anchor
  started : a.Started

structure Kept (P : Entry → Prop) (A : Option Date → Prop) : Prop where
  start : A none
  opens : ∀ id l anchor s, A anchor → Stamp.find? l.text = some s →
    P (Entry.ofLine id l (some s.text) (resolve anchor s).1) ∧ A (resolve anchor s).2
  orphan : ∀ l, Stamp.find? l.text = none → P (Entry.ofLine 0 l none none)
  grows : ∀ e l, Stamp.find? l.text = none → P e → P (e.withLine l)

section Invariant

variable {P : Entry → Prop} {A : Option Date → Prop}

theorem Kept.push (kept : Kept P A) {a : Assembler} (inv : a.Invariant P A) (l : SourceLine) :
    (a.push l).Invariant P A := by
  by_cases blank : Text.trim l.text = []
  · rwa [push_blank a blank]
  cases stamp : Stamp.find? l.text with
  | some s =>
    obtain ⟨finish, anchor, started⟩ := a.push_stamp blank stamp
    obtain ⟨entry, day⟩ := kept.opens a.finish.length l a.anchor s inv.anchor stamp
    refine ⟨fun e he => ?_, anchor ▸ day, started⟩
    rw [finish, List.mem_append, List.mem_singleton] at he
    rcases he with old | rfl
    · exact inv.entries e old
    · exact entry
  | none =>
    obtain ⟨finish, anchor, started⟩ := a.push_other inv.started blank stamp
    refine ⟨fun e he => ?_, anchor ▸ inv.anchor, started⟩
    rcases finish with ⟨-, first⟩ | ⟨es, last, before, after⟩
    · rw [first, List.mem_singleton] at he
      exact he ▸ kept.orphan l stamp
    · rw [after, List.mem_append, List.mem_singleton] at he
      rcases he with old | rfl
      · exact inv.entries e (by simp [before, old])
      · exact kept.grows last l stamp (inv.entries last (by simp [before]))

theorem Kept.assemble (kept : Kept P A) (ls : List SourceLine) : ∀ e ∈ assemble ls, P e := by
  have start : ({} : Assembler).Invariant P A :=
    ⟨by simp [finish, close], kept.start, fun _ => rfl⟩
  exact (feed_of_push (I := Invariant P A) (fun _ l inv => kept.push inv l) start ls).entries

end Invariant

def OpenedBy (a : Assembler) (es : List Entry) (l : SourceLine) : Prop :=
  ∃ e g rest, a.finish = es ++ e :: rest ∧ e.Covers (l :: g)

theorem OpenedBy.push {a : Assembler} {es : List Entry} {l : SourceLine} (h : a.OpenedBy es l)
    (next : SourceLine) : (a.push next).OpenedBy es l := by
  by_cases blank : Text.trim next.text = []
  · rwa [push_blank a blank]
  obtain ⟨e, g, rest, entries, covers⟩ := h
  rcases a.finish_push blank with ⟨instant, opened⟩ | ⟨-, es', last, before, after⟩
  · exact ⟨e, g, rest ++ [_], by rw [opened, entries, List.append_assoc, List.cons_append], covers⟩
  · -- The last entry grows; it may be the one that `l` opened.
    rcases List.eq_nil_or_concat rest with rfl | ⟨rest, e', rfl⟩
    · obtain ⟨rfl, same⟩ := List.append_inj' (entries.symm.trans before) rfl
      cases same
      exact ⟨_, _, [], after, covers.withLine next⟩
    · have split : es ++ e :: (rest ++ [e']) = (es ++ e :: rest) ++ [e'] := by simp
      rw [List.concat_eq_append, split] at entries
      obtain ⟨rfl, -⟩ := List.append_inj' (entries.symm.trans before) rfl
      exact ⟨e, g, rest ++ [_], by rw [after, List.append_assoc, List.cons_append], covers⟩

theorem feed_append (a : Assembler) (ls ls' : List SourceLine) :
    a.feed (ls ++ ls') = (a.feed ls).feed ls' := List.foldl_append

theorem feed_filter (a : Assembler) (ls : List SourceLine) :
    a.feed (ls.filter (Text.trim ·.text ≠ [])) = a.feed ls := by
  induction ls generalizing a with
  | nil => rfl
  | cons l ls ih =>
    by_cases blank : Text.trim l.text = []
    · rw [List.filter_cons_of_neg (by simpa using blank), ih]
      show _ = (a.push l).feed ls
      rw [push_blank a blank]
    · rw [List.filter_cons_of_pos (by simpa using blank)]
      exact ih (a.push l)

end Assembler

open Assembler

theorem ids_assemble (ls : List SourceLine) :
    (assemble ls).map Entry.id = List.range (assemble ls).length := by
  have holds : (feed {} (ls.filter (Text.trim ·.text ≠ []))).Holds _ :=
    holds_assemble fun l hl => by simpa using (List.mem_filter.1 hl).2
  rw [feed_filter] at holds
  exact holds.ids

theorem assemble_stamp {l : SourceLine} (h : (Stamp.find? l.text).isSome)
    (before after : List SourceLine) :
    ∃ e g rest, assemble (before ++ l :: after) = assemble before ++ e :: rest ∧
      e.Covers (l :: g) := by
  obtain ⟨s, stamp⟩ := Option.isSome_iff_exists.1 h
  have opened := ((feed {} before).push_stamp (Stamp.visible_of_find? stamp) stamp).1
  have start : ((feed {} before).push l).OpenedBy (assemble before) l :=
    ⟨_, [], [], opened, Entry.covers_ofLine ..⟩
  have all : feed {} (before ++ l :: after) = ((feed {} before).push l).feed after :=
    feed_append {} before (l :: after)
  rw [assemble, all]
  exact feed_of_push (I := fun a => a.OpenedBy (assemble before) l)
    (fun _ next opened => opened.push next) start after

theorem kept_layout : Kept (fun e => e.fields.layout ≠ .plain → e.fields.layout ≠ .browser →
    e.stamp.isSome) fun _ => True where
  start := trivial
  opens _ _ _ _ _ _ := ⟨fun _ _ => rfl, trivial⟩
  orphan l no_stamp plain browser := by
    have timed := (Line.isTimed_of_detect plain browser).stamp
    rw [no_stamp] at timed
    contradiction
  grows _ _ _ h := h

theorem kept_first : Kept (fun e => e.stamp = none → e.id = 0) fun _ => True where
  start := trivial
  opens _ _ _ _ _ _ := ⟨(nomatch ·), trivial⟩
  orphan _ _ _ := rfl
  grows _ _ _ h := h

/-- A line with a layout other than that of browsers has a stamp, so it opens an entry with that
stamp. Only the first entry of all may be without one. -/
theorem timed_entries :
    (∀ line, Line.IsTimed line → (Stamp.find? line).isSome) ∧
    ∀ ls : List SourceLine,
      (∀ e ∈ assemble ls, e.fields.layout ≠ .plain → e.fields.layout ≠ .browser →
        e.stamp.isSome) ∧
      (∀ before l after, ls = before ++ l :: after → Line.IsTimed l.text →
        ∃ e g rest, assemble ls = assemble before ++ e :: rest ∧ e.Covers (l :: g)) ∧
      ∀ i e, (assemble ls)[i]? = some e → e.id = i ∧ (e.stamp = none → i = 0) := by
  refine ⟨fun line => Line.IsTimed.stamp, fun ls => ⟨kept_layout.assemble ls, ?_, ?_⟩⟩
  · rintro before l after rfl timed
    exact assemble_stamp timed.stamp before after
  · intro i e found
    have id : e.id = i := by
      have ids := congrArg (·[i]?) (ids_assemble ls)
      have inside := (List.getElem?_eq_some_iff.1 found).1
      simp only [List.getElem?_map, found, List.getElem?_range inside] at ids
      exact Option.some.inj ids
    exact ⟨id, fun missing => id ▸ kept_first.assemble ls e (List.mem_of_getElem? found) missing⟩

theorem timed_entries_logcat :
    let ls : List SourceLine := [⟨3, "boot".toList⟩,
      ⟨4, "\uFEFF01-15 10:30:00.123456  1234  5678 I Tag: x".toList⟩, ⟨5, "more".toList⟩]
    (∃ e, (assemble ls)[1]? = some e ∧ e.fields.layout = .logcat ∧ e.stamp.isSome ∧ e.id = 1 ∧
      (e.stamp = none → 1 = 0)) ∧
    ∃ before l after, ls = before ++ l :: after ∧ Line.IsTimed l.text ∧
      (Stamp.find? l.text).isSome ∧
      ∃ e g rest, assemble ls = assemble before ++ e :: rest ∧ e.Covers (l :: g) := by
  intro ls
  obtain ⟨e, found, layout⟩ := Option.map_eq_some_iff.1
    (by decide +kernel : (assemble ls)[1]?.map (·.fields.layout) = some .logcat)
  have timed : Line.IsTimed "\uFEFF01-15 10:30:00.123456  1234  5678 I Tag: x".toList :=
    ⟨.logcat, by decide, by decide, .inr (by decide +kernel)⟩
  obtain ⟨layouts, opened, first⟩ := timed_entries.2 ls
  refine ⟨⟨e, found, layout, ?_, first 1 e found⟩, _, _, _, rfl, timed, timed_entries.1 _ timed,
    opened [⟨3, "boot".toList⟩] _ [⟨5, "more".toList⟩] rfl timed⟩
  exact layouts e (List.mem_of_getElem? found) (by rw [layout]; decide) (by rw [layout]; decide)

end Logbook
