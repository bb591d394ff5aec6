import Logbook.Proofs.Openings

/-! Entries declared from all lines at once: the lines are cut into groups, and each group makes an
entry by itself, but for the day that a stamp without one borrows. That day is a matter of the lines
before, and the assembler only has to carry it along. -/

namespace Logbook

open Calendar

structure LineGroup where
  first : SourceLine
  more : List SourceLine

namespace LineGroup

def lines (g : LineGroup) : List SourceLine := g.first :: g.more

def withLine (g : LineGroup) (l : SourceLine) : LineGroup := { g with more := g.more ++ [l] }

def continues (l : SourceLine) : Bool := (Stamp.find? l.text).isNone

/-- A group begins with the first line and with every line that has a stamp. -/
def cut : List SourceLine → List LineGroup
  | [] => []
  | l :: ls => ⟨l, ls.takeWhile continues⟩ :: cut (ls.dropWhile continues)
termination_by ls => ls.length
decreasing_by
  have shorter := (List.dropWhile_suffix (l := ls) continues).length_le
  simp only [List.length_cons]
  omega

theorem flatMap_lines_cut (ls : List SourceLine) : (cut ls).flatMap lines = ls := by
  fun_induction cut ls with
  | case1 => rfl
  | case2 l ls ih =>
    rw [List.flatMap_cons, ih, lines, List.cons_append, List.takeWhile_append_dropWhile]

theorem cut_of_continues {ls : List SourceLine} (h : ∀ l ∈ ls, continues l = true)
    (first : SourceLine) : cut (first :: ls) = [⟨first, ls⟩] := by
  rw [cut, List.takeWhile_eq_self_iff.2 h, List.dropWhile_eq_nil_iff.2 h, cut]

theorem cut_concat_of_stamp (ls : List SourceLine) {l : SourceLine} (h : continues l = false) :
    cut (ls ++ [l]) = cut ls ++ [⟨l, []⟩] := by
  fun_induction cut ls with
  | case1 => exact cut_of_continues (by simp) l
  | case2 first ls ih =>
    have front : (ls ++ [l]).takeWhile continues = ls.takeWhile continues := by
      rw [List.takeWhile_append, List.takeWhile_cons_of_neg (by simp [h]), List.append_nil,
        ite_eq_right_iff]
      exact fun whole => ((List.takeWhile_prefix continues).eq_of_length whole).symm
    have rest : (ls ++ [l]).dropWhile continues = ls.dropWhile continues ++ [l] := by
      simp [List.dropWhile_append, h]
    rw [List.cons_append, cut, front, rest, ih, List.cons_append]

theorem cut_concat_of_continues {ls : List SourceLine} (nonempty : ls ≠ []) {l : SourceLine}
    (h : continues l = true) :
    ∃ gs g, cut ls = gs ++ [g] ∧ cut (ls ++ [l]) = gs ++ [g.withLine l] := by
  fun_induction cut ls with
  | case1 => contradiction
  | case2 first ls ih =>
    by_cases left : ls.dropWhile continues = []
    · have all := List.dropWhile_eq_nil_iff.1 left
      have all' : ∀ l' ∈ ls ++ [l], continues l' = true := by
        simpa [or_imp, forall_and, h] using all
      refine ⟨[], ⟨first, ls⟩, ?_, cut_of_continues all' first⟩
      rw [left, List.takeWhile_eq_self_iff.2 all, cut, List.nil_append]
    · obtain ⟨gs, g, before, after⟩ := ih left
      have short : (ls.takeWhile continues).length ≠ ls.length := by
        intro same
        have whole := (List.takeWhile_prefix continues).eq_of_length same
        exact left (List.dropWhile_eq_nil_iff.2 (List.takeWhile_eq_self_iff.1 whole))
      have front : (ls ++ [l]).takeWhile continues = ls.takeWhile continues := by
        rw [List.takeWhile_append, if_neg short]
      have rest : (ls ++ [l]).dropWhile continues = ls.dropWhile continues ++ [l] := by
        simp [List.dropWhile_append, left]
      exact ⟨_ :: gs, g, by rw [before, List.cons_append],
        by rw [List.cons_append, cut, front, rest, after, List.cons_append]⟩

end LineGroup

namespace Stamp

def ownDay? (l : SourceLine) : Option Date := do
  let s ← find? l.text
  guard (!s.kind.isTimeOnly)
  let i ← instant? s.kind none s.text
  i.date

def lastDay? (ls : List SourceLine) : Option Date := (ls.filterMap ownDay?).getLast?

theorem lastDay?_concat (ls : List SourceLine) (l : SourceLine) :
    lastDay? (ls ++ [l]) = (ownDay? l <|> lastDay? ls) := by
  cases day : ownDay? l <;> simp [lastDay?, day]

theorem date_of_dated {k : Kind} (dated : k.isTimeOnly = false) {anchor : Option Date} {t : Text}
    {i : Instant} (h : instant? k anchor t = some i) : ∃ d, i.date = some d := by
  rw [instant?, dated, if_neg Bool.false_ne_true] at h
  obtain ⟨⟨day, time⟩, -, h⟩ := Option.bind_eq_some_iff.1 h
  obtain ⟨d, -, h⟩ := Option.bind_eq_some_iff.1 h
  obtain ⟨c, -, same⟩ := Option.bind_eq_some_iff.1 h
  cases same
  exact ⟨d, rfl⟩

theorem ownDay?_of_none {l : SourceLine} (h : find? l.text = none) : ownDay? l = none := by
  rw [ownDay?, h]
  rfl

end Stamp

namespace LineGroup

def entry (g : LineGroup) (id : Nat) (before : List SourceLine) : Entry where
  id := id
  raw := joined g.lines
  fields :=
    let fields := Line.detect g.first.text
    { fields with message := fields.message ++ g.more.flatMap fun l => '\n' :: l.text }
  stamp := (Stamp.find? g.first.text).map Stamp.text
  instant :=
    (Stamp.find? g.first.text).bind fun s => Stamp.instant? s.kind (Stamp.lastDay? before) s.text
  lineNumbers := g.lines.map SourceLine.number
  lineNumber := g.first.number

def entries (gs : List LineGroup) : List Entry :=
  gs.mapIdx fun i g => g.entry i ((gs.take i).flatMap lines)

theorem entries_concat (gs : List LineGroup) (g : LineGroup) :
    entries (gs ++ [g]) = entries gs ++ [g.entry gs.length (gs.flatMap lines)] := by
  have same : (gs.mapIdx fun i g' => g'.entry i (((gs ++ [g]).take i).flatMap lines)) =
      entries gs := by
    refine List.mapIdx_eq_mapIdx_iff.2 fun i inside => ?_
    rw [List.take_append_of_le_length inside.le]
  rw [entries, List.mapIdx_append, same]
  simp

theorem entry_withLine (g : LineGroup) (l : SourceLine) (id : Nat) (before : List SourceLine) :
    (g.withLine l).entry id before = (g.entry id before).withLine l := by
  have raw : joined (g.withLine l).lines = joined g.lines ++ '\n' :: l.text :=
    joined_concat l (List.cons_ne_nil _ _)
  rw [entry, raw]
  simp [entry, withLine, lines, Entry.withLine]

theorem entry_of_none {l : SourceLine} (h : Stamp.find? l.text = none) (id : Nat)
    (before : List SourceLine) : entry ⟨l, []⟩ id before = Entry.ofLine id l none none := by
  simp [entry, lines, joined, Entry.ofLine, h]

theorem entry_of_some {l : SourceLine} {s : Stamp} (h : Stamp.find? l.text = some s) (id : Nat)
    (before : List SourceLine) :
    entry ⟨l, []⟩ id before = Entry.ofLine id l (some s.text)
      (Stamp.instant? s.kind (Stamp.lastDay? before) s.text) := by
  simp [entry, lines, joined, Entry.ofLine, h]

end LineGroup

namespace Assembler

theorem fst_resolve (anchor : Option Date) (s : Stamp) :
    (resolve anchor s).1 = Stamp.instant? s.kind anchor s.text := by
  cases instant : Stamp.instant? s.kind anchor s.text <;> simp [resolve, instant]

theorem snd_resolve (anchor : Option Date) {l : SourceLine} {s : Stamp}
    (stamp : Stamp.find? l.text = some s) :
    (resolve anchor s).2 = (Stamp.ownDay? l <|> anchor) := by
  cases dated : s.kind.isTimeOnly with
  | true =>
    have none_own : Stamp.ownDay? l = none := by simp [Stamp.ownDay?, stamp, dated, guard]
    cases instant : Stamp.instant? s.kind anchor s.text <;> simp [resolve, instant, dated, none_own]
  | false =>
    have own : Stamp.ownDay? l = (Stamp.instant? s.kind anchor s.text).bind Instant.date := by
      simp [Stamp.ownDay?, stamp, dated, guard, Stamp.instant?_of_dated dated none anchor]
    cases instant : Stamp.instant? s.kind anchor s.text with
    | none => simp [resolve, own, instant]
    | some i =>
      obtain ⟨d, day⟩ := Stamp.date_of_dated dated instant
      simp [resolve, own, instant, dated, day]

/-- The entries so far are those declared for these lines, and the day so far is their last. -/
structure Declares (a : Assembler) (ls : List SourceLine) : Prop where
  finish_eq : a.finish = LineGroup.entries (LineGroup.cut ls)
  anchor_eq : a.anchor = Stamp.lastDay? ls
  started : a.Started

theorem declares_start : Declares {} [] :=
  ⟨by simp [finish, close, LineGroup.cut, LineGroup.entries], rfl, fun _ => rfl⟩

theorem Declares.push {a : Assembler} {ls : List SourceLine} (h : a.Declares ls) {l : SourceLine}
    (visible : Text.trim l.text ≠ []) : (a.push l).Declares (ls ++ [l]) := by
  have length : a.finish.length = (LineGroup.cut ls).length := by
    rw [h.finish_eq, LineGroup.entries, List.length_mapIdx]
  cases stamp : Stamp.find? l.text with
  | some s =>
    have opens : LineGroup.continues l = false := by simp [LineGroup.continues, stamp]
    obtain ⟨finish, anchor, started⟩ := a.push_stamp visible stamp
    refine ⟨?_, ?_, started⟩
    · rw [finish, LineGroup.cut_concat_of_stamp ls opens, LineGroup.entries_concat,
        LineGroup.flatMap_lines_cut, LineGroup.entry_of_some stamp, fst_resolve, length,
        h.anchor_eq, h.finish_eq]
    · rw [anchor, snd_resolve _ stamp, h.anchor_eq, Stamp.lastDay?_concat]
  | none =>
    have continues : LineGroup.continues l = true := by simp [LineGroup.continues, stamp]
    obtain ⟨grown, anchor, started⟩ := a.push_other h.started visible stamp
    refine ⟨?_, ?_, started⟩
    · by_cases empty : ls = []
      · subst empty
        have nothing : a.finish = [] := by rw [h.finish_eq, LineGroup.cut]; rfl
        obtain ⟨-, first⟩ | ⟨es, e, last, -⟩ := grown
        · rw [first, List.nil_append, LineGroup.cut_of_continues (by simp)]
          simp [LineGroup.entries, LineGroup.entry_of_none stamp]
        · simp [nothing] at last
      · obtain ⟨gs, g, before, after⟩ := LineGroup.cut_concat_of_continues empty continues
        have entries := h.finish_eq
        rw [before, LineGroup.entries_concat] at entries
        rw [after, LineGroup.entries_concat, LineGroup.entry_withLine]
        obtain ⟨nothing, -⟩ | ⟨es, e, last, more⟩ := grown
        · simp [nothing] at entries
        · obtain ⟨rfl, one⟩ := List.append_inj' (last.symm.trans entries) rfl
          cases one
          exact more
    · rw [anchor, h.anchor_eq, Stamp.lastDay?_concat, Stamp.ownDay?_of_none stamp]
      simp

theorem Declares.feed {a : Assembler} {ls : List SourceLine} (h : a.Declares ls)
    (more : List SourceLine) (visible : ∀ l ∈ more, Text.trim l.text ≠ []) :
    (a.feed more).Declares (ls ++ more) := by
  induction more generalizing a ls with
  | nil => simpa [Assembler.feed] using h
  | cons l more ih =>
    rw [List.append_cons]
    exact ih (h.push (visible l (by simp))) fun l' hl' => visible l' (by simp [hl'])

end Assembler

theorem assemble_eq_entries (ls : List SourceLine) :
    assemble ls = LineGroup.entries (LineGroup.cut (ls.filter (Text.trim ·.text ≠ []))) := by
  have visible : ∀ l ∈ ls.filter (Text.trim ·.text ≠ []), Text.trim l.text ≠ [] :=
    fun l hl => by simpa using (List.mem_filter.1 hl).2
  rw [assemble, ← Assembler.feed_filter]
  exact (Assembler.declares_start.feed _ visible).finish_eq

end Logbook
