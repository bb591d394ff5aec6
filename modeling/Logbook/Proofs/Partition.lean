import Mathlib.Data.List.Forall2
import Logbook.Entry.Assembler
import Logbook.Proofs.Text

/-! Assembling partitions the lines: each line is in one entry, in the order of the lines. The open
entry of the assembler is no exception, so the invariant is one of the entries so far. -/

namespace Logbook

def joined (ls : List SourceLine) : Text := List.intercalate ['\n'] (ls.map SourceLine.text)

theorem joined_concat {g : List SourceLine} (l : SourceLine) (hg : g ≠ []) :
    joined (g ++ [l]) = joined g ++ '\n' :: l.text := by
  rw [joined, List.map_append, intercalate_append _ (by simpa using hg) (by simp)]
  simp [joined]

namespace Entry

def withLine (e : Entry) (l : SourceLine) : Entry :=
  { e with
    raw := e.raw ++ '\n' :: l.text
    fields := { e.fields with message := e.fields.message ++ '\n' :: l.text }
    lineNumbers := e.lineNumbers ++ [l.number] }

structure Covers (e : Entry) (g : List SourceLine) : Prop where
  nonempty : g ≠ []
  raw_eq : e.raw = joined g
  lineNumbers_eq : e.lineNumbers = g.map SourceLine.number
  lineNumber_eq : e.lineNumbers.head? = some e.lineNumber

theorem covers_ofLine (id : Nat) (l : SourceLine) (stamp : Option Text) (instant : Option Instant) :
    (ofLine id l stamp instant).Covers [l] :=
  ⟨by simp, by simp [ofLine, joined], by simp [ofLine], by simp [ofLine]⟩

theorem Covers.withLine {e : Entry} {g : List SourceLine} (h : e.Covers g) (l : SourceLine) :
    (e.withLine l).Covers (g ++ [l]) where
  nonempty := by simp
  raw_eq := by rw [joined_concat l h.nonempty, ← h.raw_eq]; rfl
  lineNumbers_eq := by simp [Entry.withLine, h.lineNumbers_eq]
  lineNumber_eq := by
    rw [Entry.withLine, List.head?_append, h.lineNumber_eq]
    rfl

end Entry

namespace Draft

theorem toEntry_opened (e : Entry) : (Draft.mk e []).toEntry = e := by
  simp only [toEntry, appendLines, List.reverse_nil, List.flatMap_nil, List.map_nil,
    List.append_nil]

theorem toEntry_continueWith (d : Draft) (l : SourceLine) :
    (d.continueWith l).toEntry = d.toEntry.withLine l := by
  simp [toEntry, continueWith, appendLines, Entry.withLine]

end Draft

namespace Assembler

theorem finish_of_none {a : Assembler} (h : a.draft = none) : a.finish = a.closed.toList := by
  simp [finish, close, h]

theorem finish_of_some {a : Assembler} {d : Draft} (h : a.draft = some d) :
    a.finish = a.closed.toList ++ [d.toEntry] := by
  simp [finish, close, h]

theorem closed_close (a : Assembler) (seen : Nat) :
    ({ a with linesSeen := seen } : Assembler).close.closed.toList = a.finish := by
  unfold finish close
  cases a.draft <;> rfl

theorem finish_openDraft (a : Assembler) (l : SourceLine) (stamp : Option Stamp) :
    ∃ instant, (a.openDraft l stamp).finish =
      a.closed.toList ++ [Entry.ofLine a.closed.size l (stamp.map Stamp.text) instant] :=
  ⟨_, by rw [finish_of_some rfl, Draft.toEntry_opened]; rfl⟩

theorem finish_push (a : Assembler) {l : SourceLine} (h : Text.trim l.text ≠ []) :
    (∃ instant, (a.push l).finish = a.finish ++
      [Entry.ofLine a.finish.length l ((Stamp.find? l.text).map Stamp.text) instant]) ∨
    Stamp.find? l.text = none ∧
      ∃ es e, a.finish = es ++ [e] ∧ (a.push l).finish = es ++ [e.withLine l] := by
  -- With a draft it is closed first; without one the closed entries are all there are.
  have opens : ∀ b : Assembler, b.closed.toList = a.finish →
      ∃ instant, (b.openDraft l (Stamp.find? l.text)).finish = a.finish ++
        [Entry.ofLine a.finish.length l ((Stamp.find? l.text).map Stamp.text) instant] := by
    intro b same
    rw [← same, Array.length_toList]
    exact finish_openDraft b l _
  rw [push, if_neg h]
  cases stamp : Stamp.find? l.text with
  | some s =>
    rw [stamp] at opens
    exact .inl (opens _ (closed_close a _))
  | none =>
    cases draft : a.draft with
    | some d =>
      refine .inr ⟨rfl, a.closed.toList, d.toEntry, finish_of_some draft, ?_⟩
      show finish { a with linesSeen := _, draft := _ } = _
      rw [finish_of_some rfl, Draft.toEntry_continueWith]
    | none =>
      rw [stamp] at opens
      exact .inl (opens _ (finish_of_none draft).symm)

/-- The entries so far consist of these lines, in this order, and are numbered by position. -/
structure Holds (a : Assembler) (ls : List SourceLine) : Prop where
  groups : ∃ ps : List (Entry × List SourceLine),
    ps.map Prod.fst = a.finish ∧ (ps.map Prod.snd).flatten = ls ∧ ∀ p ∈ ps, p.1.Covers p.2
  ids : a.finish.map Entry.id = List.range a.finish.length

theorem holds_start : Holds {} [] := ⟨⟨[], rfl, rfl, by simp⟩, rfl⟩

theorem Holds.push {a : Assembler} {ls : List SourceLine} (holds : a.Holds ls) {l : SourceLine}
    (h : Text.trim l.text ≠ []) : (a.push l).Holds (ls ++ [l]) := by
  obtain ⟨⟨ps, entries, rfl, covers⟩, ids⟩ := holds
  rcases a.finish_push h with ⟨instant, opened⟩ | ⟨-, es, e, last, continued⟩
  · constructor
    · refine ⟨ps ++ [(_, [l])], by rw [opened, List.map_append, entries]; rfl, by simp, ?_⟩
      intro p hp
      rcases List.mem_append.1 hp with old | new
      · exact covers p old
      · rw [List.mem_singleton.1 new]
        exact Entry.covers_ofLine ..
    · rw [opened, List.map_append, ids, List.length_append, List.length_singleton,
        List.range_succ]
      rfl
  · rw [last] at entries ids
    obtain ⟨ps', qs, rfl, before, same⟩ := List.map_eq_append_iff.1 entries
    obtain ⟨⟨_, g⟩, rfl, rfl⟩ := List.map_eq_singleton_iff.1 same
    constructor
    · refine ⟨ps' ++ [(_, g ++ [l])], by rw [continued, List.map_append, before]; rfl, by simp, ?_⟩
      intro p hp
      rcases List.mem_append.1 hp with old | new
      · exact covers p (by simp [old])
      · rw [List.mem_singleton.1 new]
        exact (covers (_, g) (by simp)).withLine l
    · rw [continued]
      simpa [Entry.withLine] using ids

theorem Holds.feed {a : Assembler} {ls : List SourceLine} (holds : a.Holds ls)
    (more : List SourceLine) (h : ∀ l ∈ more, Text.trim l.text ≠ []) :
    (a.feed more).Holds (ls ++ more) := by
  induction more generalizing a ls with
  | nil => simpa [Assembler.feed] using holds
  | cons l more ih =>
    rw [List.append_cons]
    exact ih (holds.push (h l (by simp))) fun l' hl' => h l' (by simp [hl'])

section Groups

variable {a : Assembler} {ls : List SourceLine} (holds : a.Holds ls)
include holds

theorem Holds.group {e : Entry} (he : e ∈ a.finish) : ∃ g, e.Covers g ∧ ∀ l ∈ g, l ∈ ls := by
  obtain ⟨ps, entries, rfl, covers⟩ := holds.groups
  rw [← entries] at he
  obtain ⟨p, hp, rfl⟩ := List.mem_map.1 he
  exact ⟨p.2, covers p hp, fun l hl => List.mem_flatten.2 ⟨p.2, List.mem_map_of_mem hp, hl⟩⟩

theorem Holds.numbers : a.finish.flatMap Entry.lineNumbers = ls.map SourceLine.number := by
  obtain ⟨ps, entries, rfl, covers⟩ := holds.groups
  rw [← entries, List.flatMap_map, List.map_flatten, List.map_map, ← List.flatMap_def]
  exact List.flatMap_congr fun p hp => (covers p hp).lineNumbers_eq

theorem Holds.raws : List.intercalate ['\n'] (a.finish.map Entry.raw) = joined ls := by
  obtain ⟨ps, entries, rfl, covers⟩ := holds.groups
  have raws : (ps.map Prod.fst).map Entry.raw = (ps.map Prod.snd).map joined := by
    rw [List.map_map, List.map_map]
    exact List.map_congr_left fun p hp => (covers p hp).raw_eq
  have nonempty : ∀ g ∈ (ps.map Prod.snd).map (List.map SourceLine.text), g ≠ [] := by
    simp only [List.map_map, List.mem_map]
    rintro _ ⟨p, hp, rfl⟩
    simpa using (covers p hp).nonempty
  rw [← entries, raws, joined, List.map_flatten, ← intercalate_flatten _ nonempty]
  simp only [List.map_map]
  rfl

end Groups

theorem holds_assemble {ls : List SourceLine} (h : ∀ l ∈ ls, Text.trim l.text ≠ []) :
    (feed {} ls).Holds ls := holds_start.feed ls h

end Assembler

namespace Source

def IsBlankLine (text : Text) : Prop := ∀ c ∈ text, Text.isBlank c = true

def IsHeaderLine (number : Nat) (text : Text) : Prop :=
  number ≤ 10 ∧ ∃ name ∈ headerNames, name ++ [':'] <+: Text.trim text

instance (number : Nat) (text : Text) : Decidable (IsHeaderLine number text) :=
  inferInstanceAs (Decidable (number ≤ 10 ∧ ∃ name ∈ headerNames, name ++ [':'] <+: Text.trim text))

def HeaderOf (h : Text × Text) (l : SourceLine) : Prop :=
  h.1 ∈ headerNames ∧ ∃ rest, Text.trim l.text = h.1 ++ ':' :: rest ∧ h.2 = Text.trim rest

theorem header?_eq_some {t : Text} {h : Text × Text} (found : header? t = some h) :
    h.1 ∈ headerNames ∧ ∃ rest, Text.trim t = h.1 ++ ':' :: rest ∧ h.2 = Text.trim rest := by
  obtain ⟨name, member, value⟩ := List.exists_of_findSome?_eq_some found
  obtain ⟨rest, opens, rfl⟩ := Option.map_eq_some_iff.1 value
  rw [List.isPrefixOf?_eq_some_iff_append_eq] at opens
  exact ⟨member, rest, by simp [← opens], rfl⟩

theorem header?_isSome_iff {t : Text} :
    (header? t).isSome ↔ ∃ name ∈ headerNames, name ++ [':'] <+: Text.trim t := by
  rw [header?, List.findSome?_isSome_iff]
  simp only [Option.isSome_map, Option.isSome_iff_exists, List.isPrefixOf?_eq_some_iff_append_eq]
  rfl

theorem classify_cases (l : SourceLine) :
    (classify l = .blank ∧ IsBlankLine l.text ∧ ¬ IsHeaderLine l.number l.text) ∨
    (∃ name value, classify l = .header name value ∧ HeaderOf (name, value) l ∧
      ¬ IsBlankLine l.text ∧ IsHeaderLine l.number l.text) ∨
    (classify l = .content ∧ ¬ IsBlankLine l.text ∧ ¬ IsHeaderLine l.number l.text) := by
  have blank_iff : IsBlankLine l.text ↔ Text.trim l.text = [] := Text.trim_eq_nil_iff.symm
  unfold classify
  split
  · next blank =>
    refine .inl ⟨rfl, blank_iff.2 blank, ?_⟩
    rintro ⟨-, name, -, opens⟩
    simp [blank] at opens
  · next visible =>
    right
    rw [blank_iff]
    split
    · next early =>
      split
      · next name value found =>
        have header : IsHeaderLine l.number l.text :=
          ⟨early, header?_isSome_iff.1 (by rw [found]; rfl)⟩
        exact .inl ⟨name, value, rfl, header?_eq_some found, visible, header⟩
      · next missing =>
        refine .inr ⟨rfl, visible, fun header => ?_⟩
        simpa [missing] using header?_isSome_iff.2 header.2
    · next late => exact .inr ⟨rfl, visible, fun header => late header.1⟩

theorem classify_eq_content_iff {l : SourceLine} :
    classify l = .content ↔ ¬ IsBlankLine l.text ∧ ¬ IsHeaderLine l.number l.text := by
  obtain ⟨same, blank, -⟩ | ⟨name, value, same, -, -, header⟩ | ⟨same, h⟩ := classify_cases l
  · simp [same, blank]
  · simp [same, header]
  · exact iff_of_true same h

theorem mem_numbered {lines : List Text} {l : SourceLine} :
    l ∈ numbered lines ↔ 1 ≤ l.number ∧ lines[l.number - 1]? = some l.text := by
  simp only [numbered, List.mem_map, Prod.exists, List.mem_zipIdx_iff_le_and_getElem?_sub]
  constructor
  · rintro ⟨t, n, ⟨pos, line⟩, rfl⟩
    exact ⟨pos, line⟩
  · rintro ⟨pos, line⟩
    exact ⟨l.text, l.number, ⟨pos, line⟩, rfl⟩

theorem numbered_increasing (lines : List Text) :
    ((numbered lines).map SourceLine.number).Pairwise (· < ·) := by
  have numbers : (numbered lines).map SourceLine.number = List.range' 1 lines.length := by
    simp [numbered, List.map_map, Function.comp_def]
  rw [numbers]
  exact List.pairwise_lt_range'

theorem mem_content {lines : List Text} {l : SourceLine} :
    l ∈ (ofLines lines).lines ↔
      l ∈ numbered lines ∧ ¬ IsBlankLine l.text ∧ ¬ IsHeaderLine l.number l.text := by
  rw [ofLines, List.mem_filter, decide_eq_true_eq, classify_eq_content_iff]

theorem one_class {lines : List Text} {l : SourceLine} (h : l ∈ numbered lines) :
    (IsBlankLine l.text ∧ ¬ IsHeaderLine l.number l.text ∧ l ∉ (ofLines lines).lines) ∨
    (¬ IsBlankLine l.text ∧ IsHeaderLine l.number l.text ∧ l ∉ (ofLines lines).lines) ∨
    (¬ IsBlankLine l.text ∧ ¬ IsHeaderLine l.number l.text ∧ l ∈ (ofLines lines).lines) := by
  rw [mem_content]
  rcases classify_cases l with
    ⟨-, blank, header⟩ | ⟨-, -, -, -, blank, header⟩ | ⟨-, blank, header⟩ <;>
    simp [h, blank, header]

theorem content_not_blank {lines : List Text} {l : SourceLine} (h : l ∈ (ofLines lines).lines) :
    Text.trim l.text ≠ [] :=
  fun blank => (mem_content.1 h).2.1 (Text.trim_eq_nil_iff.1 blank)

theorem content_increasing (lines : List Text) :
    ((ofLines lines).lines.map SourceLine.number).Pairwise (· < ·) :=
  (numbered_increasing lines).sublist (List.filter_sublist.map _)

theorem headers_of_lines (lines : List Text) :
    List.Forall₂ HeaderOf (ofLines lines).headers
      ((numbered lines).filter fun l => IsHeaderLine l.number l.text) := by
  rw [ofLines]
  simp only
  induction numbered lines with
  | nil => exact .nil
  | cons l ls ih =>
    rcases classify_cases l with ⟨same, -, h⟩ | ⟨name, value, same, header, -, h⟩ | ⟨same, -, h⟩
    · simpa [same, h] using ih
    · simpa [same, h] using ⟨header, ih⟩
    · simpa [same, h] using ih

end Source

/-- Nothing of a text is lost, repeated or moved on the way to its source and its entries. -/
structure Preserved (t : Text) (s : Source) (es : List Entry) : Prop where
  one_class : ∀ (i : Nat) (h : i < (Text.lines t).length),
    let text := (Text.lines t)[i]
    (Source.IsBlankLine text ∧ ¬ Source.IsHeaderLine (i + 1) text ∧ ⟨i + 1, text⟩ ∉ s.lines) ∨
    (¬ Source.IsBlankLine text ∧ Source.IsHeaderLine (i + 1) text ∧ ⟨i + 1, text⟩ ∉ s.lines) ∨
    (¬ Source.IsBlankLine text ∧ ¬ Source.IsHeaderLine (i + 1) text ∧ ⟨i + 1, text⟩ ∈ s.lines)
  content_lines : ∀ l ∈ s.lines, 1 ≤ l.number ∧ (Text.lines t)[l.number - 1]? = some l.text
  increasing : (s.lines.map SourceLine.number).Pairwise (· < ·)
  headers : List.Forall₂ Source.HeaderOf s.headers
    ((Source.numbered (Text.lines t)).filter fun l => Source.IsHeaderLine l.number l.text)
  numbers : es.flatMap Entry.lineNumbers = s.lines.map SourceLine.number
  raw : ∀ e ∈ es, e.raw =
    List.intercalate ['\n'] (e.lineNumbers.map fun n => (Text.lines t).getD (n - 1) [])
  raws : List.intercalate ['\n'] (es.map Entry.raw) =
    List.intercalate ['\n'] (s.lines.map SourceLine.text)
  first : ∀ e ∈ es, e.lineNumbers.head? = some e.lineNumber
  ids : es.map Entry.id = List.range es.length

theorem assemble_preserves (t : Text) :
    Preserved t (Source.ofText t) (assemble (Source.ofText t).lines) := by
  have content : ∀ l ∈ (Source.ofText t).lines,
      1 ≤ l.number ∧ (Text.lines t)[l.number - 1]? = some l.text :=
    fun l hl => Source.mem_numbered.1 (Source.mem_content.1 hl).1
  have visible : ∀ l ∈ (Source.ofText t).lines, Text.trim l.text ≠ [] :=
    fun l => Source.content_not_blank
  have holds := Assembler.holds_assemble visible
  have numbered : ∀ (i : Nat) (h : i < (Text.lines t).length),
      ⟨i + 1, (Text.lines t)[i]⟩ ∈ Source.numbered (Text.lines t) :=
    fun i h => Source.mem_numbered.2 ⟨by simp, by simp [h]⟩
  refine ⟨fun i h => Source.one_class (numbered i h), content, Source.content_increasing _,
    Source.headers_of_lines _, holds.numbers, ?_, holds.raws, ?_, holds.ids⟩
  · intro e he
    obtain ⟨g, covers, inside⟩ := holds.group he
    rw [covers.raw_eq, covers.lineNumbers_eq, joined, List.map_map]
    congr 1
    apply List.map_congr_left
    intro l hl
    simp [List.getD_eq_getElem?_getD, (content l (inside l hl)).2]
  · intro e he
    obtain ⟨g, covers, -⟩ := holds.group he
    exact covers.lineNumber_eq

end Logbook
