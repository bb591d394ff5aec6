import Logbook.Cli.Run
import Logbook.Proofs.Agreement
import Logbook.Proofs.OneLine
import Logbook.Proofs.Refilter
import Logbook.Proofs.Seams

/-! What a run prints. Each header and each row has a line of its own. Positions of hits are
positions of rows, so the marked rows are those with a term of the search. -/

namespace Logbook

open Text

namespace Cli

theorem markAt_eq {α : Type} {ps : List Nat} {n : Nat} (increasing : ps.Pairwise (· < ·))
    (ge : ∀ p ∈ ps, n ≤ p) (l : List α) :
    markAt ps n l = (l.zipIdx n).map fun q => (q.1, decide (q.2 ∈ ps)) := by
  fun_induction markAt ps n l with
  | case1 => rfl
  | case2 n a r ih =>
    rw [ih .nil (by simp)]
    simp
  | case3 ps n a r ih =>
    -- The first position is taken, and no later element is there.
    obtain ⟨above, rest⟩ := List.pairwise_cons.1 increasing
    have later : ∀ q ∈ r.zipIdx (n + 1),
        (q.1, decide (q.2 ∈ ps)) = (q.1, decide (q.2 ∈ n :: ps)) := by
      intro q hq
      have other : n < q.2 := List.le_snd_of_mem_zipIdx hq
      simp [Nat.ne_of_gt other]
    rw [ih rest above, List.map_congr_left later, List.zipIdx_cons, List.map_cons]
    simp
  | case4 p ps n a r other ih =>
    -- The first position is still ahead, and so are all others.
    have least : n + 1 ≤ p := Nat.lt_of_le_of_ne (ge p (by simp)) (Ne.symm other)
    have after : ∀ q ∈ p :: ps, n + 1 ≤ q := by
      intro q hq
      rcases List.mem_cons.1 hq with rfl | hq
      · exact least
      · have above := (List.pairwise_cons.1 increasing).1 q hq
        omega
    have missing : n ∉ p :: ps := fun here => absurd (after n here) (by omega)
    rw [ih increasing after, List.zipIdx_cons, List.map_cons, decide_eq_false missing]

theorem fst_markAt {α : Type} {ps : List Nat} (increasing : ps.Pairwise (· < ·)) (l : List α) :
    (markAt ps 0 l).map Prod.fst = l := by
  rw [markAt_eq increasing fun _ _ => Nat.zero_le _, List.map_map]
  exact List.zipIdx_map_fst 0 l

def IsHit (query : Option Text) (e : Entry) : Prop :=
  ∃ t ∈ query.elim [] Text.segments, Text.lower t <:+: Text.lower e.message

instance (query : Option Text) (e : Entry) : Decidable (IsHit query e) :=
  inferInstanceAs (Decidable (∃ t ∈ query.elim [] Text.segments, _))

theorem isHit_iff {query : Option Text} {e : Entry} :
    IsHit query e ↔ ∃ t ∈ Search.terms (query.getD []), t <:+: Text.lower e.message := by
  cases query with
  | none => simp [IsHit, Search.terms_nil]
  | some q => simp [IsHit, Search.terms]

section Rows

variable [Regex.Engine] {v : Viewer} (agrees : v.Agrees)
include agrees

theorem hits_of_agrees : v.search.hits.Pairwise (· < ·) := by
  rw [agrees.search.hits_eq]
  exact Search.hits_increasing ..

theorem rows_markedRows : (markedRows v).map (·.1.1) = v.view.rows := by
  have same : (v.view.entriesOf v.entries).length = v.view.rows.length := by
    rw [agrees.view_eq, View.entriesOf_evaluate, List.length_map, View.length_rows]
  have pairs := fst_markAt (hits_of_agrees agrees) (v.view.rows.zip (v.view.entriesOf v.entries))
  have rows := congrArg (List.map Prod.fst) pairs
  rwa [List.map_map, List.map_fst_zip same.ge] at rows

theorem getElem?_markedRows (place : Nat) :
    (markedRows v)[place]? = v.view.rows[place]?.bind fun r =>
      v.entries[r.index]?.map fun e => ((r, e), decide (place ∈ v.search.hits)) := by
  have entry := @View.getElem?_entriesOf _ v.entries v.filter v.options place
  rw [← agrees.view_eq] at entry
  rw [markedRows, markAt_eq (hits_of_agrees agrees) fun _ _ => Nat.zero_le _, List.getElem?_map,
    List.getElem?_zipIdx, List.zip, List.getElem?_zipWith, entry]
  cases v.view.rows[place]? with
  | none => rfl
  | some r => cases found : v.entries[r.index]? <;> simp [found]

theorem mem_hits_iff {query : Option Text} (asked : v.search.query = query.getD [])
    {place : Nat} :
    place ∈ v.search.hits ↔ ∃ r e, v.view.rows[place]? = some r ∧
      v.entries[r.index]? = some e ∧ IsHit query e := by
  have message := @View.getElem?_messages _ v.entries v.filter v.options place
  rw [← agrees.view_eq] at message
  rw [agrees.search.hits_eq, agrees.search.terms_eq, asked, Search.mem_hits, message]
  simp only [isHit_iff, Option.bind_eq_some_iff, Option.map_eq_some_iff]
  constructor
  · rintro ⟨_, ⟨r, row, e, entry, rfl⟩, hit⟩
    exact ⟨r, e, row, entry, hit⟩
  · rintro ⟨r, e, row, entry, hit⟩
    exact ⟨_, ⟨r, row, e, entry, rfl⟩, hit⟩

theorem mem_markedRows {query : Option Text} (asked : v.search.query = query.getD [])
    {m : (View.Row × Entry) × Bool} (h : m ∈ markedRows v) :
    v.entries[m.1.1.index]? = some m.1.2 ∧ m.2 = decide (IsHit query m.1.2) := by
  obtain ⟨place, found⟩ := List.mem_iff_getElem?.1 h
  rw [getElem?_markedRows agrees] at found
  obtain ⟨r, row, found⟩ := Option.bind_eq_some_iff.1 found
  obtain ⟨e, entry, rfl⟩ := Option.map_eq_some_iff.1 found
  refine ⟨entry, decide_eq_decide.2 ((mem_hits_iff agrees asked).trans ⟨?_, ?_⟩)⟩
  · rintro ⟨r', e', row', entry', hit⟩
    cases row.symm.trans row'
    cases entry.symm.trans entry'
    exact hit
  · exact fun hit => ⟨r, e, row, entry, hit⟩

end Rows

def RowPrinted (entries : List Entry) (query : Option Text) (r : View.Row) (line : Text) : Prop :=
  ∃ e, entries[r.index]? = some e ∧ line = rowLine e r.isContext (decide (IsHit query e)) ∧
    line.head? = some (if IsHit query e then '*' else if r.isContext then '-' else ' ')

def countText (matched entries rows : Nat) : Text :=
  Text.ofNat matched ++ " of ".toList ++ Text.ofNat entries ++ " entries matched, ".toList ++
    Text.ofNat rows ++ " rows shown".toList

def searchText (positions : List Nat) : Text :=
  if positions = [] then "search: no match".toList
  else "search: ".toList ++ Text.ofNat positions.length ++ " hits at rows ".toList ++
    positionList positions

def withGaps (rows : List View.Row) (lines : List Text) : List Text :=
  (List.zipWith (fun r line => (if r.afterGap then [gapLine] else []) ++ [line]) rows lines).flatten

/-- What is printed of a source, its entries and a view of them. -/
structure Printed (s : Source) (entries : List Entry) (v : View) (matched : Nat)
    (query : Option Text) (lines : List Text) (positions : List Nat) (o : Outcome) : Prop where
  exit : o.exit = 0
  rows : List.Forall₂ (RowPrinted entries query) v.rows lines
  out : o.out = (s.headers.map fun h => "# ".toList ++ h.1 ++ ": ".toList ++ h.2) ++
    withGaps v.rows lines
  increasing : positions.Pairwise (· < ·)
  position_iff : ∀ p, p ∈ positions ↔ ∃ line, lines[p]? = some line ∧ line.head? = some '*'
  err : o.err = countText matched entries.length v.rows.length ::
    (query.map fun _ => searchText positions).toList
  length : o.out.length = s.headers.length + v.rows.length + v.rows.countP (·.afterGap)
  one_line : ∀ line ∈ o.out, '\n' ∉ line
  feeds : (o.out.flatMap (· ++ ['\n'])).count '\n' = o.out.length

theorem length_flatMap_rowLines (ms : List ((View.Row × Entry) × Bool)) :
    (ms.flatMap rowLines).length = ms.length + (ms.map (·.1.1)).countP (·.afterGap) := by
  induction ms with
  | nil => rfl
  | cons m ms ih =>
    rw [List.flatMap_cons, List.length_append, ih, rowLines]
    cases gap : m.1.1.afterGap <;> simp [gap] <;> omega

theorem head_rowLine (e : Entry) (isContext isHit : Bool) :
    (rowLine e isContext isHit).head? = some (marker isHit isContext) := rfl

theorem searchLine_eq {c : Cursor} (stands : c.Stands) : searchLine c = searchText c.hits := by
  unfold searchLine searchText
  split
  · next missing => rw [if_pos (stands.none_iff.1 missing)]
  · next selected =>
    have found : c.hits ≠ [] := fun empty => by simp [stands.none_iff.2 empty] at selected
    rw [if_neg found]

def linesOf (v : Viewer) : List Text :=
  (markedRows v).map fun m => rowLine m.1.2 m.1.1.isContext m.2

section Report

variable [Regex.Engine] {v : Viewer} (agrees : v.Agrees) {query : Option Text}
  (asked : v.search.query = query.getD [])
include agrees

theorem withGaps_linesOf :
    withGaps v.view.rows (linesOf v) = (markedRows v).flatMap rowLines := by
  rw [← rows_markedRows agrees, linesOf, withGaps, List.zipWith_map, List.zipWith_self]
  rfl

theorem mem_hits_iff_star {p : Nat} :
    p ∈ v.search.hits ↔ ∃ line, (linesOf v)[p]? = some line ∧ line.head? = some '*' := by
  have star : ∀ isHit isContext, marker isHit isContext = '*' ↔ isHit = true := by decide
  rw [linesOf, List.getElem?_map, getElem?_markedRows agrees]
  constructor
  · intro hit
    have asked : v.search.query = (some v.search.query).getD [] := rfl
    obtain ⟨r, e, row, entry, -⟩ := (mem_hits_iff agrees asked).1 hit
    refine ⟨rowLine e r.isContext true, by simp [row, entry, hit], ?_⟩
    rw [head_rowLine, (star true _).2 rfl]
  · rintro ⟨line, found, head⟩
    obtain ⟨m, marked, rfl⟩ := Option.map_eq_some_iff.1 found
    obtain ⟨r, -, marked⟩ := Option.bind_eq_some_iff.1 marked
    obtain ⟨e, -, rfl⟩ := Option.map_eq_some_iff.1 marked
    rw [head_rowLine, Option.some.injEq, star] at head
    exact of_decide_eq_true head

theorem no_feed_reportLines {t : Text} (headers : v.headers = (Source.ofText t).headers)
    (entries : v.entries = assemble (Source.ofText t).lines) :
    ∀ line ∈ reportLines v, '\n' ∉ line := by
  have numbered : ∀ l ∈ Source.numbered (Text.lines t), '\n' ∉ l.text := fun l hl =>
    no_feed_of_mem_lines (List.mem_of_getElem? (Source.mem_numbered.1 hl).2)
  intro line hline
  rw [reportLines, List.mem_append, List.mem_map, List.mem_flatMap] at hline
  -- A header, a gap or a row; headers and rows show parts of lines of the text.
  rcases hline with ⟨h, hh, rfl⟩ | ⟨m, hm, hline⟩
  · rw [headers] at hh
    obtain ⟨l, hl, header⟩ := Source.exists_of_mem_headers hh
    exact no_feed_headerLine header (numbered l hl)
  · rw [rowLines, List.mem_append, List.mem_singleton] at hline
    rcases hline with gap | rfl
    · split at gap
      · rw [List.mem_singleton.1 gap]
        decide
      · contradiction
    · apply no_feed_rowLine
      intro name named
      have asked : v.search.query = (some v.search.query).getD [] := rfl
      obtain ⟨entry, -⟩ := mem_markedRows agrees asked hm
      rw [entries] at entry
      obtain ⟨l, hl, part⟩ := moduleName_part (List.mem_of_getElem? entry) named
      exact no_feed_of_part part (numbered l (Source.mem_content.1 hl).1)

include asked

theorem rowPrinted_linesOf :
    List.Forall₂ (RowPrinted v.entries query) v.view.rows (linesOf v) := by
  rw [← rows_markedRows agrees, linesOf, List.forall₂_map_left_iff, List.forall₂_map_right_iff,
    List.forall₂_same]
  intro m hm
  obtain ⟨entry, mark⟩ := mem_markedRows agrees asked hm
  refine ⟨m.1.2, entry, by rw [mark], ?_⟩
  rw [head_rowLine, mark, marker]
  simp

theorem printed_of_agrees {t : Text} (headers : v.headers = (Source.ofText t).headers)
    (entries : v.entries = assemble (Source.ofText t).lines) :
    Printed (Source.ofText t) v.entries v.view v.view.matchCount query (linesOf v) v.search.hits
      ⟨0, reportLines v, countLine v :: (query.map fun _ => searchLine v.search).toList⟩ := by
  have one_line := no_feed_reportLines agrees headers entries
  have rows : (markedRows v).length = v.view.rows.length := by
    rw [← rows_markedRows agrees, List.length_map]
  have length : (reportLines v).length =
      (Source.ofText t).headers.length + v.view.rows.length + v.view.rows.countP (·.afterGap) := by
    rw [reportLines, List.length_append, length_flatMap_rowLines, rows_markedRows agrees, rows,
      List.length_map, headers, Nat.add_assoc]
  exact {
    exit := rfl
    rows := rowPrinted_linesOf agrees asked
    out := by rw [withGaps_linesOf agrees, ← headers]; rfl
    increasing := hits_of_agrees agrees
    position_iff := fun p => mem_hits_iff_star agrees
    err := by rw [searchLine_eq agrees.search.toStands]; rfl
    length := length
    one_line := one_line
    feeds := count_feeds one_line }

end Report

def Arguments.options (a : Arguments) : View.Options where
  levels := a.levels.elim LevelSet.all LevelSet.only
  timeStart := a.earliest.bind (DateBound.millis? .first)
  timeEnd := a.latest.bind (DateBound.millis? .last)
  context := a.context.getD 0

theorem eq_of_time? {side : Side} {fault : Text → RunError} {raw : Option Text} {ms : Option Int}
    (h : time? side fault raw = .ok ms) : ms = raw.bind (DateBound.millis? side) := by
  unfold time? at h
  split at h
  · cases h
    rfl
  · next raw =>
    split at h
    · next ms read =>
      cases h
      exact read.symm
    · contradiction

theorem fields_of_request {a : Arguments} {r : Request} (h : a.request = .ok r) :
    r.path = a.path ∧ r.setup.filter = a.filter ∧ r.setup.options = a.options ∧
      r.search = a.search := by
  unfold Arguments.request at h
  cases earliest : time? .first .invalidEarliest a.earliest with
  | error e =>
    rw [earliest] at h
    contradiction
  | ok first =>
    cases latest : time? .last .invalidLatest a.latest with
    | error e =>
      rw [earliest, latest] at h
      contradiction
    | ok last =>
      rw [earliest, latest] at h
      cases h
      refine ⟨rfl, rfl, ?_, rfl⟩
      rw [Arguments.options, ← eq_of_time? earliest, ← eq_of_time? latest]

theorem exists_of_prepare {args : List Text} {r : Request} (h : prepare args = .ok r) :
    ∃ a, Arguments.read args = .ok (some a) ∧ a.request = .ok r := by
  unfold prepare at h
  split at h
  · contradiction
  · contradiction
  · next a read =>
    refine ⟨a, read, ?_⟩
    cases request : a.request with
    | error e =>
      rw [request] at h
      contradiction
    | ok r' =>
      rw [request] at h
      cases h
      rfl

section Finish

variable [Regex.Engine]

theorem viewer_run (r : Request) (t : Text) :
    (r.viewer t).Agrees ∧ (r.viewer t).search.query = r.search.getD [] ∧
      (r.viewer t).headers = (Viewer.load t r.setup).headers ∧
      (r.viewer t).entries = (Viewer.load t r.setup).entries ∧
      (r.viewer t).input = (Viewer.load t r.setup).input ∧
      (r.viewer t).options = (Viewer.load t r.setup).options := by
  have agrees := Viewer.agrees_load t r.setup
  unfold Request.viewer
  cases r.search with
  | none => exact ⟨agrees, Viewer.query_load t r.setup, rfl, rfl, rfl, rfl⟩
  | some query =>
    exact ⟨Viewer.agrees_setSearch agrees query, Cursor.query_setQuery .., rfl, rfl, rfl, rfl⟩

theorem printed_finish (r : Request) (bytes : List UInt8) :
    let s := Source.ofText (Text.decode bytes)
    let entries := assemble s.lines
    let f := Filter.read (r.setup.filter.getD [])
    let o := r.setup.options
    ∃ lines positions, Printed s entries (View.evaluate entries f o)
      (entries.countP fun e => decide (View.Passes f o e)) r.search lines positions
      (r.finish (.ok bytes)) := by
  intro s entries f o
  obtain ⟨agrees, asked, headers, content, input, options⟩ := viewer_run r (Text.decode bytes)
  rw [Viewer.headers_load] at headers
  rw [Viewer.entries_load, assembleInBatches_eq] at content
  have view : (r.viewer (Text.decode bytes)).view = View.evaluate entries f o := by
    rw [agrees.view_eq, content, agrees.filter_eq, input, options, Viewer.input_load,
      Viewer.options_load]
  have printed := printed_of_agrees agrees asked headers content
  rw [content, view] at printed
  rw [← (View.evaluate_declared entries f o).1.count_entries]
  exact ⟨_, _, printed⟩

end Finish

/-- What a run prints for a file, whichever it is: the headers and the rows of the view that the
arguments ask for, in order and each on one line, and the counts. -/
theorem run_prints [Regex.Engine] {args : List Text} {r : Request}
    (accepted : prepare args = .ok r) (bytes : List UInt8) :
    ∃ a, Arguments.read args = .ok (some a) ∧ r.path = a.path ∧
      let t := Text.decode bytes
      let s := Source.ofText t
      let entries := assemble s.lines
      let f := Filter.read (a.filter.getD [])
      List.Forall₂ Source.HeaderOf s.headers
        ((Source.numbered (Text.lines t)).filter fun l => Source.IsHeaderLine l.number l.text) ∧
      ∃ lines positions, Printed s entries (View.evaluate entries f a.options)
        (entries.countP fun e => decide (View.Passes f a.options e)) a.search lines positions
        (r.finish (.ok bytes)) := by
  obtain ⟨a, read, request⟩ := exists_of_prepare accepted
  obtain ⟨path, filter, options, search⟩ := fields_of_request request
  refine ⟨a, read, path, Source.headers_of_lines _, ?_⟩
  rw [← filter, ← options, ← search]
  exact printed_finish r bytes

theorem run_prints_all_markers :
    let _ : Regex.Engine := .upTo 1000
    let args := ["a.log".toList, "-f".toList, "!boot || #gap=5".toList, "-C".toList, "1".toList,
      "--search".toList, "ERR || x".toList]
    let bytes := ("User: al\nboot\n2025-01-01 10:00:00 up\n" ++
      "2025-01-01 10:00:09 err [m] b\n  at c\n").toUTF8.toList
    let outcome : Outcome := {
      exit := 0
      out := ["# User: al".toList, "-     2 - -       [-] boot".toList,
        "      3 2025-01-01 10:00:00.000 -       [-] 2025-01-01 10:00:00 up".toList, gapLine,
        "*     4 2025-01-01 10:00:09.000 -       [m] 2025-01-01 10:00:09 err [m] b".toList]
      err := ["2 of 3 entries matched, 3 rows shown".toList,
        "search: 1 hits at rows [2]".toList] }
    ∃ r a, prepare args = .ok r ∧ r.finish (.ok bytes) = outcome ∧
      Arguments.read args = .ok (some a) ∧ r.path = a.path ∧
      let s := Source.ofText (Text.decode bytes)
      let entries := assemble s.lines
      let f := Filter.read (a.filter.getD [])
      ∃ lines positions, Printed s entries (View.evaluate entries f a.options)
        (entries.countP fun e => decide (View.Passes f a.options e)) a.search lines positions
        outcome := by
  intro _ args bytes outcome
  have run : (prepare args).toOption.map (fun r => r.finish (.ok bytes)) = some outcome := by
    decide +kernel
  cases accepted : prepare args with
  | error o => simp [accepted, Except.toOption] at run
  | ok r =>
    rw [accepted] at run
    have finished : r.finish (.ok bytes) = outcome := Option.some.inj run
    obtain ⟨a, read, path, -, printed⟩ := run_prints accepted bytes
    rw [finished] at printed
    exact ⟨r, a, rfl, finished, read, path, printed⟩

end Cli
end Logbook
