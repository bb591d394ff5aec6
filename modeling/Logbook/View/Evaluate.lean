import Logbook.Entry.Basic
import Logbook.Filter.Basic
import Logbook.View.Options

/-! The rows of a view: entries that pass the filter and the options, and their neighbours within
the context. Rows keep the order of the entries. -/

namespace Logbook.View

def inTime (o : Options) (millis : Option Int) : Bool :=
  if o.timeStart.isNone && o.timeEnd.isNone then true
  else millis.any fun ms => o.timeStart.all (· ≤ ms) && o.timeEnd.all (ms ≤ ·)

section Match

variable [Regex.Engine]

def inTerms (f : Filter) (message : Text) : Bool :=
  !f.excludes.any (·.isMatch message) &&
    (f.includes.isEmpty || f.includes.any (·.isMatch message))

def passes (f : Filter) (o : Options) (e : Entry) : Bool :=
  f.rows.all (·.contains e.lineNumber) &&
  f.dates.all (·.contains e.lineNumber e.millis) &&
  inTerms f e.message &&
  (o.levels.isAll || o.levels.allows e.level) &&
  inTime o e.millis

end Match

def mapInHalves (limit : Nat) (f : α → β) (l : List α) : List β :=
  if l.length ≤ max limit 1 then l.map f
  else mapInHalves limit f (l.take (l.length / 2)) ++ mapInHalves limit f (l.drop (l.length / 2))
termination_by l.length
decreasing_by all_goals simp only [List.length_take, List.length_drop]; omega

theorem mapInHalves_eq_map (limit : Nat) (f : α → β) (l : List α) :
    mapInHalves limit f l = l.map f := by
  fun_induction mapInHalves limit f l with
  | case1 => rfl
  | case2 l _ ih₁ ih₂ => rw [ih₁, ih₂, ← List.map_append, List.take_append_drop]

structure Sweep where
  covered : Nat
  marks : Array Bool

/-- Marks the places within `n` of a match, less those that earlier windows covered. A sum that is
cut off at the last place is the same when it was cut off at a greater number before. -/
def Sweep.window (n last : Nat) (s : Sweep) (place : Nat) : Sweep :=
  let lo := max (place - n) s.covered
  let hi := min (place + n) last
  if lo ≤ hi then
    { covered := hi + 1
      marks := (List.range' lo (hi + 1 - lo)).foldl (fun ms i => ms.setIfInBounds i true) s.marks }
  else s

def matchPlaces (matched : List Bool) : List Nat := (matched.zipIdx.filter Prod.fst).map Prod.snd

def withContext (n : Nat) (matched : List Bool) : List Bool :=
  if n = 0 then matched
  else
    let start : Sweep := ⟨0, Array.replicate matched.length false⟩
    ((matchPlaces matched).foldl (Sweep.window n (matched.length - 1)) start).marks.toList

structure Row where
  index : Nat
  isContext : Bool
  afterGap : Bool
deriving DecidableEq, Repr

def exceeds (gap : Binary64) (earlier later : Int) : Bool :=
  (Binary64.ofInt (later - earlier)).gt (gap.scale 1000)

/-- Compares each time with the one before it; `previous` is the time before the first row. Rows
without a time are passed over. -/
def gapMarks (gap : Binary64) : Option Int → List (Option Int) → List Bool
  | _, [] => []
  | previous, none :: r => false :: gapMarks gap previous r
  | previous, some ms :: r =>
    previous.any (exceeds gap · ms) :: gapMarks gap (some ms) r

end View

structure View where
  rows : List View.Row
  matchCount : Nat
deriving DecidableEq, Repr

namespace View

def empty : View := ⟨[], 0⟩

def shown (matched : List Bool) (context : Nat) (entries : List Entry) :
    List (Entry × Nat × Bool) :=
  ((entries.zipIdx.zip (matched.zip (withContext context matched))).filter (·.2.2)).map
    fun p => (p.1.1, p.1.2, p.2.1)

def evaluate [Regex.Engine] (entries : List Entry) (f : Filter) (o : Options) : View :=
  let matched := mapInHalves o.splitAbove (passes f o) entries
  let kept := shown matched o.context entries
  let gaps := match f.gap with
    | none => kept.map fun _ => false
    | some gap => gapMarks gap none (kept.map (·.1.millis))
  { rows := List.zipWith (fun k gap => ⟨k.2.1, !k.2.2, gap⟩) kept gaps
    matchCount := matched.count true }

def indices (v : View) : List Nat := v.rows.map Row.index

def entriesOf (v : View) (entries : List Entry) : List Entry :=
  let table := entries.toArray
  v.rows.filterMap fun r => table[r.index]?

def messages (v : View) (entries : List Entry) : List Text :=
  (v.entriesOf entries).map Entry.message

end View
end Logbook
