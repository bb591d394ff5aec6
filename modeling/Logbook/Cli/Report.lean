import Logbook.Viewer

/-! The printed view: the headers, a line for each row, and the counts. -/

namespace Logbook.Cli

def gapLine : Text := "   ~~~ gap ~~~".toList

def marker (isHit isContext : Bool) : Char :=
  if isHit then '*' else if isContext then '-' else ' '

def timeText (e : Entry) : Text :=
  match e.instant with
  | none => ['-']
  | some i =>
    match i.dateText with
    | some date => date ++ [' '] ++ i.clockText
    | none => i.clockText

def levelText (l : Option Level) : Text := (l.map Level.name).getD ['-']

def rowLine (e : Entry) (isContext isHit : Bool) : Text :=
  [marker isHit isContext] ++ (Text.ofNat e.lineNumber).leftpad 6 ' ' ++ [' '] ++ timeText e ++
    [' '] ++ (levelText e.level).rightpad 7 ' ' ++ " [".toList ++
    e.fields.moduleName.getD ['-'] ++ "] ".toList ++ e.preview

def headerLine (h : Text × Text) : Text := "# ".toList ++ h.1 ++ ": ".toList ++ h.2

/-- Tells for each element whether its position, counted from `n`, is one of the increasing
positions. -/
def markAt : List Nat → Nat → List α → List (α × Bool)
  | _, _, [] => []
  | [], n, a :: r => (a, false) :: markAt [] (n + 1) r
  | p :: ps, n, a :: r =>
    if p = n then (a, true) :: markAt ps (n + 1) r else (a, false) :: markAt (p :: ps) (n + 1) r

def markedRows (v : Viewer) : List ((View.Row × Entry) × Bool) :=
  markAt v.search.hits 0 (v.view.rows.zip (v.view.entriesOf v.entries))

def rowLines (r : (View.Row × Entry) × Bool) : List Text :=
  (if r.1.1.afterGap then [gapLine] else []) ++ [rowLine r.1.2 r.1.1.isContext r.2]

def reportLines (v : Viewer) : List Text :=
  v.headers.map headerLine ++ (markedRows v).flatMap rowLines

def countLine (v : Viewer) : Text :=
  Text.ofNat v.view.matchCount ++ " of ".toList ++ Text.ofNat v.entries.length ++
    " entries matched, ".toList ++ Text.ofNat v.view.rows.length ++ " rows shown".toList

def positionList (ps : List Nat) : Text :=
  ['['] ++ List.intercalate ", ".toList (ps.map Text.ofNat) ++ [']']

def searchLine (c : Cursor) : Text :=
  match c.selected with
  | none => "search: no match".toList
  | some _ =>
    "search: ".toList ++ Text.ofNat c.hits.length ++ " hits at rows ".toList ++ positionList c.hits

end Logbook.Cli
