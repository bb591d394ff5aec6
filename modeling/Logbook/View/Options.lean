import Logbook.Level

/-! What restricts a view besides its filter. -/

namespace Logbook.View

structure Options where
  levels : LevelSet := LevelSet.all
  timeStart : Option Int := none
  timeEnd : Option Int := none
  context : Nat := 0
  /-- Longer lists are matched in two halves, each in the same way. -/
  splitAbove : Nat := 1000
deriving DecidableEq, Repr

end Logbook.View
