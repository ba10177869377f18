import Mathlib.Data.List.Basic

/-!
# Geometry values

`QSize`, `QRect` and `QRegion` as the modelled code uses them. A region is kept as the list
of rectangles it was built from; the model only builds, moves, stores and empties regions.
-/

namespace KWin

/-- `QSize`. -/
structure Size where
  width : Int
  height : Int
  deriving DecidableEq, Repr

/-- `QRect`, by its top left corner and its size. -/
structure Rect where
  x : Int
  y : Int
  width : Int
  height : Int
  deriving DecidableEq, Repr

/-- `QRegion`, by its rectangles. -/
abbrev Region := List Rect

namespace Region

/-- `QRegion::translated(dx, dy)`. -/
def translated (region : Region) (dx dy : Int) : Region :=
  region.map fun rect => { rect with x := rect.x + dx, y := rect.y + dy }

end Region

end KWin
