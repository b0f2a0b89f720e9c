namespace Grapher

structure Point where
  x : Float
  y : Float
  deriving DecidableEq

structure ScreenPoint where
  x : Float
  y : Float
  deriving DecidableEq

/-- How far apart two points stand vertically. Neighbouring samples are one step apart across, so
this alone says whether a curve jumps. -/
def ScreenPoint.rise (a b : ScreenPoint) : Float :=
  (a.y - b.y).abs

/-- Screen units per unit of the formula. -/
structure Magnification where
  scale : Float := 20
  deriving DecidableEq

namespace Magnification

def toScreen (m : Magnification) (p : Point) : ScreenPoint :=
  ⟨p.x * m.scale, p.y * m.scale⟩

def ofScreen (m : Magnification) (p : ScreenPoint) : Point :=
  ⟨p.x / m.scale, p.y / m.scale⟩

end Magnification

/-- A run of neighbouring samples. It has a first point, so it is never empty. -/
structure Segment where
  first : Point
  later : Array Point := #[]
  deriving DecidableEq

namespace Segment

def push (s : Segment) (p : Point) : Segment :=
  { s with later := s.later.push p }

def points (s : Segment) : List Point :=
  s.first :: s.later.toList

def last (s : Segment) : Point :=
  s.later.back?.getD s.first

def length (s : Segment) : Nat := s.later.size + 1

theorem points_push (s : Segment) (p : Point) : (s.push p).points = s.points ++ [p] := by
  simp [points, push]

theorem length_points (s : Segment) : s.points.length = s.length := by
  simp [points, length]

end Segment

structure Curve where
  expression : String
  segments : List Segment
  sampleCount : Nat
  definedCount : Nat
  deriving DecidableEq

namespace Curve

def ofSegments (expression : String) (segments : List Segment) (sampleCount : Nat) : Curve :=
  { expression, segments, sampleCount, definedCount := segments.foldl (· + ·.length) 0 }

def points (curve : Curve) : List Point :=
  curve.segments.flatMap Segment.points

end Curve

def notANumber : Float := 0 / 0

def Segment.coordinates (m : Magnification) (s : Segment) : List Float :=
  s.points.flatMap fun p => let q := m.toScreen p; [q.x, q.y]

/-- A pair of NaN stands between two segments. -/
def Curve.coordinates (m : Magnification) (curve : Curve) : List Float :=
  [notANumber, notANumber].intercalate (curve.segments.map (Segment.coordinates m))

end Grapher
