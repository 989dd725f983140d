import VolumeAgent.Path.Basic

/-!
# Paths inside a directory

`isStrictSubpath` accepts a relative path that never climbs above its start
and ends below it. `cleanSubpath` folds `..` into the segment before it and
keeps one that has none, so a path that escapes still does so when cleaned.
-/

namespace VolumeAgent.Path

/-- The depth after walking the segments from depth `depth`, or none if the
walk climbs above depth zero. -/
def depthFrom (depth : Nat) : List String → Option Nat
  | [] => some depth
  | s :: rest =>
    if isStill s then depthFrom depth rest
    else if s == ".." then
      match depth with
      | 0 => none
      | depth + 1 => depthFrom depth rest
    else depthFrom (depth + 1) rest

def isStrictSubpath (s : String) : Bool :=
  !isAbsolute ⟨s⟩ && (depthFrom 0 (segments ⟨s⟩)).any (0 < ·)

/-- One more segment on the segments kept so far, latest first. -/
def foldSegment (kept : List String) (s : String) : List String :=
  if isStill s then kept
  else if s == ".." then
    match kept with
    | [] => [".."]
    | last :: rest => if last == ".." then ".." :: kept else rest
  else s :: kept

def cleanSegments (segments : List String) : List String :=
  (segments.foldl foldSegment []).reverse

def cleanSubpath (s : String) : String :=
  Text.join '/' (cleanSegments (segments ⟨s⟩))

end VolumeAgent.Path
