import VolumeAgent.Text.Blank
import VolumeAgent.Text.Octal

/-!
# The mount table as the kernel lists it

One line per mount, fields separated by blanks, the mount point fifth and
with octal escapes.
-/

namespace VolumeAgent.Mount

def mountPointOfLine (line : List Char) : Option String :=
  (Text.words line)[4]?.map fun field => String.ofList (Text.unescapeText field)

/-- The mount points of a listing, in order. Lines of fewer than five fields
name none. -/
def mountPoints (listing : String) : List String :=
  (Text.lines listing.toList).filterMap mountPointOfLine

end VolumeAgent.Mount
