/-!
# Paths

A path is a text. Joining is textual: one slash goes between the parts, and a second part that
starts at the root replaces the first.
-/

namespace MutantHunt.Path

/-- Whether a path starts at the root. -/
def isAbsolute (path : String) : Bool :=
  path.startsWith "/"

/-- The path of `part` inside `base`. -/
def join (base part : String) : String :=
  if isAbsolute part then part
  else if base.isEmpty || base.endsWith "/" then base ++ part
  else base ++ "/" ++ part

/-- The path as seen from the root, for a process that works in `directory`. -/
def absolute (directory path : String) : String :=
  if isAbsolute path then path else join directory path

end MutantHunt.Path
