/-!
# Paths

A path is a list of names between slashes, taken from the root when it starts with
a slash and from the working directory otherwise.  Empty names do not count; the
names `.` and `..` stay in place and go up.

Main definitions: `Place`, `Path`, `Path.parse`.
-/

namespace StackCode.Tool

/-- A place among files: the names that lead to it from the root, the last one
first. -/
abbrev Place := List String

/-- The place that a name leads to from a directory; above the root is the root. -/
def Place.enter (place : Place) (name : String) : Place :=
  match name with
  | "." => place
  | ".." => place.tail
  | name => name :: place

/-- A path.  One with a slash at its end can only be a directory. -/
structure Path where
  rooted : Bool
  names : List String
  slashed : Bool
deriving DecidableEq, Repr

namespace Path

/-- The most bytes of a path. -/
def longest : Nat := 4095

/-- The most bytes of a name on a path. -/
def longestName : Nat := 255

/-- The path that a text is. -/
def parse (text : String) : Path where
  rooted := text.toList.head? == some '/'
  names := (text.splitOn "/").filter fun name => name != ""
  slashed := text.toList.getLast? == some '/'

/-- The place that a path starts at, seen from a directory. -/
def start (path : Path) (directory : Place) : Place :=
  if path.rooted then [] else directory

end Path

end StackCode.Tool
