/-!
# Paths

Paths of files. A path is written without empty parts and parts that stay where they are.
-/

namespace TradeJournal.Path

/-- The parts of a text between slashes. -/
def splitFrom (current : List Char) : List Char → List (List Char)
  | [] => [current.reverse]
  | c :: rest => if c = '/' then current.reverse :: splitFrom [] rest
    else splitFrom (c :: current) rest

/-- The parts of a path that lead somewhere. -/
def parts (path : String) : List String :=
  ((splitFrom [] path.toList).map String.ofList).filter fun part => part ≠ "" && part ≠ "."

/-- What a path begins with: nothing, a slash, or exactly two slashes. -/
def root (path : String) : String :=
  match path.toList with
  | '/' :: '/' :: '/' :: _ => "/"
  | '/' :: '/' :: _ => "//"
  | '/' :: _ => "/"
  | _ => ""

/-- The spelling of a path by its parts. The path to the place itself is a single point. -/
def spell (root : String) (parts : List String) : String :=
  let spelled := root ++ String.intercalate "/" parts
  if spelled = "" then "." else spelled

/-- **The plain spelling of a path.** -/
def normal (path : String) : String := spell (root path) (parts path)

/-- **A path and a name under it.** A name that begins with a slash stands for itself. -/
def under (path name : String) : String :=
  if root name = "" then spell (root path) (parts path ++ parts name) else normal name

/-- The path of the directory that a path lies in; a path without one lies in itself. -/
def parent (path : String) : String :=
  spell (root path) (parts path).dropLast

end TradeJournal.Path
