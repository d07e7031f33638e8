/-
Paths of files.

A path shows in its plainest form: single slashes, no component that is a single
dot, and no slash at the end.  The empty path is the current directory.
-/
namespace SsaEdit
namespace CommandLine

/-- Split at every slash. -/
def splitSlashes : List Char → List (List Char)
  | [] => [[]]
  | c :: rest =>
    match splitSlashes rest with
    | [] => [[c]]
    | part :: parts => if c = '/' then [] :: part :: parts else (c :: part) :: parts

/-- The components of a path that lead somewhere. -/
def pathComponents (path : List Char) : List (List Char) :=
  (splitSlashes path).filter fun part => part ≠ [] ∧ part ≠ ['.']

/-- The slashes that a path keeps in front: two if it has exactly two, one if it
has one or more than two. -/
def pathRoot : List Char → List Char
  | '/' :: '/' :: '/' :: _ => ['/']
  | '/' :: '/' :: _ => ['/', '/']
  | '/' :: _ => ['/']
  | _ => []

/-- The plainest form of a path. -/
def plainPath (path : String) : String :=
  let plain := pathRoot path.toList ++ List.intercalate ['/'] (pathComponents path.toList)
  String.ofList (if plain.isEmpty then ['.'] else plain)

/-- Why a file could not be read. -/
inductive ReadFault
  | missing
  | isDirectory
  | notDirectory
  | other (reason : String)

def ReadFault.message : ReadFault → String
  | .missing => "No such file or directory"
  | .isDirectory => "Is a directory"
  | .notDirectory => "Not a directory"
  | .other reason => reason

/-- Turn every line end, of whatever kind, into a line feed. -/
def unifyLineEnds : List Char → List Char
  | [] => []
  | '\r' :: '\n' :: rest => '\n' :: unifyLineEnds rest
  | c :: rest => (if c = '\r' then '\n' else c) :: unifyLineEnds rest

end CommandLine
end SsaEdit
