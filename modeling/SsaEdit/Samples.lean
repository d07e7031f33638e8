/-
Two small bodies and a listing, for trying things out.
-/
import SsaEdit.IR

namespace SsaEdit
namespace Samples

/-- The number of this release. -/
def version : String := "0.1.0"

/-- A body of five statements in a row; the second is never used. -/
def straightLine : IR where
  name := "straight"
  nargs := .int 1
  slots := ["a1"]
  lineTable := [⟨some "test.py", 1, some "straight"⟩]
  body :=
    [⟨.argument 1, .unknown⟩,
     ⟨.const (.int 42), .unknown⟩,
     ⟨.call (.callable "add") [.variable ⟨1⟩, .int 1], .unknown⟩,
     ⟨.call (.callable "add") [.variable ⟨3⟩, .variable ⟨1⟩], .unknown⟩,
     ⟨.ret (.variable ⟨4⟩), .unknown⟩]
  locations := List.replicate 5 (.int 0)
  metadata := []

/-- A loop that counts up to its argument. -/
def countingLoop : IR where
  name := "count"
  nargs := .int 1
  slots := ["n"]
  lineTable := [1, 2, 3, 4].map fun line => ⟨some "count.py", line, some "count"⟩
  body :=
    [⟨.argument 1, .text "Int"⟩,
     ⟨.phi [(⟨1⟩, .int 0), (⟨6⟩, .variable ⟨5⟩)], .text "Int"⟩,
     ⟨.call (.callable "lt") [.variable ⟨2⟩, .variable ⟨1⟩], .text "Bool"⟩,
     ⟨.branch ⟨7⟩ (.variable ⟨3⟩), .text "Any"⟩,
     ⟨.call (.callable "add") [.variable ⟨2⟩, .int 1], .text "Int"⟩,
     ⟨.branch ⟨2⟩ .null, .text "Any"⟩,
     ⟨.ret (.variable ⟨2⟩), .text "Int"⟩]
  locations := [0, 1, 1, 1, 2, 2, 3].map fun n => .int n
  metadata := [("inferred", .bool false)]

/-- The counting loop as a listing. -/
def loopListing : String :=
  "ir count(n) \x7b
\tloc \"count.py\":1 in count
\t%1 = $1
\t%2 = phi [#1 => 0, #6 => %5]
\t%3 = call lt(%2, %1)
\t%4 = br #7 unless %3
\t%5 = call add(%2, 1)
\t%6 = br #2
\t%7 = return %2
\x7d
"

end Samples
end SsaEdit
