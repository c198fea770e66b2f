/-
Batches: many definition files, one after the other.

A batch stops at the first failure. What was written before it stays in place.
-/
import ErrorTable.Generate

namespace ErrorTable

/-- What is done with each fragment. -/
inductive Mode where
  /-- Every output file is written. -/
  | write
  /-- Every output file is compared with its fragment, and none is written. -/
  | check
  deriving DecidableEq, Repr

/-- Files are written unless something else is asked for. -/
instance : Inhabited Mode := ⟨.write⟩

/-- What became of the output files of a batch, each list in the order of the batch. -/
structure Summary where
  written : List Path := []
  /-- Output files that hold their fragments. -/
  upToDate : List Path := []
  /-- Output files that are missing or hold something else. -/
  stale : List Path := []
  deriving DecidableEq, Repr

namespace Summary

/-- No output file is stale. -/
def isClean (summary : Summary) : Bool :=
  summary.stale.isEmpty

/-- The summary of two batches in a row. -/
instance : Append Summary where
  append a b := ⟨a.written ++ b.written, a.upToDate ++ b.upToDate, a.stale ++ b.stale⟩

@[simp] theorem written_append (a b : Summary) : (a ++ b).written = a.written ++ b.written := rfl

@[simp] theorem upToDate_append (a b : Summary) :
    (a ++ b).upToDate = a.upToDate ++ b.upToDate := rfl

@[simp] theorem stale_append (a b : Summary) : (a ++ b).stale = a.stale ++ b.stale := rfl

end Summary

/-- Writes a fragment, or compares it with its output file. -/
def Generated.process (generated : Generated) : Mode → Program Summary
  | .write => do
    generated.write
    return { written := [generated.output] }
  | .check => do
    if ← generated.isUpToDate then return { upToDate := [generated.output] }
    Program.reportAll [.outOfDate generated.input generated.output]
    return { stale := [generated.output] }

/-- Processes definition files in order. -/
def generateAll (mode : Mode) : List Path → Program Summary
  | [] => return {}
  | input :: inputs => do
    let generated ← generate input
    let summary ← generated.process mode
    return summary ++ (← generateAll mode inputs)

end ErrorTable
