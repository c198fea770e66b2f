/-
Error entries: the rows of a table.
-/

namespace ErrorTable

/-- One error description. Its fields are copied verbatim into the generated table, so
a definition file is responsible for what they say there. -/
structure Entry where
  /-- Symbolic name of the error, echoed in a comment above its record. -/
  code : String
  /-- The exception that the error maps to. -/
  exception : String
  /-- Secondary classification tag. -/
  flag : String
  /-- The rest of the line, usually a string literal or a macro call. -/
  message : String
  deriving DecidableEq, Repr

end ErrorTable
