import TextMacro.Value

/-!
# Build reports

What is known about a written output file is kept as a report: named entries, each with a value. A
report that was not made by writing may lack entries.
-/

namespace TextMacro

/-- A report: its entries by name. -/
abbrev BuildReport := List (Text × Value)

namespace BuildReport

/-- The report on an output file that was written: its path, the number of its source files, and the
number of its characters. -/
def written (file : Text) (sources characters : Nat) : BuildReport :=
  [("status".toList, .truth true), ("output_file".toList, .text file),
    ("file_count".toList, .number sources), ("characters".toList, .number characters)]

end BuildReport

end TextMacro
