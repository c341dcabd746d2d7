import CrossCheck.Comparison.Row

/-!
The report of a comparison: everything that its printed, saved and exported forms show.
-/

namespace CrossCheck

structure EnvironmentInfo where
  name : String
  id : String
  schemaVersion : String
deriving DecidableEq

/-- The queries that were run, in the order in which they were run. -/
structure RunQueries where
  aggregate : Option String
  conditional : List String
  sample : Option String
deriving DecidableEq

structure Report where
  object : String
  rows : List Row
  filter : Option String
  sampleSize : Int
  source : EnvironmentInfo
  target : EnvironmentInfo
  queries : RunQueries
  sourceSamples : List Record
  targetSamples : List Record
  cacheMinutes : Int

namespace Report

def defaultTitle : String := "Data Comparison"

/-- The title of an exported report; an empty one is none. -/
def titleOr (title : Option String) : String :=
  match title with
  | some t => if t = "" then defaultTitle else t
  | none => defaultTitle

def labels (r : Report) : String := " | ".intercalate (r.rows.map Row.label)

end Report
end CrossCheck
