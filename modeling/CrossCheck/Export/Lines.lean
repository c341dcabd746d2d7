import CrossCheck.Calendar
import CrossCheck.Report

/-!
A report as plain lines, in columns for a type of fixed width.
-/

namespace CrossCheck
namespace Cell

/-- A cell as exports show it. -/
def display (c : Cell) : String := c.toValue.display

end Cell

namespace Report

def cellText : Cell → String
  | .null => "-"
  | c => c.display

def differenceCell : Option Number → Cell
  | some n => .number n
  | none => .null

def column (width : Nat) (s : String) : String := String.ofList (Text.padRight width s.toList)

/-- A label is cut so that a blank always follows it; values are never cut. -/
def rowLine (r : Row) : String :=
  column 40 (String.ofList (r.label.toList.take 39)) ++ column 18 (cellText r.source) ++
    column 18 (cellText r.target) ++ cellText (differenceCell r.difference)

def environmentText (e : EnvironmentInfo) : String := e.name ++ " (" ++ e.id ++ ")"

/-- The facts about a report that every export begins with. -/
def header (r : Report) (title : Option String) (generated : Timestamp) : List (String × String) :=
  [("Report Title", titleOr title), ("Generated At", String.ofList generated.iso),
   ("Source", environmentText r.source), ("Target", environmentText r.target),
   ("Object", r.object), ("Metrics", r.labels), ("Filter", r.filter.getD ""),
   ("Sample Size", String.ofList (intText r.sampleSize))]

def lines (r : Report) (title : Option String) (generated : Timestamp) : List String :=
  (r.header title generated).map (fun (name, text) => name ++ ": " ++ text) ++
    ["", column 40 "Metric" ++ column 18 "Source" ++ column 18 "Target" ++ "Difference"] ++
    r.rows.map rowLine ++
    ["", "Source Samples: " ++ toString r.sourceSamples.length,
     "Target Samples: " ++ toString r.targetSamples.length]

end Report
end CrossCheck
