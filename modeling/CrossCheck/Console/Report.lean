import CrossCheck.Console.Format
import CrossCheck.Console.Table
import CrossCheck.Document.Report
import CrossCheck.Schema

/-!
Reports and descriptions as tables.
-/

namespace CrossCheck
namespace Console

def cell (v : Value) : String := escape v.formatted

def differenceCell (d : Option Number) : String := (Document.ofOption Document.ofNumber d).formatted

/-- One row per metric, with numbers to the right. -/
def comparisonTable (r : Report) : Table where
  title := r.object ++ ": " ++ r.source.name ++ " vs " ++ r.target.name
  caption := (r.filter.filter (· ≠ "")).map ("where: " ++ ·)
  columns :=
    [⟨"Metric", .left⟩, ⟨"Source", .right⟩, ⟨"Target", .right⟩, ⟨"Target - Source", .right⟩]
  rows := r.rows.map fun row =>
    [escape row.label, cell row.source.toValue, cell row.target.toValue,
      differenceCell row.difference]

/-- The columns are those of the first record. -/
def sampleTable (environment : String) (samples : List Record) : Table :=
  let columns := (samples.head?.getD []).names
  { title := "Sample records - " ++ environment
    caption := none
    columns := columns.map (⟨·, .left⟩)
    rows := samples.map fun r => columns.map fun c => cell ((r.get? c).getD .null) }

/-- The comparison, and the samples of each environment that has any. -/
def reportTables (r : Report) : List Table :=
  comparisonTable r ::
    [(r.source.name, r.sourceSamples), (r.target.name, r.targetSamples)].filterMap
      fun (name, samples) => if samples.isEmpty then none else some (sampleTable name samples)

def yesNo (b : Bool) : String := if b then "yes" else "no"

/-- An empty label is none. -/
def labelOf (f : Field) : String := ((f.label.filter (· ≠ "")).getD "-")

def schemaTable (environment : String) (s : ObjectSchema) : Table where
  title := s.name ++ " (" ++ environment ++ ")"
  caption := none
  columns := ["Field", "Label", "Type", "Aggregatable", "Filterable"].map (⟨·, .left⟩)
  rows := s.fields.map fun f =>
    [f.name, labelOf f, f.type, yesNo f.aggregatable, yesNo f.filterable]

def printTables (ts : List Table) : Except Markup.Fault String :=
  (ts.mapM Table.lines).map fun lines => unlines lines.flatten

end Console
end CrossCheck
