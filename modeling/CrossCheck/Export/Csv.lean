import CrossCheck.Export.Lines

/-!
Reports as comma-separated values: the header facts, the metrics, and the sampled rows of each
environment that has some.
-/

namespace CrossCheck
namespace Csv

/-- Quotes only where the field would otherwise be read as something else; a quote inside is
written twice. -/
def field (s : String) : List Char :=
  let cs := s.toList
  if cs.any fun c => c = ',' || c = '"' || c = '\n' then
    '"' :: cs.flatMap (fun c => if c = '"' then ['"', '"'] else [c]) ++ ['"']
  else cs

/-- A single empty field is quoted, or it would be no field at all. -/
def row (fields : List String) : List Char :=
  match fields with
  | [""] => ['"', '"', '\n']
  | _ => Text.joinWith [','] (fields.map field) ++ ['\n']

/-- The names of all columns in ascending order, `Id` first. -/
def sampleColumns (samples : List Record) : List String :=
  let names := (samples.flatMap Named.names).eraseDups.mergeSort fun a b => !(b < a)
  if names.contains "Id" then "Id" :: names.filter (· ≠ "Id") else names

def cellText : Value → String
  | .null => ""
  | v => v.display

def sampleRows (title : String) (samples : List Record) : List (List String) :=
  if samples.isEmpty then []
  else
    let columns := sampleColumns samples
    [[], [title], columns] ++
      samples.map fun r => columns.map fun name => cellText ((r.get? name).getD .null)

def metricRow (r : Row) : List String :=
  [r.label, cellText r.source.toValue, cellText r.target.toValue,
   cellText (Report.differenceCell r.difference).toValue]

def rows (r : Report) (title : Option String) (generated : Timestamp) : List (List String) :=
  (r.header title generated).map (fun (name, text) => [name, text]) ++
    [[], ["Metric", "Source", "Target", "Difference"]] ++ r.rows.map metricRow ++
    sampleRows "Sample Records - Source" r.sourceSamples ++
    sampleRows "Sample Records - Target" r.targetSamples

def ofReport (r : Report) (title : Option String) (generated : Timestamp) : String :=
  String.ofList ((rows r title generated).flatMap row)

end Csv
end CrossCheck
