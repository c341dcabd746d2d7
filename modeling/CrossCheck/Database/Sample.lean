import CrossCheck.Value

/-!
Sampled rows, whose values are kept simple enough for every form of a report.
-/

namespace CrossCheck
namespace Value

/-- Decimals become binary numbers and times text.  A signaling decimal is no number at all. -/
def plain? : Value → Option Value
  | decimal d => d.toBinary64?.map .float
  | date d => some (text (String.ofList d.iso))
  | time t => some (text (String.ofList t.iso))
  | timestamp t => some (text (String.ofList t.iso))
  | v => some v

end Value

namespace Record

def plain? (r : Record) : Option Record :=
  r.mapM fun (name, v) => v.plain?.map fun v => (name, v)

end Record
end CrossCheck
