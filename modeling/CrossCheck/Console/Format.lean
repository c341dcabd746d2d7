import CrossCheck.Value

/-!
Values as the console shows them.
-/

namespace CrossCheck
namespace Value

/-- Numbers have commas between their thousands and at most four places; nothing is a dash. -/
def formatted : Value → String
  | null => "-"
  | int n => String.ofList (groupedIntText n)
  | float x => x.placesText
  | v => v.display

end Value
end CrossCheck
