import CrossCheck.Text.Basic
import CrossCheck.Text.Case

/-!
What an environment says about an object: its fields, their types and uses.
-/

namespace CrossCheck

/-- Field types are names that backends choose; they are compared without regard to case. -/
structure Field where
  name : String
  label : Option String
  type : String
  aggregatable : Bool
  filterable : Bool
deriving DecidableEq

namespace Field

def numericTypes : List String := ["double", "currency", "percent", "int", "integer", "long"]

def temporalTypes : List String := ["date", "datetime", "time"]

def isNumeric (f : Field) : Bool := numericTypes.contains (Text.lower f.type)

def isTemporal (f : Field) : Bool := temporalTypes.contains (Text.lower f.type)

end Field

structure ObjectSchema where
  name : String
  label : Option String
  fields : List Field
deriving DecidableEq

namespace ObjectSchema

/-- The name under which a field is looked up. -/
def lookupKey (name : String) : String := Text.lower (Text.strip name)

/-- The first field of that name, case and surrounding blanks of the reference apart. -/
def field? (s : ObjectSchema) (name : String) : Option Field :=
  s.fields.find? fun f => Text.lower f.name == lookupKey name

end ObjectSchema
end CrossCheck
