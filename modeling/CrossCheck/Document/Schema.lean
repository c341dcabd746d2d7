import CrossCheck.Document.Scalar
import CrossCheck.Schema

/-!
Schemas as documents.  A backend that does not say whether a field can be aggregated or filtered
is taken to mean that it cannot.
-/

namespace CrossCheck
namespace Document

def field? (v : Value) : Option Field := do
  let r ← record? v
  return ⟨← required r "name" text?, ← optional r "label" text?, ← required r "type" text?,
    ← withDefault r "aggregatable" false bool?, ← withDefault r "filterable" false bool?⟩

def schema? (v : Value) : Option ObjectSchema := do
  let r ← record? v
  return ⟨← required r "name" text?, ← optional r "label" text?,
    ← withDefault r "fields" [] (items field?)⟩

def ofField (f : Field) : Value :=
  .record [("name", .text f.name), ("label", ofText? f.label), ("type", .text f.type),
    ("aggregatable", .bool f.aggregatable), ("filterable", .bool f.filterable)]

def ofSchema (s : ObjectSchema) : Value :=
  .record [("name", .text s.name), ("label", ofText? s.label),
    ("fields", .list (s.fields.map ofField))]

theorem field?_ofField (f : Field) : field? (ofField f) = some f := by
  obtain ⟨name, label, type, aggregatable, filterable⟩ := f
  cases label <;> rfl

theorem schema?_ofSchema (s : ObjectSchema) : schema? (ofSchema s) = some s := by
  obtain ⟨name, label, fields⟩ := s
  have h : (fields.map ofField).mapM field? = some fields := by
    induction fields with
    | nil => rfl
    | cons f fs ih => simp [field?_ofField, ih]
  cases label <;> simp [schema?, ofSchema, record?, required, optional, withDefault, nullable,
    text?, ofText?, ofOption, items, list?, Named.get?, List.lookup_cons, h]

end Document
end CrossCheck
