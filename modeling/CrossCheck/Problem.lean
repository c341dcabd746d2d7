import CrossCheck.Database.Endpoint
import CrossCheck.Registry
import CrossCheck.Service

/-!
Errors in the form in which they are reported: a code that never changes, a message for people,
and what the error is about.  Faults of data or of the program have no such form.
-/

namespace CrossCheck

structure Problem where
  code : String
  message : String
  attributes : Record

namespace Problem

def line (p : Problem) : String := p.code ++ ": " ++ p.message

def texts (attributes : List (String × String)) : Record :=
  attributes.map fun (name, s) => (name, .text s)

end Problem

open Problem

def Token.Error.problem (e : Token.Error) : Problem :=
  ⟨"InvalidMetric", e.message, texts [("token", e.token)]⟩

def Resolution.Error.problem? (e : Resolution.Error) : Option Problem :=
  match e with
  | .fieldNotFound object field environment => some ⟨"FieldNotFound", e.message,
      texts [("object_name", object), ("field_name", field), ("environment", environment)]⟩
  | .notAggregatable object field environment use => some ⟨"NonAggregatableField", e.message,
      texts [("object_name", object), ("field_name", field), ("environment", environment),
        ("metric_kind", use)]⟩
  | .unsupportedType object field type environment use required =>
    some ⟨"UnsupportedFieldType", e.message,
      texts [("object_name", object), ("field_name", field), ("environment", environment),
        ("metric_kind", use), ("field_type", type), ("required", required)]⟩
  | .unsupportedMetric _ => none

def Reconciliation.Error.problem? (e : Reconciliation.Error) : Option Problem :=
  match e with
  | .unsupportedMetric _ => none
  | _ => some ⟨"MetricValidationMismatch", e.message,
      [("position", Document.ofOption (fun n => .int n) e.position?)]⟩

def Compilation.Error.problem? (e : Compilation.Error) : Option Problem :=
  match e with
  | .noMetrics => some ⟨"EmptyMetricList", e.message, []⟩
  | .unsupportedMetric _ => none

def Database.Failure.problem? (e : Database.Failure) : Option Problem :=
  match e with
  | .objectNotFound object environment => some ⟨"ObjectNotFound", e.message,
      texts [("object_name", object), ("environment", environment)]⟩
  | _ => none

def Discovery.missingName : Problem := ⟨"MissingObjectName", Discovery.missingNameMessage, []⟩

def Comparison.timedOut (seconds : Binary64) : Problem :=
  ⟨"ComparisonTimeout", Comparison.timeoutMessage seconds, []⟩

def Registry.Unresolved.problem? : Registry.Unresolved → Option Problem
  | .unknown name known => some ⟨"EnvironmentNotFound", Registry.unknownMessage name known, []⟩
  | .unnameable | .nameTooLong => none

def Service.Error.problem? : Service.Error Database.Failure → Option Problem
  | .token e => some e.problem
  | .description .missingName => some Discovery.missingName
  | .description (.source e) => e.problem?
  | .description _ => none
  | .resolution e => e.problem?
  | .reconciliation e => e.problem?
  | .compilation e => e.problem?
  | .comparison (.evaluation (.backend e)) => e.problem?
  | .comparison (.timeout n) => some (Comparison.timedOut n)
  | .comparison _ => none

/-- Why a database could not do what it was asked, or a query could not be put to it. -/
def Database.Failure.queryMessage? : Database.Failure → Option String
  | .database message | .untranslated (.refused message) => some message
  | _ => none

def Service.Error.databaseMessage? : Service.Error Database.Failure → Option String
  | .description (.source e) | .comparison (.evaluation (.backend e)) => e.queryMessage?
  | _ => none

end CrossCheck
