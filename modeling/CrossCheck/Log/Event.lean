import CrossCheck.Value

/-!
What an operation reports about itself while it runs.
-/

namespace CrossCheck

inductive Level where
  | debug
  | info
  | warning
  | error
  | critical
deriving DecidableEq

namespace Level

def all : List Level := [debug, info, warning, error, critical]

def name : Level → String
  | debug => "debug"
  | info => "info"
  | warning => "warning"
  | error => "error"
  | critical => "critical"

/-- Higher is graver. -/
def gravity : Level → Nat
  | debug => 10
  | info => 20
  | warning => 30
  | error => 40
  | critical => 50

end Level

structure Event where
  level : Level
  name : String
  context : Record

namespace Event

/-- Names that stand for the event itself, and for what reports it. -/
def ownNames : List String := ["event", "self"]

/-- Whether the context leaves these names alone. -/
def isNamedOnce (e : Event) : Bool := !e.context.any fun m => ownNames.contains m.1

end Event

end CrossCheck
