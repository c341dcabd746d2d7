import CrossCheck.Discovery

/-!
Environments: what can be both described and queried, under a name.
-/

namespace CrossCheck

structure Environment (σ ε : Type) extends SchemaSource σ ε, Backend σ ε where
  name : String

end CrossCheck
