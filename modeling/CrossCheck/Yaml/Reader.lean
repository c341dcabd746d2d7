import CrossCheck.Yaml.Graph
import CrossCheck.Yaml.Token.Lexer

/-!
Reading YAML documents, one in a file.  Its characters are those that can be printed.
-/

namespace CrossCheck
namespace Yaml

/-- The characters that a document may hold. -/
def isAllowed (c : Char) : Bool :=
  c = '\t' || c = '\n' || c = '\r' || (0x20 ≤ c.toNat && c.toNat ≤ 0x7e) || c.toNat = 0x85 ||
    (0xa0 ≤ c.toNat && c.toNat ≠ 0xfffe && c.toNat ≠ 0xffff)

/-- The values of so many levels of a document; an empty one holds nothing. -/
def read (levels : Nat) (s : String) : Except Fault Node :=
  if s.toList.all isAllowed then do
    let (root, g) := Graph.empty.addTree (← Tree.ofTokens (tokens (Text.unifyLineEnds s.toList)))
    return (← g.evaluated root).node levels root
  else .error .malformed

end Yaml
end CrossCheck
