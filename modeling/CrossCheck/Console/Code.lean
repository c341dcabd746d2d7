import CrossCheck.Console.Markup
import CrossCheck.Text.Width

/-!
Source text on the console.  It is shown line by line as it stands, without markup: tabs become
blanks, characters that no console shows are left out, and a line ends at the edge.
-/

namespace CrossCheck
namespace Console

open Text

/-- The distance between the tab stops of source text. -/
def codeTab : Nat := 4

/-- A line with blanks up to the next stop in place of its tabs; `column` counts the characters
before it. -/
def expandStops (column : Nat) : List Char → List Char
  | [] => []
  | c :: cs =>
    if c = '\t' then
      let blanks := codeTab - column % codeTab
      List.replicate blanks ' ' ++ expandStops (column + blanks) cs
    else c :: expandStops (column + 1) cs

/-- The edge of the console. -/
def consoleWidth : Nat := 4000

def codeLine (line : List Char) : List Char :=
  crop consoleWidth ((expandStops 0 line).filter fun c => !Markup.isDropped c)

def code (s : String) : String :=
  String.ofList (joinWith ['\n'] ((splitOn '\n' (unifyLineEnds s.toList)).map codeLine))

end Console
end CrossCheck
