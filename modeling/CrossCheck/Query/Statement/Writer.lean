import CrossCheck.Query.DateLiteral
import CrossCheck.Query.Layout
import CrossCheck.Query.Statement.Reader

/-!
Writing queries.  Comments stand behind the part that they belong to, behind the operator where
that part is two values around one, and before a clause.
-/

namespace CrossCheck
namespace Query

open Text Layout

def Constant.write : Constant → List Char
  | .null => "NULL".toList
  | .true => "TRUE".toList
  | .false => "FALSE".toList

namespace Writing

/-- A sign in front; two signs in a row would begin a comment. -/
def negative (cs : List Char) : List Char :=
  if cs.head? = some '-' then '-' :: ' ' :: cs else '-' :: cs

def cast (value : List Char) (type : String) : List Char :=
  "CAST(".toList ++ value ++ " AS ".toList ++ type.toList ++ [')']

/-- A value as a day, which a day is already. -/
def day (e : Expr) (value : List Char) : List Char := if e.isDay then value else cast value "DATE"

/-- An argument of the operator `IS`. -/
def isNull (e : Expr) (value : List Char) : List Char :=
  let encloses : Bool := match e.withoutNotes.1 with
    | .binary .is _ _ => false
    | _ => e.isBinary
  (if encloses then '(' :: value ++ [')'] else value) ++ " IS NULL".toList

/-- Different values.  Where the database compares several at once, none of them may be missing. -/
def distinct (s : Spelling) (values : List Expr) (texts : List (List Char)) : List Char :=
  let listed :=
    if s = .executable && texts.length > 1 then
      "CASE".toList ++
        (List.zipWith isNull values texts).flatMap (fun test =>
          " WHEN ".toList ++ test ++ " THEN NULL".toList) ++
        " ELSE (".toList ++ commas texts ++ ") END".toList
    else commas texts
  "DISTINCT".toList ++ if listed.isEmpty then [] else ' ' :: listed

/-- How many bytes a value has, of which the database asks in a way that depends on its type. -/
def size (e : Expr) (value : List Char) : List Char :=
  if e.isText then "LENGTH(".toList ++ value ++ [')']
  else
    "CASE TYPEOF(".toList ++ value ++ ") WHEN 'BLOB' THEN OCTET_LENGTH(".toList ++
      cast value "BLOB" ++ ") ELSE LENGTH(".toList ++ cast value "TEXT" ++ ") END".toList

/-- Where a text is found in another one, from a place on. -/
def found (value part start : List Char) : List Char :=
  let place := "STRPOS(SUBSTRING(".toList ++ value ++ ", ".toList ++ start ++ "), ".toList ++
    part ++ [')']
  "CASE WHEN ".toList ++ place ++ " = 0 THEN 0 ELSE ".toList ++ place ++ " + ".toList ++ start ++
    " - 1 END".toList

/-- A moment moved by a span of time.  A text is taken for a day. -/
def moved (sign : String) (e : Expr) (value span : List Char) : List Char :=
  (match e.withoutNotes.1 with
    | .text _ => cast value "DATE"
    | _ => value) ++ sign.toList ++ span

/-- A text as the moment that it spells. -/
def textMoment (e : Expr) (value : List Char) : List Char :=
  match e.withoutNotes.1 with
  | .text cs => cast value (if cs.contains ':' then "TIMESTAMP" else "DATE")
  | _ => value

/-- A call as the database runs it. -/
def executableCall (function : String) (arguments : List Expr) (texts : List (List Char)) :
    List Char :=
  match function, arguments, texts with
  | "DATE", [e], [value] => day e value
  | "OCTET_LENGTH", [e], [value] => size e value
  | "STRPOS", _, [value, part, start] => found value part start
  | "STR_TO_DATE", _, texts => cast (call .executable "STRPTIME".toList texts) "DATE"
  | "FORMAT", [_, .number ds], [value, _] =>
    call .executable "FORMAT".toList ["'\x7b:,.".toList ++ ds ++ "f\x7d'".toList, value]
  | "FORMAT", _, texts => call .executable "NUMBER_TO_STR".toList texts
  | "TIMESTAMPDIFF", _, [unit, a, b] =>
    call .executable "DATE_DIFF".toList ['\'' :: unit ++ ['\''], a, b]
  | "DATEDIFF", [d, e], [a, b] =>
    call .executable "DATE_DIFF".toList ["'DAY'".toList, textMoment e b, textMoment d a]
  | "DATE_ADD", [e, _], [value, span] => moved " + " e value span
  | "DATE_SUB", [e, _], [value, span] => moved " - " e value span
  | "REGEXP_ILIKE", _, texts => call .executable "REGEXP_MATCHES".toList (texts ++ ["'i'".toList])
  | "FROM_UNIXTIME", _, value :: _ => call .executable "TO_TIMESTAMP".toList [value]
  | "SHA2", _, value :: size =>
    call .executable ("SHA".toList ++ (size.head?.getD "256".toList)) [value]
  | "TIMESTAMP", _, [value] => cast value "TIMESTAMP"
  | "TIME", _, [value] =>
    cast (cast value "TIMESTAMPTZ" ++ " AT TIME ZONE ".toList) "TIME"
  | "CONVERT_TZ", _, [value, before, after] =>
    cast value "TIMESTAMP" ++ " AT TIME ZONE ".toList ++ before ++ " AT TIME ZONE ".toList ++ after
  | "MEMBER", _, [value, rows] => call .executable "JSON_ARRAY_CONTAINS".toList [value, rows]
  | function, _, texts =>
    if Function.moments.any (·.2 = function) then Spelling.moment .executable function
    else call .executable (Spelling.function .executable function).toList texts

/-- What is cut off a text, which the vendor names before it. -/
def trimmed (side value part : List Char) : List Char :=
  "TRIM(".toList ++ side ++ part ++ " FROM ".toList ++ value ++ [')']

/-- A format as the vendor spells it. -/
def formatText (e : Expr) (value : List Char) : List Char :=
  match e with
  | .text cs => Spelling.text .readable (MomentFormat.toQuery cs)
  | _ => value

/-- A call as the vendor spells it: a median is the middle of a distribution, and the extremes of
several values have names of their own. -/
def readableCall (function : String) (arguments : List Expr) (texts : List (List Char)) :
    List Char :=
  match function, texts with
  | "DATE_FORMAT", _ | "FROM_UNIXTIME", _ | "STR_TO_DATE", _ | "STR_TO_TIME", _ =>
    call .readable (Spelling.function .readable function).toList
      (texts.take 1 ++ (List.zipWith formatText arguments texts).drop 1)
  | "MEDIAN", _ => call .readable "PERCENTILE_CONT".toList (texts ++ ["0.5".toList])
  | "MAX", _ :: _ :: _ => call .readable "GREATEST".toList texts
  | "MIN", _ :: _ :: _ => call .readable "LEAST".toList texts
  | "STRPOS", value :: part :: start => call .readable "LOCATE".toList (part :: value :: start)
  | "TRIM", [value, part] => trimmed [] value part
  | "TRIM_BOTH", [value, part] => trimmed "BOTH ".toList value part
  | "LTRIM", [value, part] => trimmed "LEADING ".toList value part
  | "RTRIM", [value, part] => trimmed "TRAILING ".toList value part
  | "UNICODE", [value] => "ORD(CONVERT(".toList ++ value ++ " USING utf32))".toList
  | "MEMBER", [value, rows] => value ++ " MEMBER OF(".toList ++ rows ++ [')']
  | function, texts => call .readable (Spelling.function .readable function).toList texts

def knownCall (s : Spelling) (function : String) (arguments : List Expr)
    (texts : List (List Char)) : List Char :=
  match s with
  | .executable => executableCall function arguments texts
  | .readable => readableCall function arguments texts

/-- Whether a call is of the function that counts different values, which the database lacks. -/
def countsDistinct (s : Spelling) (n : Name) : Bool :=
  s = .executable && upperChars n.chars = "COUNT_DISTINCT".toList

def otherCall (s : Spelling) (n : Name) (arguments : List Expr) (texts : List (List Char)) :
    List Char :=
  if countsDistinct s n then "COUNT(".toList ++ distinct s arguments texts ++ [')']
  else call s (if n.enclosed then s.name n else upperChars n.chars) texts

/-- A span of time: what counts its units stands in parentheses unless it is simple. -/
def interval (s : Spelling) (e : Expr) (value : List Char) (unit : Option (List Char)) :
    List Char :=
  let simple : Bool := match e.withoutNotes.1 with
    | .number _ | .text _ | .paren _ => true
    | .negative _ => s = .readable
    | e => s = .readable && e.isPath
  "INTERVAL ".toList ++ (if simple then value else '(' :: value ++ [')']) ++
    (unit.map (' ' :: ·)).getD []

/-- What an order goes by.  The database is told where missing values come, unless they come last;
the vendor orders by their absence first where they do not come where it puts them. -/
def ordered (s : Spelling) (e : Expr) (value : List Char) (direction : Option Direction)
    (nulls : Option NullPlace) : List Char :=
  let down := direction = some .descending
  let first := nulls = some .first || (nulls = none && !down)
  let way := match direction with
    | none => []
    | some .ascending => " ASC".toList
    | some .descending => " DESC".toList
  let isWhole : Bool := match e.withoutNotes.1 with
    | .number ds | .negative (.number ds) => ds.all isDigit
    | _ => false
  match s with
  | .executable => value ++ way ++ if first then " NULLS FIRST".toList else []
  | .readable =>
    if first = !down || isWhole then value ++ way
    else
      "CASE WHEN ".toList ++ value ++ " IS NULL THEN 1 ELSE 0 END".toList ++
        (if first then " DESC".toList else []) ++ ", ".toList ++ value ++ way

/-- One of two conditions, but not both, which the database has no word for. -/
def either (a b : List Char) : List Char :=
  '(' :: a ++ " AND (NOT ".toList ++ b ++ ")) OR ((NOT ".toList ++ a ++ ") AND ".toList ++ b ++
    [')']

/-- Two values around an operator, where both sides stay. -/
def infixed (s : Spelling) (op : Operator) (left right behindSymbol : List Char) : List Char :=
  left ++ ' ' :: (s.symbol op).toList ++ behindSymbol ++ ' ' :: right

/-- What the database reads as one value only between parentheses: a path into a value, which is
an argument of another operator than `parent`. -/
def held (s : Spelling) (parent : Option Operator) (e : Expr) (w : Written) : Written :=
  match s, e.withoutNotes.1 with
  | .executable, .binary op _ _ =>
    if (op = .json || op = .jsonText) && parent ≠ some op then
      .plain ('(' :: w.body ++ [')']) w.tail
    else w
  | _, _ => w

def binary (s : Spelling) (op : Operator) (left right : Written) (ns : List Note) : Written :=
  let mid := behind s ns
  if op.joins then
    let links := left.links ++ joinLink ((s.symbol op).toList ++ mid) right.links
    let body := if s = .executable && op = .xor then either left.text right.text
      else Layout.chain s links
    ⟨links, body, []⟩
  else match s, op with
    | _, .within => .plain (infixed s op left.text right.text []) mid
    | .readable, .json => .plain (call s "JSON_EXTRACT".toList [left.text, right.text]) []
    | .executable, .bitXor => .plain (call s "XOR".toList [left.text, right.text]) []
    | .readable, .alike =>
      let lower (w : Written) := "LOWER(".toList ++ w.text ++ [')']
      .plain (infixed s op (lower left) (lower right) []) []
    | .readable, .inZone => .plain left.text mid
    | .readable, .different =>
      .plain ("NOT ".toList ++ infixed s op left.text right.text mid) []
    | _, _ => .plain (infixed s op left.text right.text mid) []

/-- How rows are joined, without what says nothing where no condition follows. -/
def joinWords (s : Spelling) (ws : List String) (conditioned : Bool) : List String :=
  match s with
  | .readable => ws
  | .executable =>
    let sides := ["LEFT", "RIGHT", "FULL"]
    if !conditioned && ws.all (sides ++ ["INNER", "OUTER"]).contains then []
    else if ws.any ["SEMI", "ANTI"].contains then ws.filter (!sides.contains ·)
    else ws

def join (s : Spelling) (ws : List String) (table : List Char) (on : Option (List Char))
    (columns : List (List Char)) : List Char :=
  let condition := match on with
    | some on => some ("ON ".toList ++ indentRest on)
    | none => if columns.isEmpty then none else some ("USING (".toList ++ commas columns ++ [')'])
  let ws := joinWords s ws condition.isSome
  if ws.isEmpty && condition.isNone then ", ".toList ++ table
  else
    let ws := if ws = ["STRAIGHT_JOIN"] then ws else ws ++ ["JOIN"]
    s.separator :: joinWith [' '] (ws.map String.toList) ++ ' ' :: table ++
      (condition.map fun c => if s.broken then "\n  ".toList ++ c else ' ' :: c).getD []

/-- A clause behind its comments. -/
def behindNotes (s : Spelling) (ns : List Note) (clause : List Char) : List Char :=
  s.separator :: ahead s ns ++ clause

/-- Clauses in the order in which they are written. -/
def inOrder (clauses : List (Nat × List Char)) : List Char :=
  (List.range 10).flatMap fun place =>
    (clauses.filter (·.1 = place)).flatMap Prod.snd

/-- New names of columns behind that of their table. -/
def columnList (names : List (List Char)) : List Char :=
  if names.isEmpty then [] else '(' :: commas names ++ [')']

/-- Groups of several sizes at once: those of the keys, where some are given. -/
def subtotals (s : Spelling) (kind : Subtotals) (keys : List Written) : List Char :=
  let word := match kind with
    | .cube => "CUBE".toList
    | .rollup => "ROLLUP".toList
  if keys.isEmpty then "WITH ".toList ++ word
  else word ++ ' ' :: enclosed s (items s keys)

/-- Such groups behind the keys, if there are some, cubes first. -/
def allSubtotals (s : Spelling) (keyed : Bool) (texts : List (Subtotals × List Char)) :
    List Char :=
  let ofKind (kind : Subtotals) : List (List Char) :=
    let found := (texts.filter (·.1 = kind)).map Prod.snd
    if found.isEmpty then [] else [s.separator :: commas found]
  let all := joinWith [','] (ofKind .cube ++ ofKind .rollup)
  let apart := keyed && !all.isEmpty && all.drop 1 ≠ "WITH CUBE".toList &&
    all.drop 1 ≠ "WITH ROLLUP".toList
  if apart then ',' :: all else all

def setWord : SetOperator → String
  | .union => "UNION"
  | .except => "EXCEPT"
  | .intersect => "INTERSECT"

end Writing

open Writing

mutual

/-- An expression with the comments that stand behind it. -/
def Expr.written (s : Spelling) (ns : List Note) : Expr → Written
  | .noted e own => e.written s (own ++ ns)
  | .binary op left right =>
    Writing.binary s op (held s op left (left.written s [])) (held s op right (right.written s []))
      ns
  | .number digits => .plain digits (behind s ns)
  | .hexadecimal digits => .plain (s.hexadecimal digits) (behind s ns)
  | .bits digits => .plain (s.bits digits) (behind s ns)
  | .text body => .plain (s.text body) (behind s ns)
  | .national body => .plain ('N' :: s.text body) (behind s ns)
  | .introduced mark e => .plain (mark ++ ' ' :: (e.written s []).text) (behind s ns)
  | .constant c => .plain c.write (behind s ns)
  | .everything => .plain ['*'] (behind s ns)
  | .bare word => .plain word (behind s ns)
  | .moment function => .plain (s.moment function) (behind s ns)
  | .name n => .plain (s.name n) (behind s ns)
  | .field n => .plain (s.name n) (behind s ns)
  | .member e part =>
    .plain ((e.written s []).text ++ '.' :: (part.written s []).text)
      (if e.isPath then behind s ns else [])
  | .parameter e => .plain (s.parameterMark :: (e.written s []).text) (behind s ns)
  | .sessionParameter e => .plain ('@' :: '@' :: (e.written s []).text) (behind s ns)
  | .placeholder none => .plain ['?'] (behind s ns)
  | .placeholder (some n) => .plain (s.placeholderMark :: n) (behind s ns)
  | .call (.known function) arguments =>
    .plain (knownCall s function arguments (Expr.eachText s arguments)) (behind s ns)
  | .call (.other n) arguments =>
    .plain (otherCall s n arguments (Expr.eachText s arguments))
      (if countsDistinct s n then [] else behind s ns)
  | .distinct values => .plain (Writing.distinct s values (Expr.eachText s values)) (behind s ns)
  | .cast value type =>
    .plain
      (if s.broken && ["TIMESTAMPTZ", "TIMESTAMPLTZ"].contains type.name then
        call s "TIMESTAMP".toList [(value.written s []).text]
      else Writing.cast (value.written s []).text (String.ofList (s.type type))) (behind s ns)
  | .day value =>
    .plain (if s.broken then (value.written s []).text else
      Writing.day value (value.written s []).text) (behind s ns)
  | .paren inner => .plain (enclosed s (inner.written s []).text) (behind s ns)
  | .tuple items => .plain ('(' :: listed s (Expr.eachWritten s items) ++ [')']) (behind s ns)
  | .negative inner => .plain (Writing.negative (inner.written s []).text) (behind s ns)
  | .complement inner => .plain ('~' :: (inner.written s []).text) (behind s ns)
  | .not inner =>
    .plain ("NOT ".toList ++ (held s none inner (inner.written s [])).text) (behind s ns)
  | .between value low high =>
    .plain ((value.written s []).text ++ " BETWEEN ".toList ++ (low.written s []).text ++
      " AND ".toList ++ (high.written s []).text) (behind s ns)
  | .among value items =>
    .plain ((held s none value (value.written s [])).text ++ " IN (".toList ++
      listed s (Expr.eachWritten s items) ++ [')']) (behind s ns)
  | .amongRows value q =>
    .plain ((held s none value (value.written s [])).text ++ " IN ".toList ++
      enclosed s (q.write s)) (behind s ns)
  | .case subject branches otherwise =>
    .plain (cases s (
      [joinWith [' '] ("CASE".toList :: Expr.optionText s subject)] ++
        Expr.branchTexts s branches ++
        (Expr.optionText s otherwise).map ("ELSE ".toList ++ ·) ++ ["END".toList])) (behind s ns)
  | .interval value unit =>
    .plain (Writing.interval s value (value.written s []).text
      ((Expr.optionText s unit).head?.map s.unit)) (behind s ns)
  | .extract (.name n) value =>
    .plain ("EXTRACT(".toList ++ n.chars ++ " FROM ".toList ++ (value.written s []).text ++ [')'])
      (behind s ns)
  | .extract part value =>
    .plain ("EXTRACT(".toList ++ (part.written s []).text ++ " FROM ".toList ++
      (value.written s []).text ++ [')']) (behind s ns)
  | .gathered (.arranged value order _) separator =>
    let separator := (Expr.optionText s separator).headD "','".toList
    .plain (
      if s = .executable then
        call s "LISTAGG".toList [(value.written s []).text, separator ++ " ORDER BY ".toList ++
          commas (Expr.eachText s order)]
      else "GROUP_CONCAT(".toList ++ (value.written s []).text ++ " ORDER BY ".toList ++
        commas (Expr.eachText s order) ++ " SEPARATOR ".toList ++ separator ++ [')'])
      (behind s ns)
  | .gathered value separator =>
    let separator := (Expr.optionText s separator).headD "','".toList
    .plain (
      if s = .executable then call s "LISTAGG".toList [(value.written s []).text, separator]
      else "GROUP_CONCAT(".toList ++ (value.written s []).text ++ " SEPARATOR ".toList ++
        separator ++ [')']) (behind s ns)
  | .named value aliasName =>
    .plain ((value.written s []).text ++ " AS ".toList ++ (aliasName.written s []).text)
      (behind s ns)
  | .namedAll value names =>
    .plain ((value.written s []).text ++ " AS (".toList ++ commas (Expr.eachText s names) ++ [')'])
      (behind s ns)
  | .ordered value direction nulls =>
    .plain (Writing.ordered s value (value.written s []).text direction nulls) (behind s ns)
  | .arranged value order limit =>
    .plain ((value.written s []).text ++
      (if order.isEmpty then [] else " ORDER BY ".toList ++ commas (Expr.eachText s order)) ++
      (Expr.optionText s limit).flatMap (s.separator :: "LIMIT ".toList ++ ·)) (behind s ns)
  | .nulls value word => .plain ((value.written s []).text ++ ' ' :: word.toList) (behind s ns)
  | .filtered value condition =>
    .plain ((value.written s []).text ++ " FILTER(".toList ++
      Layout.clause s "WHERE" (condition.written s []).text ++ [')']) (behind s ns)
  | .inGroup value order =>
    .plain ((value.written s []).text ++ " WITHIN GROUP (".toList ++
      Layout.clause s "ORDER BY" (Layout.items s (Expr.eachWritten s order)) ++ [')']) (behind s ns)
  | .windowed value window =>
    .plain ((value.written s []).text ++ " OVER ".toList ++
      (Expr.optionText s window).headD ['(', ')']) (behind s ns)
  | .window base partition order frame =>
    let parts := (if partition.isEmpty then [] else
        ["PARTITION BY ".toList ++ commas (Expr.eachText s partition)]) ++
      (if order.isEmpty then [] else ["ORDER BY ".toList ++ commas (Expr.eachText s order)]) ++
      Expr.optionText s frame
    let base := Expr.optionText s base
    .plain (if parts.isEmpty && !base.isEmpty then base.flatten
      else '(' :: Layout.arguments s "" (base ++ parts) ++ [')']) (behind s ns)
  | .frame unit low high =>
    .plain (unit.toList ++ " BETWEEN ".toList ++ (low.written s []).text ++ " AND ".toList ++
      (high.written s []).text) (behind s ns)
  | .bound value side =>
    .plain ((value.written s []).text ++ if side.isEmpty then [] else ' ' :: side.toList)
      (behind s ns)
  | .rows q => .plain (q.write s) (behind s ns)
  | .exists q => .plain ("EXISTS".toList ++ enclosed s (q.write s)) (behind s ns)
  | .leading word (.rows q) =>
    .plain (word.toList ++ (if word = "ANY" && q.isOpen then [] else [' ']) ++
      if q.isOpen then enclosed s (q.write s) else q.write s) (behind s ns)
  | .leading word (.tuple items) =>
    .plain (word.toList ++ '(' :: listed s (Expr.eachWritten s items) ++ [')']) (behind s ns)
  | .leading word e => .plain (word.toList ++ ' ' :: (e.written s []).text) (behind s ns)
  | .matched fields text mode =>
    .plain (call s "MATCH".toList (Expr.eachText s fields) ++ " AGAINST(".toList ++
      (text.written s []).text ++ (if mode.isEmpty then [] else ' ' :: mode.toList) ++ [')'])
      (behind s ns)

def Expr.eachWritten (s : Spelling) : List Expr → List Written
  | [] => []
  | e :: es => e.written s [] :: Expr.eachWritten s es

def Expr.eachText (s : Spelling) : List Expr → List (List Char)
  | [] => []
  | e :: es => (e.written s []).text :: Expr.eachText s es

def Expr.optionText (s : Spelling) : Option Expr → List (List Char)
  | none => []
  | some e => [(e.written s []).text]

def Expr.branchTexts (s : Spelling) : List (Expr × Expr) → List (List Char)
  | [] => []
  | (condition, result) :: more =>
    ("WHEN ".toList ++ (condition.written s []).text) ::
      ("THEN ".toList ++ (result.written s []).text) :: Expr.branchTexts s more

def Rows.write (s : Spelling) : Rows → List Char
  | .selection ns modifiers distinct items clauses =>
    let words := ["SELECT"] ++ (if distinct then ["DISTINCT"] else []) ++ modifiers
    ahead s ns ++
      Layout.clause s (" ".intercalate words) (Layout.items s (Expr.eachWritten s items)) ++
      inOrder (Rows.writeClauses s clauses)
  | .combined op all ns left right clauses =>
    left.write s ++ s.separator :: ahead s ns ++ (setWord op).toList ++
      (if all then " ALL".toList else []) ++ s.separator :: right.write s ++
      inOrder (Rows.writeClauses s clauses)
  | .paren q clauses => enclosed s (q.write s) ++ inOrder (Rows.writeClauses s clauses)
  | .using recursive tables q =>
    "WITH ".toList ++ (if recursive then "RECURSIVE ".toList else []) ++
      commas (Rows.tableTexts s tables) ++ s.separator :: q.write s

def Rows.tableTexts (s : Spelling) : List (Expr × List Expr × Rows) → List (List Char)
  | [] => []
  | (label, columns, q) :: more =>
    ((label.written s []).text ++ columnList (Expr.eachText s columns) ++ " AS ".toList ++
      enclosed s (q.write s)) :: Rows.tableTexts s more

def Rows.subtotalTexts (s : Spelling) :
    List (Subtotals × List Expr) → List (Subtotals × List Char)
  | [] => []
  | (kind, keys) :: more =>
    (kind, subtotals s kind (Expr.eachWritten s keys)) :: Rows.subtotalTexts s more

def Rows.writeClauses (s : Spelling) : List Clause → List (Nat × List Char)
  | [] => []
  | c :: cs => (c.place, c.write s) :: Rows.writeClauses s cs

/-- A clause with what separates it from what stands before it. -/
def Clause.write (s : Spelling) : Clause → List Char
  | .source ns t => behindNotes s ns ("FROM ".toList ++ t.write s)
  | .join ns words t on columns =>
    (if (notes s ns).isEmpty || (words.isEmpty && on.isNone) then [] else
      s.separator :: notes s ns) ++
      Writing.join s words (t.write s) (Expr.optionText s on).head? (Expr.eachText s columns) ++
      if words.isEmpty && on.isNone then behind s ns else []
  | .condition ns e => behindNotes s ns (Layout.clause s "WHERE" (e.written s []).text)
  | .group ns all keys more =>
    behindNotes s ns (Layout.clause s (if all then "GROUP BY ALL" else "GROUP BY")
      (Layout.items s (Expr.eachWritten s keys))) ++
      allSubtotals s (!keys.isEmpty) (Rows.subtotalTexts s more)
  | .having ns e => behindNotes s ns (Layout.clause s "HAVING" (e.written s []).text)
  | .qualify e => s.separator :: Layout.clause s "QUALIFY" (e.written s []).text
  | .order ns keys =>
    behindNotes s ns (Layout.clause s "ORDER BY" (Layout.items s (Expr.eachWritten s keys)))
  | .limit ns e => s.separator :: "LIMIT ".toList ++ (e.written s []).text ++ behind s ns
  | .offset ns e => s.separator :: "OFFSET ".toList ++ (e.written s []).text ++ behind s ns
  | .lock words => if s = .executable then [] else s.separator :: words.toList

def Source.write (s : Spelling) : Source → List Char
  | .noted t ns => t.write s ++ behind s ns
  | .table path => joinWith ['.'] (Expr.eachText s path)
  | .parts t names =>
    t.write s ++ " PARTITION(".toList ++ commas (Expr.eachText s names) ++ [')']
  | .hinted t hints =>
    t.write s ++ if s = .executable then [] else Source.hintTexts s hints
  | .query q => q.write s
  | .paren t => enclosed s (t.write s)
  | .joined t joins => t.write s ++ indentRest (inOrder (Rows.writeClauses s joins))
  | .named t aliasName columns =>
    t.write s ++ " AS ".toList ++ (Expr.optionText s aliasName).flatten ++
      columnList (Expr.eachText s columns)

def Source.hintTexts (s : Spelling) : List (String × List Expr) → List Char
  | [] => []
  | (word, names) :: more =>
    ' ' :: word.toList ++ " (".toList ++ commas (Expr.eachText s names) ++ ')' ::
      Source.hintTexts s more

end

def Statement.write (s : Spelling) : Statement → String
  | .value e => String.ofList (releaseEnds (e.written s []).text)
  | .command word rest => String.ofList (trim (upperChars word ++ ' ' :: rest))

/-- A query in the words of the database; what is no query has no such form. -/
def translated (query : String) : Except Fault String := do
  return (← Statement.read query).write .executable

/-- The query a database runs. -/
def executable (query : String) : Except Fault String := statementBy translated query

/-- The query as a reader likes it; what is no query stays as it is. -/
def readable (query : String) : Except Fault String :=
  match Statement.read query with
  | .ok q => .ok (q.write .readable)
  | .error .malformed => .ok query
  | .error .tooDeep => .error .tooDeep

end Query
end CrossCheck
