import CrossCheck.Database.Endpoint
import CrossCheck.Database.Script
import CrossCheck.Proofs.Database.ColumnType
import CrossCheck.Proofs.Resolution.Fitness
import CrossCheck.Proofs.Session

/-!
Columns of nested types in schemas.  A database describes a table column by column, so what is
known of the type of a column is known of the field that a reference to it finds.  Metrics over
columns of nested types are refused, except that an array of a fixed size whose elements come down
to a scalar type passes for this type.
-/

namespace CrossCheck
namespace Database

open Session Text

/-! ## Descriptions -/

/-- What the catalog answers for a table: a row for each column, its name and its type. -/
def Lists (db : Database) (told : List Request) (table : String)
    (columns : List (String × String)) : Prop :=
  ∃ names, db.answer told columnsQuery [.text table] =
    .ok ⟨names, columns.map fun c => [.text c.1, .text c.2]⟩

theorem Script.lists_columnsOf (script : Script) (told : List Request) (table : String) :
    script.database.Lists told table (script.columnsOf table) := by
  refine ⟨["column_name", "data_type"], ?_⟩
  show script.answer told columnsQuery [.text table] = _
  rw [answer, if_neg (by decide), if_pos rfl]
  rfl

namespace Endpoint

/-- What the connection was told before it is asked for the columns of an object. -/
def toldBefore (s : State) (object : String) : List Request :=
  s.connection.getD [] ++ [.execute tablesQuery [.text (strip object)]]

variable {e : Endpoint} {db : Database} {s t : State}

theorem exists_connected (hdb : e.database = some db) (s : State) :
    ∃ t, e.connected s = (.ok db, t) ∧ t.connection = some (s.connection.getD []) := by
  obtain ⟨connection, requests, events⟩ := s
  unfold connected
  rw [hdb]
  cases connection with
  | none => exact ⟨_, rfl, rfl⟩
  | some told => exact ⟨_, rfl, rfl⟩

/-- A statement is answered as the database has it, and the connection was told of it. -/
theorem exists_run (hdb : e.database = some db) (sql : String) (parameters : List Value)
    (s : State) : ∃ t, e.run sql parameters s =
        ((db.answer (s.connection.getD []) sql parameters).mapError Failure.database, t) ∧
      t.connection = some (s.connection.getD [] ++ [.execute sql parameters]) := by
  obtain ⟨opened, hconnected, hopened⟩ := exists_connected hdb s
  refine ⟨opened.noted (.execute sql parameters), ?_, ?_⟩
  · have htold : opened.connection.getD [] = s.connection.getD [] := by
      rw [hopened, Option.getD_some]
    have hget : (get : Step State) opened = (.ok opened, opened) := rfl
    have hnote : note (.execute sql parameters) opened =
        (.ok (), opened.noted (.execute sql parameters)) := rfl
    rw [run, bind_of_ok hconnected, bind_of_ok hget, htold, bind_of_ok hnote]
    cases db.answer (s.connection.getD []) sql parameters <;> rfl
  · rw [State.noted, hopened]
    rfl

/-- The fields of a description are the columns that the catalog lists for the table. -/
theorem fields_of_describe (hdb : e.database = some db) {object : String} {schema : ObjectSchema}
    (h : e.describe object s = (.ok schema, t)) {columns : List (String × String)}
    (hlists : db.Lists (toldBefore s object) schema.name columns) :
    schema.fields = columns.map fun c => field c.1 c.2 := by
  obtain ⟨found, s', hfound, h⟩ := bind_ok_iff.1 h
  obtain ⟨t', hrun, htold⟩ := exists_run hdb tablesQuery [.text (strip object)] s
  obtain rfl : t' = s' := (Prod.mk.inj (hrun.symm.trans hfound)).2
  cases hrow : found.rows.head? with
  | none =>
    rw [hrow] at h
    exact absurd h failed_ne_ok
  | some row =>
    rw [hrow] at h
    obtain ⟨r, _, hr, h⟩ := bind_ok_iff.1 h
    obtain ⟨rfl, _⟩ := pure_ok_iff.1 h
    obtain ⟨_, hasked, _⟩ := exists_run hdb columnsQuery [.text (textAt row 0)] t'
    obtain ⟨names, hanswer⟩ := hlists
    rw [htold, Option.getD_some, ← toldBefore, hanswer, hr] at hasked
    obtain rfl := Except.ok.inj (Prod.mk.inj hasked).1
    simp only [List.map_map]
    rfl

end Endpoint

/-! ## Columns that are refused -/

/-- The column is the first of a table that a reference names, case and blanks around the reference
apart. -/
def AnswersFirst (columns : List (String × String)) (reference : String)
    (c : String × String) : Prop :=
  lower c.1 = lower (strip reference) ∧ ∃ before after, columns = before ++ c :: after ∧
    ∀ d ∈ before, lower d.1 ≠ lower (strip reference)

theorem AnswersFirst.finds {columns : List (String × String)} {reference : String}
    {c : String × String} (h : AnswersFirst columns reference c) {schema : ObjectSchema}
    (hfields : schema.fields = columns.map fun c => Endpoint.field c.1 c.2) :
    schema.Finds reference (Endpoint.field c.1 c.2) := by
  obtain ⟨hname, before, after, rfl, hbefore⟩ := h
  refine ⟨hname, before.map fun c => Endpoint.field c.1 c.2,
    after.map fun c => Endpoint.field c.1 c.2, ?_, ?_⟩
  · rw [hfields, List.map_append, List.map_cons]
  · exact List.forall_mem_map.2 hbefore

/-- Wherever a table with the column is described, of whatever database, metrics that use the
column are refused. -/
def Refused (column type : String) : Prop :=
  ∀ (e : Endpoint) (db : Database) (object : String) (s t : State) (schema : ObjectSchema)
      (columns : List (String × String)),
    e.database = some db → e.describe object s = (.ok schema, t) →
    db.Lists (Endpoint.toldBefore s object) schema.name columns →
    ∀ reference, AnswersFirst columns reference (column, type) →
    ∀ (environment : String) (m : Metric) (use : Use), ⟨reference, use⟩ ∈ m.fieldUses →
      (m.fieldUses = [⟨reference, use⟩] → Resolution.resolveMetric schema environment m =
        .error (.notAggregatable schema.name column environment use.name)) ∧
      ∀ ms, m ∈ ms → ∃ error, Resolution.resolve schema environment ms = .error error

theorem refused_of_not_aggregatable {column type : String}
    (h : (FieldType.ofColumn column type).aggregatable = false) : Refused column type := by
  intro e db object s t schema columns hdb hdescribe hlists reference hanswers environment m use
    huse
  have hfinds := hanswers.finds (Endpoint.fields_of_describe hdb hdescribe hlists)
  refine ⟨fun huses => Resolution.error_of_not_aggregatable huses hfinds h, fun ms hm => ?_⟩
  exact Sequence.exists_mapM_error_of_mem hm
    (Resolution.exists_error_of_not_aggregatable huse hfinds h)

/-- A column of a nested type is a field of which nothing is known, and metrics that use it are
refused.  The only nested types that pass for another one are arrays of a fixed size whose elements
come down to a scalar type: such a column is what a column of this type is. -/
theorem nested_refused {t : ColumnType} {column type : String} (hnested : t.isNested = true)
    (hcolumn : lower column ≠ "id") (htype : t.IsWritten type) :
    (t.takenFor? = none → FieldType.ofColumn column type = .unknown ∧ Refused column type) ∧
    ∀ name, t.takenFor? = some name →
      (∃ element size, t = .array element size) ∧
      FieldType.ofColumn column type = FieldType.ofColumn column name.text ∧
      ((FieldType.ofColumn column name.text).aggregatable = false → Refused column type) := by
  have hcongr := FieldType.ofColumn_congr htype column
  have htext := FieldType.ofColumn_text hcolumn t
  rw [← hcongr] at htext
  constructor
  · intro hnone
    rw [hnone] at htext
    have haggregatable : (FieldType.ofColumn column type).aggregatable = false := by
      rw [htext]
      rfl
    exact ⟨htext, refused_of_not_aggregatable haggregatable⟩
  · intro name hname
    rw [hname] at htext
    refine ⟨?_, htext, fun h => refused_of_not_aggregatable (by rwa [htext])⟩
    cases t with
    | scalar => exact absurd hnested Bool.false_ne_true
    | members | list => exact absurd hname nofun
    | array element size => exact ⟨element, size, rfl⟩

/-- A structure with an array in it, three integers, and what a catalog says of such columns. -/
def partsType : ColumnType := .array (.members .struct "a INTEGER[3], b VARCHAR") 2

def scoresType : ColumnType := .array (.scalar ⟨"INTEGER", by decide +kernel⟩) 3

def nestedScript : Script :=
  ⟨[⟨"Deal", [("Id", "VARCHAR"), ("Scores", "INTEGER[3]"),
    ("Parts", "struct(a INTEGER[3], b VARCHAR)[2]")]⟩], []⟩

def nestedEndpoint : Endpoint :=
  ⟨"deals", none, false, some "duckdb:memory:deals", .ok, some nestedScript.database⟩

def nestedSchema : ObjectSchema :=
  ⟨"Deal", some "Deal", [⟨"Id", some "Id", "id", true, true⟩,
    ⟨"Scores", some "Scores", "int", true, true⟩, ⟨"Parts", some "Parts", "anyType", false, true⟩]⟩

theorem describe_nestedEndpoint :
    (nestedEndpoint.describe " deal" .closed).1 = .ok nestedSchema := by decide +kernel

theorem nested_refused_parts :
    partsType.isNested = true ∧ lower "Parts" ≠ "id" ∧
      partsType.IsWritten "struct(a INTEGER[3], b VARCHAR)[2]" ∧ partsType.takenFor?.isNone ∧
      FieldType.ofColumn "Parts" "struct(a INTEGER[3], b VARCHAR)[2]" = .unknown ∧
      Resolution.resolveMetric nestedSchema "source" (.sumIf " parts" "Id = 1") =
        .error (.notAggregatable "Deal" "Parts" "source" "sum_if") := by
  have hcolumn : lower "Parts" ≠ "id" := by decide +kernel
  have htype : partsType.IsWritten "struct(a INTEGER[3], b VARCHAR)[2]" := by decide +kernel
  obtain ⟨hunknown, hrefused⟩ := (nested_refused rfl hcolumn htype).1 rfl
  have hanswers : AnswersFirst (nestedScript.columnsOf "Deal") " parts"
      ("Parts", "struct(a INTEGER[3], b VARCHAR)[2]") :=
    ⟨by decide +kernel, [("Id", "VARCHAR"), ("Scores", "INTEGER[3]")], [], rfl, by decide +kernel⟩
  refine ⟨rfl, hcolumn, htype, rfl, hunknown, ?_⟩
  exact (hrefused nestedEndpoint nestedScript.database " deal" .closed _ nestedSchema _ rfl
    (Prod.ext describe_nestedEndpoint rfl) (nestedScript.lists_columnsOf _ "Deal") " parts" hanswers
    "source" _ .sumIf (List.mem_singleton_self _)).1 rfl

/-- Three integers pass for one, and metrics over them are let through. -/
theorem sizedArray_aggregated :
    scoresType.isNested = true ∧ lower "Scores" ≠ "id" ∧ scoresType.IsWritten "INTEGER[3]" ∧
      FieldType.ofColumn "Scores" "INTEGER[3]" = ⟨"int", true⟩ ∧
      (nestedEndpoint.describe " deal" .closed).1 = .ok nestedSchema ∧
      Resolution.resolve nestedSchema "source"
          [.fieldAggregate ⟨.sum, "Scores"⟩, .countDistinct "Scores", .sumIf "Scores" "Id = 1"] =
        .ok [.fieldAggregate ⟨.sum, ⟨"Scores", "int", "Scores"⟩, .number⟩,
          .countDistinct ⟨"Scores", "int", "Scores"⟩ .number,
          .sumIf ⟨"Scores", "int", "Scores"⟩ "Id = 1" .number] :=
  ⟨rfl, by decide +kernel, by decide +kernel, by decide +kernel, describe_nestedEndpoint,
    by decide +kernel⟩

end Database
end CrossCheck
