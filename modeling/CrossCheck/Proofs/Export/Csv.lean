import CrossCheck.Proofs.Export.Reading
import CrossCheck.Proofs.Named
import CrossCheck.Proofs.Sequence.Distinct
import CrossCheck.Proofs.Value
import Mathlib.Data.List.Forall2
import Mathlib.Data.List.Nodup

/-!
An exported report, read back.  `Lays` says which rows a report is made of, with no word of how they
were put together; a reader of the exported text finds these rows, whatever texts the report holds.
-/

namespace CrossCheck
namespace Csv

/-! ## The layout of a report -/

/-- What is missing leaves its cell empty. -/
inductive ShowsValue : Option Value → String → Prop
  | missing : ShowsValue none ""
  | null : ShowsValue (some .null) ""
  | shown {v : Value} (h : v ≠ .null) : ShowsValue (some v) v.display

/-- Every name of a record once, `Id` before all others and these in the order of their code
points. -/
structure IsHeader (samples : List Record) (names : List String) : Prop where
  nodup : names.Nodup
  mem_iff : ∀ name, name ∈ names ↔ ∃ record ∈ samples, name ∈ record.names
  ordered : names.Pairwise fun a b => a = "Id" ∨ (b ≠ "Id" ∧ a < b)

/-- The rows about the samples of an environment: none if there are no samples. -/
inductive IsSection (title : String) : List Record → List (List String) → Prop
  | absent : IsSection title [] []
  | present {samples : List Record} {names : List String} {body : List (List String)}
      (hne : samples ≠ []) (hheader : IsHeader samples names)
      (hbody : List.Forall₂ (fun record fields =>
        List.Forall₂ (fun name cell => ShowsValue (record.get? name) cell) names fields)
        samples body) :
      IsSection title samples ([] :: [title] :: names :: body)

/-- The row of a metric. -/
def IsMetricRow (row : Row) (fields : List String) : Prop :=
  ∃ source target difference, fields = [row.label, source, target, difference] ∧
    ShowsValue (some row.source.toValue) source ∧ ShowsValue (some row.target.toValue) target ∧
      ShowsValue (row.difference.map fun n => (Cell.number n).toValue) difference

/-- The rows of a report: facts, metrics, and samples of both environments. -/
def Lays (r : Report) (title : Option String) (generated : Timestamp)
    (rows : List (List String)) : Prop :=
  ∃ table source target,
    rows =
      [["Report Title", Report.titleOr title],
       ["Generated At", String.ofList generated.iso],
       ["Source", r.source.name ++ " (" ++ r.source.id ++ ")"],
       ["Target", r.target.name ++ " (" ++ r.target.id ++ ")"],
       ["Object", r.object],
       ["Metrics", " | ".intercalate (r.rows.map Row.label)],
       ["Filter", r.filter.getD ""],
       ["Sample Size", String.ofList (intText r.sampleSize)],
       [],
       ["Metric", "Source", "Target", "Difference"]] ++ table ++ source ++ target ∧
    List.Forall₂ IsMetricRow r.rows table ∧
    IsSection "Sample Records - Source" r.sourceSamples source ∧
    IsSection "Sample Records - Target" r.targetSamples target

theorem cellText_eq_display {v : Value} (h : v ≠ .null) : cellText v = v.display := by
  cases v with
  | null => exact absurd rfl h
  | _ => rfl

theorem showsValue_cellText (v : Value) : ShowsValue (some v) (cellText v) := by
  by_cases hv : v = .null
  · rw [hv]
    exact .null
  · rw [cellText_eq_display hv]
    exact .shown hv

theorem showsValue_getD (v : Option Value) : ShowsValue v (cellText (v.getD .null)) := by
  cases v with
  | none => exact .missing
  | some v => exact showsValue_cellText v

theorem isMetricRow_metricRow (row : Row) : IsMetricRow row (metricRow row) := by
  refine ⟨_, _, _, rfl, showsValue_cellText _, showsValue_cellText _, ?_⟩
  cases row.difference with
  | none => exact .missing
  | some n => exact showsValue_cellText _

/-! ## The header of samples -/

/-- Names in the order of their code points. -/
def sortedNames (samples : List Record) : List String :=
  (samples.flatMap Named.names).eraseDups.mergeSort fun a b => !(b < a)

theorem mem_sortedNames {samples : List Record} {name : String} :
    name ∈ sortedNames samples ↔ ∃ record ∈ samples, name ∈ record.names := by
  rw [sortedNames, List.mem_mergeSort, List.mem_eraseDups, List.mem_flatMap]

theorem nodup_sortedNames (samples : List Record) : (sortedNames samples).Nodup :=
  (List.mergeSort_perm _ _).nodup_iff.2 (Sequence.nodup_eraseDups _)

theorem pairwise_sortedNames (samples : List Record) : (sortedNames samples).Pairwise (· < ·) := by
  have hle : (sortedNames samples).Pairwise fun a b => (!decide (b < a)) = true := by
    apply List.pairwise_mergeSort
    · intro a b c hab hbc
      simp only [Bool.not_eq_true', decide_eq_false_iff_not, String.not_lt] at hab hbc ⊢
      exact String.le_trans hab hbc
    · intro a b
      simp only [Bool.or_eq_true, Bool.not_eq_true', decide_eq_false_iff_not, String.not_lt]
      exact String.le_total a b
  refine (hle.and (nodup_sortedNames samples)).imp ?_
  rintro a b ⟨hle, hne⟩
  by_contra hlt
  rw [Bool.not_eq_true', decide_eq_false_iff_not, String.not_lt] at hle
  exact hne (String.le_antisymm hle (String.not_lt.1 hlt))

theorem sampleColumns_eq (samples : List Record) :
    sampleColumns samples = if "Id" ∈ sortedNames samples then
      "Id" :: (sortedNames samples).filter (· ≠ "Id") else sortedNames samples := by
  have hcontains : (sortedNames samples).contains "Id" = true ↔ "Id" ∈ sortedNames samples :=
    List.contains_iff_mem
  show (if (sortedNames samples).contains "Id" = true then _ else _) = _
  simp only [hcontains]
  rfl

theorem isHeader_sampleColumns (samples : List Record) :
    IsHeader samples (sampleColumns samples) := by
  have hsorted := pairwise_sortedNames samples
  have hnodup := nodup_sortedNames samples
  rw [sampleColumns_eq]
  by_cases hid : "Id" ∈ sortedNames samples
  · rw [if_pos hid]
    refine ⟨?_, fun name => ?_, ?_⟩
    · exact List.nodup_cons.2 ⟨by simp, hnodup.filter _⟩
    · rw [← mem_sortedNames, List.mem_cons, List.mem_filter]
      by_cases hname : name = "Id"
      · simp [hname, hid]
      · simp [hname]
    · refine List.pairwise_cons.2 ⟨fun _ _ => .inl rfl, ?_⟩
      refine (List.Pairwise.filter _ hsorted).imp_of_mem ?_
      intro a b _ hb hlt
      exact .inr ⟨of_decide_eq_true (List.mem_filter.1 hb).2, hlt⟩
  · rw [if_neg hid]
    refine ⟨hnodup, fun name => mem_sortedNames, hsorted.imp_of_mem ?_⟩
    intro a b _ hb hlt
    exact .inr ⟨fun hname => hid (hname ▸ hb), hlt⟩

/-- Samples of different names, with a row that has one empty cell and a text of three lines. -/
def raggedSamples : List Record :=
  [[("Name", .text "a, \"b\"\n\nc"), ("Id", .int 2)], [], [("Id", .null), ("\n", .bool true)]]

example : sampleColumns raggedSamples = ["Id", "\n", "Name"] := by cbv

/-- Neither the order of the records nor the order of their names has a part in the header. -/
theorem IsHeader.unique {samples samples' : List Record} {names names' : List String}
    (h : IsHeader samples names) (h' : IsHeader samples' names')
    (hsame : ∀ name, (∃ record ∈ samples, name ∈ record.names) ↔
      ∃ record ∈ samples', name ∈ record.names) : names = names' := by
  have hperm : names.Perm names' := by
    rw [List.perm_ext_iff_of_nodup h.nodup h'.nodup]
    intro name
    rw [h.mem_iff, h'.mem_iff, hsame]
  refine hperm.eq_of_pairwise ?_ h.ordered h'.ordered
  rintro a b - - (rfl | ⟨hb, hab⟩) (rfl | ⟨ha, hba⟩)
  · rfl
  · exact absurd rfl ha
  · exact absurd rfl hb
  · exact absurd hba (String.lt_asymm hab)

theorem showsValue_sampleCells (names : List String) (samples : List Record) :
    List.Forall₂ (fun record fields =>
        List.Forall₂ (fun name cell => ShowsValue (record.get? name) cell) names fields)
      samples
      (samples.map fun record =>
        names.map fun name => cellText ((record.get? name).getD .null)) := by
  rw [List.forall₂_map_right_iff, List.forall₂_same]
  intro record _
  rw [List.forall₂_map_right_iff, List.forall₂_same]
  exact fun name _ => showsValue_getD _

theorem isSection_sampleRows (title : String) (samples : List Record) :
    IsSection title samples (sampleRows title samples) := by
  cases samples with
  | nil => exact .absent
  | cons record samples =>
    exact .present (List.cons_ne_nil _ _) (isHeader_sampleColumns _) (showsValue_sampleCells _ _)

theorem lays_rows (r : Report) (title : Option String) (generated : Timestamp) :
    Lays r title generated (rows r title generated) := by
  refine ⟨r.rows.map metricRow, _, _, rfl, ?_, isSection_sampleRows _ _, isSection_sampleRows _ _⟩
  rw [List.forall₂_map_right_iff, List.forall₂_same]
  exact fun row _ => isMetricRow_metricRow row

/-! ## Texts without carriage returns -/

/-- No text that a report shows holds a carriage return.  What is inside a list or a record may. -/
structure IsFlat (r : Report) (title : Option String) : Prop where
  title : ∀ s, title = some s → '\r' ∉ s.toList
  environments : ∀ e ∈ [r.source, r.target], '\r' ∉ e.name.toList ∧ '\r' ∉ e.id.toList
  object : '\r' ∉ r.object.toList
  filter : ∀ s, r.filter = some s → '\r' ∉ s.toList
  labels : ∀ row ∈ r.rows, '\r' ∉ row.label.toList
  values : ∀ row ∈ r.rows, ∀ s, row.source = .text s ∨ row.target = .text s → '\r' ∉ s.toList
  samples : ∀ record ∈ r.sourceSamples ++ r.targetSamples, ∀ m ∈ record,
    '\r' ∉ m.1.toList ∧ ∀ s, m.2 = .text s → '\r' ∉ s.toList

theorem return_not_mem_cellText {v : Value} (h : ∀ s, v = .text s → '\r' ∉ s.toList) :
    '\r' ∉ (cellText v).toList := by
  by_cases hv : v = .null
  · rw [hv]
    decide
  · rw [cellText_eq_display hv]
    exact Value.return_not_mem_display h

theorem return_not_mem_intercalate {sep : String} (hsep : '\r' ∉ sep.toList) {texts : List String}
    (h : ∀ s ∈ texts, '\r' ∉ s.toList) : '\r' ∉ (sep.intercalate texts).toList := by
  rw [String.toList_intercalate, ← Text.joinWith_eq_intercalate]
  exact return_not_mem_joinWith hsep (List.forall_mem_map.2 h)

variable {r : Report} {title : Option String}

theorem IsFlat.environmentText (h : IsFlat r title) {e : EnvironmentInfo}
    (he : e ∈ [r.source, r.target]) : '\r' ∉ (Report.environmentText e).toList := by
  obtain ⟨hname, hid⟩ := h.environments e he
  simp [Report.environmentText, hname, hid]

theorem IsFlat.titleOr (h : IsFlat r title) : '\r' ∉ (Report.titleOr title).toList := by
  cases title with
  | none => decide
  | some s =>
    show '\r' ∉ (if s = "" then Report.defaultTitle else s).toList
    split
    · decide
    · exact h.title s rfl

theorem IsFlat.header (h : IsFlat r title) (generated : Timestamp) :
    ∀ fact ∈ r.header title generated, IsReadable [fact.1, fact.2] := by
  have hpair {name s : String} (hname : '\r' ∉ name.toList) (hs : '\r' ∉ s.toList) :
      IsReadable [name, s] :=
    List.forall_mem_cons.2 ⟨hname, List.forall_mem_singleton.2 hs⟩
  have hgenerated : '\r' ∉ (String.ofList generated.iso).toList := by
    rw [String.toList_ofList]
    exact return_not_mem_timestamp (by decide) generated
  have hsource := h.environmentText (e := r.source) List.mem_cons_self
  have htarget := h.environmentText (e := r.target) (List.mem_cons_of_mem _ List.mem_cons_self)
  have hlabels : '\r' ∉ r.labels.toList :=
    return_not_mem_intercalate (by decide) (List.forall_mem_map.2 h.labels)
  have hfilter : '\r' ∉ (r.filter.getD "").toList := by
    cases hsome : r.filter with
    | none => decide
    | some s => exact h.filter s hsome
  have hsize : '\r' ∉ (String.ofList (intText r.sampleSize)).toList := by
    rw [String.toList_ofList]
    exact return_not_mem_intText _
  simp only [Report.header, List.forall_mem_cons]
  exact ⟨hpair (by decide) h.titleOr, hpair (by decide) hgenerated, hpair (by decide) hsource,
    hpair (by decide) htarget, hpair (by decide) h.object, hpair (by decide) hlabels,
    hpair (by decide) hfilter, hpair (by decide) hsize, nofun⟩

theorem return_not_mem_cell {c : Cell} (h : ∀ s, c = .text s → '\r' ∉ s.toList) :
    '\r' ∉ (cellText c.toValue).toList := by
  apply return_not_mem_cellText
  intro s hs
  exact h s (Cell.toValue_injective (b := .text s) hs)

theorem IsFlat.metricRow (h : IsFlat r title) {row : Row} (hrow : row ∈ r.rows) :
    IsReadable (metricRow row) := by
  have hsource := return_not_mem_cell fun s hs => h.values row hrow s (.inl hs)
  have htarget := return_not_mem_cell fun s hs => h.values row hrow s (.inr hs)
  have hdifference : '\r' ∉ (cellText (Report.differenceCell row.difference).toValue).toList := by
    apply return_not_mem_cell
    intro s hs
    cases hd : row.difference with
    | none => exact nomatch hd ▸ hs
    | some n => exact nomatch hd ▸ hs
  simp only [Csv.metricRow, IsReadable, List.forall_mem_cons]
  exact ⟨h.labels row hrow, hsource, htarget, hdifference, nofun⟩

theorem isReadable_sampleRows {samples : List Record}
    (h : ∀ record ∈ samples, ∀ m ∈ record,
      '\r' ∉ m.1.toList ∧ ∀ s, m.2 = .text s → '\r' ∉ s.toList)
    {heading : String} (hheading : '\r' ∉ heading.toList) :
    ∀ fields ∈ sampleRows heading samples, IsReadable fields := by
  have hnames : IsReadable (sampleColumns samples) := by
    intro name hname
    obtain ⟨record, hrecord, hmem⟩ := ((isHeader_sampleColumns samples).mem_iff name).1 hname
    obtain ⟨m, hm, rfl⟩ := List.mem_map.1 hmem
    exact (h record hrecord m hm).1
  have hcells : ∀ record ∈ samples, ∀ name,
      '\r' ∉ (cellText ((record.get? name).getD .null)).toList := by
    intro record hrecord name
    apply return_not_mem_cellText
    intro s hs
    cases hget : record.get? name with
    | none => exact nomatch hget ▸ hs
    | some v =>
      rw [hget] at hs
      exact (h record hrecord (name, v) (Named.mem_of_get? hget)).2 s hs
  rw [sampleRows]
  split
  · exact nofun
  · refine List.forall_mem_append.2 ⟨?_, List.forall_mem_map.2 fun record hrecord => ?_⟩
    · simp only [List.forall_mem_cons]
      exact ⟨nofun, List.forall_mem_singleton.2 hheading, hnames, nofun⟩
    · exact List.forall_mem_map.2 fun name _ => hcells record hrecord name

theorem IsFlat.isReadable (h : IsFlat r title) (generated : Timestamp) :
    ∀ fields ∈ rows r title generated, IsReadable fields := by
  have hheads : ∀ fields ∈ [[], ["Metric", "Source", "Target", "Difference"]],
      IsReadable fields := by
    unfold IsReadable
    decide +kernel
  have hsource : ∀ fields ∈ sampleRows "Sample Records - Source" r.sourceSamples,
      IsReadable fields := by
    refine isReadable_sampleRows (fun record hrecord => ?_) (by decide)
    exact h.samples record (List.mem_append_left _ hrecord)
  have htarget : ∀ fields ∈ sampleRows "Sample Records - Target" r.targetSamples,
      IsReadable fields := by
    refine isReadable_sampleRows (fun record hrecord => ?_) (by decide)
    exact h.samples record (List.mem_append_right _ hrecord)
  have hmetrics : ∀ fields ∈ r.rows.map Csv.metricRow, IsReadable fields :=
    List.forall_mem_map.2 fun row hrow => h.metricRow hrow
  simp only [rows, List.forall_mem_append]
  exact ⟨⟨⟨⟨List.forall_mem_map.2 (h.header generated), hheads⟩, hmetrics⟩, hsource⟩, htarget⟩

/-- The export of a report is read as the rows that the report is made of, and the names of the
samples come in one order however the samples were ordered. -/
theorem read_ofReport (r : Report) (title : Option String) (generated : Timestamp)
    (h : IsFlat r title) :
    Lays r title generated (read (ofReport r title generated).toList) ∧
    ∀ samples samples' names names', IsHeader samples names → IsHeader samples' names' →
      (∀ name, (∃ record ∈ samples, name ∈ record.names) ↔
        ∃ record ∈ samples', name ∈ record.names) → names = names' := by
  constructor
  · rw [ofReport, String.toList_ofList, read_rows (h.isReadable generated)]
    exact lays_rows r title generated
  · intro samples samples' names names' hnames hnames'
    exact hnames.unique hnames'

def raggedReport : Report where
  object := "Deal"
  rows :=
    [⟨.countIf "Name = \"x, y\"" .number, "count_if__name", .number (.int 4), .null, none⟩,
     ⟨.fieldAggregate ⟨.max, ⟨"Closed", "date", "Closed"⟩, .date⟩, "max__closed",
      .text "2024-03-05", .text "\"\n", none⟩]
  filter := some "Stage = 'a\nb'"
  sampleSize := 5
  source := ⟨"production", "prod", "58"⟩
  target := ⟨"sandbox, \"new\"", "test", "58"⟩
  queries := ⟨none, [], none⟩
  sourceSamples := raggedSamples
  targetSamples := [[("", .text "")]]
  cacheMinutes := 10

theorem isFlat_raggedReport : IsFlat raggedReport (some "Q1, \"draft\"\n") where
  title := by
    intro s hs
    rw [← Option.some.inj hs]
    decide +kernel
  environments := by decide +kernel
  object := by decide +kernel
  filter := by
    intro s hs
    rw [← Option.some.inj hs]
    decide +kernel
  labels := by decide +kernel
  values := by
    have hshort : ∀ row ∈ raggedReport.rows, ∀ c ∈ [row.source, row.target],
        '\r' ∉ c.toValue.display.toList := by decide +kernel
    intro row hrow s hs
    rcases hs with hs | hs
    · have h := hshort row hrow _ List.mem_cons_self
      rwa [hs] at h
    · have h := hshort row hrow _ (List.mem_cons_of_mem _ List.mem_cons_self)
      rwa [hs] at h
  samples := by
    have hshort : ∀ record ∈ raggedReport.sourceSamples ++ raggedReport.targetSamples,
        ∀ m ∈ record, '\r' ∉ m.1.toList ∧ '\r' ∉ m.2.display.toList := by decide +kernel
    intro record hrecord m hm
    obtain ⟨hname, hvalue⟩ := hshort record hrecord m hm
    refine ⟨hname, fun s hs => ?_⟩
    rwa [hs] at hvalue

def dayStart : Timestamp := ⟨⟨2024, 4, 1⟩, ⟨12, 0, 0, 0⟩, some 0⟩

theorem read_ofReport_ragged :
    IsFlat raggedReport (some "Q1, \"draft\"\n") ∧
      Lays raggedReport (some "Q1, \"draft\"\n") dayStart
        (read (ofReport raggedReport (some "Q1, \"draft\"\n") dayStart).toList) :=
  ⟨isFlat_raggedReport, (read_ofReport raggedReport _ dayStart isFlat_raggedReport).1⟩

end Csv
end CrossCheck
