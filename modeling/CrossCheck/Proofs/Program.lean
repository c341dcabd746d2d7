import CrossCheck.Program
import CrossCheck.Proofs.Service

/-!
What commands show of the queries that are run.  Commands with the same selection work on the same
service, so the queries that one command lists are those that the other runs.
-/

namespace CrossCheck
namespace Program

open Session

/-! ## Services on a selection -/

theorem exists_report (events : List Event) (start : Progress) :
    ∃ after, report events start = (.ok (), after) := ⟨_, rfl⟩

theorem exists_finish (e : Database.Endpoint) (s : Database.State) (start : Progress) :
    ∃ after, finish e s start = (.ok (), after) := ⟨_, rfl⟩

theorem exists_keepCache (settings : Settings) (c : Cache) (start : Progress) :
    ∃ after, keepCache settings c start = (.ok (), after) := by
  rw [keepCache]
  cases c.file <;> exact ⟨_, rfl⟩

section
variable {α : Type} {w : Surroundings} {settings : Settings} {s : Selection}
  {step : DatabaseService → Except (Service.Error Database.Failure) α × DatabaseService}

/-- What works on a selection worked on a service, and what works on this service, whatever time
it has, works on the selection. -/
theorem exists_service_of_onService {timeout : Option Binary64} {start after : Progress} {a : α}
    (h : onService w settings s timeout step start = (.ok a, after)) :
    ∃ v v' : DatabaseService, step v = (.ok a, v') ∧
      ∀ (β : Type)
        (step' : DatabaseService → Except (Service.Error Database.Failure) β × DatabaseService)
        (timeout' : Option Binary64) (b : β) (u : DatabaseService),
        step' { v with timeout := limit settings timeout' } = (.ok b, u) →
          ∃ after', onService w settings s timeout' step' start = (.ok b, after') := by
  obtain ⟨r, _, hr, h⟩ := bind_ok_iff.1 h
  obtain ⟨source, _, hsource, h⟩ := bind_ok_iff.1 h
  obtain ⟨target, _, htarget, h⟩ := bind_ok_iff.1 h
  obtain ⟨cache, opened, hcache, h⟩ := bind_ok_iff.1 h
  dsimp only at h
  rcases hstep : step ⟨source.environment, target.environment, .closed, .closed, cache,
    limit settings timeout, []⟩ with ⟨result, v'⟩
  rw [hstep] at h
  -- What is left is to report and to close both databases, which never fails.
  obtain ⟨_, _, _, h⟩ := bind_ok_iff.1 h
  obtain ⟨_, _, _, h⟩ := bind_ok_iff.1 h
  obtain ⟨_, _, _, h⟩ := bind_ok_iff.1 h
  obtain ⟨_, _, _, h⟩ := bind_ok_iff.1 h
  obtain ⟨hresult, _⟩ := ofExcept_ok_iff.1 h
  refine ⟨_, v', hstep.trans (congrArg (·, v') hresult), fun β step' timeout' b u hstep' => ?_⟩
  obtain ⟨_, hreport⟩ := exists_report u.events opened
  obtain ⟨_, hfinish⟩ := exists_finish source u.sourceState _
  obtain ⟨_, hfinish'⟩ := exists_finish target u.targetState _
  obtain ⟨after', hkeep⟩ := exists_keepCache settings u.cache _
  refine ⟨after', ?_⟩
  rw [onService, bind_of_ok hr, bind_of_ok hsource, bind_of_ok htarget, bind_of_ok hcache]
  dsimp only
  rw [hstep']
  dsimp only
  rw [bind_of_ok hreport, bind_of_ok hfinish, bind_of_ok hfinish', bind_of_ok hkeep]
  rfl

end

/-! ## Lists of queries -/

/-- What the queries of a plan are shown as. -/
def listing (p : Planned) : String :=
  String.join ((titledQueries p).map fun (title, query) => title ++ "\n" ++ query ++ "\n\n")

theorem map_titledQueries (p : Planned) : (titledQueries p).map (·.2) = p.queries := by
  rw [titledQueries, Planned.queries]
  cases p.plan.query <;> cases p.sampleQuery <;> simp [Function.comp_def]

theorem showQueries_plain (p : Planned) : showQueries p false = .ok (listing p) := by
  have hshown : (titledQueries p).mapM (fun (title, query) =>
      (pure (title ++ "\n" ++ query ++ "\n\n") : Except Query.Fault String)) =
        .ok ((titledQueries p).map fun (title, query) => title ++ "\n" ++ query ++ "\n\n") :=
    List.mapM_pure
  rw [showQueries]
  exact congrArg (· >>= fun shown => pure (String.join shown)) hshown

theorem runPlan_eq {w : Surroundings} {s : Selection} {settings : Settings}
    {start opened after : Progress} {p : Planned}
    (hsettings : Program.settings w start = (.ok settings, opened))
    (hplan : onService w settings s none (fun v => v.plan w.clock (request s)) opened =
      (.ok p, after)) (pretty : Bool) :
    runPlan w s pretty start =
      Session.ofExcept (fun _ => .tangled) (showQueries p pretty) after := by
  rw [runPlan, bind_of_ok hsettings, bind_of_ok hplan]

/-- What is asked is what is planned, what is planned is what is reported, and what is reported is
what is listed. -/
theorem asks_as_listed {σ ε : Type} (v : Service σ ε) (now : Binary64) (r : Request) :
    (∀ p u, v.plan now r = (.ok p, u) → Service.Asks v u now r p) ∧
    (∀ report v', v.compare now r = (.ok report, v') →
      ∃ p u, v.plan now r = (.ok p, u) ∧ Service.Reports v v' u p report) ∧
    ∀ w s settings timeout start opened after report,
      Program.settings w start = (.ok settings, opened) →
      onService w settings s timeout (fun v => v.compare w.clock (request s)) opened =
        (.ok report, after) →
      ∃ p listed, (titledQueries p).map (·.2) = report.queries.all ∧
        showQueries p false = .ok (listing p) ∧
        ∀ pretty, runPlan w s pretty start =
          Session.ofExcept (fun _ => .tangled) (showQueries p pretty) listed := by
  refine ⟨fun p u => Service.asks_of_plan,
    fun report v' => Service.exists_reports_of_compare, ?_⟩
  intro w s settings timeout start opened after report hsettings hcompare
  obtain ⟨v, v', hreport, hsame⟩ := exists_service_of_onService hcompare
  obtain ⟨p, u, hplan, hreports⟩ := Service.exists_reports_of_compare hreport
  have hplan' := Service.plan_timeout v w.clock (request s) (limit settings none)
  rw [hplan] at hplan'
  obtain ⟨listed, hlisted⟩ := hsame Planned (fun v => v.plan w.clock (request s)) none p _ hplan'
  refine ⟨p, listed, ?_, showQueries_plain p, runPlan_eq hsettings hlisted⟩
  rw [map_titledQueries, hreports.queries]

/-! ## On scripts -/

/-- An environment of one object that answers queries from a script. -/
def scripted (name : String) (s : ObjectSchema) : Environment Script Script.Interruption where
  environmentId := some name
  schemaVersion := "1"
  describe _ := pure s
  aggregate := Script.backend.aggregate
  sample := Script.backend.sample
  name

def amountSchema : ObjectSchema := ⟨"Deal", none, [⟨"Amount", none, "currency", true, true⟩]⟩

def amountService (s : Script) : Service Script Script.Interruption :=
  ⟨scripted "a" amountSchema, scripted "b" amountSchema, s, s, .open' 0 .missing, none, []⟩

def amountRequest : Request := ⟨"Deal", ["sum:amount,count-if:IsWon = true"], none, 0⟩

def amountQueries : List String :=
  ["SELECT SUM(Amount) sum__amount FROM Deal",
    "SELECT COUNT(Id) count_if__iswon___true FROM Deal WHERE IsWon = true"]

def answered : Script :=
  ⟨[.given [("sum__amount", .int 3)], .given [("count_if__iswon___true", .int 1)]], .given [], []⟩

theorem asks_as_listed_amount : ∃ p u report v',
    (amountService answered).compare (.zero false) amountRequest = (.ok report, v') ∧
      Service.Reports (amountService answered) v' u p report ∧
      v'.sourceState.asked = u.sourceState.asked ++ amountQueries := by
  have hqueries : ((amountService answered).compare (.zero false) amountRequest).1.toOption.map
      (·.queries.all) = some amountQueries := by decide +kernel
  rcases hcompare : (amountService answered).compare (.zero false) amountRequest with ⟨result, v'⟩
  rw [hcompare] at hqueries
  cases result with
  | error e => exact absurd hqueries nofun
  | ok report =>
    obtain ⟨p, u, _, hreports⟩ := (asks_as_listed _ _ _).2.1 report v' hcompare
    have hasked : v'.sourceState.asked = u.sourceState.asked ++ p.queries :=
      hreports.source Script.asked Script.logs
    have hqueries' : report.queries.all = amountQueries := Option.some.inj hqueries
    rw [← hreports.queries, hqueries'] at hasked
    exact ⟨p, u, report, v', rfl, hreports, hasked⟩

/-- The first sum is a number that no cell can hold, and the second query fails. -/
def immeasurable : Script :=
  ⟨[.given [("sum__amount", .decimal (.infinite false))], .failure "lost"], .given [], []⟩

/-- An evaluation has ended at a number that no cell can hold. -/
def overflows {ε α : Type} : Except (Evaluation.Error ε) α → Bool
  | .error (.arithmetic .overflow) => true
  | _ => false

theorem eq_of_overflows {ε α : Type} {result : Except (Evaluation.Error ε) α}
    (h : overflows result = true) : result = .error (.arithmetic .overflow) := by
  unfold overflows at h
  split at h
  · rfl
  · exact absurd h Bool.false_ne_true

/-- A record that cannot be measured stops an evaluation before a query has failed. -/
theorem immeasurable_stops : ∃ p u t,
    (amountService immeasurable).plan (.zero false) amountRequest = (.ok p, u) ∧
      p.queries = amountQueries ∧
      Evaluation.evaluate Script.backend p.plan p.sampleQuery immeasurable =
        (.error (.arithmetic .overflow), t) ∧
      t.asked = amountQueries.take 1 := by
  have hrun : ((amountService immeasurable).plan (.zero false) amountRequest).1.toOption.any
      (fun p =>
        let evaluated := Evaluation.evaluate Script.backend p.plan p.sampleQuery immeasurable
        p.queries = amountQueries && evaluated.2.asked = amountQueries.take 1 &&
          overflows evaluated.1) = true := by decide +kernel
  rcases hplan : (amountService immeasurable).plan (.zero false) amountRequest with ⟨planned, u⟩
  rw [hplan] at hrun
  cases planned with
  | error e => exact absurd hrun Bool.false_ne_true
  | ok p =>
    rcases heval : Evaluation.evaluate Script.backend p.plan p.sampleQuery immeasurable with
      ⟨result, t⟩
    simp only [Except.toOption, Option.any_some, heval, Bool.and_eq_true, decide_eq_true_eq] at hrun
    obtain ⟨⟨hqueries, hasked⟩, hresult⟩ := hrun
    obtain rfl := eq_of_overflows hresult
    exact ⟨p, u, t, rfl, hqueries, heval, hasked⟩

end Program
end CrossCheck
