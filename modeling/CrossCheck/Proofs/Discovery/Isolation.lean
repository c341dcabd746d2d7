import CrossCheck.Proofs.Discovery.Sharing
import CrossCheck.Proofs.Text
import Mathlib.Data.List.Infix

/-!
What a shared cache keeps apart.  A schema from the cache was always given by some source under the
same key, so isolation is a question of what keys tell apart.  A key joins three free texts with
separators that each of them may hold, and two keys can be the same text by accident.  This needs
a colon in a version or the inner separator in the name of an object: without these, the key tells
all three texts, whatever the environments are called.
-/

namespace CrossCheck
namespace Discovery

open Text

variable {σ ε : Type}

/-! ## What a key tells -/

/-- What stands between the version and the object. -/
def mark : List Char := [':', 's', 'o', 'b', 'j', 'e', 'c', 't', ':']

/-- A mark but for its second colon. -/
def stem : List Char := [':', 's', 'o', 'b', 'j', 'e', 'c', 't']

theorem mark_eq (cs : List Char) : mark ++ cs = stem ++ ':' :: cs := rfl

/-- Nothing in the version or the name of the object can be taken for a separator. -/
structure IsPlain (schemaVersion object : String) : Prop where
  version : ':' ∉ schemaVersion.toList
  object : ¬ mark <:+: ':' :: (lower object).toList

theorem toList_cacheKey (environmentId schemaVersion object : String) :
    (cacheKey environmentId schemaVersion object).toList =
      environmentId.toList ++ ':' :: schemaVersion.toList ++ mark ++ (lower object).toList := by
  simp [cacheKey, mark]

/-- A text after the last mark is told from the text before it.  Marks may overlap in one colon. -/
theorem eq_nil_of_append_mark {as bs between xs ys : List Char} (hxs : ¬ mark <:+: ':' :: xs)
    (hbefore : bs ++ stem = as ++ stem ++ between)
    (hafter : ':' :: xs = between ++ ':' :: ys) : between = [] := by
  cases between with
  | nil => rfl
  | cons c between =>
    obtain ⟨rfl, hxs'⟩ := List.cons.inj hafter
    exfalso
    have hstem : stem <:+ as ++ stem ++ ':' :: between :=
      ⟨bs, hbefore⟩
    have hlong : stem <:+ ':' :: between := by
      rcases List.suffix_or_suffix_of_suffix hstem (List.suffix_append _ (':' :: between)) with
        h | ⟨start, hstart⟩
      · exact h
      · cases start with
        | nil => exact ⟨[], hstart.symm⟩
        | cons d start =>
          -- The mark begins with its only colon.
          have hinner : start ++ ':' :: between = stem.tail := (List.cons.inj hstart).2
          have hcolon : ':' ∈ stem.tail := hinner ▸ List.mem_append_right start List.mem_cons_self
          exact absurd hcolon (by decide)
    obtain ⟨start, hstart⟩ := hlong
    refine hxs ⟨start, ys, ?_⟩
    rw [List.append_assoc, mark_eq, ← List.append_assoc, hstart, hafter]

theorem append_mark_inj {as bs xs ys : List Char} (hxs : ¬ mark <:+: ':' :: xs)
    (hys : ¬ mark <:+: ':' :: ys) (h : as ++ mark ++ xs = bs ++ mark ++ ys) :
    as = bs ∧ xs = ys := by
  have hsplit : (as ++ stem) ++ ':' :: xs = (bs ++ stem) ++ ':' :: ys := by
    rwa [List.append_assoc, List.append_assoc, mark_eq, mark_eq, ← List.append_assoc,
      ← List.append_assoc] at h
  rcases List.append_eq_append_iff.1 hsplit with ⟨between, hb, hx⟩ | ⟨between, ha, hy⟩
  · obtain rfl := eq_nil_of_append_mark hxs hb hx
    rw [List.append_nil] at hb
    exact ⟨(List.append_cancel_right hb).symm, (List.cons.inj hx).2⟩
  · obtain rfl := eq_nil_of_append_mark hys ha hy
    rw [List.append_nil] at ha
    exact ⟨List.append_cancel_right ha, (List.cons.inj hy).2.symm⟩

/-- Texts that agree from their last separators on agree before them too. -/
theorem append_sep_inj_right {sep : Char} {as bs xs ys : List Char} (hx : sep ∉ xs) (hy : sep ∉ ys)
    (h : as ++ sep :: xs = bs ++ sep :: ys) : as = bs ∧ xs = ys := by
  have hreverse := congrArg List.reverse h
  simp only [List.reverse_append, List.reverse_cons, List.append_assoc, List.singleton_append]
    at hreverse
  obtain ⟨hxy, hab⟩ := append_sep_inj (by simpa using hx) (by simpa using hy) hreverse
  exact ⟨List.reverse_injective hab, List.reverse_injective hxy⟩

/-- Plain keys tell the environment, the version and the object. -/
theorem cacheKey_eq_iff {e e' v v' o o' : String} (h : IsPlain v o) (h' : IsPlain v' o') :
    cacheKey e v o = cacheKey e' v' o' ↔ e = e' ∧ v = v' ∧ lower o = lower o' := by
  constructor
  · intro hkeys
    have hlists := congrArg String.toList hkeys
    rw [toList_cacheKey, toList_cacheKey] at hlists
    obtain ⟨hstart, ho⟩ := append_mark_inj h.object h'.object hlists
    obtain ⟨he, hv⟩ := append_sep_inj_right h.version h'.version hstart
    exact ⟨String.toList_injective he, String.toList_injective hv, String.toList_injective ho⟩
  · rintro ⟨rfl, rfl, ho⟩
    exact cacheKey_inj.2 ho

/-- Whatever the texts are, two of them in common are enough for a key to tell the third. -/
theorem cacheKey_version_inj {e v v' o o' : String} (ho : lower o = lower o')
    (h : cacheKey e v o = cacheKey e v' o') : v = v' := by
  have hlists := congrArg String.toList h
  rw [toList_cacheKey, toList_cacheKey, ho] at hlists
  exact String.toList_injective (by simpa using hlists)

theorem cacheKey_environment_inj {e e' v o o' : String} (ho : lower o = lower o')
    (h : cacheKey e v o = cacheKey e' v o') : e = e' := by
  have hlists := congrArg String.toList h
  rw [toList_cacheKey, toList_cacheKey, ho] at hlists
  exact String.toList_injective (by simpa using hlists)

/-! ## Where a schema from the cache comes from -/

/-- The source was asked for what the cache keeps under the key. -/
def Exchange.HasKey (exchange : Exchange ε) (key : String) : Prop :=
  ∃ environmentId, exchange.environmentId = some environmentId ∧
    cacheKey environmentId exchange.schemaVersion exchange.call.name = key

namespace Shared

/-- Everything in the cache was said by a source, and under its own key. -/
def IsAccounted (s : Shared σ ε) : Prop :=
  ∀ key r, s.cache.entries.get? key = some r → ∃ exchange ∈ s.exchanges, ∃ schema,
    exchange.HasKey key ∧ exchange.call.answer = .ok schema ∧ r.data = Document.ofSchema schema

variable {s : Shared σ ε} {source : SchemaSource σ ε} {object : String}

theorem IsAccounted.describe (h : s.IsAccounted) (source : SchemaSource σ ε) (object : String) :
    (s.step (.describe source object)).IsAccounted := by
  intro key r hr
  rw [cache_describe] at hr
  have hearlier {exchange : Exchange ε} (hmem : exchange ∈ s.exchanges) :
      exchange ∈ (s.step (.describe source object)).exchanges := List.mem_append_right _ hmem
  rcases s.entries_ask source object with hentries | ⟨environmentId, schema, hid, hcalls, hentries⟩
  · rw [hentries] at hr
    obtain ⟨exchange, hmem, hsaid⟩ := h key r hr
    exact ⟨exchange, hearlier hmem, hsaid⟩
  · rw [hentries, Named.get?_set] at hr
    split at hr
    · next hkey =>
      cases hr
      refine ⟨⟨source.environmentId, source.schemaVersion,
        ⟨s.now, Text.strip object, .ok schema⟩⟩, ?_, schema, ⟨environmentId, hid, hkey.symm⟩,
        rfl, rfl⟩
      refine List.mem_append_left _ ?_
      rw [hcalls]
      exact List.mem_singleton.2 rfl
    · obtain ⟨exchange, hmem, hsaid⟩ := h key r hr
      exact ⟨exchange, hearlier hmem, hsaid⟩

theorem IsAccounted.run (h : s.IsAccounted) (steps : List (Step σ ε)) :
    (s.run steps).IsAccounted := by
  induction steps generalizing s with
  | nil => exact h
  | cons step steps ih =>
    rw [run_cons]
    cases step with
    | describe source object => exact ih (h.describe source object)
    | advance now => exact ih (s := { s with now }) h

/-- What is served is what an entry under the key holds. -/
theorem exists_entry_of_serves {schema : ObjectSchema} (h : s.Serves source object schema) :
    ∃ environmentId r, source.environmentId = some environmentId ∧
      s.cache.entries.get? (keyIn source object environmentId) = some r ∧
      Document.schema? r.data = some schema := by
  obtain ⟨hresult, hcalls⟩ := h
  have hcomes := s.comes_ask source object
  generalize s.ask source object = o at hcomes hresult hcalls
  cases hcomes with
  | blank => cases hresult
  | unidentified => cases hresult
  | failed => cases hcalls
  | answered => cases hcalls
  | held environmentId v events hname hid hanswer =>
    have hschema : Document.schema? v = some schema := by
      dsimp only [ofHeld] at hresult
      split at hresult
      · next said hsaid => rw [hsaid, Except.ok.inj hresult]
      · cases hresult
    rw [answer?, Cache.answer?] at hanswer
    split at hanswer
    · cases hanswer
    · obtain ⟨r, hr, rfl⟩ := Option.map_eq_some_iff.1 hanswer
      exact ⟨environmentId, r, hid, (Option.filter_eq_some_iff.1 hr).1, hschema⟩

/-- A schema from the cache was given by a source before, under the same key. -/
theorem IsAccounted.exists_of_serves (h : s.IsAccounted) {schema : ObjectSchema}
    (hserves : s.Serves source object schema) :
    ∃ environmentId, source.environmentId = some environmentId ∧
      ∃ exchange ∈ s.exchanges, exchange.HasKey (keyIn source object environmentId) ∧
        exchange.call.answer = .ok schema := by
  obtain ⟨environmentId, r, hid, hr, hschema⟩ := exists_entry_of_serves hserves
  obtain ⟨exchange, hmem, said, hkey, hanswer, hdata⟩ := h _ r hr
  rw [hdata, Document.schema?_ofSchema] at hschema
  cases hschema
  exact ⟨environmentId, hid, exchange, hmem, hkey, hanswer⟩

end Shared

/-- What a call has in common with the earlier exchange that it is given the answer of. -/
structure Shares (source : SchemaSource σ ε) (object : String) (exchange : Exchange ε) : Prop where
  /-- At least the key. -/
  key : ∃ environmentId, source.environmentId = some environmentId ∧
    exchange.HasKey (keyIn source object environmentId)
  /-- Everything, as far as plain keys go. -/
  plain : IsPlain source.schemaVersion (Text.strip object) →
    IsPlain exchange.schemaVersion exchange.call.name →
      exchange.environmentId = source.environmentId ∧
        exchange.schemaVersion = source.schemaVersion ∧
        lower exchange.call.name = lower (Text.strip object)
  /-- The environment, if the version and the object are the same, and the version, if the
  environment and the object are. -/
  two : lower exchange.call.name = lower (Text.strip object) →
    (exchange.schemaVersion = source.schemaVersion ↔
      exchange.environmentId = source.environmentId)

theorem shares_of_hasKey {source : SchemaSource σ ε} {object environmentId : String}
    (hid : source.environmentId = some environmentId) {exchange : Exchange ε}
    (hkey : exchange.HasKey (keyIn source object environmentId)) :
    Shares source object exchange := by
  obtain ⟨e, he, hkeys⟩ := hkey
  refine ⟨⟨environmentId, hid, e, he, hkeys⟩, fun h h' => ?_, fun hname => ?_⟩
  · obtain ⟨rfl, hversion, hname⟩ := (cacheKey_eq_iff h' h).1 hkeys
    exact ⟨he.trans hid.symm, hversion, hname⟩
  · rw [he, hid, Option.some.injEq]
    constructor
    · intro hversion
      rw [keyIn, ← hversion] at hkeys
      exact cacheKey_environment_inj hname hkeys
    · rintro rfl
      exact cacheKey_version_inj hname hkeys

/-! ## Keys that are the same by accident -/

namespace Shared

/-- Where two keys are the same text, what one source says is given out in the name of the other. -/
theorem serves_of_keyIn_eq {s : Shared σ ε} (hpos : 0 < s.cache.minutes)
    (hempty : s.cache.entries = [])
    (hfresh : (s.now.sub s.now).leInt (s.cache.minutes * 60) = true)
    (first second : SchemaSource σ ε) (object object' : String)
    {environmentId environmentId' : String}
    (hname : Text.strip object ≠ "") (hname' : Text.strip object' ≠ "")
    (hid : first.environmentId = some environmentId)
    (hid' : second.environmentId = some environmentId')
    (hkeys : keyIn first object environmentId = keyIn second object' environmentId')
    {schema : ObjectSchema} {t : σ}
    (hanswer : first.describe (Text.strip object) s.state = (.ok schema, t)) :
    (s.step (.describe first object)).Serves second object' schema ∧
      (s.step (.describe first object)).exchanges =
        ⟨first.environmentId, first.schemaVersion, ⟨s.now, Text.strip object, .ok schema⟩⟩ ::
          s.exchanges := by
  have hcold : ∀ v, s.answer? first object environmentId = some v → v = .null := by
    intro v hv
    rw [answer?, Cache.answer?_of_nil _ _ _ hempty] at hv
    cases hv
  obtain ⟨events, hask⟩ := ask_of_answered hname hid hcold hanswer
  refine ⟨?_, by rw [exchanges_describe, hask, List.map_singleton, List.singleton_append]⟩
  have hminutes : (s.step (.describe first object)).cache.minutes = s.cache.minutes := by
    rw [cache_describe, minutes_ask]
  have hnow : (s.step (.describe first object)).now = s.now := rfl
  have hentries : (s.step (.describe first object)).cache.entries =
      [(keyIn second object' environmentId', ⟨s.now, recordType, Document.ofSchema schema⟩)] := by
    have hon : (s.looked first object environmentId).isDisabled = false :=
      Cache.not_isDisabled (minutes_looked (s := s) ▸ hpos)
    have hnone : (s.looked first object environmentId).entries = [] := entries_looked.trans hempty
    rw [cache_describe, hask]
    dsimp only
    rw [keep, Cache.entries_set, hon, hnone, hkeys]
    rfl
  -- How the cache came to hold the answer no longer matters.
  generalize s.step (.describe first object) = later at hminutes hnow hentries ⊢
  have hheld : later.answer? second object' environmentId' = some (Document.ofSchema schema) := by
    rw [answer?, Cache.answer?, Cache.not_isDisabled (hminutes ▸ hpos), hentries, hminutes, hnow]
    simp [Cache.answerOf, Named.get?, Option.filter, hfresh]
  obtain ⟨events', hask'⟩ := ask_of_held hname' hid' hheld fun hnull => by cases hnull
  rw [Serves, hask', ofHeld, Document.schema?_ofSchema]
  exact ⟨rfl, rfl⟩

end Shared

/-! ## What is kept apart -/

/-- Over any course of calls by any sources that began with an empty cache, a schema that comes
from the cache was given before by a source of the same environment and version, for the same
object, unless a name or a version holds what a key is joined with. -/
theorem served_shares {c : Cache} (hempty : c.entries = []) (now : Binary64) (state : σ)
    {steps : List (Shared.Step σ ε)} {s : Shared σ ε}
    (hs : s = Shared.run ⟨c, now, [], state⟩ steps) {source : SchemaSource σ ε} {object : String}
    {schema : ObjectSchema} (hserves : s.Serves source object schema) :
    (∃ exchange ∈ s.exchanges, exchange.call.answer = .ok schema ∧
      Shares source object exchange) ∧
    ∀ e e' v v' o o', IsPlain v o → IsPlain v' o' →
      (cacheKey e v o = cacheKey e' v' o' ↔ e = e' ∧ v = v' ∧ lower o = lower o') := by
  have hstart : Shared.IsAccounted (⟨c, now, [], state⟩ : Shared σ ε) := by
    intro key r hr
    have hnone : c.entries.get? key = none := by
      rw [hempty]
      rfl
    exact absurd (hnone.symm.trans hr) nofun
  have haccounted := hstart.run steps
  rw [← hs] at haccounted
  obtain ⟨environmentId, hid, exchange, hmem, hkey, hanswer⟩ :=
    haccounted.exists_of_serves hserves
  exact ⟨⟨exchange, hmem, hanswer, shares_of_hasKey hid hkey⟩,
    fun _ _ _ _ _ _ h h' => cacheKey_eq_iff h h'⟩

/-- An environment whose name is full of colons, and an object that is asked for in two ways. -/
theorem served_shares_recased :
    let prod := speaking "duckdb:/data/c:/prod.db" "1.2.1" "Deal"
    let start : Shared Unit String := ⟨.open' 10 .missing, .zero false, [], ()⟩
    let s := start.run [.describe prod " Deal"]
    s.Serves prod "DEAL" ⟨"Deal", none, []⟩ ∧
      ∃ exchange ∈ s.exchanges, exchange.call.answer = .ok ⟨"Deal", none, []⟩ ∧
        exchange.environmentId = prod.environmentId ∧
        exchange.schemaVersion = prod.schemaVersion := by
  intro prod start s
  have hfresh : ((Binary64.zero false).sub (.zero false)).leInt (10 * 60) = true := by
    decide +kernel
  have hnames : Text.strip " Deal" ≠ "" ∧ Text.strip "DEAL" ≠ "" ∧
      keyIn prod " Deal" "duckdb:/data/c:/prod.db" = keyIn prod "DEAL" "duckdb:/data/c:/prod.db" ∧
      lower (Text.strip "DEAL") = "deal" ∧ lower (Text.strip " Deal") = "deal" := by
    decide +kernel
  obtain ⟨hname, hname', hkeys, hlower, hlower'⟩ := hnames
  obtain ⟨hserves, hexchanges⟩ := Shared.serves_of_keyIn_eq (s := start) (by decide) rfl hfresh
    prod prod " Deal" "DEAL" hname hname' rfl rfl hkeys rfl
  obtain ⟨⟨exchange, hmem, hanswer, hshares⟩, -⟩ :=
    served_shares rfl (.zero false) () (show s = _ from rfl) hserves
  have hsaid := hmem
  rw [show s.exchanges = _ from hexchanges] at hsaid
  obtain rfl := List.mem_singleton.1 hsaid
  have hplain : IsPlain "1.2.1" (Text.strip "DEAL") := ⟨by decide, by rw [hlower]; decide⟩
  have hplain' : IsPlain "1.2.1" (Text.strip " Deal") := ⟨by decide, by rw [hlower']; decide⟩
  obtain ⟨hid, hversion, -⟩ := hshares.plain hplain hplain'
  exact ⟨hserves, _, hmem, hanswer, hid, hversion⟩

/-- The answer of one environment to a question for another, which was never asked, and the answer
under one version to a question under another version of the same environment. -/
theorem served_across :
    let start : Shared Unit String := ⟨.open' 10 .missing, .zero false, [], ()⟩
    let first := start.run [.describe (speaking "crm" "prod:58" "Deal") "Deal"]
    let upgraded := start.run [.describe (speaking "crm" "1" "Log") "2:sobject:deal"]
    (first.Serves (speaking "crm:prod" "58" "Account") "Deal" ⟨"Deal", none, []⟩ ∧
      ∀ exchange ∈ first.exchanges, exchange.environmentId ≠ some "crm:prod") ∧
    upgraded.Serves (speaking "crm" "1:sobject:2" "Deal") "Deal" ⟨"Log", none, []⟩ ∧
      ∀ exchange ∈ upgraded.exchanges, exchange.schemaVersion ≠ "1:sobject:2" := by
  intro start first upgraded
  have hfresh : ((Binary64.zero false).sub (.zero false)).leInt (10 * 60) = true := by
    decide +kernel
  have hnames : Text.strip "Deal" ≠ "" ∧ Text.strip "2:sobject:deal" ≠ "" := by decide +kernel
  constructor
  · obtain ⟨hserves, hexchanges⟩ := Shared.serves_of_keyIn_eq (s := start) (by decide) rfl hfresh
      (speaking "crm" "prod:58" "Deal") (speaking "crm:prod" "58" "Account") "Deal" "Deal"
      hnames.1 hnames.1 rfl rfl (by decide +kernel) rfl
    refine ⟨hserves, fun exchange hmem => ?_⟩
    rw [show first.exchanges = _ from hexchanges] at hmem
    obtain rfl := List.mem_singleton.1 hmem
    decide
  · obtain ⟨hserves, hexchanges⟩ := Shared.serves_of_keyIn_eq (s := start) (by decide) rfl hfresh
      (speaking "crm" "1" "Log") (speaking "crm" "1:sobject:2" "Deal") "2:sobject:deal" "Deal"
      hnames.2 hnames.1 rfl rfl (by decide +kernel) rfl
    refine ⟨hserves, fun exchange hmem => ?_⟩
    rw [show upgraded.exchanges = _ from hexchanges] at hmem
    obtain rfl := List.mem_singleton.1 hmem
    decide

end Discovery
end CrossCheck
