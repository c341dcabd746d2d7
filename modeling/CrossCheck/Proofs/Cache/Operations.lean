import CrossCheck.Proofs.Cache
import CrossCheck.Proofs.Json.Storable
import CrossCheck.Proofs.Sequence

/-!
What single operations do to a cache, whether it is on or off, and whether or not a change reaches
the file.
-/

namespace CrossCheck

namespace Document

open Json

mutual

/-- What the file keeps of a value asks no more than the value. -/
theorem isWritableWith_stored {fits : Int → Bool} : ∀ {v : Value},
    isWritableWith fits v = true → isWritableWith fits (stored v) = true
  | .float x, _ => by
    rw [stored]
    split <;> rfl
  | .list _, h => areWritable_storedAll h
  | .record _, h => membersAreWritable_storedMembers h
  | .null, h | .bool _, h | .int _, h | .decimal _, h | .text _, h | .date _, h | .time _, h
  | .timestamp _, h | .bytes _, h => h

theorem areWritable_storedAll {fits : Int → Bool} : ∀ {vs : List Value},
    areWritable fits vs = true → areWritable fits (storedAll vs) = true
  | [], _ => rfl
  | v :: vs, h => by
    rw [areWritable, Bool.and_eq_true] at h
    rw [storedAll, areWritable, Bool.and_eq_true]
    exact ⟨isWritableWith_stored h.1, areWritable_storedAll h.2⟩

theorem membersAreWritable_storedMembers {fits : Int → Bool} : ∀ {ms : List (String × Value)},
    membersAreWritable fits ms = true → membersAreWritable fits (storedMembers ms) = true
  | [], _ => rfl
  | (name, v) :: ms, h => by
    rw [membersAreWritable, Bool.and_eq_true] at h
    rw [storedMembers, membersAreWritable, Bool.and_eq_true]
    exact ⟨isWritableWith_stored h.1, membersAreWritable_storedMembers h.2⟩

end

theorem record?_eq_some {v : Value} {r : Record} (h : record? v = some r) : v = .record r := by
  cases v with
  | record ms =>
    cases h
    rfl
  | _ => exact absurd h nofun

theorem isStorable_of_get? {r : Record} (h : isStorable (.record r) = true) {name : String}
    {v : Value} (hget : r.get? name = some v) : isStorable v = true :=
  membersAreWritable_iff.1 h (name, v) (Named.mem_of_get? hget)

theorem isStorable_of_cacheRecord? {v : Value} (h : isStorable v = true) {r : CacheRecord}
    (hread : cacheRecord? v = some r) : isStorable (stored r.data) = true := by
  rw [cacheRecord?, Option.bind_eq_bind] at hread
  obtain ⟨members, hmembers, hread⟩ := Option.bind_eq_some_iff.1 hread
  obtain ⟨fetchedAt, -, hread⟩ := Option.bind_eq_some_iff.1 hread
  obtain ⟨type, -, hread⟩ := Option.bind_eq_some_iff.1 hread
  obtain ⟨data, hdata, hread⟩ := Option.bind_eq_some_iff.1 hread
  cases hread
  exact isWritableWith_stored (isStorable_of_get? (record?_eq_some hmembers ▸ h) hdata)

theorem isStorable_of_cacheEntries? {v : Value} (h : isStorable v = true)
    {entries : Named CacheRecord} (hread : cacheEntries? v = some entries) :
    ∀ m ∈ entries, isStorable (stored m.2.data) = true := by
  intro m hm
  rw [cacheEntries?, Option.bind_eq_bind] at hread
  obtain ⟨members, hmembers, hread⟩ := Option.bind_eq_some_iff.1 hread
  obtain ⟨⟨key, w⟩, hmem, hentry⟩ := Sequence.exists_of_mem_mapM_some hread hm
  obtain ⟨r, hr, rfl⟩ := Option.map_eq_some_iff.1 hentry
  rw [record?_eq_some hmembers] at h
  exact isStorable_of_cacheRecord? (membersAreWritable_iff.1 h _ hmem) hr

/-- What is read as the file of a cache can be written as one. -/
theorem isStorable_of_cacheFile? {v : Value} (h : isStorable v = true)
    {entries : Named CacheRecord} (hread : cacheFile? v = some entries) :
    ∀ m ∈ entries, isStorable (stored m.2.data) = true := by
  rw [cacheFile?, Option.bind_eq_bind] at hread
  obtain ⟨members, hmembers, hread⟩ := Option.bind_eq_some_iff.1 hread
  obtain ⟨version, -, hread⟩ := Option.bind_eq_some_iff.1 hread
  obtain ⟨kept, hkept, hread⟩ := Option.bind_eq_some_iff.1 hread
  rw [record?_eq_some hmembers] at h
  split at hread
  · cases hread
    rw [withDefault] at hkept
    split at hkept
    · cases hkept
      exact fun m hm => absurd hm List.not_mem_nil
    · next w hw => exact isStorable_of_cacheEntries? (isStorable_of_get? h hw) hkept
  · cases hread
    exact fun m hm => absurd hm List.not_mem_nil

end Document

namespace Cache

/-- Whatever lies in the place of the file, its entries can be written again. -/
theorem isStorable_entriesOf? (file : CacheFile) :
    ∀ m ∈ (entriesOf? file).getD [], Json.isStorable (Document.stored m.2.data) = true := by
  cases file with
  | missing => exact nofun
  | blocked o => exact nofun
  | binary bytes => exact nofun
  | text s =>
    cases hentries : entriesOf? (.text s) with
    | none => exact nofun
    | some entries =>
      obtain ⟨v, hv, hread⟩ := Option.bind_eq_some_iff.1 hentries
      exact Document.isStorable_of_cacheFile? (Json.isStorable_of_read? hv) hread

variable (c : Cache) (now : Binary64) (key type : String) (data : Value)

/-- What a cache answers: nothing while it is off. -/
def answer? : Option Value :=
  if c.isDisabled then none else answerOf c.minutes now type (c.entries.get? key)

variable {c} in
theorem answer?_of_nil (h : c.entries = []) : c.answer? now key type = none := by
  rw [answer?, h]
  exact ite_self _

variable {c} in
theorem pos_of_isDisabled (h : c.isDisabled = false) : 0 < c.minutes := by
  rw [isDisabled, decide_eq_false_iff_not] at h
  omega

theorem get?_fst : (c.get? now key type).1 = c.answer? now key type := by
  cases hoff : c.isDisabled with
  | true =>
    rw [get?, answer?, hoff]
    rfl
  | false =>
    obtain ⟨events, hget⟩ := exists_get?_eq (pos_of_isDisabled hoff) now key type
    rw [hget, answer?, hoff]
    rfl

/-- Asking changes no more than that the file is read. -/
theorem get?_cache :
    (c.get? now key type).2.1 = c ∨
      (c.get? now key type).2.1 = { c with loaded := some c.entries } := by
  cases hoff : c.isDisabled with
  | true =>
    rw [get?, hoff]
    exact .inl rfl
  | false =>
    obtain ⟨events, hget⟩ := exists_get?_eq (pos_of_isDisabled hoff) now key type
    rw [hget]
    exact .inr rfl

theorem entries_get? : (c.get? now key type).2.1.entries = c.entries := by
  rcases c.get?_cache now key type with h | h
  · rw [h]
  · rw [h, entries_some]

theorem minutes_get? : (c.get? now key type).2.1.minutes = c.minutes := by
  rcases c.get?_cache now key type with h | h <;> rw [h]

theorem file_get? : (c.get? now key type).2.1.file = c.file := by
  rcases c.get?_cache now key type with h | h <;> rw [h]

/-- A change is made in memory whatever becomes of the file. -/
theorem entries_set : (c.set now key type data).2.1.entries =
    if c.isDisabled then c.entries else c.entries.set key ⟨now, type, data⟩ := by
  rw [set]
  split
  · rfl
  · dsimp only
    split <;> rfl

theorem minutes_set : (c.set now key type data).2.1.minutes = c.minutes := by
  rw [set]
  split
  · rfl
  · dsimp only
    split <;> rfl

/-- Nothing is written where there can be no file. -/
theorem writeFile_blocked_ne_ok (o : Folder.Obstacle) (entries : Named CacheRecord)
    (file : CacheFile) : writeFile (.blocked o) entries ≠ .ok file := by
  unfold writeFile
  dsimp only
  split
  · exact nofun
  · exact nofun
  · next hfile => exact absurd rfl (hfile o)
  · next hfile => exact absurd rfl (hfile o)

/-- There can be a file after a change if and only if there could be one before. -/
theorem blocked_set (o : Folder.Obstacle) :
    (c.set now key type data).2.1.file = .blocked o ↔ c.file = .blocked o := by
  rw [set]
  split
  · rfl
  · dsimp only
    split
    · rfl
    · next file hwrite =>
      have hfile : c.load.1.file = c.file := rfl
      obtain ⟨rfl, -⟩ := writeFile_ok hwrite
      constructor
      · intro hblocked
        cases hblocked
      · intro hblocked
        rw [hfile, hblocked] at hwrite
        exact absurd hwrite (writeFile_blocked_ne_ok o _ _)

/-- The file is what was written for the entries. -/
def IsWritten (c : Cache) : Prop := ∃ file, writeFile file c.entries = .ok c.file

theorem IsWritten.file_eq {c : Cache} (h : c.IsWritten) :
    c.file = .text (Json.writeLine (Document.ofCacheEntries c.entries)) := by
  obtain ⟨file, hwrite⟩ := h
  exact (writeFile_ok hwrite).1

/-- Nothing stands in the way of a change. -/
structure IsOpen (c : Cache) : Prop where
  file : ∀ o, c.file ≠ .blocked o
  entries : ∀ m ∈ c.entries, Json.isStorable (Document.stored m.2.data) = true

variable {c data} in
theorem IsOpen.set (h : c.IsOpen) (now : Binary64) (key type : String)
    (hdata : Json.isStorable (Document.stored data) = true) :
    (c.set now key type data).2.1.IsOpen ∧ (c.set now key type data).1 = none := by
  cases hoff : c.isDisabled with
  | true =>
    rw [Cache.set, if_pos hoff]
    exact ⟨h, rfl⟩
  | false =>
    rw [set_of_isStorable (pos_of_isDisabled hoff) h.file h.entries hdata]
    refine ⟨⟨fun o hblocked => ?_, isStorable_set h.entries hdata now key type⟩, rfl⟩
    cases hblocked

end Cache
end CrossCheck
