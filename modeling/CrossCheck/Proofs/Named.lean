import CrossCheck.Value

/-!
Looking names up in what was built from left to right.
-/

namespace CrossCheck.Named

variable {α β : Type}

theorem get?_foldl_set_of_not_mem {members : List (String × α)} {name : String}
    (h : name ∉ members.map (·.1)) (xs : Named α) :
    Named.get? (members.foldl (fun xs m => set xs m.1 m.2) xs) name = xs.get? name := by
  induction members generalizing xs with
  | nil => rfl
  | cons m members ih =>
    rw [List.map_cons, List.mem_cons, not_or] at h
    rw [List.foldl_cons, ih h.2, get?_set, if_neg h.1]

theorem get?_foldl_set_of_mem {members : List (String × α)} (h : (members.map (·.1)).Nodup)
    {name : String} {x : α} (hmem : (name, x) ∈ members) (xs : Named α) :
    Named.get? (members.foldl (fun xs m => set xs m.1 m.2) xs) name = some x := by
  induction members generalizing xs with
  | nil => exact absurd hmem List.not_mem_nil
  | cons m members ih =>
    rw [List.map_cons, List.nodup_cons] at h
    rw [List.foldl_cons]
    rcases List.mem_cons.1 hmem with rfl | hmem
    · rw [get?_foldl_set_of_not_mem h.1, get?_set, if_pos rfl]
    · exact ih h.2 hmem _

/-- Members of different names are all there. -/
theorem get?_ofList {members : List (String × α)} (h : (members.map (·.1)).Nodup)
    {name : String} {x : α} (hmem : (name, x) ∈ members) :
    (ofList members).get? name = some x := get?_foldl_set_of_mem h hmem []

theorem mem_of_get? {xs : Named α} {name : String} {x : α} (h : xs.get? name = some x) :
    (name, x) ∈ xs := by
  obtain ⟨before, after, hxs, -⟩ := List.lookup_eq_some_iff.1 h
  rw [hxs]
  exact List.mem_append_right before List.mem_cons_self

theorem mem_of_mem_set {xs : Named α} {name : String} {x : α} {m : String × α}
    (h : m ∈ xs.set name x) : m = (name, x) ∨ m ∈ xs := by
  induction xs with
  | nil => exact .inl (List.mem_singleton.1 h)
  | cons first xs ih =>
    obtain ⟨n, y⟩ := first
    rw [set] at h
    split at h
    · next hn =>
      rcases List.mem_cons.1 h with rfl | hmem
      · exact .inl (by rw [hn])
      · exact .inr (List.mem_cons_of_mem _ hmem)
    · rcases List.mem_cons.1 h with rfl | hmem
      · exact .inr List.mem_cons_self
      · exact (ih hmem).imp_right (List.mem_cons_of_mem _)

theorem mem_of_mem_foldl_set {members : List (String × α)} {xs : Named α} {m : String × α}
    (h : m ∈ members.foldl (fun xs m => set xs m.1 m.2) xs) : m ∈ members ∨ m ∈ xs := by
  induction members generalizing xs with
  | nil => exact .inr h
  | cons first members ih =>
    rw [List.foldl_cons] at h
    rcases ih h with hmem | hmem
    · exact .inl (List.mem_cons_of_mem _ hmem)
    · rcases mem_of_mem_set hmem with rfl | hmem
      · exact .inl List.mem_cons_self
      · exact .inr hmem

theorem mem_of_mem_ofList {members : List (String × α)} {m : String × α}
    (h : m ∈ ofList members) : m ∈ members :=
  (mem_of_mem_foldl_set h).resolve_right List.not_mem_nil

theorem nodup_set {xs : Named α} (h : (xs.map (·.1)).Nodup) (name : String) (x : α) :
    ((xs.set name x).map (·.1)).Nodup := by
  have hnames := names_set xs name x
  rw [names, names] at hnames
  rw [hnames]
  split
  · exact h
  · next hnew =>
    refine List.nodup_append.2 ⟨h, List.pairwise_singleton _ _, fun n hn m hm heq => ?_⟩
    rw [List.mem_singleton] at hm
    exact hnew (hm ▸ heq ▸ hn)

theorem set_of_not_mem {xs : Named α} {name : String} (h : name ∉ xs.names) (x : α) :
    xs.set name x = xs ++ [(name, x)] := by
  induction xs with
  | nil => rfl
  | cons m xs ih =>
    obtain ⟨n, y⟩ := m
    rw [names, List.map_cons, List.mem_cons, not_or] at h
    rw [set, if_neg fun hn => h.1 hn.symm, ih h.2]
    rfl

theorem foldl_set_of_nodup {members : List (String × α)} {xs : Named α}
    (h : ((xs ++ members).map (·.1)).Nodup) :
    members.foldl (fun xs m => set xs m.1 m.2) xs = xs ++ members := by
  induction members generalizing xs with
  | nil => rw [List.foldl_nil, List.append_nil]
  | cons m members ih =>
    have hnew : m.1 ∉ xs.names := by
      rw [List.map_append, List.map_cons] at h
      intro hmem
      exact (List.nodup_append.1 h).2.2 m.1 hmem m.1 List.mem_cons_self rfl
    rw [List.append_cons] at h
    rw [List.foldl_cons, set_of_not_mem hnew, ih h, ← List.append_cons]

/-- Members of different names are kept as they are. -/
theorem ofList_eq_self {members : List (String × α)} (h : (members.map (·.1)).Nodup) :
    ofList members = members := by
  rw [ofList, foldl_set_of_nodup h, List.nil_append]

theorem get?_map (f : α → β) (xs : Named α) (name : String) :
    Named.get? (xs.map fun m => (m.1, f m.2)) name = (xs.get? name).map f := by
  induction xs with
  | nil => rfl
  | cons m xs ih =>
    obtain ⟨n, x⟩ := m
    simp only [get?, List.map_cons, List.lookup_cons] at ih ⊢
    split
    · rfl
    · exact ih

end CrossCheck.Named

namespace CrossCheck.Record

/-- A row under columns of different names holds the field of each column. -/
theorem get?_ofColumns_map {γ : Type} {xs : List γ} {name : γ → String} {field : γ → Value}
    (h : (xs.map name).Nodup) {x : γ} (hx : x ∈ xs) :
    (ofColumns (xs.map name) (xs.map field)).get? (name x) = some (field x) := by
  have hzip : (xs.map name).zip (xs.map field) = xs.map fun x => (name x, field x) := by
    rw [List.zip_map']
  rw [ofColumns, hzip]
  refine Named.get?_ofList ?_ (List.mem_map_of_mem hx)
  rw [List.map_map]
  exact h

end CrossCheck.Record
