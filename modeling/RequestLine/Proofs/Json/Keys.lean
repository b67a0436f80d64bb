import RequestLine.Json

set_option autoImplicit false

namespace RequestLine.Json

variable {α : Type}

def keys (members : List (Text × α)) : List Text := members.map (·.1)

theorem mem_of_mem_put {key : Text} {v : α} {members : List (Text × α)} {m : Text × α}
    (h : m ∈ put key v members) : m = (key, v) ∨ m ∈ members := by
  induction members with
  | nil => simpa [put] using h
  | cons first members ih =>
    unfold put at h
    split at h <;> grind

theorem keys_put (key : Text) (v : α) (members : List (Text × α)) :
    keys (put key v members) =
      if key ∈ keys members then keys members else keys members ++ [key] := by
  induction members with
  | nil => simp [put, keys]
  | cons first members ih =>
    by_cases here : first.1 = key
    · simp [put, keys, here]
    · simp only [keys] at ih
      by_cases later : ∃ v, (key, v) ∈ members <;> simp [put, keys, here, Ne.symm here, later, ih]

theorem nodup_keys_put {key : Text} {v : α} {members : List (Text × α)}
    (h : (keys members).Nodup) : (keys (put key v members)).Nodup := by
  rw [keys_put]
  split
  next => exact h
  next absent =>
    refine List.nodup_append.mpr ⟨h, by simp, ?_⟩
    simp only [List.mem_singleton, forall_eq]
    rintro k member rfl
    exact absent member

theorem put_eq_append {key : Text} {v : α} {members : List (Text × α)}
    (absent : key ∉ keys members) : put key v members = members ++ [(key, v)] := by
  induction members with
  | nil => rfl
  | cons first members ih =>
    simp only [keys, List.map_cons, List.mem_cons, not_or] at absent
    simp [put, Ne.symm absent.1, ih absent.2]

theorem mem_of_mem_collect {written : List (Text × α)} {m : Text × α}
    (h : m ∈ collect written) : m ∈ written := by
  have step (written members : List (Text × α))
      (h : m ∈ written.foldl (fun members m => put m.1 m.2 members) members) :
      m ∈ members ∨ m ∈ written := by
    induction written generalizing members with
    | nil => exact .inl h
    | cons first written ih =>
      rcases ih _ h with known | later
      · rcases mem_of_mem_put known with new | known
        · exact .inr (by simp [new])
        · exact .inl known
      · exact .inr (List.mem_cons_of_mem _ later)
  simpa using step written [] h

theorem nodup_keys_collect (written : List (Text × α)) : (keys (collect written)).Nodup := by
  have step (written members : List (Text × α)) (h : (keys members).Nodup) :
      (keys (written.foldl (fun members m => put m.1 m.2 members) members)).Nodup := by
    induction written generalizing members with
    | nil => exact h
    | cons first written ih => exact ih _ (nodup_keys_put h)
  exact step written [] List.nodup_nil

theorem collect_eq_self {members : List (Text × α)} (h : (keys members).Nodup) :
    collect members = members := by
  have step (written members : List (Text × α)) (h : (keys (members ++ written)).Nodup) :
      written.foldl (fun members m => put m.1 m.2 members) members = members ++ written := by
    induction written generalizing members with
    | nil => simp
    | cons first written ih =>
      have absent : first.1 ∉ keys members := by
        simp only [keys, List.map_append, List.map_cons, List.nodup_append] at h ⊢
        intro member
        exact h.2.2 _ member first.1 (by simp) rfl
      rw [List.foldl_cons, put_eq_append absent, ih _ (by simpa using h)]
      simp
  exact step members [] h

end RequestLine.Json
