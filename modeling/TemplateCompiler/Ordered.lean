namespace TemplateCompiler.Ordered

variable {β : Type}

def put (entries : List (String × β)) (name : String) (v : β) : List (String × β) :=
  match entries with
  | [] => [(name, v)]
  | (n, w) :: rest => if n = name then (n, v) :: rest else (n, w) :: put rest name v

theorem lookup_put (entries : List (String × β)) (name other : String) (v : β) :
    (put entries name v).lookup other = if other = name then some v else entries.lookup other := by
  induction entries with
  | nil =>
    by_cases same : other = name
    · simp [put, same]
    · simp [put, same, List.lookup_cons, beq_eq_false_iff_ne.mpr same]
  | cons entry rest ih =>
    obtain ⟨n, w⟩ := entry
    by_cases here : n = name
    · subst here
      by_cases same : other = n
      · simp [put, same]
      · simp [put, same, List.lookup_cons, beq_eq_false_iff_ne.mpr same]
    · simp only [put, if_neg here, List.lookup_cons]
      by_cases same : other = n
      · subst same
        simp [here]
      · simp [beq_eq_false_iff_ne.mpr same, ih]

theorem names_put (entries : List (String × β)) (name : String) (v : β) :
    (put entries name v).map Prod.fst =
      if name ∈ entries.map Prod.fst then entries.map Prod.fst else entries.map Prod.fst ++ [name] := by
  induction entries with
  | nil => rfl
  | cons entry rest ih =>
    obtain ⟨n, w⟩ := entry
    by_cases here : n = name
    · simp [put, here]
    · simp only [put, if_neg here, List.map_cons, ih, List.mem_cons, Ne.symm here, false_or]
      split <;> simp

theorem put_of_missing {entries : List (String × β)} {name : String} (missing : entries.lookup name = none) (v : β) :
    put entries name v = entries ++ [(name, v)] := by
  induction entries with
  | nil => rfl
  | cons entry rest ih =>
    obtain ⟨n, w⟩ := entry
    by_cases here : n = name
    · simp [here] at missing
    · simp only [List.lookup_cons, beq_eq_false_iff_ne.mpr (Ne.symm here)] at missing
      simp only [put, if_neg here, ih missing, List.cons_append]

theorem put_put (entries : List (String × β)) (name : String) (v w : β) :
    put (put entries name v) name w = put entries name w := by
  induction entries with
  | nil => simp [put]
  | cons entry rest ih =>
    obtain ⟨n, u⟩ := entry
    by_cases here : n = name
    · simp [put, here]
    · simp [put, here, ih]

theorem isSome_lookup {entries : List (String × β)} {name : String} :
    (entries.lookup name).isSome = true ↔ name ∈ entries.map Prod.fst := by
  rw [List.lookup_isSome_iff, List.mem_map]
  constructor
  · rintro ⟨entry, member, same⟩
    exact ⟨entry, member, (beq_iff_eq.mp same).symm⟩
  · rintro ⟨entry, member, rfl⟩
    exact ⟨entry, member, beq_self_eq_true _⟩

theorem lookup_of_mem {entries : List (String × β)} (unique : (entries.map Prod.fst).Nodup) {name : String} {v : β}
    (member : (name, v) ∈ entries) : entries.lookup name = some v := by
  induction entries with
  | nil => cases member
  | cons entry rest ih =>
    rw [List.map_cons, List.nodup_cons] at unique
    rw [List.lookup_cons]
    rcases List.mem_cons.mp member with rfl | later
    · rw [beq_self_eq_true]
    · have other : name ≠ entry.1 := fun same => unique.1 (same ▸ List.mem_map_of_mem later)
      rw [beq_eq_false_iff_ne.mpr other]
      exact ih unique.2 later

theorem lookup_map {γ : Type} (f : β → γ) (entries : List (String × β)) (name : String) :
    (entries.map fun entry => (entry.1, f entry.2)).lookup name = (entries.lookup name).map f := by
  induction entries with
  | nil => rfl
  | cons entry rest ih =>
    rw [List.map_cons, List.lookup_cons, List.lookup_cons]
    cases name == entry.1 with
    | true => rfl
    | false => exact ih

theorem put_map {γ : Type} (f : β → γ) (entries : List (String × β)) (name : String) (v : β) :
    put (entries.map fun entry => (entry.1, f entry.2)) name (f v) =
      (put entries name v).map fun entry => (entry.1, f entry.2) := by
  induction entries with
  | nil => rfl
  | cons entry rest ih =>
    rw [List.map_cons, put, put, ih]
    split <;> rfl

theorem eraseDups_concat (names : List String) (name : String) :
    (names ++ [name]).eraseDups =
      if name ∈ names.eraseDups then names.eraseDups else names.eraseDups ++ [name] := by
  rw [List.eraseDups_append]
  by_cases known : name ∈ names
  · simp [List.removeAll, known]
  · simp [List.removeAll, known, List.eraseDups_cons]

end TemplateCompiler.Ordered
