import Mathlib.Data.List.Nodup

/-!
# Tables

A registry and a producer each keep a table: a list of entries, every one a value under a key. A
table is searched for the first entry of a key, grows at its end, and changes by replacing or
leaving out the entries of a key. What these do to what is found is all that later modules need;
where the keys differ from each other, what is found and what is held are the same.
-/

namespace SceneBench.Table

variable {κ ν : Type} [DecidableEq κ]

/-- The table with another value under a key, wherever the key is in use. -/
def replace (t : List (κ × ν)) (k : κ) (v : ν) : List (κ × ν) :=
  t.map fun entry => if entry.1 = k then (k, v) else entry

/-- The table without the entries of a key. -/
def erase (t : List (κ × ν)) (k : κ) : List (κ × ν) := t.filter fun entry => entry.1 ≠ k

variable {t : List (κ × ν)} {k k' : κ} {v v' : ν}

theorem mem_of_lookup (found : t.lookup k = some v) : (k, v) ∈ t := by
  obtain ⟨before, behind, rfl, _⟩ := List.lookup_eq_some_iff.mp found
  simp

/-- Where keys differ, an entry that is held is the one that is found. -/
theorem lookup_eq_some_iff (keys : (t.map Prod.fst).Nodup) :
    t.lookup k = some v ↔ (k, v) ∈ t := by
  refine ⟨mem_of_lookup, fun held => ?_⟩
  cases found : t.lookup k with
  | none =>
      have unused := List.lookup_eq_none_iff.mp found (k, v) held
      simp at unused
  | some v' =>
      have same := List.inj_on_of_nodup_map keys (mem_of_lookup found) held rfl
      rw [(Prod.mk.inj same).2]

theorem lookup_isSome_iff : (t.lookup k).isSome ↔ k ∈ t.map Prod.fst := by
  rw [List.lookup_isSome_iff, List.mem_map]
  exact exists_congr fun entry => and_congr_right fun _ => by rw [beq_iff_eq, eq_comm]

theorem lookup_eq_none_iff : t.lookup k = none ↔ k ∉ t.map Prod.fst := by
  rw [← lookup_isSome_iff, Option.not_isSome_iff_eq_none]

/-- Growing at the end changes nothing about the keys in use. -/
theorem lookup_append_singleton :
    (t ++ [(k, v)]).lookup k' =
      (t.lookup k').or (if k' = k then some v else none) := by
  rw [List.lookup_append]
  by_cases asked : k' = k
  · simp [asked]
  · simp [asked, List.lookup_cons, beq_false_of_ne asked]

@[simp] theorem keys_replace (t : List (κ × ν)) (k : κ) (v : ν) :
    (replace t k v).map Prod.fst = t.map Prod.fst := by
  rw [replace, List.map_map]
  refine List.map_congr_left fun entry _ => ?_
  by_cases same : entry.1 = k
  · simp [same]
  · simp [same]

theorem lookup_replace (t : List (κ × ν)) (k k' : κ) (v : ν) :
    (replace t k v).lookup k' = if k' = k then (t.lookup k).map fun _ => v else t.lookup k' := by
  induction t with
  | nil => simp [replace]
  | cons entry t ih =>
      obtain ⟨held, w⟩ := entry
      simp only [replace, List.map_cons] at ih ⊢
      by_cases here : held = k
      · subst here
        by_cases asked : k' = held
        · simp [asked]
        · simp [asked, List.lookup_cons, beq_false_of_ne asked, ih]
      · by_cases asked : k' = k
        · subst asked
          simp [here, List.lookup_cons, beq_false_of_ne (Ne.symm here), ih]
        · simp [here, asked, List.lookup_cons, ih]

theorem lookup_erase (t : List (κ × ν)) (k k' : κ) :
    (erase t k).lookup k' = if k' = k then none else t.lookup k' := by
  induction t with
  | nil => simp [erase]
  | cons entry t ih =>
      obtain ⟨held, w⟩ := entry
      by_cases here : held = k
      · rw [show erase ((held, w) :: t) k = erase t k by simp [erase, here], ih, here]
        by_cases asked : k' = k
        · simp [asked]
        · simp [asked, List.lookup_cons, beq_false_of_ne asked]
      · rw [show erase ((held, w) :: t) k = (held, w) :: erase t k by simp [erase, here],
          List.lookup_cons, List.lookup_cons, ih]
        by_cases asked : k' = held
        · simp [asked, here]
        · simp [beq_false_of_ne asked]

/-- Replacing a value by itself changes nothing. -/
theorem replace_self (keys : (t.map Prod.fst).Nodup) (found : t.lookup k = some v) :
    replace t k v = t := by
  rw [replace, List.map_congr_left (g := id), List.map_id]
  intro entry held
  by_cases same : entry.1 = k
  · have : entry = (k, v) := List.inj_on_of_nodup_map keys held (mem_of_lookup found) same
    simp [this]
  · simp [same]

/-- A key that is not in use has no entry to leave out. -/
theorem erase_of_unused (unused : k ∉ t.map Prod.fst) : erase t k = t := by
  refine List.filter_eq_self.mpr fun entry held => ?_
  simp only [ne_eq, decide_eq_true_eq]
  rintro rfl
  exact unused (List.mem_map_of_mem held)

theorem replace_of_unused (unused : k ∉ t.map Prod.fst) (v : ν) : replace t k v = t := by
  rw [replace, List.map_congr_left (g := id), List.map_id]
  intro entry held
  refine if_neg ?_
  rintro rfl
  exact unused (List.mem_map_of_mem held)

theorem erase_cons_self (unused : k ∉ t.map Prod.fst) : erase ((k, v) :: t) k = t := by
  rw [erase, List.filter_cons_of_neg (by simp)]
  exact erase_of_unused unused

/-- A key that one entry has is left out with this entry. -/
theorem erase_middle {before after : List (κ × ν)} (ahead : k ∉ before.map Prod.fst)
    (behind : k ∉ after.map Prod.fst) :
    erase (before ++ (k, v) :: after) k = before ++ after := by
  rw [erase, List.filter_append]
  exact congrArg₂ _ (erase_of_unused ahead) (erase_cons_self behind)

theorem replace_middle {before after : List (κ × ν)} (ahead : k ∉ before.map Prod.fst)
    (behind : k ∉ after.map Prod.fst) (v' : ν) :
    replace (before ++ (k, v) :: after) k v' = before ++ (k, v') :: after := by
  rw [replace, List.map_append, List.map_cons, if_pos rfl]
  exact congrArg₂ _ (replace_of_unused ahead v') (congrArg _ (replace_of_unused behind v'))

/-- What was just added at the end of a table can be taken away again. -/
theorem erase_append_singleton (unused : k ∉ t.map Prod.fst) : erase (t ++ [(k, v)]) k = t := by
  rw [erase_middle unused (by simp), List.append_nil]

/-- What was just added at the end of a table can be replaced there. -/
theorem replace_append_singleton (unused : k ∉ t.map Prod.fst) :
    replace (t ++ [(k, v)]) k v' = t ++ [(k, v')] :=
  replace_middle unused (by simp) v'

/-- Where keys differ there is one entry of a key, and replacing or leaving it out concerns no
other. -/
theorem split_of_lookup (keys : (t.map Prod.fst).Nodup) (found : t.lookup k = some v) :
    ∃ before after, t = before ++ (k, v) :: after ∧ erase t k = before ++ after ∧
      ∀ v', replace t k v' = before ++ (k, v') :: after := by
  obtain ⟨before, after, rfl⟩ := List.append_of_mem (mem_of_lookup found)
  rw [List.map_append, List.map_cons, List.nodup_middle, List.nodup_cons, List.mem_append,
    not_or] at keys
  obtain ⟨⟨ahead, behind⟩, -⟩ := keys
  exact ⟨before, after, rfl, erase_middle ahead behind, replace_middle ahead behind⟩

end SceneBench.Table
