import Astra.Platform.Python
import Mathlib.Data.List.Nodup

/-!
# Dictionaries as mappings

What looking up a key sees of the operations that build a dictionary.  A dictionary
that the code can build holds a key at most once.
-/

namespace Astra.Platform.Dict

/-- `d == e`: the order of the entries does not count. -/
def Same (d e : Dict) : Prop := ∀ key, d.get? key = e.get? key

def Keyed (d : Dict) : Prop := (d.map Prod.fst).Nodup

section Lookup

variable {d e : Dict} {key key' : String} {value : Json}

theorem get?_cons (entry : String × Json) (d : Dict) (key : String) :
    Dict.get? (entry :: d) key = if entry.1 = key then some entry.2 else d.get? key := by
  unfold get?
  rw [List.find?_cons]
  by_cases hentry : entry.1 = key
  · simp [hentry]
  · have hkeys : (entry.1 == key) = false := by simpa using hentry
    rw [hkeys, if_neg hentry]

private theorem get?_append (d e : Dict) (key : String) :
    Dict.get? (d ++ e) key = (d.get? key).or (e.get? key) := by
  unfold get?
  rw [List.find?_append]
  cases d.find? fun entry => entry.1 == key <;> rfl

private theorem get?_set (d : Dict) (key : String) (value : Json) (key' : String) :
    (d.set key value).get? key' = if key = key' then some value else d.get? key' := by
  by_cases hkeys : key = key'
  · rw [if_pos hkeys, ← hkeys, get?_set_self]
  · rw [if_neg hkeys, get?_set_ne d value hkeys]

theorem get?_eq_some_iff (h : Keyed d) : d.get? key = some value ↔ (key, value) ∈ d := by
  induction d with
  | nil => simp [get?]
  | cons entry d ih =>
      obtain ⟨hnew, hd⟩ := List.nodup_cons.mp h
      rw [get?_cons, List.mem_cons]
      by_cases hentry : entry.1 = key
      · subst hentry
        rw [if_pos rfl, Option.some.injEq]
        constructor
        · rintro rfl
          exact Or.inl rfl
        · rintro (heq | hmem)
          · rw [← heq]
          · exact absurd (List.mem_map.mpr ⟨_, hmem, rfl⟩) hnew
      · rw [if_neg hentry, ih hd]
        constructor
        · exact Or.inr
        · rintro (rfl | hmem)
          · exact absurd rfl hentry
          · exact hmem

private theorem get?_congr (hd : Keyed d) (he : Keyed e) (h : ∀ entry, entry ∈ d ↔ entry ∈ e) :
    Same d e := by
  intro key
  ext value
  rw [get?_eq_some_iff hd, get?_eq_some_iff he, h]

private theorem get?_reverse (h : Keyed d) (key : String) :
    Dict.get? d.reverse key = d.get? key := by
  refine get?_congr ?_ h (fun entry => List.mem_reverse) key
  unfold Keyed
  rw [List.map_reverse]
  exact List.nodup_reverse.mpr h

theorem get?_dropNone (h : Keyed d) (key : String) :
    d.dropNone.get? key = (d.get? key).filter fun value => !value.isNull := by
  have hkeyed : Keyed d.dropNone := h.sublist (List.filter_sublist.map _)
  ext value
  rw [get?_eq_some_iff hkeyed, dropNone, List.mem_filter, ← get?_eq_some_iff h,
    Option.filter_eq_some_iff]

theorem get?_isSome_reverse (d : Dict) (key : String) :
    (Dict.get? d.reverse key).isSome = (d.get? key).isSome := by
  unfold get?
  rw [Option.isSome_map, Option.isSome_map, Bool.eq_iff_iff, List.find?_isSome, List.find?_isSome]
  simp only [List.mem_reverse]

end Lookup

/-! ## Updates -/

section Merge

variable {d : Dict}

theorem Keyed.set (h : Keyed d) (key : String) (value : Json) : Keyed (d.set key value) := by
  unfold Dict.set
  split
  · have hkeys : (d.map fun entry => if entry.1 == key then (key, value) else entry).map Prod.fst =
        d.map Prod.fst := by
      rw [List.map_map]
      apply List.map_congr_left
      intro entry _
      by_cases hentry : entry.1 = key
      · simp [hentry]
      · simp [hentry]
    unfold Keyed
    rw [hkeys]
    exact h
  · rename_i hnew
    unfold Keyed
    rw [List.map_append, List.map_singleton]
    refine List.nodup_append.mpr ⟨h, List.nodup_singleton _, ?_⟩
    rintro _ hmem _ hkey rfl
    obtain ⟨entry, hentry, rfl⟩ := List.mem_map.mp hmem
    rw [List.any_eq_true] at hnew
    exact hnew ⟨entry, hentry, by simpa using List.mem_singleton.mp hkey⟩

theorem Keyed.merge (h : Keyed d) (e : Dict) : Keyed (d.merge e) := by
  induction e generalizing d with
  | nil => exact h
  | cons entry e ih => exact ih (h.set entry.1 entry.2)

theorem get?_merge (d e : Dict) (key : String) :
    (d.merge e).get? key = (Dict.get? e.reverse key).or (d.get? key) := by
  induction e generalizing d with
  | nil => rfl
  | cons entry e ih =>
      show ((d.set entry.1 entry.2).merge e).get? key = _
      rw [ih, List.reverse_cons, get?_append, get?_set, get?_cons]
      by_cases hentry : entry.1 = key
      · cases Dict.get? e.reverse key <;> simp [hentry]
      · cases Dict.get? e.reverse key <;> simp [hentry, get?]

theorem get?_merge_copy (d e : Dict) (key : String) :
    (d.merge (Dict.merge [] e)).get? key = (d.merge e).get? key := by
  have hcopy : Keyed (Dict.merge [] e) := Keyed.merge (d := []) List.nodup_nil e
  rw [get?_merge, get?_reverse hcopy, get?_merge, get?_merge]
  cases Dict.get? e.reverse key <;> rfl

end Merge

end Astra.Platform.Dict
