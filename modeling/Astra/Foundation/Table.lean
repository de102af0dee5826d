import Mathlib.Data.List.Nodup
import Mathlib.Data.List.Sort

/-!
# Tables as lists of rows

A database table is the list of its rows in heap order.  `INSERT` appends a row
whose key is not taken, `UPDATE ... WHERE` rewrites the selected rows in place,
and a query is a filter, a stable sort and a limit.  The lemmas say which rows
and which keys each operation leaves alone.
-/

namespace Astra.Foundation

variable {α : Type*} {κ : Type*}

/-- `INSERT`: `none` when the key of the new row is already present. -/
def insertRow [DecidableEq κ] (key : α → κ) (row : α) (rows : List α) : Option (List α) :=
  if key row ∈ rows.map key then none else some (rows ++ [row])

def updateWhere (selected : α → Bool) (change : α → α) (rows : List α) : List α :=
  rows.map fun row => if selected row then change row else row

def selectOrdered (selected : α → Bool) (le : α → α → Prop) [DecidableRel le]
    (limit : Nat) (rows : List α) : List α :=
  ((rows.filter selected).insertionSort le).take limit

def joinOn {β : Type*} (matching : α → β → Bool) (left : List α) (right : List β) : List (α × β) :=
  left.flatMap fun row => (right.filter (matching row)).map fun other => (row, other)

/-- A write by key: the row with the key is replaced, or the new one comes last. -/
def putRow [DecidableEq κ] (key : α → κ) (row : α) : List α → List α
  | [] => [row]
  | old :: rows => if key old = key row then row :: rows else old :: putRow key row rows

theorem mem_of_mem_selectOrdered {selected : α → Bool} {le : α → α → Prop} [DecidableRel le]
    {limit : Nat} {rows : List α} {row : α} (h : row ∈ selectOrdered selected le limit rows) :
    row ∈ rows ∧ selected row = true := by
  unfold selectOrdered at h
  have hsorted := List.mem_of_mem_take h
  rw [List.mem_insertionSort] at hsorted
  exact List.mem_filter.mp hsorted

theorem mem_selectOrdered_of_length_le {selected : α → Bool} {le : α → α → Prop}
    [DecidableRel le] {limit : Nat} {rows : List α} {row : α} (hlimit : rows.length ≤ limit)
    (hrow : row ∈ rows) (hselected : selected row = true) :
    row ∈ selectOrdered selected le limit rows := by
  have hlength : ((rows.filter selected).insertionSort le).length ≤ limit := by
    rw [List.length_insertionSort]
    exact (List.length_filter_le selected rows).trans hlimit
  rw [selectOrdered, List.take_of_length_le hlength, List.mem_insertionSort]
  exact List.mem_filter.mpr ⟨hrow, hselected⟩

section Ordered

variable {selected : α → Bool} {le : α → α → Prop} [DecidableRel le] {limit : Nat}
  {rows : List α} {row : α}

theorem head?_selectOrdered [Std.Total le] [IsTrans α le] (hlimit : 0 < limit)
    (hanti : ∀ r ∈ rows, ∀ r' ∈ rows, le r r' → le r' r → r = r') :
    (selectOrdered selected le limit rows).head? = some row ↔
      row ∈ rows ∧ selected row = true ∧ ∀ r ∈ rows, selected r = true → le row r := by
  unfold selectOrdered
  rw [List.head?_take, if_neg (by omega)]
  have hmem (r : α) : r ∈ (rows.filter selected).insertionSort le ↔
      r ∈ rows ∧ selected r = true := by
    rw [List.mem_insertionSort, List.mem_filter]
  have hsorted := List.pairwise_insertionSort le (rows.filter selected)
  generalize (rows.filter selected).insertionSort le = sorted at hmem hsorted
  cases sorted with
  | nil =>
      simp only [List.head?_nil, reduceCtorEq, false_iff]
      rintro ⟨hrow, hsel, -⟩
      simpa using (hmem row).mpr ⟨hrow, hsel⟩
  | cons first rest =>
      obtain ⟨hfirst, hfirstSel⟩ := (hmem first).mp List.mem_cons_self
      have hleast (r : α) (hr : r ∈ rows) (hsel : selected r = true) : le first r := by
        rcases List.mem_cons.mp ((hmem r).mpr ⟨hr, hsel⟩) with rfl | hrest
        · exact (Std.Total.total (r := le) r r).elim id id
        · exact List.rel_of_pairwise_cons hsorted hrest
      rw [List.head?_cons, Option.some.injEq]
      constructor
      · rintro rfl
        exact ⟨hfirst, hfirstSel, hleast⟩
      · rintro ⟨hrow, hsel, hrowLeast⟩
        exact hanti first hfirst row hrow (hleast row hrow hsel) (hrowLeast first hfirst hfirstSel)

theorem pairwise_selectOrdered [Std.Total le] [IsTrans α le] :
    (selectOrdered selected le limit rows).Pairwise le :=
  (List.pairwise_insertionSort le (rows.filter selected)).sublist (List.take_sublist _ _)

theorem selectOrdered_subperm : List.Subperm (selectOrdered selected le limit rows) rows := by
  unfold selectOrdered
  refine (List.take_sublist _ _).subperm.trans ?_
  exact ((List.perm_insertionSort le _).subperm).trans List.filter_sublist.subperm

theorem selectOrdered_nodup {κ : Type*} {key : α → κ} (h : (rows.map key).Nodup) :
    ((selectOrdered selected le limit rows).map key).Nodup := by
  obtain ⟨rows', hperm, hsub⟩ : List.Subperm (selectOrdered selected le limit rows) rows :=
    selectOrdered_subperm
  exact (hperm.map key).nodup_iff.mp (h.sublist (hsub.map key))

theorem selectOrdered_full [Std.Total le] [IsTrans α le] (hrow : row ∈ rows)
    (hselected : selected row = true) (hout : row ∉ selectOrdered selected le limit rows) :
    (selectOrdered selected le limit rows).length = limit ∧
      ∀ r ∈ selectOrdered selected le limit rows, le r row := by
  unfold selectOrdered at hout ⊢
  have hmem : row ∈ (rows.filter selected).insertionSort le := by
    rw [List.mem_insertionSort]
    exact List.mem_filter.mpr ⟨hrow, hselected⟩
  have hsorted := List.pairwise_insertionSort le (rows.filter selected)
  generalize (rows.filter selected).insertionSort le = sorted at hmem hsorted hout
  rw [← List.take_append_drop limit sorted] at hmem hsorted
  have hdrop : row ∈ sorted.drop limit := (List.mem_append.mp hmem).resolve_left hout
  have hlength := List.length_pos_of_mem hdrop
  rw [List.length_drop] at hlength
  refine ⟨?_, fun r hr => (List.pairwise_append.mp hsorted).2.2 r hr row hdrop⟩
  rw [List.length_take]
  omega

end Ordered

section Join

variable {β : Type*} {matching : α → β → Bool} {left : List α} {right : List β}

theorem mem_joinOn {pair : α × β} :
    pair ∈ joinOn matching left right ↔
      pair.1 ∈ left ∧ pair.2 ∈ right ∧ matching pair.1 pair.2 = true := by
  unfold joinOn
  simp only [List.mem_flatMap, List.mem_map, List.mem_filter]
  constructor
  · rintro ⟨row, hrow, other, ⟨hother, hmatch⟩, rfl⟩
    exact ⟨hrow, hother, hmatch⟩
  · rintro ⟨hleft, hright, hmatch⟩
    exact ⟨pair.1, hleft, pair.2, ⟨hright, hmatch⟩, rfl⟩

theorem joinOn_fst_sublist
    (hone : ∀ row ∈ left, (right.filter (matching row)).length ≤ 1) :
    ((joinOn matching left right).map Prod.fst).Sublist left := by
  induction left with
  | nil => exact List.Sublist.refl []
  | cons row left ih =>
      have htail := ih fun r hr => hone r (List.mem_cons_of_mem _ hr)
      have hhead := hone row List.mem_cons_self
      unfold joinOn at htail ⊢
      rw [List.flatMap_cons, List.map_append, List.map_map]
      cases hmatch : right.filter (matching row) with
      | nil => exact htail.cons row
      | cons other others =>
          rw [hmatch, List.length_cons] at hhead
          obtain rfl : others = [] := List.length_eq_zero_iff.mp (by omega)
          exact htail.cons_cons row

end Join

section Insert

variable [DecidableEq κ] {key : α → κ} {row : α} {rows rows' : List α}

theorem insertRow_eq_some :
    insertRow key row rows = some rows' ↔
      key row ∉ rows.map key ∧ rows' = rows ++ [row] := by
  unfold insertRow
  split <;> simp_all [eq_comm]

omit [DecidableEq κ] in
theorem nodup_append_row (hrows : (rows.map key).Nodup) (hfresh : key row ∉ rows.map key) :
    ((rows ++ [row]).map key).Nodup := by
  rw [List.map_append, List.nodup_append]
  refine ⟨hrows, by simp, ?_⟩
  intro k hk k' hk' heq
  simp only [List.map_cons, List.map_nil, List.mem_singleton] at hk'
  subst hk' heq
  exact hfresh hk

end Insert

section Put

variable [DecidableEq κ] {key : α → κ} {row : α} {rows : List α}

theorem putRow_perm (hrows : (rows.map key).Nodup) :
    (putRow key row rows).Perm (rows.filter (fun old => key old ≠ key row) ++ [row]) := by
  induction rows with
  | nil => exact List.Perm.refl [row]
  | cons old rows ih =>
      rw [List.map_cons, List.nodup_cons] at hrows
      by_cases hkey : key old = key row
      · have hothers : rows.filter (fun old => key old ≠ key row) = rows := by
          rw [List.filter_eq_self]
          intro other hother
          have hne : key other ≠ key old := fun h => hrows.1 (h ▸ List.mem_map_of_mem hother)
          simpa [hkey] using hne
        rw [putRow, if_pos hkey, List.filter_cons_of_neg (by simp [hkey]), hothers]
        exact (List.perm_append_singleton row rows).symm
      · rw [putRow, if_neg hkey, List.filter_cons_of_pos (by simp [hkey])]
        exact (ih hrows.2).cons old

theorem mem_putRow (hrows : (rows.map key).Nodup) {other : α} :
    other ∈ putRow key row rows ↔ other ∈ rows ∧ key other ≠ key row ∨ other = row := by
  simp [(putRow_perm hrows).mem_iff]

theorem putRow_nodup (hrows : (rows.map key).Nodup) : ((putRow key row rows).map key).Nodup := by
  refine ((putRow_perm hrows).map key).nodup_iff.mpr ?_
  refine nodup_append_row (List.Nodup.sublist (List.filter_sublist.map _) hrows) ?_
  simp

end Put

section Update

variable {selected : α → Bool} {change : α → α} {rows : List α}

theorem mem_updateWhere {row : α} :
    row ∈ updateWhere selected change rows ↔
      (∃ old ∈ rows, selected old = true ∧ change old = row) ∨
        (row ∈ rows ∧ selected row = false) := by
  simp only [updateWhere, List.mem_map]
  constructor
  · rintro ⟨old, hold, rfl⟩
    cases hsel : selected old with
    | true => exact Or.inl ⟨old, hold, hsel, by simp⟩
    | false => exact Or.inr ⟨by simpa using hold, by simpa using hsel⟩
  · rintro (⟨old, hold, hsel, rfl⟩ | ⟨hrow, hsel⟩)
    · exact ⟨old, hold, by simp [hsel]⟩
    · exact ⟨row, hrow, by simp [hsel]⟩

theorem map_updateWhere (proj : α → κ)
    (hkeep : ∀ row ∈ rows, selected row = true → proj (change row) = proj row) :
    (updateWhere selected change rows).map proj = rows.map proj := by
  simp only [updateWhere, List.map_map]
  apply List.map_congr_left
  intro row hrow
  simp only [Function.comp_apply]
  split
  · exact hkeep row hrow ‹_›
  · rfl

theorem updateWhere_nodup {key : α → κ} (hrows : (rows.map key).Nodup)
    (hkey : ∀ row, key (change row) = key row) :
    ((updateWhere selected change rows).map key).Nodup := by
  rw [map_updateWhere key fun row _ _ => hkey row]
  exact hrows

theorem filter_updateWhere (query : α → Bool)
    (hold : ∀ row ∈ rows, selected row = true → query row = false)
    (hnew : ∀ row ∈ rows, selected row = true → query (change row) = false) :
    (updateWhere selected change rows).filter query = rows.filter query := by
  induction rows with
  | nil => rfl
  | cons row rows ih =>
      have htail := ih (fun r hr => hold r (List.mem_cons_of_mem _ hr))
        (fun r hr => hnew r (List.mem_cons_of_mem _ hr))
      simp only [updateWhere, List.map_cons] at htail ⊢
      cases hsel : selected row with
      | true =>
          have h₁ := hold row List.mem_cons_self hsel
          have h₂ := hnew row List.mem_cons_self hsel
          simpa [h₁, h₂] using htail
      | false =>
          cases hq : query row <;> simpa [hq] using htail

theorem filter_updateWhere_comm (query : α → Bool)
    (hkeep : ∀ row ∈ rows, selected row = true → query (change row) = query row) :
    (updateWhere selected change rows).filter query =
      updateWhere selected change (rows.filter query) := by
  induction rows with
  | nil => rfl
  | cons row rows ih =>
      have htail := ih fun r hr => hkeep r (List.mem_cons_of_mem _ hr)
      simp only [updateWhere, List.map_cons] at htail ⊢
      cases hsel : selected row with
      | true =>
          have hq := hkeep row List.mem_cons_self hsel
          cases hquery : query row <;> simp [hq, hquery, hsel, htail]
      | false =>
          cases hquery : query row <;> simp [hquery, hsel, htail]

end Update

section Keyed

variable {key : α → κ} {rows : List α}

theorem eq_of_key_eq (hrows : (rows.map key).Nodup) {r r' : α}
    (hr : r ∈ rows) (hr' : r' ∈ rows) (hkey : key r = key r') : r = r' :=
  List.inj_on_of_nodup_map hrows hr hr' hkey

theorem find?_key [DecidableEq κ] (hrows : (rows.map key).Nodup) {r : α} (hr : r ∈ rows) :
    rows.find? (fun row => key row == key r) = some r := by
  cases hfind : rows.find? (fun row => key row == key r) with
  | none =>
      have := List.find?_eq_none.mp hfind r hr
      simp at this
  | some r' =>
      have hkey : key r' = key r := by simpa using List.find?_some hfind
      rw [eq_of_key_eq hrows (List.mem_of_find?_eq_some hfind) hr hkey]

theorem filter_updateWhere_key [DecidableEq κ] (hrows : (rows.map key).Nodup) {query : α → Bool}
    {change : α → α} {found : α} (hfound : found ∈ rows) (hquery : query found = false)
    (hkeep : ∀ row, query (change row) = query row) :
    (updateWhere (fun row => key row == key found) change rows).filter query =
      rows.filter query := by
  have hselected : ∀ row ∈ rows, (key row == key found) = true → query row = false := by
    intro row hrow hkey
    rw [beq_iff_eq] at hkey
    rw [eq_of_key_eq hrows hrow hfound hkey]
    exact hquery
  apply filter_updateWhere query hselected
  intro row hrow hkey
  rw [hkeep]
  exact hselected row hrow hkey

theorem filter_eq_singleton (hrows : (rows.map key).Nodup) {query : α → Bool} {r : α}
    (hr : r ∈ rows) (hquery : query r = true)
    (hunique : ∀ r' ∈ rows, query r' = true → r' = r) : rows.filter query = [r] := by
  have hnodup : (rows.filter query).Nodup := (List.Nodup.of_map key hrows).filter query
  have hmem : r ∈ rows.filter query := List.mem_filter.mpr ⟨hr, hquery⟩
  refine List.perm_singleton.mp ((List.perm_ext_iff_of_nodup hnodup (by simp)).mpr ?_)
  intro r'
  rw [List.mem_singleton]
  constructor
  · intro h
    exact hunique r' (List.mem_filter.mp h).1 (List.mem_filter.mp h).2
  · rintro rfl
    exact hmem

theorem nodup_pairs [DecidableEq κ] {μ : Type*} (first : α → κ) (second : α → μ)
    (h : ∀ k, ((rows.filter fun row => first row == k).map second).Nodup) :
    (rows.map fun row => (first row, second row)).Nodup := by
  unfold List.Nodup
  rw [List.pairwise_map, List.pairwise_iff_forall_sublist]
  intro a b hab heq
  simp only [Prod.mk.injEq] at heq
  have hboth := hab.filter fun row => first row == first a
  simp only [List.filter_cons, ← heq.1, beq_self_eq_true, if_true, List.filter_nil] at hboth
  have hne := h (first a)
  unfold List.Nodup at hne
  rw [List.pairwise_map, List.pairwise_iff_forall_sublist] at hne
  exact hne hboth heq.2

end Keyed

/-! ## Queries below a selection -/

section Selection

variable {query base : α → Bool} {rows : List α}

theorem filter_of_imp (himp : ∀ row ∈ rows, query row = true → base row = true) :
    (rows.filter base).filter query = rows.filter query := by
  rw [List.filter_filter]
  apply List.filter_congr
  intro row hrow
  cases hquery : query row with
  | true => simp [himp row hrow hquery]
  | false => simp

theorem find?_of_imp (himp : ∀ row ∈ rows, query row = true → base row = true) :
    (rows.filter base).find? query = rows.find? query := by
  rw [← List.head?_filter, ← List.head?_filter, filter_of_imp himp]

theorem selectOrdered_of_imp {le : α → α → Prop} [DecidableRel le] {limit : Nat}
    (himp : ∀ row ∈ rows, query row = true → base row = true) :
    selectOrdered query le limit (rows.filter base) = selectOrdered query le limit rows := by
  unfold selectOrdered
  rw [filter_of_imp himp]

theorem selectOrdered_congr {query' : α → Bool} {le le' : α → α → Prop} [DecidableRel le]
    [DecidableRel le'] {limit : Nat} (hquery : ∀ row, query row = query' row)
    (hle : ∀ a b, le a b ↔ le' a b) :
    selectOrdered query le limit rows = selectOrdered query' le' limit rows := by
  obtain rfl : query = query' := funext hquery
  obtain rfl : le = le' := funext fun a => funext fun b => propext (hle a b)
  congr

theorem joinOn_filter {β : Type*} {matching : α → β → Bool} {right : List β} {base' : β → Bool}
    (hmatch : ∀ row ∈ rows, base row = true → ∀ other ∈ right, matching row other = true →
      base' other = true) :
    joinOn matching (rows.filter base) (right.filter base') =
      (joinOn matching rows right).filter fun pair => base pair.1 := by
  induction rows with
  | nil => rfl
  | cons row rows ih =>
      have htail := ih fun r hr => hmatch r (List.mem_cons_of_mem _ hr)
      unfold joinOn at htail ⊢
      rw [List.flatMap_cons, List.filter_append, List.filter_map, ← htail]
      cases hbase : base row with
      | true =>
          have hright := filter_of_imp (hmatch row List.mem_cons_self hbase)
          rw [List.filter_cons_of_pos hbase, List.flatMap_cons, hright]
          congr 2
          symm
          rw [List.filter_eq_self]
          intro other _
          exact hbase
      | false =>
          rw [List.filter_cons_of_neg (by simp [hbase])]
          simp [hbase, Function.comp_def]

end Selection

end Astra.Foundation
