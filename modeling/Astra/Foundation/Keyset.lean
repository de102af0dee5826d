import Astra.Foundation.Table
import Astra.Foundation.Transition

/-!
# Keyset pagination

A page query selects the rows below a cursor, greatest key first, and one row more
than the page holds; when there is such a row, the key of the last row of the page
is the next cursor.  Keys may grow and rows may come while a walk is under way: no
row is met twice, and a row that keeps its key is not missed.
-/

namespace Astra.Foundation

variable {α : Type*} {κ : Type*} {ι : Type*} [LinearOrder κ]

/-! ## One page -/

def descending (key : α → κ) (a b : α) : Prop := key b ≤ key a

instance (key : α → κ) : DecidableRel (descending key) :=
  fun _ _ => inferInstanceAs (Decidable (_ ≤ _))

instance (key : α → κ) : Std.Total (descending key) where
  total a b := le_total (key b) (key a)

instance (key : α → κ) : IsTrans α (descending key) where
  trans _ _ _ hab hbc := le_trans hbc hab

def below : Option κ → κ → Bool
  | none, _ => true
  | some cursor, k => decide (k < cursor)

structure KeysetPage (α κ : Type*) where
  items : List α
  next : Option κ

def pageOf (key : α → κ) (size : Nat) (found : List α) : KeysetPage α κ where
  items := found.take size
  next := if size < found.length then (found.take size).getLast?.map key else none

def keysetPage (selected : α → Bool) (key : α → κ) (size : Nat) (cursor : Option κ)
    (rows : List α) : KeysetPage α κ :=
  pageOf key size
    (selectOrdered (fun r => selected r && below cursor (key r)) (descending key) (size + 1) rows)

structure Pages (selected : α → Bool) (key : α → κ) (cursor : Option κ) (rows : List α)
    (page : KeysetPage α κ) : Prop where
  descending : (page.items.map key).Pairwise (· > ·)
  sound : ∀ r ∈ page.items, r ∈ rows ∧ selected r = true ∧ below cursor (key r) = true
  last : ∀ k, page.next = some k → below cursor k = true ∧ ∀ r ∈ page.items, k ≤ key r
  complete : ∀ r ∈ rows, selected r = true → below cursor (key r) = true →
    (∀ k, page.next = some k → k ≤ key r) → r ∈ page.items

section Page

variable {selected : α → Bool} {key : α → κ} {size : Nat} {cursor : Option κ} {rows : List α}

theorem pairwise_gt_of_descending {sorted : List α} (hsorted : sorted.Pairwise (descending key))
    (hkeys : (sorted.map key).Nodup) : (sorted.map key).Pairwise (· > ·) := by
  rw [List.pairwise_map]
  rw [List.Nodup, List.pairwise_map] at hkeys
  refine (hsorted.and hkeys).imp ?_
  intro a b hab
  exact lt_of_le_of_ne hab.1 hab.2.symm

theorem mem_take_of_last_le {sorted : List α} {last r : α}
    (hsorted : (sorted.map key).Pairwise (· > ·)) (hlast : (sorted.take size).getLast? = some last)
    (hr : r ∈ sorted) (hle : key last ≤ key r) : r ∈ sorted.take size := by
  rw [← List.take_append_drop size sorted] at hr hsorted
  rcases List.mem_append.mp hr with hr | hr
  · exact hr
  · rw [List.map_append, List.pairwise_append] at hsorted
    have hlt := hsorted.2.2 (key last) (List.mem_map_of_mem (List.mem_of_getLast? hlast)) (key r)
      (List.mem_map_of_mem hr)
    exact absurd hle (not_le.mpr hlt)

theorem getLast?_least {items : List α} {last : α} (hitems : (items.map key).Pairwise (· > ·))
    (hlast : items.getLast? = some last) : ∀ r ∈ items, key last ≤ key r := by
  intro r hr
  obtain ⟨front, rfl⟩ := List.getLast?_eq_some_iff.mp hlast
  rw [List.map_append, List.pairwise_append] at hitems
  rcases List.mem_append.mp hr with hr | hr
  · exact le_of_lt (hitems.2.2 (key r) (List.mem_map_of_mem hr) (key last) (by simp))
  · rw [List.mem_singleton.mp hr]

/-! The page that `limit + 1` rows of a descending list make. -/

omit [LinearOrder κ] in
theorem pageOf_items (sorted : List α) :
    (pageOf key size (sorted.take (size + 1))).items = sorted.take size := by
  simp [pageOf, List.take_take]

omit [LinearOrder κ] in
theorem pageOf_next_some {sorted : List α} {k : κ}
    (hk : (pageOf key size (sorted.take (size + 1))).next = some k) :
    ∃ last, (sorted.take size).getLast? = some last ∧ key last = k := by
  simp only [pageOf, List.take_take, Nat.min_eq_left (Nat.le_succ size)] at hk
  split at hk
  · exact Option.map_eq_some_iff.mp hk
  · cases hk

omit [LinearOrder κ] in
theorem pageOf_next_none {sorted : List α} (hsize : 1 ≤ size)
    (hk : (pageOf key size (sorted.take (size + 1))).next = none) :
    sorted.take size = sorted := by
  simp only [pageOf, List.take_take, Nat.min_eq_left (Nat.le_succ size)] at hk
  split at hk
  · rename_i hmore
    rw [Option.map_eq_none_iff, List.getLast?_eq_none_iff, List.take_eq_nil_iff] at hk
    rcases hk with hzero | hnil
    · omega
    · simp [hnil] at hmore
  · rename_i hfew
    rw [List.length_take] at hfew
    exact List.take_of_length_le (by omega)

def found (selected : α → Bool) (key : α → κ) (cursor : Option κ) (rows : List α) : List α :=
  (rows.filter fun r => selected r && below cursor (key r)).insertionSort (descending key)

theorem mem_found {r : α} : r ∈ found selected key cursor rows ↔
    r ∈ rows ∧ selected r = true ∧ below cursor (key r) = true := by
  rw [found, List.mem_insertionSort, List.mem_filter, Bool.and_eq_true]

theorem pairwise_found (selected : α → Bool) (cursor : Option κ)
    (hkeys : (rows.map key).Nodup) :
    ((found selected key cursor rows).map key).Pairwise (· > ·) := by
  have hperm := List.perm_insertionSort (descending key)
    (rows.filter fun r => selected r && below cursor (key r))
  have hnodup : ((rows.filter fun r => selected r && below cursor (key r)).map key).Nodup :=
    hkeys.sublist (List.filter_sublist.map key)
  rw [← (hperm.map key).nodup_iff] at hnodup
  exact pairwise_gt_of_descending (List.pairwise_insertionSort (descending key) _) hnodup

theorem keysetPage_pages (hsize : 1 ≤ size) (hkeys : (rows.map key).Nodup) :
    Pages selected key cursor rows (keysetPage selected key size cursor rows) := by
  have hsorted := pairwise_found selected cursor hkeys
  have hprefix := hsorted.sublist ((List.take_sublist size _).map key)
  have hpage : keysetPage selected key size cursor rows =
      pageOf key size ((found selected key cursor rows).take (size + 1)) := rfl
  have hitems : (keysetPage selected key size cursor rows).items =
      (found selected key cursor rows).take size := pageOf_items _
  constructor
  · rw [hitems]
    exact hprefix
  · intro r hr
    rw [hitems] at hr
    exact mem_found.mp (List.mem_of_mem_take hr)
  · intro k hk
    rw [hpage] at hk
    obtain ⟨last, hlast, rfl⟩ := pageOf_next_some hk
    rw [hitems]
    exact ⟨(mem_found.mp (List.mem_of_mem_take (List.mem_of_getLast? hlast))).2.2,
      getLast?_least hprefix hlast⟩
  · intro r hr hselected hbelow hle
    have hrow := mem_found.mpr ⟨hr, hselected, hbelow⟩
    rw [hitems]
    rw [hpage] at hle
    cases hk : (pageOf key size ((found selected key cursor rows).take (size + 1))).next with
    | none =>
        rw [pageOf_next_none hsize hk]
        exact hrow
    | some k =>
        obtain ⟨last, hlast, rfl⟩ := pageOf_next_some hk
        exact mem_take_of_last_le hsorted hlast hrow (hle _ hk)

theorem Pages.ids_nodup {id : α → ι} {page : KeysetPage α κ}
    (h : Pages selected key cursor rows page) (hids : (rows.map id).Nodup) :
    (page.items.map id).Nodup := by
  have hitems := h.descending
  rw [List.pairwise_map] at hitems
  rw [List.Nodup, List.pairwise_map]
  refine hitems.imp_of_mem ?_
  intro a b ha hb hlt heq
  rw [eq_of_key_eq hids (h.sound a ha).1 (h.sound b hb).1 heq] at hlt
  exact lt_irrefl _ hlt

/-! Pages of rows that stay the same are the parts of one listing. -/

theorem found_below (hkeys : (rows.map key).Nodup) (k : κ) :
    found selected key (some k) rows =
      (found selected key none rows).filter fun r => decide (key r < k) := by
  have hleft := pairwise_found selected (some k) hkeys
  have hright : (((found selected key none rows).filter fun r => decide (key r < k)).map
      key).Pairwise (· > ·) :=
    (pairwise_found selected none hkeys).sublist (List.filter_sublist.map key)
  have hperm : (found selected key (some k) rows).Perm
      ((found selected key none rows).filter fun r => decide (key r < k)) := by
    have hall := (List.perm_insertionSort (descending key)
      (rows.filter fun r => selected r && below none (key r))).filter fun r => decide (key r < k)
    have hfilter : (rows.filter fun r => selected r && below none (key r)).filter
        (fun r => decide (key r < k)) =
      rows.filter fun r => selected r && below (some k) (key r) := by
      rw [List.filter_filter]
      exact List.filter_congr fun r _ => by simp [below, Bool.and_comm]
    rw [hfilter] at hall
    exact (List.perm_insertionSort (descending key) _).trans hall.symm
  rw [List.pairwise_map] at hleft hright
  exact hperm.eq_of_pairwise (fun a b _ _ hab hba => absurd hab (lt_asymm hba)) hleft hright

theorem found_drop (hkeys : (rows.map key).Nodup) {n : Nat} {last : α}
    (hlast : ((found selected key none rows).take n).getLast? = some last) :
    found selected key (some (key last)) rows = (found selected key none rows).drop n := by
  have hsorted := pairwise_found selected none hkeys
  rw [← List.take_append_drop n (found selected key none rows), List.map_append,
    List.pairwise_append] at hsorted
  have hleast := getLast?_least hsorted.1 hlast
  rw [found_below hkeys]
  nth_rewrite 1 [← List.take_append_drop n (found selected key none rows)]
  rw [List.filter_append, List.filter_eq_nil_iff.mpr, List.nil_append, List.filter_eq_self.mpr]
  · intro r hr
    have hlt := hsorted.2.2 (key last) (List.mem_map_of_mem (List.mem_of_getLast? hlast)) (key r)
      (List.mem_map_of_mem hr)
    exact decide_eq_true hlt
  · intro r hr hlt
    exact absurd (of_decide_eq_true hlt) (not_lt.mpr (hleast r hr))

theorem keysetPage_fewer {k : κ} (hk : (keysetPage selected key size cursor rows).next = some k) :
    (rows.filter fun r => below (some k) (key r)).length <
      (rows.filter fun r => below cursor (key r)).length := by
  obtain ⟨last, hlast, rfl⟩ := pageOf_next_some hk
  obtain ⟨hrow, -, hbelow⟩ := mem_found.mp (List.mem_of_mem_take (List.mem_of_getLast? hlast))
  have hsub : (rows.filter fun r => below (some (key last)) (key r)) =
      (rows.filter fun r => below cursor (key r)).filter
        fun r => below (some (key last)) (key r) := by
    rw [List.filter_filter]
    refine List.filter_congr fun r _ => ?_
    cases cursor with
    | none => simp [below]
    | some c =>
        have hlt : key last < c := of_decide_eq_true hbelow
        rw [Bool.eq_iff_iff, Bool.and_eq_true]
        exact ⟨fun hr => ⟨hr, decide_eq_true ((of_decide_eq_true hr).trans hlt)⟩, And.left⟩
  rw [hsub, List.length_filter_lt_length_iff_exists]
  exact ⟨last, List.mem_filter.mpr ⟨hrow, hbelow⟩, by simp [below]⟩

def cursorBehind (selected : α → Bool) (key : α → κ) (rows : List α) (n : Nat) : Option κ :=
  if n < (found selected key none rows).length then
    ((found selected key none rows).take n).getLast?.map key
  else none

theorem keysetPage_first :
    keysetPage selected key size none rows =
      ⟨(found selected key none rows).take size, cursorBehind selected key rows size⟩ := by
  show pageOf key size ((found selected key none rows).take (size + 1)) = _
  unfold pageOf cursorBehind
  rw [List.take_take, Nat.min_eq_left (Nat.le_succ size), List.length_take]
  congr 1
  exact if_congr (by omega) rfl rfl

theorem keysetPage_next (hkeys : (rows.map key).Nodup) (hsize : 1 ≤ size) {n : Nat} {k : κ}
    (hcursor : cursorBehind selected key rows n = some k) :
    keysetPage selected key size (some k) rows =
      ⟨((found selected key none rows).drop n).take size,
        cursorBehind selected key rows (n + size)⟩ := by
  unfold cursorBehind at hcursor
  split at hcursor
  · rename_i hmore
    obtain ⟨last, hlast, rfl⟩ := Option.map_eq_some_iff.mp hcursor
    show pageOf key size ((found selected key (some (key last)) rows).take (size + 1)) = _
    rw [found_drop hkeys hlast]
    unfold pageOf cursorBehind
    rw [List.take_take, Nat.min_eq_left (Nat.le_succ size), List.length_take, List.length_drop]
    congr 1
    have hne : ((found selected key none rows).drop n).take size ≠ [] := by
      rw [← List.length_pos_iff, List.length_take, List.length_drop]
      omega
    rw [List.take_add, List.getLast?_append_of_ne_nil _ hne]
    exact if_congr (by omega) rfl rfl
  · cases hcursor

end Page

/-! ## A walk -/

/-- The pages of a walk so far, and what it asks for next; `none` when it has ended. -/
structure KeysetWalk (α κ : Type*) where
  pages : List (List α) := []
  pending : Option (Option κ) := some none

namespace KeysetWalk

def met (w : KeysetWalk α κ) : List α := w.pages.flatten

def step (selected : α → Bool) (key : α → κ) (w : KeysetWalk α κ) (request : Nat × List α) :
    Option (KeysetWalk α κ) :=
  match w.pending with
  | none => none
  | some cursor =>
      let page := keysetPage selected key request.1 cursor request.2
      some ⟨w.pages ++ [page.items], page.next.map some⟩

end KeysetWalk

/-- No row is lost and no key decreases; the identities of the new rows are distinct. -/
structure Evolves (id : α → ι) (key : α → κ) (rows rows' : List α) : Prop where
  ids : (rows'.map id).Nodup
  stays : ∀ r ∈ rows, ∃ r' ∈ rows', id r' = id r ∧ key r ≤ key r'

structure WalkInvariant (id : α → ι) (key : α → κ) (w : KeysetWalk α κ) (rows : List α) :
    Prop where
  descending : (w.met.map key).Pairwise (· > ·)
  ids : (w.met.map id).Nodup
  stays : ∀ m ∈ w.met, ∃ r ∈ rows, id r = id m ∧ key m ≤ key r
  first : w.pending = some none → w.met = []
  passed : ∀ cursor, w.pending = some (some cursor) → ∀ m ∈ w.met, cursor ≤ key m

section Walk

variable {selected : α → Bool} {id : α → ι} {key : α → κ} {w w' : KeysetWalk α κ}
  {size : Nat} {rows rows' : List α}

theorem KeysetWalk.step_eq_some {request : Nat × List α}
    (h : w.step selected key request = some w') :
    ∃ cursor, w.pending = some cursor ∧
      w'.met = w.met ++ (keysetPage selected key request.1 cursor request.2).items ∧
      w'.pending = (keysetPage selected key request.1 cursor request.2).next.map some := by
  unfold KeysetWalk.step at h
  split at h
  · cases h
  · rename_i cursor hpending
    cases h
    exact ⟨cursor, hpending, by simp [KeysetWalk.met], rfl⟩

theorem WalkInvariant.start : WalkInvariant id key ({} : KeysetWalk α κ) rows := by
  constructor <;> simp [KeysetWalk.met]

omit [LinearOrder κ] in
theorem keys_nodup (hkey : ∀ a b, key a = key b → id a = id b) (hids : (rows.map id).Nodup) :
    (rows.map key).Nodup := by
  rw [List.Nodup, List.pairwise_map] at hids ⊢
  exact hids.imp fun hne heq => hne (hkey _ _ heq)

theorem WalkInvariant.gt_of_below (h : WalkInvariant id key w rows) {cursor : Option κ}
    (hpending : w.pending = some cursor) {m : α} (hm : m ∈ w.met) {k : κ}
    (hk : below cursor k = true) : k < key m := by
  cases cursor with
  | none => simp [h.first hpending] at hm
  | some c => exact lt_of_lt_of_le (of_decide_eq_true hk) (h.passed c hpending m hm)

theorem WalkInvariant.evolve (h : WalkInvariant id key w rows)
    (hrows : Evolves id key rows rows') {m : α} (hm : m ∈ w.met) :
    ∃ r ∈ rows', id r = id m ∧ key m ≤ key r := by
  obtain ⟨r, hr, hid, hle⟩ := h.stays m hm
  obtain ⟨r', hr', hid', hle'⟩ := hrows.stays r hr
  exact ⟨r', hr', hid'.trans hid, hle.trans hle'⟩

theorem WalkInvariant.evolves (h : WalkInvariant id key w rows)
    (hrows : Evolves id key rows rows') : WalkInvariant id key w rows' :=
  ⟨h.descending, h.ids, fun _ hm => h.evolve hrows hm, h.first, h.passed⟩

theorem WalkInvariant.apart (h : WalkInvariant id key w rows)
    (hrows : Evolves id key rows rows') {cursor : Option κ} (hpending : w.pending = some cursor)
    {page : KeysetPage α κ} (hpage : Pages selected key cursor rows' page) {m r : α}
    (hm : m ∈ w.met) (hr : r ∈ page.items) : key r < key m ∧ id m ≠ id r := by
  obtain ⟨hrow, -, hbelow⟩ := hpage.sound r hr
  have habove := h.gt_of_below hpending hm hbelow
  refine ⟨habove, ?_⟩
  intro heq
  obtain ⟨r', hr', hid', hle⟩ := h.evolve hrows hm
  have hsame := eq_of_key_eq hrows.ids hr' hrow (hid'.trans heq)
  exact absurd habove (not_lt.mpr (hsame ▸ hle))

theorem WalkInvariant.step (hkey : ∀ a b, key a = key b → id a = id b)
    (h : WalkInvariant id key w rows) (hrows : Evolves id key rows rows') (hsize : 1 ≤ size)
    (hstep : w.step selected key (size, rows') = some w') : WalkInvariant id key w' rows' := by
  obtain ⟨cursor, hpending, hmet, hpending'⟩ := KeysetWalk.step_eq_some hstep
  have hpage : Pages selected key cursor rows' _ :=
    keysetPage_pages hsize (keys_nodup hkey hrows.ids)
  generalize keysetPage selected key size cursor rows' = page at hpage hmet hpending'
  constructor
  · rw [hmet, List.map_append, List.pairwise_append]
    refine ⟨h.descending, hpage.descending, ?_⟩
    simp only [List.mem_map]
    rintro _ ⟨m, hm, rfl⟩ _ ⟨r, hr, rfl⟩
    exact (h.apart hrows hpending hpage hm hr).1
  · rw [hmet, List.map_append, List.nodup_append]
    refine ⟨h.ids, hpage.ids_nodup hrows.ids, ?_⟩
    simp only [List.mem_map]
    rintro _ ⟨m, hm, rfl⟩ _ ⟨r, hr, rfl⟩
    exact (h.apart hrows hpending hpage hm hr).2
  · intro m hm
    rw [hmet] at hm
    rcases List.mem_append.mp hm with hm | hm
    · exact h.evolve hrows hm
    · exact ⟨m, (hpage.sound m hm).1, rfl, le_rfl⟩
  · intro hfirst
    rw [hpending', Option.map_eq_some_iff] at hfirst
    obtain ⟨_, _, hnone⟩ := hfirst
    cases hnone
  · intro c hc m hm
    rw [hpending', Option.map_eq_some_iff] at hc
    obtain ⟨c', hnext, hc'⟩ := hc
    cases hc'
    obtain ⟨hbelow, hle⟩ := hpage.last c hnext
    rw [hmet] at hm
    rcases List.mem_append.mp hm with hm | hm
    · exact le_of_lt (h.gt_of_below hpending hm hbelow)
    · exact hle m hm

/-- A row that keeps its key has been met, or is still below the cursor. -/
def Due (id : α → ι) (w : KeysetWalk α κ) (x : ι) (k : κ) : Prop :=
  x ∈ w.met.map id ∨ ∃ cursor, w.pending = some cursor ∧ below cursor k = true

theorem Due.step {x : ι} {k : κ} (hkey : ∀ a b, key a = key b → id a = id b)
    (hids : (rows'.map id).Nodup) (hsize : 1 ≤ size)
    (hkept : ∃ r ∈ rows', id r = x ∧ key r = k ∧ selected r = true)
    (hstep : w.step selected key (size, rows') = some w') (h : Due id w x k) :
    Due id w' x k := by
  obtain ⟨cursor, hpending, hmet, hpending'⟩ := KeysetWalk.step_eq_some hstep
  have hpage : Pages selected key cursor rows' _ := keysetPage_pages hsize (keys_nodup hkey hids)
  generalize keysetPage selected key size cursor rows' = page at hpage hmet hpending'
  obtain ⟨r, hr, rfl, rfl, hselected⟩ := hkept
  rcases h with hmem | ⟨c, hc, hbelow⟩
  · left
    rw [hmet, List.map_append]
    exact List.mem_append_left _ hmem
  · rw [hpending, Option.some.injEq] at hc
    subst hc
    by_cases hlater : ∃ c, page.next = some c ∧ key r < c
    · obtain ⟨c, hnext, hlt⟩ := hlater
      exact Or.inr ⟨some c, by rw [hpending', hnext]; rfl, decide_eq_true hlt⟩
    · left
      have hitem : r ∈ page.items := by
        refine hpage.complete r hr hselected hbelow ?_
        intro c hnext
        exact not_lt.mp fun hlt => hlater ⟨c, hnext, hlt⟩
      rw [hmet, List.map_append]
      exact List.mem_append_right _ (List.mem_map_of_mem hitem)

/-- The invariants of a walk over evolving rows, from its first page on. -/
theorem walk_invariant (hkey : ∀ a b, key a = key b → id a = id b)
    {requests : List (Nat × List α)} (hsizes : ∀ request ∈ requests, 1 ≤ request.1)
    (hrows : List.IsChain (Evolves id key) (rows :: requests.map Prod.snd))
    (h : WalkInvariant id key w rows)
    (hexec : exec (KeysetWalk.step selected key) w requests = some w') :
    ∃ rows', WalkInvariant id key w' rows' := by
  induction requests generalizing w rows with
  | nil =>
      simp only [exec_nil, Option.some.injEq] at hexec
      exact ⟨rows, hexec ▸ h⟩
  | cons request requests ih =>
      obtain ⟨u, hstep, hrest⟩ := exec_cons.mp hexec
      rw [List.map_cons, List.isChain_cons_cons] at hrows
      exact ih (fun r hr => hsizes r (List.mem_cons_of_mem _ hr)) hrows.2
        (h.step hkey hrows.1 (hsizes request List.mem_cons_self) hstep) hrest

theorem walk_due {x : ι} {k : κ} (hkey : ∀ a b, key a = key b → id a = id b)
    {requests : List (Nat × List α)} (hsizes : ∀ request ∈ requests, 1 ≤ request.1)
    (hids : ∀ request ∈ requests, (request.2.map id).Nodup)
    (hkept : ∀ request ∈ requests, ∃ r ∈ request.2, id r = x ∧ key r = k ∧ selected r = true)
    (h : Due id w x k) (hexec : exec (KeysetWalk.step selected key) w requests = some w') :
    Due id w' x k := by
  have hadmitted : AllSteps (fun _ request => request ∈ requests)
      (KeysetWalk.step selected key) w requests := AllSteps.of_forall (fun _ h _ => h) w
  have hdue : ∀ s request t, Due id s x k → request ∈ requests →
      KeysetWalk.step selected key s request = some t → Due id t x k := by
    intro s request t hs hrequest hstep
    exact hs.step hkey (hids request hrequest) (hsizes request hrequest) (hkept request hrequest)
      hstep
  exact exec_invariant hdue h hadmitted hexec

theorem Due.count_eq_one [DecidableEq ι] {x : ι} {k : κ} (hdue : Due id w x k)
    (h : WalkInvariant id key w rows) (hended : w.pending = none) :
    (w.met.map id).count x = 1 := by
  rcases hdue with hmem | ⟨cursor, hpending, -⟩
  · exact List.count_eq_one_of_mem h.ids hmem
  · rw [hended] at hpending
    cases hpending

end Walk

end Astra.Foundation
