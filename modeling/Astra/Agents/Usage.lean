import Astra.Agents.Runtime
import Mathlib.Algebra.BigOperators.Group.List.Basic
import Mathlib.Algebra.Ring.Nat
import Mathlib.Data.List.Perm.Basic
import Mathlib.Data.List.ReduceOption

/-!
# Accumulated token usage

The fold of `_add_usage` over the reports of a run.  Its counts of input and output are
sums, but the fallback for the total fires only while no total has been accumulated, so
that parts which arrive later without a total are missing from it.
-/

namespace Astra.Agents

open Astra.Platform Astra.LLM

def accumulateUsage (reports : List (Option LLMUsage)) : Option LLMUsage :=
  reports.foldl addUsage none

/-- What a provider reports: a total is the sum of the two counts, or absent. -/
def WellReported (usage : LLMUsage) : Prop :=
  usage.totalTokens = none ∨ ∃ input output, usage.inputTokens = some input ∧
    usage.outputTokens = some output ∧ usage.totalTokens = some (input + output)

def AddsUp (usage : LLMUsage) : Prop :=
  ∀ input output total, usage.inputTokens = some input → usage.outputTokens = some output →
    usage.totalTokens = some total → total = input + output

def partTokens (usage : LLMUsage) : Nat :=
  usage.inputTokens.getD 0 + usage.outputTokens.getD 0

/-- A total comes with one of the reports, or from two counts of at least two reports. -/
def HaveTotal (reports : List LLMUsage) : Prop :=
  (∃ u ∈ reports, u.totalTokens.isSome = true) ∨
    (2 ≤ reports.length ∧ (∃ u ∈ reports, u.inputTokens.isSome = true) ∧
      ∃ u ∈ reports, u.outputTokens.isSome = true)

/-- No report counts tokens without a total beside others that have one. -/
def NoStrayParts (reports : List LLMUsage) : Prop :=
  ∀ u others, (u :: others).Perm reports → u.totalTokens = none → 0 < partTokens u →
    ¬ HaveTotal others

/-! ## Sums of optional counts -/

@[simp] theorem addTokens_isSome (left right : Option Nat) :
    (addTokens left right).isSome = (left.isSome || right.isSome) := by
  cases left <;> cases right <;> rfl

@[simp] theorem addTokens_getD (left right : Option Nat) :
    (addTokens left right).getD 0 = left.getD 0 + right.getD 0 := by
  cases left <;> cases right <;> rfl

private theorem tokens_ext {left right : Option Nat} (hsome : left.isSome = right.isSome)
    (hcount : left.getD 0 = right.getD 0) : left = right := by
  cases left <;> cases right <;> simp_all

def sumTokens (count : LLMUsage → Option Nat) (reports : List LLMUsage) : Option Nat :=
  if ∃ u ∈ reports, (count u).isSome = true then
    some (reports.map fun u => (count u).getD 0).sum
  else none

section Sums

variable {count : LLMUsage → Option Nat} {reports : List LLMUsage} {u : LLMUsage}

theorem sumTokens_isSome :
    (sumTokens count reports).isSome = true ↔ ∃ u ∈ reports, (count u).isSome = true := by
  unfold sumTokens
  split_ifs with h
  · exact iff_of_true rfl h
  · exact iff_of_false (by simp) h

theorem sumTokens_getD :
    (sumTokens count reports).getD 0 = (reports.map fun u => (count u).getD 0).sum := by
  unfold sumTokens
  split_ifs with h
  · rfl
  · symm
    apply List.sum_eq_zero
    intro n hn
    obtain ⟨u, hu, rfl⟩ := List.mem_map.mp hn
    cases hcount : count u with
    | none => rfl
    | some tokens => exact absurd ⟨u, hu, by rw [hcount]; rfl⟩ h

theorem sumTokens_append :
    sumTokens count (reports ++ [u]) = addTokens (sumTokens count reports) (count u) := by
  apply tokens_ext
  · rw [addTokens_isSome, Bool.eq_iff_iff, Bool.or_eq_true, sumTokens_isSome, sumTokens_isSome]
    simp only [List.mem_append, List.mem_singleton, or_and_right, exists_or, exists_eq_left]
  · rw [addTokens_getD, sumTokens_getD, sumTokens_getD, List.map_append, List.sum_append,
      List.map_singleton, List.sum_singleton]

theorem sumTokens_perm {reports' : List LLMUsage} (h : reports.Perm reports') :
    sumTokens count reports = sumTokens count reports' := by
  unfold sumTokens
  rw [(h.map _).sum_eq]
  simp only [h.mem_iff]

theorem sum_partTokens (reports : List LLMUsage) :
    (reports.map partTokens).sum =
      (sumTokens LLMUsage.inputTokens reports).getD 0 +
        (sumTokens LLMUsage.outputTokens reports).getD 0 := by
  rw [sumTokens_getD, sumTokens_getD]
  exact List.sum_map_add

end Sums

/-! ## The fold -/

section Fold

variable {reports : List LLMUsage} {u : LLMUsage}

structure Folded (reports : List LLMUsage) (usage : LLMUsage) : Prop where
  input : usage.inputTokens = sumTokens LLMUsage.inputTokens reports
  output : usage.outputTokens = sumTokens LLMUsage.outputTokens reports
  total_isSome : usage.totalTokens.isSome = true ↔ HaveTotal reports
  total_le : ∀ total, usage.totalTokens = some total → total ≤ (reports.map partTokens).sum
  total_eq : NoStrayParts reports → ∀ total, usage.totalTokens = some total →
    total = (reports.map partTokens).sum

theorem HaveTotal.append (h : HaveTotal reports) (u : LLMUsage) : HaveTotal (reports ++ [u]) := by
  rcases h with ⟨w, hw, htotal⟩ | ⟨hlength, ⟨w, hw, hinput⟩, ⟨v, hv, houtput⟩⟩
  · exact Or.inl ⟨w, List.mem_append_left _ hw, htotal⟩
  · refine Or.inr ⟨?_, ⟨w, List.mem_append_left _ hw, hinput⟩,
      ⟨v, List.mem_append_left _ hv, houtput⟩⟩
    rw [List.length_append]
    omega

theorem HaveTotal.perm {reports' : List LLMUsage} (hperm : reports.Perm reports')
    (h : HaveTotal reports) : HaveTotal reports' := by
  unfold HaveTotal at h ⊢
  simpa only [hperm.mem_iff, hperm.length_eq] using h

theorem NoStrayParts.perm {reports' : List LLMUsage} (hperm : reports.Perm reports')
    (h : NoStrayParts reports) : NoStrayParts reports' :=
  fun u others hothers => h u others (hothers.trans hperm.symm)

private theorem NoStrayParts.of_append (h : NoStrayParts (reports ++ [u])) :
    NoStrayParts reports := by
  intro w others hothers hnone hparts htotal
  exact h w (others ++ [u]) (hothers.append_right [u]) hnone hparts (htotal.append u)

theorem WellReported.partTokens_eq (h : WellReported u) {total : Nat}
    (htotal : u.totalTokens = some total) : partTokens u = total := by
  rcases h with hnone | ⟨input, output, hinput, houtput, hsum⟩
  · rw [hnone] at htotal
    cases htotal
  · rw [hsum, Option.some.injEq] at htotal
    rw [← htotal, partTokens, hinput, houtput]
    rfl

private theorem Folded.singleton (h : WellReported u) : Folded [u] u where
  input := by
    cases hinput : u.inputTokens <;> simp [sumTokens, hinput]
  output := by
    cases houtput : u.outputTokens <;> simp [sumTokens, houtput]
  total_isSome := by simp [HaveTotal]
  total_le := by
    intro total htotal
    rw [List.map_singleton, List.sum_singleton, h.partTokens_eq htotal]
  total_eq := by
    intro _ total htotal
    rw [List.map_singleton, List.sum_singleton, h.partTokens_eq htotal]

private theorem NoStrayParts.no_parts (h : NoStrayParts (reports ++ [u]))
    (hnone : ¬ HaveTotal reports)
    (htotal : u.totalTokens.isSome = true) : (reports.map partTokens).sum = 0 := by
  apply List.sum_eq_zero
  intro n hn
  obtain ⟨w, hw, rfl⟩ := List.mem_map.mp hn
  obtain ⟨before, after, rfl⟩ := List.append_of_mem hw
  by_contra hparts
  have hbare : w.totalTokens = none :=
    Option.not_isSome_iff_eq_none.mp fun hsome => hnone (Or.inl ⟨w, hw, hsome⟩)
  refine h w (before ++ after ++ [u]) ?_ hbare (Nat.pos_of_ne_zero hparts) ?_
  · rw [← List.cons_append]
    exact List.perm_middle.symm.append_right [u]
  · exact Or.inl ⟨u, by simp, htotal⟩

private theorem WellReported.total_getD (h : WellReported u) :
    u.totalTokens.getD 0 ≤ partTokens u ∧
      (u.totalTokens.isSome = true → u.totalTokens.getD 0 = partTokens u) := by
  cases htotal : u.totalTokens with
  | none => exact ⟨Nat.zero_le _, fun h => by cases h⟩
  | some total =>
      rw [h.partTokens_eq htotal]
      exact ⟨Nat.le_refl _, fun _ => rfl⟩

theorem haveTotal_append_iff (hne : reports ≠ []) (hnone : ¬ HaveTotal reports)
    (hu : u.totalTokens = none) :
    HaveTotal (reports ++ [u]) ↔ (∃ w ∈ reports ++ [u], w.inputTokens.isSome = true) ∧
      ∃ w ∈ reports ++ [u], w.outputTokens.isSome = true := by
  have hlength : 2 ≤ (reports ++ [u]).length := by
    have := List.length_pos_iff.mpr hne
    rw [List.length_append, List.length_singleton]
    omega
  constructor
  · rintro (⟨w, hw, htotal⟩ | ⟨-, hcounts⟩)
    · rcases List.mem_append.mp hw with hw | hw
      · exact absurd (Or.inl ⟨w, hw, htotal⟩) hnone
      · rw [List.mem_singleton.mp hw, hu] at htotal
        cases htotal
    · exact hcounts
  · exact fun hcounts => Or.inr ⟨hlength, hcounts⟩

theorem Folded.append {usage : LLMUsage} (h : Folded reports usage) (hne : reports ≠ [])
    (hu : WellReported u) :
    ∃ usage', addUsage (some usage) (some u) = some usage' ∧ Folded (reports ++ [u]) usage' := by
  have hparts : ((reports ++ [u]).map partTokens).sum =
      (reports.map partTokens).sum + partTokens u := by
    rw [List.map_append, List.sum_append, List.map_singleton, List.sum_singleton]
  have hinput : addTokens usage.inputTokens u.inputTokens =
      sumTokens LLMUsage.inputTokens (reports ++ [u]) := by
    rw [h.input, sumTokens_append]
  have houtput : addTokens usage.outputTokens u.outputTokens =
      sumTokens LLMUsage.outputTokens (reports ++ [u]) := by
    rw [h.output, sumTokens_append]
  obtain ⟨hle, heq⟩ := hu.total_getD
  simp only [addUsage, hinput, houtput]
  cases htotal : usage.totalTokens with
  | some total =>
      -- the total only grows by the totals that are reported
      have hhave := h.total_isSome.mp (by rw [htotal]; rfl)
      have hstep : addTokens (some total) u.totalTokens = some (total + u.totalTokens.getD 0) := by
        cases u.totalTokens <;> rfl
      simp only [hstep]
      refine ⟨_, rfl, rfl, rfl, iff_of_true rfl (hhave.append u), ?_, ?_⟩
      · rintro _ ⟨⟩
        rw [hparts]
        exact Nat.add_le_add (h.total_le total htotal) hle
      · rintro hstray _ ⟨⟩
        rw [hparts, h.total_eq hstray.of_append total htotal]
        congr 1
        cases hreported : u.totalTokens with
        | some reported => rw [← hreported, heq (by rw [hreported]; rfl)]
        | none =>
            have hzero := hstray u reports (List.perm_append_singleton u reports).symm hreported
            by_contra hne'
            exact hzero (Nat.pos_of_ne_zero fun h => hne' h.symm) hhave
  | none =>
      have hhave : ¬ HaveTotal reports := by
        rw [← h.total_isSome, htotal]
        exact Bool.false_ne_true
      cases hreported : u.totalTokens with
      | some total =>
          rw [hreported] at hle heq
          have htotal' : addTokens none (some total) = some total := by
            simp [addTokens]
          simp only [htotal']
          refine ⟨_, rfl, rfl, rfl, ?_, ?_, ?_⟩
          · exact iff_of_true rfl (Or.inl ⟨u, by simp, by rw [hreported]; rfl⟩)
          · rintro _ ⟨⟩
            rw [hparts]
            exact Nat.le_add_left_of_le hle
          · rintro hstray _ ⟨⟩
            rw [hparts, hstray.no_parts hhave (by rw [hreported]; rfl), Nat.zero_add]
            exact heq rfl
      | none =>
          have hcounts := haveTotal_append_iff hne hhave hreported
          rw [← sumTokens_isSome, ← sumTokens_isSome] at hcounts
          have hsum := sum_partTokens (reports ++ [u])
          cases hin : sumTokens LLMUsage.inputTokens (reports ++ [u]) <;>
            cases hout : sumTokens LLMUsage.outputTokens (reports ++ [u])
          case some.some input output =>
            rw [hin, hout] at hcounts hsum
            refine ⟨_, rfl, hin.symm, hout.symm, iff_of_true rfl (hcounts.mpr ⟨rfl, rfl⟩), ?_, ?_⟩
            · rintro _ ⟨⟩
              exact Nat.le_of_eq hsum.symm
            · rintro - _ ⟨⟩
              exact hsum.symm
          all_goals
            rw [hin, hout] at hcounts
            refine ⟨_, rfl, hin.symm, hout.symm, ?_, nofun, fun _ => nofun⟩
            rw [hcounts]
            simp [addTokens]

theorem accumulateUsage_folded (hne : reports ≠ []) (hreports : ∀ u ∈ reports, WellReported u) :
    ∃ usage, accumulateUsage (reports.map some) = some usage ∧ Folded reports usage := by
  induction reports using List.reverseRecOn with
  | nil => exact absurd rfl hne
  | append_singleton reports u ih =>
      have hu := hreports u (by simp)
      rw [accumulateUsage, List.map_append, List.foldl_append]
      rcases eq_or_ne reports [] with rfl | hne'
      · exact ⟨u, rfl, Folded.singleton hu⟩
      · obtain ⟨usage, hfold, hfolded⟩ := ih hne' fun w hw => hreports w (by simp [hw])
        rw [← accumulateUsage, hfold]
        exact hfolded.append hne' hu

theorem Folded.unique {reports' : List LLMUsage} {usage usage' : LLMUsage}
    (h : Folded reports usage) (h' : Folded reports' usage') (hperm : reports.Perm reports')
    (hstray : NoStrayParts reports) : usage = usage' := by
  have hinput := h.input.trans ((sumTokens_perm hperm).trans h'.input.symm)
  have houtput := h.output.trans ((sumTokens_perm hperm).trans h'.output.symm)
  have hsome : usage.totalTokens.isSome = usage'.totalTokens.isSome := by
    rw [Bool.eq_iff_iff, h.total_isSome, h'.total_isSome]
    exact ⟨HaveTotal.perm hperm, HaveTotal.perm hperm.symm⟩
  have htotal : usage.totalTokens = usage'.totalTokens := by
    cases hleft : usage.totalTokens with
    | none =>
        rw [hleft] at hsome
        exact (Option.not_isSome_iff_eq_none.mp (Bool.eq_false_iff.mp hsome.symm)).symm
    | some total =>
        rw [hleft] at hsome
        obtain ⟨total', hright⟩ := Option.isSome_iff_exists.mp hsome.symm
        rw [hright, h.total_eq hstray total hleft,
          h'.total_eq (hstray.perm hperm) total' hright, (hperm.map partTokens).sum_eq]
  obtain ⟨_, _, _⟩ := usage
  obtain ⟨_, _, _⟩ := usage'
  simp only [LLMUsage.mk.injEq]
  exact ⟨hinput, houtput, htotal⟩

private theorem Folded.addsUp {usage : LLMUsage} (h : Folded reports usage)
    (hstray : NoStrayParts reports) : AddsUp usage := by
  intro input output total hinput houtput htotal
  rw [h.total_eq hstray total htotal, sum_partTokens, ← h.input, ← h.output, hinput, houtput]
  rfl

theorem Folded.short {usage usage' : LLMUsage} (h : Folded reports usage)
    (hreports : ∀ w ∈ reports, WellReported w) (hhave : HaveTotal reports)
    (hnone : u.totalTokens = none) (hparts : 0 < partTokens u)
    (hstep : addUsage (some usage) (some u) = some usage') : ¬ AddsUp usage' := by
  obtain ⟨total, htotal⟩ := Option.isSome_iff_exists.mp (h.total_isSome.mpr hhave)
  have hcounts : (∃ w ∈ reports, w.inputTokens.isSome = true) ∧
      ∃ w ∈ reports, w.outputTokens.isSome = true := by
    rcases hhave with ⟨w, hw, hreported⟩ | ⟨-, hcounts⟩
    · rcases hreports w hw with hbare | ⟨input, output, hinput, houtput, -⟩
      · rw [hbare] at hreported
        cases hreported
      · exact ⟨⟨w, hw, by rw [hinput]; rfl⟩, ⟨w, hw, by rw [houtput]; rfl⟩⟩
    · exact hcounts
  rw [← sumTokens_isSome, ← sumTokens_isSome, ← h.input, ← h.output] at hcounts
  obtain ⟨input, hinput⟩ := Option.isSome_iff_exists.mp hcounts.1
  obtain ⟨output, houtput⟩ := Option.isSome_iff_exists.mp hcounts.2
  have hle := h.total_le total htotal
  rw [sum_partTokens, ← h.input, ← h.output, hinput, houtput] at hle
  simp only [addUsage, hinput, houtput, htotal, hnone, Option.some.injEq] at hstep
  subst hstep
  intro hadds
  have hsum := hadds (input + u.inputTokens.getD 0) (output + u.outputTokens.getD 0) total
    (by cases u.inputTokens <;> rfl) (by cases u.outputTokens <;> rfl) rfl
  simp only [Option.getD_some] at hle
  unfold partTokens at hparts
  omega

end Fold

/-! ## Any order of the reports -/

section Order

variable {reports : List (Option LLMUsage)}

theorem accumulateUsage_reduceOption (reports : List (Option LLMUsage)) :
    accumulateUsage (reports.reduceOption.map some) = accumulateUsage reports := by
  unfold accumulateUsage
  generalize (none : Option LLMUsage) = current
  induction reports generalizing current with
  | nil => rfl
  | cons report reports ih =>
      cases report with
      | none => exact ih current
      | some usage =>
          rw [List.reduceOption_cons_of_some]
          exact ih _

private theorem map_some_reduceOption (reports : List (Option LLMUsage)) :
    reports.reduceOption.map some = reports.filter Option.isSome := by
  induction reports with
  | nil => rfl
  | cons report reports ih =>
      cases report with
      | none => exact ih
      | some usage =>
          rw [List.reduceOption_cons_of_some, List.map_cons, ih]
          rfl

private theorem exists_perm_of_reduceOption {usages : List LLMUsage}
    (h : usages.Perm reports.reduceOption) :
    ∃ reports', reports'.Perm reports ∧ accumulateUsage reports' =
      accumulateUsage (usages.map some) := by
  refine ⟨usages.map some ++ reports.filter fun report => !report.isSome, ?_, ?_⟩
  · refine ((h.map some).append_right _).trans ?_
    rw [map_some_reduceOption]
    exact List.filter_append_perm Option.isSome reports
  · have hsome : (usages.map some).reduceOption = usages := by
      simp [List.reduceOption, List.filterMap_map]
    have hnone : (reports.filter fun report => !report.isSome).reduceOption = [] := by
      simp [List.reduceOption, List.filterMap_eq_nil_iff]
    rw [← accumulateUsage_reduceOption (usages.map some ++ _), List.reduceOption_append, hsome,
      hnone, List.append_nil]

private theorem noStrayParts_of_addsUp (hreports : ∀ u, some u ∈ reports → WellReported u)
    (horder : ∀ reports', reports'.Perm reports →
      accumulateUsage reports' = accumulateUsage reports)
    (hadds : ∀ usage, accumulateUsage reports = some usage → AddsUp usage) :
    NoStrayParts reports.reduceOption := by
  intro u others hperm hnone hparts hhave
  have hwell : ∀ w ∈ u :: others, WellReported w := fun w hw =>
    hreports w (List.reduceOption_mem_iff.mp (hperm.mem_iff.mp hw))
  have hothers : ∀ w ∈ others, WellReported w := fun w hw => hwell w (List.mem_cons_of_mem u hw)
  have hne : others ≠ [] := by
    rintro rfl
    simp [HaveTotal] at hhave
  -- the stray report comes last in this order
  obtain ⟨reports', hperm', hsame⟩ :=
    exists_perm_of_reduceOption ((List.perm_append_singleton u others).trans hperm)
  obtain ⟨usage, hfold, hfolded⟩ := accumulateUsage_folded hne hothers
  obtain ⟨usage', hstep, -⟩ := hfolded.append hne (hwell u List.mem_cons_self)
  have hlast : accumulateUsage ((others ++ [u]).map some) = some usage' := by
    rw [accumulateUsage, List.map_append, List.foldl_append, ← accumulateUsage, hfold]
    exact hstep
  have htotal := hadds usage' ((horder reports' hperm').symm.trans (hsame.trans hlast))
  exact hfolded.short hothers hhave hnone hparts hstep htotal

private theorem accumulateUsage_perm (hreports : ∀ u, some u ∈ reports → WellReported u)
    (hstray : NoStrayParts reports.reduceOption) {reports' : List (Option LLMUsage)}
    (hperm : reports'.Perm reports) : accumulateUsage reports' = accumulateUsage reports := by
  have hperm' : reports'.reduceOption.Perm reports.reduceOption := hperm.filterMap id
  rw [← accumulateUsage_reduceOption reports, ← accumulateUsage_reduceOption reports']
  rcases eq_or_ne reports.reduceOption [] with hnil | hne
  · rw [hnil] at hperm' ⊢
    rw [List.perm_nil.mp hperm']
  · have hwell : ∀ u ∈ reports.reduceOption, WellReported u := fun u hu =>
      hreports u (List.reduceOption_mem_iff.mp hu)
    obtain ⟨usage, hfold, hfolded⟩ := accumulateUsage_folded hne hwell
    obtain ⟨usage', hfold', hfolded'⟩ := accumulateUsage_folded
      (fun hnil => hne (List.nil_perm.mp (hnil ▸ hperm'))) fun u hu =>
        hwell u (hperm'.mem_iff.mp hu)
    rw [hfold, hfold', hfolded.unique hfolded' hperm'.symm hstray]

private theorem addsUp_of_noStrayParts (hreports : ∀ u, some u ∈ reports → WellReported u)
    (hstray : NoStrayParts reports.reduceOption) {usage : LLMUsage}
    (hfold : accumulateUsage reports = some usage) : AddsUp usage := by
  rw [← accumulateUsage_reduceOption] at hfold
  have hne : reports.reduceOption ≠ [] := by
    intro hnil
    rw [hnil] at hfold
    cases hfold
  obtain ⟨usage', hfold', hfolded⟩ := accumulateUsage_folded hne fun u hu =>
    hreports u (List.reduceOption_mem_iff.mp hu)
  rw [hfold, Option.some.injEq] at hfold'
  rw [hfold']
  exact hfolded.addsUp hstray

/--
The accumulated usage depends on no order and adds up exactly when no report with counts
but no total stands beside others that have a total.
-/
theorem accumulated_usage_adds_up_iff (reports : List (Option LLMUsage))
    (hreports : ∀ u, some u ∈ reports → WellReported u) :
    ((∀ reports', reports'.Perm reports → accumulateUsage reports' = accumulateUsage reports) ∧
        ∀ usage, accumulateUsage reports = some usage → AddsUp usage) ↔
      NoStrayParts reports.reduceOption := by
  constructor
  · rintro ⟨horder, hadds⟩
    exact noStrayParts_of_addsUp hreports horder hadds
  · intro hstray
    refine ⟨fun reports' hperm => accumulateUsage_perm hreports hstray hperm, ?_⟩
    intro usage hfold
    exact addsUp_of_noStrayParts hreports hstray hfold

end Order

theorem accumulated_usage_adds_up_iff_totals :
    (∀ reports',
      reports'.Perm [some ⟨some 10, some 1, some 11⟩, none, some ⟨some 20, some 2, some 22⟩] →
      accumulateUsage reports' = some ⟨some 30, some 3, some 33⟩) ∧
      AddsUp ⟨some 30, some 3, some 33⟩ := by
  have hreports : ∀ u, some u ∈ [some ⟨some 10, some 1, some 11⟩, none,
      some (⟨some 20, some 2, some 22⟩ : LLMUsage)] → WellReported u := by
    intro u hu
    simp only [List.mem_cons, Option.some.injEq, reduceCtorEq, List.not_mem_nil, or_false,
      false_or] at hu
    rcases hu with rfl | rfl
    · exact Or.inr ⟨10, 1, rfl, rfl, rfl⟩
    · exact Or.inr ⟨20, 2, rfl, rfl, rfl⟩
  have hstray : NoStrayParts (List.reduceOption [some ⟨some 10, some 1, some 11⟩, none,
      some ⟨some 20, some 2, some 22⟩]) := by
    intro u others hperm hnone
    have hu := hperm.mem_iff.mp (List.mem_cons_self (a := u) (l := others))
    simp only [List.reduceOption, List.filterMap_cons, id_eq, List.filterMap_nil, List.mem_cons,
      List.not_mem_nil, or_false] at hu
    rcases hu with rfl | rfl <;> cases hnone
  obtain ⟨horder, hadds⟩ := (accumulated_usage_adds_up_iff _ hreports).mpr hstray
  exact ⟨horder, hadds _ rfl⟩

/-- A cached prompt comes without its count: 5 tokens are missing from the total. -/
theorem cached_prompt_missing_from_total :
    (∀ u, some u ∈ [some ⟨some 10, some 1, some 11⟩,
        some (⟨none, some 5, none⟩ : LLMUsage)] → WellReported u) ∧
      ¬ ((∀ reports', reports'.Perm [some ⟨some 10, some 1, some 11⟩, some ⟨none, some 5, none⟩] →
          accumulateUsage reports' =
            accumulateUsage [some ⟨some 10, some 1, some 11⟩, some ⟨none, some 5, none⟩]) ∧
        ∀ usage, accumulateUsage [some ⟨some 10, some 1, some 11⟩, some ⟨none, some 5, none⟩] =
          some usage → AddsUp usage) := by
  constructor
  · intro u hu
    simp only [List.mem_cons, Option.some.injEq, List.not_mem_nil, or_false] at hu
    rcases hu with rfl | rfl
    · exact Or.inr ⟨10, 1, rfl, rfl, rfl⟩
    · exact Or.inl rfl
  · rintro ⟨-, hadds⟩
    have htotal := hadds ⟨some 10, some 6, some 11⟩ rfl 10 6 11 rfl rfl rfl
    exact absurd htotal (by decide)

end Astra.Agents
