import Mathlib.Logic.Relation

/-!
# Runs of a labelled transition function

A system is a partial step function `σ → α → Option σ`.  The label carries every
choice that the code leaves open: which party moves, what an awaited operation
returns, the clock.  A run is a list of labels, so that a concrete run can be
evaluated, and the invariant rules below lift one step to all runs.
-/

namespace Astra.Foundation

variable {σ : Type*} {α : Type*}

def exec (step : σ → α → Option σ) : σ → List α → Option σ
  | s, [] => some s
  | s, a :: as => (step s a).bind fun t => exec step t as

/-- Every step of the run starts in a state where its label is admitted by `ok`. -/
def AllSteps (ok : σ → α → Prop) (step : σ → α → Option σ) : σ → List α → Prop
  | _, [] => True
  | s, a :: as => ok s a ∧ ∀ t, step s a = some t → AllSteps ok step t as

instance AllSteps.decidable (ok : σ → α → Prop) [∀ s a, Decidable (ok s a)]
    (step : σ → α → Option σ) : ∀ s as, Decidable (AllSteps ok step s as)
  | _, [] => inferInstanceAs (Decidable True)
  | s, a :: as =>
      match hstep : step s a with
      | none =>
          decidable_of_iff (ok s a)
            ⟨fun h => ⟨h, fun t ht => by rw [hstep] at ht; cases ht⟩, And.left⟩
      | some t =>
          have := AllSteps.decidable ok step t as
          decidable_of_iff (ok s a ∧ AllSteps ok step t as)
            ⟨fun h => ⟨h.1, fun u hu => by rw [hstep] at hu; cases hu; exact h.2⟩,
              fun h => ⟨h.1, h.2 t hstep⟩⟩

section Rules

variable {step : σ → α → Option σ}

@[simp] theorem exec_nil (s : σ) : exec step s [] = some s := rfl

theorem exec_cons {s u : σ} {a : α} {as : List α} :
    exec step s (a :: as) = some u ↔
      ∃ t, step s a = some t ∧ exec step t as = some u := by
  simp [exec, Option.bind_eq_some_iff]

theorem exec_append {s u : σ} {as bs : List α} :
    exec step s (as ++ bs) = some u ↔
      ∃ t, exec step s as = some t ∧ exec step t bs = some u := by
  induction as generalizing s with
  | nil => simp
  | cons a as ih =>
      simp only [List.cons_append, exec_cons, ih]
      constructor
      · rintro ⟨t, hstep, v, hv, hu⟩
        exact ⟨v, ⟨t, hstep, hv⟩, hu⟩
      · rintro ⟨v, ⟨t, hstep, hv⟩, hu⟩
        exact ⟨t, hstep, v, hv, hu⟩

theorem AllSteps.cons {ok : σ → α → Prop} {s t : σ} {a : α} {as : List α} (hok : ok s a)
    (hstep : step s a = some t) (h : AllSteps ok step t as) : AllSteps ok step s (a :: as) := by
  refine ⟨hok, fun u hu => ?_⟩
  rw [hstep, Option.some.injEq] at hu
  exact hu ▸ h

theorem AllSteps.mono {ok ok' : σ → α → Prop} (h : ∀ s a, ok s a → ok' s a)
    {s : σ} {as : List α} (hs : AllSteps ok step s as) : AllSteps ok' step s as := by
  induction as generalizing s with
  | nil => trivial
  | cons a as ih => exact ⟨h s a hs.1, fun t ht => ih (hs.2 t ht)⟩

theorem AllSteps.and {ok ok' : σ → α → Prop} {s : σ} {as : List α} (h : AllSteps ok step s as)
    (h' : AllSteps ok' step s as) : AllSteps (fun s a => ok s a ∧ ok' s a) step s as := by
  induction as generalizing s with
  | nil => trivial
  | cons a as ih => exact ⟨⟨h.1, h'.1⟩, fun t ht => ih (h.2 t ht) (h'.2 t ht)⟩

theorem AllSteps.of_forall {ok : σ → α → Prop} {as : List α} (h : ∀ a ∈ as, ∀ s, ok s a) (s : σ) :
    AllSteps ok step s as := by
  induction as generalizing s with
  | nil => trivial
  | cons a as ih =>
      exact ⟨h a List.mem_cons_self s, fun t _ =>
        ih (fun b hb => h b (List.mem_cons_of_mem a hb)) t⟩

theorem AllSteps.append {ok : σ → α → Prop} {s t : σ} {as bs : List α}
    (hs : AllSteps ok step s (as ++ bs)) (ht : exec step s as = some t) :
    AllSteps ok step s as ∧ AllSteps ok step t bs := by
  induction as generalizing s with
  | nil =>
      simp only [exec_nil, Option.some.injEq] at ht
      subst ht
      exact ⟨trivial, hs⟩
  | cons a as ih =>
      obtain ⟨u, hstep, hexec⟩ := exec_cons.mp ht
      obtain ⟨hfirst, hrest⟩ := hs
      refine ⟨⟨hfirst, fun v hv => ?_⟩, (ih (hrest u hstep) hexec).2⟩
      rw [hstep, Option.some.injEq] at hv
      subst hv
      exact (ih (hrest u hstep) hexec).1

theorem AllSteps.extend {ok : σ → α → Prop} {s t : σ} {as bs : List α}
    (hs : AllSteps ok step s as) (ht : exec step s as = some t) (hbs : AllSteps ok step t bs) :
    AllSteps ok step s (as ++ bs) := by
  induction as generalizing s with
  | nil =>
      simp only [exec_nil, Option.some.injEq] at ht
      exact ht ▸ hbs
  | cons a as ih =>
      obtain ⟨u, hstep, hexec⟩ := exec_cons.mp ht
      exact AllSteps.cons hs.1 hstep (ih (hs.2 u hstep) hexec)

/--
The invariant rule: what every admitted step preserves holds at the end of every
run of admitted steps.
-/
theorem exec_invariant {ok : σ → α → Prop} {inv : σ → Prop}
    (hstep : ∀ s a t, inv s → ok s a → step s a = some t → inv t)
    {s t : σ} {as : List α} (hs : inv s) (hok : AllSteps ok step s as)
    (hexec : exec step s as = some t) : inv t := by
  induction as generalizing s with
  | nil =>
      simp only [exec_nil, Option.some.injEq] at hexec
      exact hexec ▸ hs
  | cons a as ih =>
      obtain ⟨u, hu, hrest⟩ := exec_cons.mp hexec
      exact ih (hstep s a u hs hok.1 hu) (hok.2 u hu) hrest

theorem exec_invariant' {inv : σ → Prop}
    (hstep : ∀ s a t, inv s → step s a = some t → inv t)
    {s t : σ} {as : List α} (hs : inv s) (hexec : exec step s as = some t) : inv t := by
  induction as generalizing s with
  | nil =>
      simp only [exec_nil, Option.some.injEq] at hexec
      exact hexec ▸ hs
  | cons a as ih =>
      obtain ⟨u, hu, hrest⟩ := exec_cons.mp hexec
      exact ih (hstep s a u hs hu) hrest

theorem AllSteps.imp_of_invariant {ok ok' : σ → α → Prop} {inv : σ → Prop}
    (hstep : ∀ s a t, inv s → ok s a → step s a = some t → inv t)
    (himp : ∀ s a, inv s → ok s a → ok' s a) {s : σ} {as : List α} (hs : inv s)
    (hok : AllSteps ok step s as) : AllSteps ok' step s as := by
  induction as generalizing s with
  | nil => trivial
  | cons a as ih =>
      exact ⟨himp s a hs hok.1, fun t ht => ih (hstep s a t hs hok.1 ht) (hok.2 t ht)⟩

theorem AllSteps.of_invariant {ok ok' : σ → α → Prop} {inv : σ → Prop}
    (hstep : ∀ s a t, inv s → step s a = some t → inv t)
    (himp : ∀ s a, inv s → ok s a → ok' s a) {s : σ} {as : List α} (hs : inv s)
    (hok : AllSteps ok step s as) : AllSteps ok' step s as :=
  AllSteps.imp_of_invariant (fun s a t h _ => hstep s a t h) himp hs hok

theorem AllSteps.or_violation (ok : σ → α → Prop) {s u : σ} {as : List α}
    (hexec : exec step s as = some u) :
    AllSteps ok step s as ∨
      ∃ pre a post t v, as = pre ++ a :: post ∧ exec step s pre = some t ∧
        AllSteps ok step s pre ∧ ¬ ok t a ∧ step t a = some v ∧ exec step v post = some u := by
  induction as generalizing s with
  | nil => exact Or.inl trivial
  | cons a as ih =>
      obtain ⟨t, ht, hrest⟩ := exec_cons.mp hexec
      by_cases hok : ok s a
      · have honly (v : σ) (hv : step s a = some v) : v = t :=
          Option.some.inj (hv.symm.trans ht)
        rcases ih hrest with hall | ⟨pre, b, post, v, w, rfl, hpre, hall, hbad, hstep, hpost⟩
        · refine Or.inl ⟨hok, fun v hv => ?_⟩
          rw [honly v hv]
          exact hall
        · refine Or.inr ⟨a :: pre, b, post, v, w, rfl, exec_cons.mpr ⟨t, ht, hpre⟩,
            ⟨hok, fun v hv => ?_⟩, hbad, hstep, hpost⟩
          rw [honly v hv]
          exact hall
      · exact Or.inr ⟨[], a, as, s, t, rfl, rfl, trivial, hok, ht, hrest⟩

/--
The history rule: a preorder that every admitted step from an invariant state
respects relates the two ends of every run of admitted steps.
-/
theorem exec_relation {ok : σ → α → Prop} {inv : σ → Prop} {rel : σ → σ → Prop}
    (hrefl : ∀ s, rel s s) (htrans : ∀ s t u, rel s t → rel t u → rel s u)
    (hinv : ∀ s a t, inv s → ok s a → step s a = some t → inv t)
    (hrel : ∀ s a t, inv s → ok s a → step s a = some t → rel s t)
    {s t : σ} {as : List α} (hs : inv s) (hok : AllSteps ok step s as)
    (hexec : exec step s as = some t) : rel s t := by
  induction as generalizing s with
  | nil =>
      simp only [exec_nil, Option.some.injEq] at hexec
      exact hexec ▸ hrefl s
  | cons a as ih =>
      obtain ⟨u, hu, hrest⟩ := exec_cons.mp hexec
      exact htrans s u t (hrel s a u hs hok.1 hu)
        (ih (hinv s a u hs hok.1 hu) (hok.2 u hu) hrest)

end Rules

/-! ## A system inside another -/

section Projection

variable {τ : Type*} {β : Type*} {step : σ → α → Option σ} {inner : τ → β → Option τ}
  {core : σ → τ} {emits : σ → α → Option β} {s t : σ} {as : List α}

/-- A step of the outer system leaves its core alone, or makes one step of the inner one there. -/
def Projects (step : σ → α → Option σ) (inner : τ → β → Option τ) (core : σ → τ)
    (emits : σ → α → Option β) : Prop :=
  ∀ s a t, step s a = some t →
    match emits s a with
    | none => core t = core s
    | some b => inner (core s) b = some (core t)

def OnCore (core : σ → τ) (emits : σ → α → Option β) (ok : τ → β → Prop) (s : σ) (a : α) : Prop :=
  ∀ b, emits s a = some b → ok (core s) b

instance (core : σ → τ) (emits : σ → α → Option β) (ok : τ → β → Prop)
    [∀ c b, Decidable (ok c b)] (s : σ) (a : α) : Decidable (OnCore core emits ok s a) :=
  match hemits : emits s a with
  | none => isTrue fun b hb => by rw [hemits] at hb; cases hb
  | some b =>
      decidable_of_iff (ok (core s) b)
        ⟨fun h c hc => by rw [hemits] at hc; cases hc; exact h, fun h => h b hemits⟩

theorem Projects.step_invariant (h : Projects step inner core emits) {ok : τ → β → Prop}
    {inv : τ → Prop} (hstep : ∀ c b d, inv c → ok c b → inner c b = some d → inv d) {a : α}
    (hs : inv (core s)) (hok : OnCore core emits ok s a) (ht : step s a = some t) :
    inv (core t) := by
  have hproject := h s a t ht
  cases hemits : emits s a with
  | none =>
      rw [hemits] at hproject
      exact hproject ▸ hs
  | some b =>
      rw [hemits] at hproject
      exact hstep _ b _ hs (hok b hemits) hproject

theorem Projects.exec_invariant (h : Projects step inner core emits) {ok : τ → β → Prop}
    {inv : τ → Prop} (hstep : ∀ c b d, inv c → ok c b → inner c b = some d → inv d)
    (hs : inv (core s)) (hok : AllSteps (OnCore core emits ok) step s as)
    (hexec : exec step s as = some t) : inv (core t) :=
  Foundation.exec_invariant
    (fun _ _ _ hs hok ht => h.step_invariant hstep hs hok ht) hs hok hexec

theorem Projects.allSteps (h : Projects step inner core emits) {ok ok' : τ → β → Prop}
    {inv : τ → Prop} (hstep : ∀ c b d, inv c → ok c b → inner c b = some d → inv d)
    (himp : ∀ c b, inv c → ok c b → ok' c b) (hs : inv (core s))
    (hok : AllSteps (OnCore core emits ok) step s as) :
    AllSteps (OnCore core emits ok') step s as :=
  AllSteps.imp_of_invariant
    (fun _ _ _ hs hok ht => h.step_invariant hstep hs hok ht)
    (fun _ _ hs hok b hemits => himp _ b hs (hok b hemits)) hs hok

end Projection

end Astra.Foundation
