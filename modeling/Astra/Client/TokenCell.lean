import Astra.Client.Refresh

/-!
# The token store under overlapping calls

`SecureTokenStore` with any number of `read`, `write` and `clear` calls under way.  Code
between two awaits is one step, and so is an operation of the platform storage, which
succeeds.  A call fills or empties the cache behind its await without a second look.
-/

namespace Astra.Client

open Astra.Foundation

/-! ## Calls in flight -/

inductive TokenCall where
  | reading
  /-- The storage has answered the read with the value that it held then. -/
  | answered (raw : StoredValue)
  | storing (tokens : AuthTokens)
  | stored (tokens : AuthTokens)
  /-- A deletion on its way to the storage, of `clear` or of a `read` that calls it. -/
  | deleting (withinRead : Bool)
  | deleted (withinRead : Bool)

/--
The store and its calls.  `returned` is what the reads have returned or thrown; `latest`
is the `write` or `clear` that was the last to reach the storage, with the pair, or
`none`, that it left there.
-/
structure TokenCell where
  store : SecureTokenStore
  calls : Nat → Option TokenCall := fun _ => none
  returned : Nat → Option (Except Unit (Option AuthTokens)) := fun _ => none
  latest : Option (Nat × Option AuthTokens) := none

inductive TokenCellLabel where
  | read (i : Nat)
  | write (i : Nat) (tokens : AuthTokens)
  | clear (i : Nat)
  | reach (i : Nat)
  | resume (i : Nat)

namespace TokenCell

def unloaded (storage : StoredValue) : TokenCell where
  store := { storage }

def goOn (s : TokenCell) (i : Nat) (call : TokenCall) : TokenCell :=
  { s with calls := Function.update s.calls i (some call) }

def finishRead (s : TokenCell) (i : Nat) (result : Except Unit (Option AuthTokens)) : TokenCell :=
  { s with
    calls := Function.update s.calls i none
    returned := Function.update s.returned i (some result) }

def resumeRead (s : TokenCell) (i : Nat) : StoredValue → TokenCell
  | .missing => { s with store := { s.store with hasLoaded := true } }.finishRead i (.ok none)
  | .json (.obj fields) =>
      match AuthTokens.fromJson fields with
      | .ok tokens =>
          let store := { s.store with hasLoaded := true, memoryCache := some tokens }
          { s with store }.finishRead i (.ok (some tokens))
      | .error _ => { s with store := { s.store with hasLoaded := true } }.finishRead i (.error ())
  | _ => { s with store := s.store.clear }.goOn i (.deleting true)

def step (s : TokenCell) : TokenCellLabel → Option TokenCell
  | .read i =>
      match s.calls i with
      | none =>
          if s.store.hasLoaded then some (s.finishRead i (.ok s.store.memoryCache))
          else some (s.goOn i .reading)
      | some _ => none
  | .write i tokens =>
      match s.calls i with
      | none => some (s.goOn i (.storing tokens))
      | some _ => none
  | .clear i =>
      match s.calls i with
      | none => some ({ s with store := s.store.clear }.goOn i (.deleting false))
      | some _ => none
  | .reach i =>
      match s.calls i with
      | some .reading => some (s.goOn i (.answered s.store.storage))
      | some (.storing tokens) =>
          some ({ s with
            store := { s.store with storage := .json (.obj tokens.toJson) }
            latest := some (i, some tokens) }.goOn i (.stored tokens))
      | some (.deleting withinRead) =>
          some ({ s with
            store := s.store.deleted true
            latest := if withinRead then s.latest else some (i, none) }.goOn i
              (.deleted withinRead))
      | _ => none
  | .resume i =>
      match s.calls i with
      | some (.answered raw) => some (s.resumeRead i raw)
      | some (.stored tokens) =>
          some { s with
            store := { s.store with memoryCache := some tokens, hasLoaded := true }
            calls := Function.update s.calls i none }
      | some (.deleted true) => some (s.finishRead i (.ok none))
      | some (.deleted false) => some { s with calls := Function.update s.calls i none }
      | _ => none

/-! ### Calls that nothing overlaps -/

theorem write_alone {s : TokenCell} {i : Nat} (hidle : s.calls i = none) (tokens : AuthTokens) :
    exec TokenCell.step s [.write i tokens, .reach i, .resume i] =
      some { s with store := s.store.write tokens true, latest := some (i, some tokens) } := by
  have hcalls : Function.update s.calls i none = s.calls := by rw [← hidle, Function.update_eq_self]
  simp [exec, TokenCell.step, hidle, goOn, SecureTokenStore.write, hcalls]

theorem clear_alone {s : TokenCell} {i : Nat} (hidle : s.calls i = none) :
    exec TokenCell.step s [.clear i, .reach i, .resume i] =
      some { s with store := s.store.clear.deleted true, latest := some (i, none) } := by
  have hcalls : Function.update s.calls i none = s.calls := by rw [← hidle, Function.update_eq_self]
  simp [exec, TokenCell.step, hidle, goOn, hcalls]

theorem read_alone {s : TokenCell} {i : Nat} (hidle : s.calls i = none)
    (hloaded : s.store.hasLoaded = false) :
    ∃ labels, exec TokenCell.step s labels =
      some ({ s with store := (s.store.load (.value true)).1 }.finishRead i
        (s.store.load (.value true)).2) := by
  have hread : exec TokenCell.step s [.read i, .reach i, .resume i] =
      some ((s.goOn i (.answered s.store.storage)).resumeRead i s.store.storage) := by
    simp [exec, TokenCell.step, hidle, hloaded, goOn]
  have hclear (t : TokenCell) (hcall : t.calls i = some (.deleting true)) :
      exec TokenCell.step t [.reach i, .resume i] =
        some ({ t with store := t.store.deleted true }.finishRead i (.ok none)) := by
    simp [exec, TokenCell.step, hcall, goOn, finishRead]
  cases hstorage : s.store.storage with
  | missing =>
      refine ⟨_, hread.trans ?_⟩
      simp [resumeRead, hstorage, SecureTokenStore.load, goOn, finishRead]
  | malformed =>
      rw [hstorage] at hread
      refine ⟨_, exec_append.mpr ⟨_, hread, (hclear _ (Function.update_self ..)).trans ?_⟩⟩
      simp [resumeRead, hstorage, SecureTokenStore.load, SecureTokenStore.clear,
        SecureTokenStore.deleted, goOn, finishRead]
  | json value =>
      rw [hstorage] at hread
      cases value with
      | obj fields =>
          refine ⟨_, hread.trans ?_⟩
          cases hdecode : AuthTokens.fromJson fields <;>
            simp [resumeRead, hstorage, hdecode, SecureTokenStore.load, goOn, finishRead]
      | _ =>
          refine ⟨_, exec_append.mpr ⟨_, hread, (hclear _ (Function.update_self ..)).trans ?_⟩⟩
          simp [resumeRead, hstorage, SecureTokenStore.load, SecureTokenStore.clear,
            SecureTokenStore.deleted, goOn, finishRead]

end TokenCell

/-! ## One cell -/

def TokenCall.isUpdate : TokenCall → Bool
  | storing _ | stored _ | deleting false | deleted false => true
  | _ => false

def TokenCall.leaves : TokenCall → Option (Option AuthTokens)
  | answered .missing => none
  | answered (.json (.obj fields)) => (AuthTokens.fromJson fields).toOption.map some
  | answered _ => some none
  | stored tokens => some (some tokens)
  | _ => none

namespace TokenCell

def pair (s : TokenCell) : Option AuthTokens := s.store.storage.tokens?

def Idle (s : TokenCell) : Prop := ∀ i, s.calls i = none

def Awaits (s : TokenCell) (i : Nat) : Prop :=
  (∃ tokens, s.calls i = some (.storing tokens)) ∨ s.calls i = some (.deleting false)

/--
With nothing under way the cache is the pair in the storage.  Once the last update has
completed and no other is on its way to the storage, a `read` returns at once what that
update has left.
-/
structure Atomic (s : TokenCell) : Prop where
  agrees : s.Idle → s.store.hasLoaded = true → s.store.memoryCache = s.pair
  returns : ∀ i t k value, s.latest = some (k, value) →
    (∀ call, s.calls k = some call → call.isUpdate = false) → (∀ j, ¬ s.Awaits j) →
    s.step (.read i) = some t → t.returned i = some (.ok value)

def Holds (s : TokenCell) (i : Nat) : Prop :=
  ∃ tokens, s.calls i = some (.stored tokens) ∧ s.pair = some tokens ∧
    s.latest = some (i, some tokens)

/--
What a call leaves in the cache as it goes on is what the storage holds by then, and the
cache is empty when a deletion reaches the storage; or another update under way will put
it right.
-/
def Orderly (s : TokenCell) : TokenCellLabel → Prop
  | .resume i => ∀ call value, s.calls i = some call → call.leaves = some value →
      s.pair = value ∨ ∃ j, j ≠ i ∧ (s.Awaits j ∨ s.Holds j)
  | .reach i => ∀ withinRead, s.calls i = some (.deleting withinRead) →
      s.store.memoryCache = none ∨ ∃ j, j ≠ i ∧ s.Awaits j
  | _ => True

/-! ## Steps -/

inductive CellStep (s : TokenCell) : TokenCellLabel → TokenCell → Prop where
  | hit (i : Nat) (hidle : s.calls i = none) (hloaded : s.store.hasLoaded = true) :
      CellStep s (.read i) (s.finishRead i (.ok s.store.memoryCache))
  | read (i : Nat) (hidle : s.calls i = none) : CellStep s (.read i) (s.goOn i .reading)
  | write (i : Nat) (tokens : AuthTokens) (hidle : s.calls i = none) :
      CellStep s (.write i tokens) (s.goOn i (.storing tokens))
  | clear (i : Nat) (hidle : s.calls i = none) :
      CellStep s (.clear i) ({ s with store := s.store.clear }.goOn i (.deleting false))
  | answered (i : Nat) (hcall : s.calls i = some .reading) :
      CellStep s (.reach i) (s.goOn i (.answered s.store.storage))
  | stored (i : Nat) (tokens : AuthTokens) (hcall : s.calls i = some (.storing tokens)) :
      CellStep s (.reach i) ({ s with
        store := { s.store with storage := .json (.obj tokens.toJson) }
        latest := some (i, some tokens) }.goOn i (.stored tokens))
  | deleted (i : Nat) (withinRead : Bool) (hcall : s.calls i = some (.deleting withinRead)) :
      CellStep s (.reach i) ({ s with
        store := s.store.deleted true
        latest := if withinRead then s.latest else some (i, none) }.goOn i (.deleted withinRead))
  | loaded (i : Nat) (raw : StoredValue) (hcall : s.calls i = some (.answered raw)) :
      CellStep s (.resume i) (s.resumeRead i raw)
  | written (i : Nat) (tokens : AuthTokens) (hcall : s.calls i = some (.stored tokens)) :
      CellStep s (.resume i) { s with
        store := { s.store with memoryCache := some tokens, hasLoaded := true }
        calls := Function.update s.calls i none }
  | readCleared (i : Nat) (hcall : s.calls i = some (.deleted true)) :
      CellStep s (.resume i) (s.finishRead i (.ok none))
  | cleared (i : Nat) (hcall : s.calls i = some (.deleted false)) :
      CellStep s (.resume i) { s with calls := Function.update s.calls i none }

theorem cellStep_of_step {s t : TokenCell} {label : TokenCellLabel} (h : s.step label = some t) :
    CellStep s label t := by
  cases label with
  | read i =>
      simp only [TokenCell.step] at h
      split at h
      · rename_i hidle
        split at h
        · rename_i hloaded
          cases h
          exact .hit i hidle hloaded
        · cases h
          exact .read i hidle
      · cases h
  | write i tokens =>
      simp only [TokenCell.step] at h
      split at h
      · rename_i hidle
        cases h
        exact .write i tokens hidle
      · cases h
  | clear i =>
      simp only [TokenCell.step] at h
      split at h
      · rename_i hidle
        cases h
        exact .clear i hidle
      · cases h
  | reach i =>
      simp only [TokenCell.step] at h
      split at h
      · rename_i hcall
        cases h
        exact .answered i hcall
      · rename_i tokens hcall
        cases h
        exact .stored i tokens hcall
      · rename_i withinRead hcall
        cases h
        exact .deleted i withinRead hcall
      · cases h
  | resume i =>
      simp only [TokenCell.step] at h
      split at h
      · rename_i raw hcall
        cases h
        exact .loaded i raw hcall
      · rename_i tokens hcall
        cases h
        exact .written i tokens hcall
      · rename_i hcall
        cases h
        exact .readCleared i hcall
      · rename_i hcall
        cases h
        exact .cleared i hcall
      · cases h

/-! ## What every step keeps -/

/-- The cache and the record of the updates agree with the storage, or an update will see to it. -/
structure Settled (s : TokenCell) : Prop where
  cached : s.store.hasLoaded = true →
    (∃ i, s.Awaits i) ∨ s.store.memoryCache = s.pair ∨ ∃ i, s.Holds i
  recorded : ∀ k value, s.latest = some (k, value) →
    (∃ i, s.Awaits i) ∨ s.pair = value ∨
      s.pair = none ∧ ∃ tokens, s.calls k = some (.stored tokens)
  loaded : ∀ k value, s.latest = some (k, value) →
    s.store.hasLoaded = true ∨ ∃ tokens, s.calls k = some (.stored tokens)
  unloaded : s.store.hasLoaded = false → s.store.memoryCache = none ∧
    ((∃ i, s.Holds i) ∨ ∀ i raw, s.calls i = some (.answered raw) → raw.tokens? = s.pair)
  deletes : ∀ i withinRead, s.calls i = some (.deleting withinRead) ∨
    s.calls i = some (.deleted withinRead) → s.store.hasLoaded = true

section Steps

variable {s t : TokenCell} {i j : Nat} {call : TokenCall}

private theorem settled_unloaded (storage : StoredValue) : Settled (unloaded storage) where
  cached h := by cases h
  recorded _ _ h := by cases h
  loaded _ _ h := by cases h
  unloaded _ := ⟨rfl, Or.inr fun _ _ h => by cases h⟩
  deletes _ _ h := by rcases h with h | h <;> cases h

theorem Awaits.congr (hcalls : t.calls j = s.calls j) (h : s.Awaits j) : t.Awaits j := by
  unfold Awaits
  rw [hcalls]
  exact h

theorem Awaits.of_others (hcalls : ∀ j, j ≠ i → t.calls j = s.calls j) (hnot : ¬ s.Awaits i)
    (h : s.Awaits j) : t.Awaits j := by
  refine h.congr (hcalls j ?_)
  rintro rfl
  exact hnot h

theorem stored_of_others {tokens : AuthTokens} (hcalls : ∀ j, j ≠ i → t.calls j = s.calls j)
    (hnot : ∀ tokens, s.calls i ≠ some (.stored tokens))
    (h : s.calls j = some (.stored tokens)) : t.calls j = some (.stored tokens) := by
  refine (hcalls j ?_).trans h
  rintro rfl
  exact hnot tokens h

theorem Holds.congr (hcalls : t.calls j = s.calls j) (hpair : t.pair = s.pair)
    (hlatest : t.latest = s.latest) (h : s.Holds j) : t.Holds j := by
  unfold Holds
  rw [hcalls, hpair, hlatest]
  exact h

private theorem Settled.atomic (h : s.Settled) : s.Atomic where
  agrees hidle hloaded := by
    rcases h.cached hloaded with ⟨i, ⟨tokens, hi⟩ | hi⟩ | hcache | ⟨i, tokens, hi, -⟩
    · rw [hidle i] at hi
      cases hi
    · rw [hidle i] at hi
      cases hi
    · exact hcache
    · rw [hidle i] at hi
      cases hi
  returns i t k value hlatest hdone hawaits hstep := by
    have hstored (tokens : AuthTokens) : s.calls k ≠ some (.stored tokens) :=
      fun hk => absurd (hdone _ hk) (by simp [TokenCall.isUpdate])
    have hloaded : s.store.hasLoaded = true := by
      rcases h.loaded k value hlatest with hloaded | ⟨tokens, hk⟩
      · exact hloaded
      · exact absurd hk (hstored tokens)
    have hcache : s.store.memoryCache = s.pair := by
      rcases h.cached hloaded with ⟨j, hj⟩ | hcache | ⟨j, tokens, hj, -, hlast⟩
      · exact absurd hj (hawaits j)
      · exact hcache
      · rw [hlatest] at hlast
        cases hlast
        exact absurd hj (hstored tokens)
    have hpair : s.pair = value := by
      rcases h.recorded k value hlatest with ⟨j, hj⟩ | hpair | ⟨-, tokens, hk⟩
      · exact absurd hj (hawaits j)
      · exact hpair
      · exact absurd hk (hstored tokens)
    simp only [TokenCell.step] at hstep
    split at hstep
    · rw [if_pos hloaded] at hstep
      cases hstep
      simp [finishRead, hcache, hpair]
    · cases hstep

theorem Settled.same_store (h : s.Settled) (hawaits : ¬ s.Awaits i)
    (hstored : ∀ tokens, s.calls i ≠ some (.stored tokens))
    (hcalls : ∀ j, j ≠ i → t.calls j = s.calls j)
    (hstore : t.store = s.store) (hlatest : t.latest = s.latest)
    (hanswer : ∀ raw, t.calls i = some (.answered raw) → raw.tokens? = s.pair)
    (hdelete : ∀ withinRead, t.calls i = some (.deleting withinRead) ∨
      t.calls i = some (.deleted withinRead) → s.store.hasLoaded = true) : t.Settled := by
  have hpair : t.pair = s.pair := by rw [pair, pair, hstore]
  have hholds (j : Nat) : s.Holds j → t.Holds j := by
    rintro ⟨tokens, hj, hheld, hlast⟩
    exact ⟨tokens, stored_of_others hcalls hstored hj, hpair.trans hheld, hlatest.trans hlast⟩
  constructor
  · intro hloaded
    rw [hstore] at hloaded ⊢
    rw [hpair]
    rcases h.cached hloaded with ⟨j, hj⟩ | hcache | ⟨j, hj⟩
    · exact Or.inl ⟨j, hj.of_others hcalls hawaits⟩
    · exact Or.inr (Or.inl hcache)
    · exact Or.inr (Or.inr ⟨j, hholds j hj⟩)
  · intro k value hvalue
    rw [hlatest] at hvalue
    rw [hpair]
    rcases h.recorded k value hvalue with ⟨j, hj⟩ | heq | ⟨hnone, tokens, hk⟩
    · exact Or.inl ⟨j, hj.of_others hcalls hawaits⟩
    · exact Or.inr (Or.inl heq)
    · exact Or.inr (Or.inr ⟨hnone, tokens, stored_of_others hcalls hstored hk⟩)
  · intro k value hvalue
    rw [hlatest] at hvalue
    rw [hstore]
    rcases h.loaded k value hvalue with hloaded | ⟨tokens, hk⟩
    · exact Or.inl hloaded
    · exact Or.inr ⟨tokens, stored_of_others hcalls hstored hk⟩
  · intro hloaded
    rw [hstore] at hloaded ⊢
    obtain ⟨hcache, hheld⟩ := h.unloaded hloaded
    refine ⟨hcache, hheld.imp (fun ⟨j, hj⟩ => ⟨j, hholds j hj⟩) fun hall j raw hj => ?_⟩
    rw [hpair]
    by_cases hji : j = i
    · exact hanswer raw (hji ▸ hj)
    · exact hall j raw (hcalls j hji ▸ hj)
  · intro j withinRead hj
    rw [hstore]
    by_cases hji : j = i
    · exact hdelete withinRead (hji ▸ hj)
    · rw [hcalls j hji] at hj
      exact h.deletes j withinRead hj

private theorem tokens_of_leaves_none {raw : StoredValue}
    (h : (TokenCall.answered raw).leaves = none) :
    raw.tokens? = none := by
  cases raw with
  | missing | malformed => rfl
  | json value =>
      cases value with
      | obj fields =>
          unfold StoredValue.tokens?
          simpa [TokenCall.leaves] using h
      | _ => rfl

theorem Settled.resumed (h : s.Settled) (horderly : s.Orderly (.resume i))
    (hcall : s.calls i = some call)
    (hresumes : (∃ raw, call = .answered raw) ∨ ∃ tokens, call = .stored tokens)
    (hcalls : ∀ j, j ≠ i → t.calls j = s.calls j)
    (hstorage : t.store.storage = s.store.storage) (hloaded : t.store.hasLoaded = true)
    (hlatest : t.latest = s.latest)
    (hcache : t.store.memoryCache = call.leaves.getD s.store.memoryCache) : t.Settled := by
  have hpair : t.pair = s.pair := by rw [pair, pair, hstorage]
  have hnot : ¬ s.Awaits i := by
    rcases hresumes with ⟨raw, rfl⟩ | ⟨tokens, rfl⟩ <;> simp [Awaits, hcall]
  have hawaits (j : Nat) (hj : s.Awaits j) : t.Awaits j := hj.of_others hcalls hnot
  have hothers (j : Nat) (hji : j ≠ i) (hj : s.Awaits j ∨ s.Holds j) :
      (∃ j, t.Awaits j) ∨ ∃ j, t.Holds j :=
    hj.imp (fun hj => ⟨j, hawaits j hj⟩) fun hj => ⟨j, hj.congr (hcalls j hji) hpair hlatest⟩
  constructor
  · intro _
    rw [hcache, hpair]
    cases hleaves : call.leaves with
    | some value =>
        rcases horderly call value hcall hleaves with heq | ⟨j, hji, hj⟩
        · exact Or.inr (Or.inl heq.symm)
        · exact (hothers j hji hj).imp_right Or.inr
    | none =>
        obtain ⟨raw, rfl⟩ : ∃ raw, call = .answered raw := by
          rcases hresumes with hraw | ⟨tokens, rfl⟩
          · exact hraw
          · cases hleaves
        have hheld (j : Nat) (hj : s.Holds j) : ∃ j, t.Holds j := by
          refine ⟨j, hj.congr (hcalls j ?_) hpair hlatest⟩
          rintro rfl
          simp [Holds, hcall] at hj
        cases hbefore : s.store.hasLoaded with
        | true =>
            rcases h.cached hbefore with ⟨j, hj⟩ | heq | ⟨j, hj⟩
            · exact Or.inl ⟨j, hawaits j hj⟩
            · exact Or.inr (Or.inl heq)
            · exact Or.inr (Or.inr (hheld j hj))
        | false =>
            obtain ⟨hempty, ⟨j, hj⟩ | hanswers⟩ := h.unloaded hbefore
            · exact Or.inr (Or.inr (hheld j hj))
            · refine Or.inr (Or.inl ?_)
              rw [← hanswers i raw hcall, tokens_of_leaves_none hleaves]
              exact hempty
  · intro k value hvalue
    rw [hlatest] at hvalue
    rw [hpair]
    rcases h.recorded k value hvalue with ⟨j, hj⟩ | heq | ⟨hnone, tokens, hk⟩
    · exact Or.inl ⟨j, hawaits j hj⟩
    · exact Or.inr (Or.inl heq)
    · by_cases hki : k = i
      · -- the pair of this call is gone, so that only another update lets it go on
        subst hki
        rcases horderly (.stored tokens) (some tokens) hk rfl with
          heq | ⟨j, -, hj | ⟨other, -, hheld, -⟩⟩
        · rw [hnone] at heq
          cases heq
        · exact Or.inl ⟨j, hawaits j hj⟩
        · rw [hnone] at hheld
          cases hheld
      · exact Or.inr (Or.inr ⟨hnone, tokens, (hcalls k hki).trans hk⟩)
  · exact fun _ _ _ => Or.inl hloaded
  · intro hnot
    rw [hloaded] at hnot
    cases hnot
  · exact fun _ _ _ => hloaded

theorem Settled.stored (h : s.Settled) (tokens : AuthTokens) :
    Settled ({ s with
      store := { s.store with storage := .json (.obj tokens.toJson) }
      latest := some (i, some tokens) }.goOn i (.stored tokens)) := by
  set t : TokenCell := { s with
    store := { s.store with storage := .json (.obj tokens.toJson) }
    latest := some (i, some tokens) }.goOn i (.stored tokens)
  have hcall : t.calls i = some (.stored tokens) := Function.update_self ..
  have hpair : t.pair = some tokens := rfl
  have hheld : t.Holds i := ⟨tokens, hcall, hpair, rfl⟩
  constructor
  · exact fun _ => Or.inr (Or.inr ⟨i, hheld⟩)
  · intro k value hvalue
    cases hvalue
    exact Or.inr (Or.inl hpair)
  · intro k value hvalue
    cases hvalue
    exact Or.inr ⟨tokens, hcall⟩
  · intro hloaded
    exact ⟨(h.unloaded hloaded).1, Or.inl ⟨i, hheld⟩⟩
  · intro j withinRead hj
    by_cases hji : j = i
    · subst hji
      rw [hcall] at hj
      rcases hj with hj | hj <;> cases hj
    · have hcalls : t.calls j = s.calls j := Function.update_of_ne hji ..
      rw [hcalls] at hj
      exact h.deletes j withinRead hj

theorem Settled.deleted (h : s.Settled) (horderly : s.Orderly (.reach i)) {withinRead : Bool}
    (hcall : s.calls i = some (.deleting withinRead)) :
    Settled ({ s with
      store := s.store.deleted true
      latest := if withinRead then s.latest else some (i, none) }.goOn i
        (.deleted withinRead)) := by
  set t : TokenCell := { s with
    store := s.store.deleted true
    latest := if withinRead then s.latest else some (i, none) }.goOn i (.deleted withinRead)
  have hloaded : s.store.hasLoaded = true := h.deletes i withinRead (Or.inl hcall)
  have hpair : t.pair = none := rfl
  have hcalls (j : Nat) (hji : j ≠ i) : t.calls j = s.calls j := Function.update_of_ne hji ..
  have hawaits (j : Nat) (hji : j ≠ i) (hj : s.Awaits j) : ∃ j, t.Awaits j :=
    ⟨j, hj.congr (hcalls j hji)⟩
  have hstored (tokens : AuthTokens) : s.calls i ≠ some (.stored tokens) := by simp [hcall]
  constructor
  · intro _
    rcases horderly withinRead hcall with hcache | ⟨j, hji, hj⟩
    · exact Or.inr (Or.inl hcache)
    · exact Or.inl (hawaits j hji hj)
  · intro k value hvalue
    cases withinRead with
    | false =>
        cases hvalue
        exact Or.inr (Or.inl hpair)
    | true =>
        have hnot : ¬ s.Awaits i := by simp [Awaits, hcall]
        rcases h.recorded k value hvalue with ⟨j, hj⟩ | heq | ⟨-, tokens, hk⟩
        · exact Or.inl ⟨j, hj.of_others hcalls hnot⟩
        · -- the pair goes, so the cache tells whether there was one
          rcases h.cached hloaded with ⟨j, hj⟩ | hcache | ⟨j, tokens, hj, -, hlast⟩
          · exact Or.inl ⟨j, hj.of_others hcalls hnot⟩
          · rcases horderly true hcall with hempty | ⟨j, hji, hj⟩
            · exact Or.inr (Or.inl (by rw [hpair, ← heq, ← hcache, hempty]))
            · exact Or.inl (hawaits j hji hj)
          · cases hlast.symm.trans hvalue
            exact Or.inr (Or.inr ⟨hpair, tokens, stored_of_others hcalls hstored hj⟩)
        · exact Or.inr (Or.inr ⟨hpair, tokens, stored_of_others hcalls hstored hk⟩)
  · exact fun _ _ _ => Or.inl hloaded
  · intro hnot
    exact absurd (hloaded.symm.trans hnot) (by decide)
  · exact fun _ _ _ => hloaded

theorem Settled.cleared :
    Settled ({ s with store := s.store.clear }.goOn i (.deleting false)) := by
  have hawaits : Awaits ({ s with store := s.store.clear }.goOn i (.deleting false)) i :=
    Or.inr (Function.update_self ..)
  constructor
  · exact fun _ => Or.inl ⟨i, hawaits⟩
  · exact fun _ _ _ => Or.inl ⟨i, hawaits⟩
  · exact fun _ _ _ => Or.inl rfl
  · intro hnot
    cases hnot
  · exact fun _ _ _ => rfl

private theorem resumeRead_loaded (s : TokenCell) (i : Nat) (raw : StoredValue) :
    (s.resumeRead i raw).store.hasLoaded = true := by
  unfold resumeRead
  split
  · rfl
  · split <;> rfl
  · rfl

private theorem Settled.read_resumed {raw : StoredValue} (h : s.Settled)
    (horderly : s.Orderly (.resume i)) (hcall : s.calls i = some (.answered raw)) :
    (s.resumeRead i raw).Settled := by
  have hcalls (call : Option TokenCall) (j : Nat) (hji : j ≠ i) :
      Function.update s.calls i call j = s.calls j := Function.update_of_ne hji ..
  have hread : (∃ raw', TokenCall.answered raw = .answered raw') ∨
      ∃ tokens, TokenCall.answered raw = .stored tokens := Or.inl ⟨raw, rfl⟩
  cases raw with
  | missing => exact h.resumed horderly hcall hread (hcalls _) rfl rfl rfl rfl
  | malformed => exact h.resumed horderly hcall hread (hcalls _) rfl rfl rfl rfl
  | json value =>
      cases value with
      | obj fields =>
          cases hdecode : AuthTokens.fromJson fields with
          | ok tokens =>
              simp only [resumeRead, hdecode]
              refine h.resumed horderly hcall hread (hcalls _) rfl rfl rfl ?_
              simp [TokenCall.leaves, hdecode, finishRead, Except.toOption]
          | error _ =>
              simp only [resumeRead, hdecode]
              refine h.resumed horderly hcall hread (hcalls _) rfl rfl rfl ?_
              simp [TokenCall.leaves, hdecode, finishRead, Except.toOption]
      | _ => exact h.resumed horderly hcall hread (hcalls _) rfl rfl rfl rfl

theorem Settled.step {label : TokenCellLabel} (h : s.Settled) (horderly : s.Orderly label)
    (hstep : s.step label = some t) : t.Settled := by
  cases cellStep_of_step hstep with
  | hit i hidle =>
      exact h.same_store (by simp [Awaits, hidle]) (by simp [hidle])
        (fun j hji => Function.update_of_ne hji ..) rfl rfl (by simp [finishRead])
        (by simp [finishRead])
  | read i hidle =>
      exact h.same_store (by simp [Awaits, hidle]) (by simp [hidle])
        (fun j hji => Function.update_of_ne hji ..) rfl rfl (by simp [goOn]) (by simp [goOn])
  | write i tokens hidle =>
      exact h.same_store (by simp [Awaits, hidle]) (by simp [hidle])
        (fun j hji => Function.update_of_ne hji ..) rfl rfl (by simp [goOn]) (by simp [goOn])
  | clear i => exact Settled.cleared
  | answered i hcall =>
      refine h.same_store (by simp [Awaits, hcall]) (by simp [hcall])
        (fun j hji => Function.update_of_ne hji ..) rfl rfl ?_ (by simp [goOn])
      intro raw hraw
      simp only [goOn, Function.update_self] at hraw
      cases hraw
      rfl
  | stored i tokens => exact h.stored tokens
  | deleted i withinRead hcall => exact h.deleted horderly hcall
  | loaded i raw hcall => exact h.read_resumed horderly hcall
  | written i tokens hcall =>
      exact h.resumed horderly hcall (Or.inr ⟨tokens, rfl⟩)
        (fun j hji => Function.update_of_ne hji ..) rfl rfl rfl rfl
  | readCleared i hcall =>
      exact h.same_store (by simp [Awaits, hcall]) (by simp [hcall])
        (fun j hji => Function.update_of_ne hji ..) rfl rfl (by simp [finishRead])
        (by simp [finishRead])
  | cleared i hcall =>
      exact h.same_store (by simp [Awaits, hcall]) (by simp [hcall])
        (fun j hji => Function.update_of_ne hji ..) rfl rfl (by simp) (by simp)

private theorem Settled.loaded_or_called {label : TokenCellLabel} (h : s.Settled)
    (hstep : s.step label = some t) :
    t.store.hasLoaded = true ∨ ∃ i call, t.calls i = some call := by
  have hgoes (s : TokenCell) (i : Nat) (call : TokenCall) :
      ∃ j call', (s.goOn i call).calls j = some call' := ⟨i, call, Function.update_self ..⟩
  cases cellStep_of_step hstep with
  | hit i hidle hloaded => exact Or.inl hloaded
  | read i => exact Or.inr (hgoes s i .reading)
  | write i tokens => exact Or.inr (hgoes s i (.storing tokens))
  | clear i => exact Or.inl rfl
  | answered i => exact Or.inr (hgoes s i (.answered s.store.storage))
  | stored i tokens => exact Or.inr (hgoes _ i (.stored tokens))
  | deleted i withinRead hcall => exact Or.inl (h.deletes i withinRead (Or.inl hcall))
  | loaded i raw => exact Or.inl (resumeRead_loaded s i raw)
  | written i tokens => exact Or.inl rfl
  | readCleared i hcall => exact Or.inl (h.deletes i true (Or.inr hcall))
  | cleared i hcall => exact Or.inl (h.deletes i false (Or.inr hcall))

end Steps

/-! ## Whole runs -/

section Runs

variable {storage : StoredValue} {labels : List TokenCellLabel} {s : TokenCell}

theorem settled_of_run (horderly : AllSteps Orderly TokenCell.step (unloaded storage) labels)
    (hexec : exec TokenCell.step (unloaded storage) labels = some s) : s.Settled :=
  exec_invariant (fun _ _ _ h ho hstep => Settled.step h ho hstep) (settled_unloaded storage)
    horderly hexec

/--
In an orderly run from an unloaded store the cache is the pair in the storage whenever
nothing is under way, and a `read` returns what the last update has left.
-/
theorem token_cell_atomic
    (horderly : AllSteps Orderly TokenCell.step (unloaded storage) labels)
    (hexec : exec TokenCell.step (unloaded storage) labels = some s) :
    s.Atomic ∧ (labels ≠ [] → s.Idle → s.store.hasLoaded = true) := by
  refine ⟨(settled_of_run horderly hexec).atomic, fun hne hidle => ?_⟩
  obtain ⟨before, last, rfl⟩ := (List.eq_nil_or_concat' labels).resolve_left hne
  obtain ⟨t, ht, hlast⟩ := exec_append.mp hexec
  obtain ⟨u, hu, hnil⟩ := exec_cons.mp hlast
  cases hnil
  have hsettled : t.Settled := settled_of_run (horderly.append ht).1 ht
  rcases hsettled.loaded_or_called hu with hloaded | ⟨i, call, hcall⟩
  · exact hloaded
  · exact absurd (hidle i) (by simp [hcall])

end Runs

def writeUnderRead : List TokenCellLabel :=
  [.read 0, .reach 0, .write 1 nextTokens, .reach 1, .resume 0, .resume 1]

theorem token_cell_atomic_write_under_read :
    ∃ s, exec TokenCell.step (unloaded signedIn) writeUnderRead = some s ∧
      s.store.memoryCache = some nextTokens ∧
      s.Atomic ∧ (writeUnderRead ≠ [] → s.Idle → s.store.hasLoaded = true) := by
  have hreach {s : TokenCell} {i : Nat}
      (h : ∀ withinRead, s.calls i ≠ some (.deleting withinRead)) : s.Orderly (.reach i) :=
    fun withinRead hcall => absurd hcall (h withinRead)
  have horderly : AllSteps Orderly TokenCell.step (unloaded signedIn) writeUnderRead := by
    refine AllSteps.cons trivial rfl <| AllSteps.cons (hreach fun _ h => by cases h) rfl <|
      AllSteps.cons trivial rfl <| AllSteps.cons (hreach fun _ h => by cases h) rfl <|
      AllSteps.cons ?_ rfl <| AllSteps.cons ?_ rfl trivial
    · exact fun _ _ _ _ => Or.inr ⟨1, by decide, Or.inr ⟨nextTokens, rfl, rfl, rfl⟩⟩
    · intro call value hcall hleaves
      cases hcall
      cases hleaves
      exact Or.inl rfl
  exact ⟨_, rfl, rfl, token_cell_atomic horderly rfl⟩

def lateRead : List TokenCellLabel :=
  [.read 0, .reach 0, .write 1 nextTokens, .reach 1, .resume 1, .resume 0]

/-- The `read` caches the pair that the `write` has replaced, and every later `read` returns it. -/
theorem late_read_hides_write :
    ∃ s t, exec TokenCell.step (unloaded signedIn) lateRead = some s ∧ s.Idle ∧
      s.store.memoryCache = some firstTokens ∧ s.pair = some nextTokens ∧
      s.latest = some (1, some nextTokens) ∧ s.step (.read 2) = some t ∧
      t.returned 2 = some (.ok (some firstTokens)) := by
  refine ⟨_, _, rfl, fun i => ?_, rfl, rfl, rfl, rfl, rfl⟩
  match i with
  | 0 => rfl
  | 1 => rfl
  | _ + 2 => rfl

end TokenCell

end Astra.Client
