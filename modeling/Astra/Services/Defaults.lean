import Astra.Foundation.Transition
import Astra.Services.Effects
import Mathlib.Logic.Function.Basic

/-!
# The default persona

`create`, `update` and `delete` of `PersonaService` statement by statement, under
READ COMMITTED with row locks.  `clear_default` updates the rows that are committed when
the statement starts; a row that another transaction has locked is waited for, one by one.
What a transaction writes is seen by the others when it commits.
-/

namespace Astra.Services

open Astra.Foundation Astra.Platform Astra.Persistence

inductive PersonaRequest where
  | create (id : UUID) (request : PersonaCreateRequest)
  | update (id : UUID) (request : PersonaUpdateRequest)
  | delete (id : UUID)

namespace PersonaRequest

def id : PersonaRequest → UUID
  | create id _ | update id _ | delete id => id

def creates : PersonaRequest → Bool
  | create _ _ => true
  | _ => false

def setsDefault : PersonaRequest → Bool
  | create _ request => request.isDefault
  | update _ request => request.isDefault == some (some true)
  | delete _ => false

def exceptId : PersonaRequest → Option UUID
  | update id _ => some id
  | _ => none

def violatesNotNull : PersonaRequest → Bool
  | update _ request => request.name == some none || request.isDefault == some none
  | _ => false

end PersonaRequest

def PersonaCreateRequest.persona (request : PersonaCreateRequest) (id userId : UUID) : Persona where
  id := id
  userId := userId
  name := request.name
  description := request.description
  instructions := request.instructions
  isDefault := request.isDefault
  personaAttributes := request.attributes

inductive PersonaStage where
  | started
  | selected
  /-- Inside `clear_default`: the rows it has seen, those still to be reached, those updated. -/
  | clearing (seen pending cleared : List UUID)
  | flushed (seen cleared : List UUID)
  | ended (result : Except Exn Unit)

structure PersonaTxn where
  userId : UUID
  request : PersonaRequest
  stage : PersonaStage

/-- The committed rows, the transactions, the row locks, and the ids given out by `uuid4`. -/
structure PersonaState where
  rows : List Persona
  txns : Nat → Option PersonaTxn := fun _ => none
  owner : UUID → Option Nat := fun _ => none
  issued : List UUID

inductive PersonaLabel where
  | begin (i : Nat) (userId : UUID) (request : PersonaRequest)
  | select (i : Nat)
  | startClear (i : Nat)
  | visit (i : Nat) (id : UUID)
  | flush (i : Nat)
  | commit (i : Nat)
  | rollback (i : Nat)

def clearRows (cleared : List UUID) (rows : List Persona) : List Persona :=
  updateWhere (fun p => decide (p.id ∈ cleared)) (fun p => { p with isDefault := false }) rows

namespace PersonaTxn

def loaded (t : PersonaTxn) : Bool :=
  match t.stage with
  | .started => t.request.creates
  | .selected => true
  | _ => false

/-- The transaction stands before the flush; what `clear_default` has seen and updated. -/
def readyToFlush (t : PersonaTxn) : Option (List UUID × List UUID) :=
  match t.stage with
  | .clearing seen [] cleared => some (seen, cleared)
  | _ => if t.loaded && !t.request.setsDefault then some ([], []) else none

def write (t : PersonaTxn) (cleared : List UUID) (rows : List Persona) : List Persona :=
  let rows := clearRows cleared rows
  match t.request with
  | .create id request => rows ++ [request.persona id t.userId]
  | .update id request => updateWhere (fun p => p.id == id) (applyPersonaUpdate request) rows
  | .delete id => rows.filter fun p => p.id != id

end PersonaTxn

namespace PersonaState

def Free (s : PersonaState) (i : Nat) (id : UUID) : Prop :=
  s.owner id = none ∨ s.owner id = some i

instance (s : PersonaState) (i : Nat) (id : UUID) : Decidable (s.Free i id) :=
  inferInstanceAs (Decidable (_ ∨ _))

def set (s : PersonaState) (i : Nat) (t : PersonaTxn) : PersonaState :=
  { s with txns := Function.update s.txns i (some t) }

def lock (s : PersonaState) (i : Nat) (id : UUID) : PersonaState :=
  { s with owner := Function.update s.owner id (some i) }

def finish (s : PersonaState) (i : Nat) (t : PersonaTxn) (result : Except Exn Unit)
    (rows : List Persona) : PersonaState where
  rows := rows
  txns := Function.update s.txns i (some { t with stage := .ended result })
  owner := fun id => if s.owner id = some i then none else s.owner id
  issued := s.issued

def step (s : PersonaState) : PersonaLabel → Option PersonaState
  | .begin i userId request =>
      match s.txns i with
      | some _ => none
      | none =>
          if request.creates then
            -- `uuid4` does not repeat
            if request.id ∈ s.issued then none
            else
              some { (s.lock i request.id).set i ⟨userId, request, .started⟩ with
                issued := request.id :: s.issued }
          else some (s.set i ⟨userId, request, .started⟩)
  | .select i =>
      match s.txns i with
      | some ⟨userId, request, .started⟩ =>
          if request.creates then none
          else
            match getOwnedPersona s.rows request.id userId with
            | none => some (s.finish i ⟨userId, request, .started⟩ (.error personaNotFound) s.rows)
            | some _ =>
                if s.Free i request.id then
                  some ((s.lock i request.id).set i ⟨userId, request, .selected⟩)
                else none
      | _ => none
  | .startClear i =>
      match s.txns i with
      | some t =>
          if t.request.setsDefault ∧ t.loaded then
            let seen := (s.rows.filter fun p =>
              p.userId == t.userId && some p.id != t.request.exceptId).map Persona.id
            some (s.set i { t with stage := .clearing seen seen [] })
          else none
      | none => none
  | .visit i id =>
      match s.txns i with
      | some ⟨userId, request, .clearing seen pending cleared⟩ =>
          if id ∈ pending then
            match getOwnedPersona s.rows id userId with
            | none => some (s.set i ⟨userId, request, .clearing seen (pending.erase id) cleared⟩)
            | some _ =>
                if s.Free i id then
                  some ((s.lock i id).set i
                    ⟨userId, request, .clearing seen (pending.erase id) (cleared ++ [id])⟩)
                else none
          else none
      | _ => none
  | .flush i =>
      match s.txns i with
      | some t =>
          match t.readyToFlush with
          | none => none
          | some (seen, cleared) =>
              if t.request.violatesNotNull then
                some (s.finish i t (.error notNullViolation) s.rows)
              else some (s.set i { t with stage := .flushed seen cleared })
      | none => none
  | .commit i =>
      match s.txns i with
      | some ⟨userId, request, .flushed seen cleared⟩ =>
          let t : PersonaTxn := ⟨userId, request, .flushed seen cleared⟩
          some (s.finish i t (.ok ()) (t.write cleared s.rows))
      | _ => none
  | .rollback i =>
      match s.txns i with
      | none | some ⟨_, _, .ended _⟩ => none
      | some t => some (s.finish i t (.error .cancelled) s.rows)

end PersonaState

/-! ## What a run is to keep -/

def AtMostOneDefault (rows : List Persona) : Prop :=
  ∀ p ∈ rows, ∀ q ∈ rows, p.userId = q.userId → p.isDefault = true → q.isDefault = true →
    p.id = q.id

/--
When a default persona is committed, every other persona of the user that is committed
as the default was there when the transaction's `clear_default` started.
-/
def SawDefaults (s : PersonaState) : PersonaLabel → Prop
  | .commit i => ∀ userId request seen cleared,
      s.txns i = some ⟨userId, request, .flushed seen cleared⟩ → request.setsDefault = true →
      ∀ p ∈ s.rows, p.userId = userId → p.isDefault = true → p.id ≠ request.id → p.id ∈ seen
  | _ => True

/-! ## What a commit writes -/

section Write

variable {t : PersonaTxn} {cleared : List UUID} {rows : List Persona} {p : Persona}

theorem mem_clearRows :
    p ∈ clearRows cleared rows ↔
      (∃ old ∈ rows, old.id ∈ cleared ∧ { old with isDefault := false } = p) ∨
        (p ∈ rows ∧ p.id ∉ cleared) := by
  simp [clearRows, mem_updateWhere]

theorem isDefault_applyPersonaUpdate {request : PersonaUpdateRequest}
    (h : (applyPersonaUpdate request p).isDefault = true) :
    request.isDefault = some (some true) ∨ p.isDefault = true := by
  simp only [applyPersonaUpdate] at h
  rcases hfield : request.isDefault with - | - | flag <;> simp_all

theorem mem_write (h : p ∈ t.write cleared rows) :
    (t.request.creates = true ∧ p.id = t.request.id ∧ p.userId = t.userId ∧
        p.isDefault = t.request.setsDefault) ∨
      ∃ old ∈ rows, old.id = p.id ∧ old.userId = p.userId ∧
        (p.isDefault = true → (old.isDefault = true ∧ old.id ∉ cleared) ∨
          (p.id = t.request.id ∧ t.request.setsDefault = true)) := by
  obtain ⟨userId, request, stage⟩ := t
  cases request with
  | create id request =>
      simp only [PersonaTxn.write, List.mem_append, List.mem_singleton] at h
      rcases h with h | rfl
      · right
        rcases mem_clearRows.mp h with ⟨old, hold, -, rfl⟩ | ⟨hold, hnot⟩
        · exact ⟨old, hold, rfl, rfl, by simp⟩
        · exact ⟨p, hold, rfl, rfl, fun hp => Or.inl ⟨hp, hnot⟩⟩
      · exact Or.inl ⟨rfl, rfl, rfl, rfl⟩
  | update id request =>
      right
      simp only [PersonaTxn.write] at h
      rcases mem_updateWhere.mp h with ⟨mid, hmid, hid, rfl⟩ | ⟨hmid, hid⟩
      · rw [beq_iff_eq] at hid
        rcases mem_clearRows.mp hmid with ⟨old, hold, -, rfl⟩ | ⟨hold, hnot⟩
        · refine ⟨old, hold, rfl, rfl, fun hp => Or.inr ⟨hid, ?_⟩⟩
          rcases isDefault_applyPersonaUpdate hp with hset | hset
          · simp [PersonaRequest.setsDefault, hset]
          · cases hset
        · refine ⟨mid, hold, rfl, rfl, fun hp => ?_⟩
          rcases isDefault_applyPersonaUpdate hp with hset | hset
          · exact Or.inr ⟨hid, by simp [PersonaRequest.setsDefault, hset]⟩
          · exact Or.inl ⟨hset, hnot⟩
      · rcases mem_clearRows.mp hmid with ⟨old, hold, -, rfl⟩ | ⟨hold, hnot⟩
        · exact ⟨old, hold, rfl, rfl, by simp⟩
        · exact ⟨p, hold, rfl, rfl, fun hp => Or.inl ⟨hp, hnot⟩⟩
  | delete id =>
      right
      simp only [PersonaTxn.write, List.mem_filter] at h
      rcases mem_clearRows.mp h.1 with ⟨old, hold, -, rfl⟩ | ⟨hold, hnot⟩
      · exact ⟨old, hold, rfl, rfl, by simp⟩
      · exact ⟨p, hold, rfl, rfl, fun hp => Or.inl ⟨hp, hnot⟩⟩

theorem mem_write_of_cleared {q : Persona} (hq : q ∈ clearRows cleared rows)
    (hid : q.id ≠ t.request.id) : q ∈ t.write cleared rows := by
  obtain ⟨userId, request, stage⟩ := t
  cases request with
  | create id request => exact List.mem_append_left _ hq
  | update id request => exact mem_updateWhere.mpr (Or.inr ⟨hq, beq_eq_false_iff_ne.mpr hid⟩)
  | delete id => exact List.mem_filter.mpr ⟨hq, bne_iff_ne.mpr hid⟩

theorem exists_mem_write (cleared : List UUID) (hp : p ∈ rows) (hid : p.id ≠ t.request.id) :
    ∃ q ∈ t.write cleared rows, q.id = p.id ∧ q.userId = p.userId := by
  by_cases hcleared : p.id ∈ cleared
  · exact ⟨_, mem_write_of_cleared (mem_clearRows.mpr (Or.inl ⟨p, hp, hcleared, rfl⟩)) hid,
      rfl, rfl⟩
  · exact ⟨p, mem_write_of_cleared (mem_clearRows.mpr (Or.inr ⟨hp, hcleared⟩)) hid, rfl, rfl⟩

theorem exists_default_write (cleared : List UUID) (hsets : t.request.setsDefault = true)
    (hown : t.request.creates = true ∨ ∃ p ∈ rows, p.id = t.request.id ∧ p.userId = t.userId) :
    ∃ q ∈ t.write cleared rows, q.id = t.request.id ∧ q.userId = t.userId ∧ q.isDefault = true := by
  obtain ⟨userId, request, stage⟩ := t
  cases request with
  | create id request =>
      exact ⟨request.persona id userId, by simp [PersonaTxn.write], rfl, rfl, hsets⟩
  | update id request =>
      simp only [PersonaRequest.setsDefault, beq_iff_eq] at hsets
      rcases hown with hcreates | ⟨p, hp, hid, huser⟩
      · cases hcreates
      · have hdefault (q : Persona) : (applyPersonaUpdate request q).isDefault = true := by
          simp [applyPersonaUpdate, hsets]
        by_cases hcleared : p.id ∈ cleared
        · have hmid := mem_clearRows.mpr (Or.inl ⟨p, hp, hcleared, rfl⟩)
          exact ⟨_, mem_updateWhere.mpr (Or.inl ⟨_, hmid, beq_iff_eq.mpr hid, rfl⟩), hid, huser,
            hdefault _⟩
        · have hmid := mem_clearRows.mpr (Or.inr ⟨hp, hcleared⟩)
          exact ⟨_, mem_updateWhere.mpr (Or.inl ⟨p, hmid, beq_iff_eq.mpr hid, rfl⟩), hid, huser,
            hdefault _⟩
  | delete id => cases hsets

private theorem write_nodup (hrows : (rows.map Persona.id).Nodup)
    (hfresh : t.request.creates = true → ∀ p ∈ rows, p.id ≠ t.request.id) :
    ((t.write cleared rows).map Persona.id).Nodup := by
  have hmid : ((clearRows cleared rows).map Persona.id).Nodup :=
    updateWhere_nodup hrows fun _ => rfl
  obtain ⟨userId, request, stage⟩ := t
  cases request with
  | create id request =>
      refine nodup_append_row hmid fun hmem => ?_
      obtain ⟨q, hq, hid⟩ := List.mem_map.mp hmem
      rcases mem_clearRows.mp hq with ⟨old, hold, -, rfl⟩ | ⟨hold, -⟩
      · exact hfresh rfl old hold hid
      · exact hfresh rfl q hold hid
  | update id request => exact updateWhere_nodup hmid fun _ => rfl
  | delete id => exact hmid.sublist (List.filter_sublist.map _)

end Write

/-! ## Steps -/

namespace PersonaStage

def seen : PersonaStage → List UUID
  | clearing seen _ _ | flushed seen _ => seen
  | _ => []

def pending : PersonaStage → List UUID
  | clearing _ pending _ => pending
  | _ => []

def cleared : PersonaStage → List UUID
  | clearing _ _ cleared | flushed _ cleared => cleared
  | _ => []

end PersonaStage

def PersonaTxn.holdsRow (t : PersonaTxn) : Bool :=
  match t.stage with
  | .started => t.request.creates
  | .ended _ => false
  | _ => true

inductive PersonaStep (s : PersonaState) : PersonaLabel → PersonaState → Prop
  | begins (i : Nat) (userId : UUID) (request : PersonaRequest) (hidle : s.txns i = none)
      (hcreates : request.creates = false) :
      PersonaStep s (.begin i userId request) (s.set i ⟨userId, request, .started⟩)
  | creates (i : Nat) (userId : UUID) (request : PersonaRequest) (hidle : s.txns i = none)
      (hcreates : request.creates = true) (hfresh : request.id ∉ s.issued) :
      PersonaStep s (.begin i userId request)
        { (s.lock i request.id).set i ⟨userId, request, .started⟩ with
          issued := request.id :: s.issued }
  | selects (i : Nat) (t : PersonaTxn) (p : Persona) (hold : s.txns i = some t)
      (hcreates : t.request.creates = false) (hstage : t.stage = .started)
      (howned : getOwnedPersona s.rows t.request.id t.userId = some p)
      (hfree : s.Free i t.request.id) :
      PersonaStep s (.select i) ((s.lock i t.request.id).set i { t with stage := .selected })
  | clears (i : Nat) (t : PersonaTxn) (seen : List UUID) (hold : s.txns i = some t)
      (hloaded : t.loaded = true)
      (hseen : ∀ id ∈ seen, ∃ p ∈ s.rows, p.id = id ∧ p.userId = t.userId) :
      PersonaStep s (.startClear i) (s.set i { t with stage := .clearing seen seen [] })
  | skips (i : Nat) (t : PersonaTxn) (id : UUID) (seen pending cleared : List UUID)
      (hold : s.txns i = some t) (hstage : t.stage = .clearing seen pending cleared)
      (hgone : getOwnedPersona s.rows id t.userId = none) :
      PersonaStep s (.visit i id)
        (s.set i { t with stage := .clearing seen (pending.erase id) cleared })
  | updates (i : Nat) (t : PersonaTxn) (id : UUID) (seen pending cleared : List UUID)
      (p : Persona) (hold : s.txns i = some t) (hstage : t.stage = .clearing seen pending cleared)
      (hmem : id ∈ pending) (howned : getOwnedPersona s.rows id t.userId = some p)
      (hfree : s.Free i id) :
      PersonaStep s (.visit i id)
        ((s.lock i id).set i
          { t with stage := .clearing seen (pending.erase id) (cleared ++ [id]) })
  | flushes (i : Nat) (t : PersonaTxn) (seen cleared : List UUID) (hold : s.txns i = some t)
      (hready : t.readyToFlush = some (seen, cleared)) :
      PersonaStep s (.flush i) (s.set i { t with stage := .flushed seen cleared })
  | fails {label : PersonaLabel} (i : Nat) (t : PersonaTxn) (e : Exn) (hold : s.txns i = some t)
      (hlabel : ∀ j, label ≠ .commit j) :
      PersonaStep s label (s.finish i t (.error e) s.rows)
  | commits (i : Nat) (t : PersonaTxn) (seen cleared : List UUID) (hold : s.txns i = some t)
      (hstage : t.stage = .flushed seen cleared) :
      PersonaStep s (.commit i) (s.finish i t (.ok ()) (t.write cleared s.rows))

theorem personaStep_of_step {s u : PersonaState} {label : PersonaLabel}
    (h : s.step label = some u) : PersonaStep s label u := by
  cases label with
  | begin i userId request =>
      simp only [PersonaState.step] at h
      split at h
      · cases h
      · split_ifs at h with hcreates hissued <;> cases h
        · exact .creates i userId request ‹_› hcreates hissued
        · exact .begins i userId request ‹_› (by simpa using hcreates)
  | select i =>
      simp only [PersonaState.step] at h
      split at h
      · rename_i userId request hold
        split at h
        · cases h
        · rename_i hcreates
          split at h
          · cases h
            exact .fails i _ _ hold nofun
          · rename_i p howned
            split at h <;> cases h
            exact .selects i _ p hold (by simpa using hcreates) rfl howned ‹_›
      · cases h
  | startClear i =>
      simp only [PersonaState.step] at h
      split at h
      · rename_i t hold
        split_ifs at h with hready
        cases h
        refine .clears i t _ hold hready.2 fun id hid => ?_
        obtain ⟨p, hp, rfl⟩ := List.mem_map.mp hid
        simp only [List.mem_filter, Bool.and_eq_true, beq_iff_eq] at hp
        exact ⟨p, hp.1, rfl, hp.2.1⟩
      · cases h
  | visit i id =>
      simp only [PersonaState.step] at h
      split at h
      · rename_i userId request seen pending cleared hold
        split at h
        · rename_i hmem
          split at h
          · cases h
            exact .skips i _ id seen pending cleared hold rfl ‹_›
          · rename_i p howned
            split at h <;> cases h
            exact .updates i _ id seen pending cleared p hold rfl hmem howned ‹_›
        · cases h
      · cases h
  | flush i =>
      simp only [PersonaState.step] at h
      split at h
      · rename_i t hold
        split at h
        · cases h
        · rename_i seen cleared hready
          split_ifs at h <;> cases h
          · exact .fails i t _ hold nofun
          · exact .flushes i t seen cleared hold hready
      · cases h
  | commit i =>
      simp only [PersonaState.step] at h
      split at h
      · rename_i userId request seen cleared hold
        cases h
        exact .commits i _ seen cleared hold rfl
      · cases h
  | rollback i =>
      simp only [PersonaState.step] at h
      split at h
      · cases h
      · cases h
      · cases h
        exact .fails i _ _ ‹_› nofun

/-! ## Locks and snapshots -/

/-- What the locks and the snapshot of an open transaction say about the committed rows. -/
structure PersonaTxn.Sound (t : PersonaTxn) (s : PersonaState) (i : Nat) : Prop where
  owned : t.holdsRow = true → s.owner t.request.id = some i
  fresh : t.holdsRow = true → t.request.creates = true →
    t.request.id ∈ s.issued ∧ ∀ p ∈ s.rows, p.id ≠ t.request.id
  found : t.holdsRow = true → t.request.creates = false →
    ∃ p ∈ s.rows, p.id = t.request.id ∧ p.userId = t.userId
  reached : ∀ p ∈ s.rows, p.id ∈ t.stage.seen → p.id ∈ t.stage.pending ∨ p.id ∈ t.stage.cleared
  seenOwned : ∀ p ∈ s.rows, p.id ∈ t.stage.seen → p.userId = t.userId
  clearedSeen : ∀ id, id ∈ t.stage.pending ∨ id ∈ t.stage.cleared → id ∈ t.stage.seen
  seenIssued : ∀ id ∈ t.stage.seen, id ∈ s.issued

structure PersonasLocked (s : PersonaState) : Prop where
  nodup : (s.rows.map Persona.id).Nodup
  issued : ∀ p ∈ s.rows, p.id ∈ s.issued
  lockedIssued : ∀ id j, s.owner id = some j → id ∈ s.issued
  sound : ∀ i t, s.txns i = some t → t.Sound s i
  unseen : ∀ i t j t', s.txns i = some t → s.txns j = some t' → t.holdsRow = true →
    t.request.creates = true → t.request.id ∉ t'.stage.seen

section Locked

variable {s : PersonaState} {i j : Nat} {t : PersonaTxn}

theorem PersonaTxn.Sound.mono {s' : PersonaState} (h : t.Sound s j) (hrows : s'.rows = s.rows)
    (howner : ∀ id, s.owner id = some j → s'.owner id = some j)
    (hissued : ∀ id ∈ s.issued, id ∈ s'.issued) : t.Sound s' j := by
  constructor
  · exact fun hholds => howner _ (h.owned hholds)
  · intro hholds hcreates
    rw [hrows]
    exact ⟨hissued _ (h.fresh hholds hcreates).1, (h.fresh hholds hcreates).2⟩
  · rw [hrows]
    exact h.found
  · rw [hrows]
    exact h.reached
  · rw [hrows]
    exact h.seenOwned
  · exact h.clearedSeen
  · exact fun id hid => hissued id (h.seenIssued id hid)

theorem owner_lock {id id' : UUID} (hfree : s.Free i id) (h : s.owner id' = some j) :
    (s.lock i id).owner id' = some j := by
  by_cases hid : id' = id
  · subst hid
    simpa [PersonaState.Free, PersonaState.lock, h, eq_comm] using hfree
  · simpa [PersonaState.lock, hid] using h

theorem owner_finish {result : Except Exn Unit} {rows : List Persona} {id : UUID} (hne : j ≠ i)
    (h : s.owner id = some j) : (s.finish i t result rows).owner id = some j := by
  simp [PersonaState.finish, h, hne]

theorem owner_of_finish {result : Except Exn Unit} {rows : List Persona} {id : UUID}
    (h : (s.finish i t result rows).owner id = some j) : s.owner id = some j := by
  simp only [PersonaState.finish] at h
  split at h
  · cases h
  · exact h

theorem PersonasLocked.lock {id : UUID} (h : PersonasLocked s) (hid : id ∈ s.issued)
    (hfree : s.Free i id) : PersonasLocked (s.lock i id) := by
  refine ⟨h.nodup, h.issued, fun id' j hlock => ?_, fun j t hj => ?_, h.unseen⟩
  · by_cases heq : id' = id
    · exact heq ▸ hid
    · simp only [PersonaState.lock, Function.update_of_ne heq] at hlock
      exact h.lockedIssued id' j hlock
  · exact (h.sound j t hj).mono rfl (fun _ => owner_lock hfree) fun _ hid' => hid'

theorem PersonasLocked.advance (h : PersonasLocked s) {s' : PersonaState}
    (hrows : s'.rows = s.rows) (hissued : ∀ id ∈ s.issued, id ∈ s'.issued)
    (howner : ∀ j, j ≠ i → ∀ id, s.owner id = some j → s'.owner id = some j)
    (hlocked : ∀ id j, s'.owner id = some j → id ∈ s'.issued)
    (htxns : s'.txns = Function.update s.txns i (some t)) (hsound : t.Sound s' i)
    (hcreated : t.holdsRow = true → t.request.creates = true →
      ∀ j t', s.txns j = some t' → t.request.id ∉ t'.stage.seen)
    (hseen : ∀ id ∈ t.stage.seen, (∃ p ∈ s.rows, p.id = id) ∨
      ∃ told, s.txns i = some told ∧ id ∈ told.stage.seen) : PersonasLocked s' := by
  constructor
  · rw [hrows]
    exact h.nodup
  · rw [hrows]
    exact fun p hp => hissued p.id (h.issued p hp)
  · exact hlocked
  · intro j t' hj
    by_cases hji : j = i
    · subst hji
      simp only [htxns, Function.update_self, Option.some.injEq] at hj
      exact hj ▸ hsound
    · rw [htxns, Function.update_of_ne hji] at hj
      exact (h.sound j t' hj).mono hrows (howner j hji) hissued
  · intro j t' k t'' hj hk hholds hcreates hmem
    rw [htxns] at hj hk
    by_cases hji : j = i <;> by_cases hki : k = i
    · subst hji hki
      simp only [Function.update_self, Option.some.injEq] at hj hk
      subst hj hk
      rcases hseen _ hmem with ⟨p, hp, hid⟩ | ⟨told, htold, hseen⟩
      · exact (hsound.fresh hholds hcreates).2 p (hrows ▸ hp) hid
      · exact hcreated hholds hcreates _ told htold hseen
    · subst hji
      simp only [Function.update_self, Option.some.injEq] at hj
      subst hj
      rw [Function.update_of_ne hki] at hk
      exact hcreated hholds hcreates k t'' hk hmem
    · subst hki
      simp only [Function.update_self, Option.some.injEq] at hk
      subst hk
      rw [Function.update_of_ne hji] at hj
      rcases hseen _ hmem with ⟨p, hp, hid⟩ | ⟨told, htold, hseen⟩
      · exact ((h.sound j t' hj).fresh hholds hcreates).2 p hp hid
      · exact h.unseen j t' k told hj htold hholds hcreates hseen
    · rw [Function.update_of_ne hji] at hj
      rw [Function.update_of_ne hki] at hk
      exact h.unseen j t' k t'' hj hk hholds hcreates hmem

theorem PersonaTxn.Sound.commit {t' : PersonaTxn} {cleared : List UUID} (h : t'.Sound s j)
    (ht : t.Sound s i) (hne : j ≠ i) (hholds : t.holdsRow = true)
    (hunseen : t.request.creates = true → t.request.id ∉ t'.stage.seen) :
    t'.Sound (s.finish i t (.ok ()) (t.write cleared s.rows)) j := by
  have hapart (hholds' : t'.holdsRow = true) : t'.request.id ≠ t.request.id := by
    intro hid
    have howner := h.owned hholds'
    rw [hid, ht.owned hholds, Option.some.injEq] at howner
    exact hne howner.symm
  constructor
  · exact fun hholds' => owner_finish hne (h.owned hholds')
  · intro hholds' hcreates
    refine ⟨(h.fresh hholds' hcreates).1, fun p hp => ?_⟩
    rcases mem_write hp with ⟨-, hid, -⟩ | ⟨old, hold, hid, -⟩
    · rw [hid]
      exact (hapart hholds').symm
    · rw [← hid]
      exact (h.fresh hholds' hcreates).2 old hold
  · intro hholds' hcreates
    obtain ⟨p, hp, hid, huser⟩ := h.found hholds' hcreates
    obtain ⟨q, hq, hqid, hquser⟩ := exists_mem_write cleared hp
      (hid ▸ hapart hholds')
    exact ⟨q, hq, hqid.trans hid, hquser.trans huser⟩
  · intro p hp hmem
    rcases mem_write hp with ⟨hcreates, hid, -⟩ | ⟨old, hold, hid, -⟩
    · exact absurd (hid ▸ hmem) (hunseen hcreates)
    · rw [← hid] at hmem ⊢
      exact h.reached old hold hmem
  · intro p hp hmem
    rcases mem_write hp with ⟨hcreates, hid, -⟩ | ⟨old, hold, hid, huser, -⟩
    · exact absurd (hid ▸ hmem) (hunseen hcreates)
    · rw [← huser]
      exact h.seenOwned old hold (hid ▸ hmem)
  · exact h.clearedSeen
  · exact h.seenIssued

theorem ended_sound {result : Except Exn Unit} {s' : PersonaState} :
    PersonaTxn.Sound { t with stage := .ended result } s' i where
  owned := nofun
  fresh := nofun
  found := nofun
  reached := by simp [PersonaStage.seen]
  seenOwned := by simp [PersonaStage.seen]
  clearedSeen := by simp [PersonaStage.pending, PersonaStage.cleared]
  seenIssued := by simp [PersonaStage.seen]

theorem PersonasLocked.commit {seen cleared : List UUID} (h : PersonasLocked s)
    (hold : s.txns i = some t) (hstage : t.stage = .flushed seen cleared) :
    PersonasLocked (s.finish i t (.ok ()) (t.write cleared s.rows)) := by
  have hsound := h.sound i t hold
  have hholds : t.holdsRow = true := by simp [PersonaTxn.holdsRow, hstage]
  constructor
  · exact write_nodup h.nodup fun hcreates => (hsound.fresh hholds hcreates).2
  · intro p hp
    rcases mem_write hp with ⟨hcreates, hid, -⟩ | ⟨old, hold, hid, -⟩
    · rw [hid]
      exact (hsound.fresh hholds hcreates).1
    · rw [← hid]
      exact h.issued old hold
  · exact fun id j hlock => h.lockedIssued id j (owner_of_finish hlock)
  · intro j t' hj
    simp only [PersonaState.finish] at hj
    by_cases hji : j = i
    · subst hji
      simp only [Function.update_self, Option.some.injEq] at hj
      subst hj
      exact ended_sound
    · rw [Function.update_of_ne hji] at hj
      exact (h.sound j t' hj).commit hsound hji hholds fun hcreates =>
        h.unseen i t j t' hold hj hholds hcreates
  · intro j t' k t'' hj hk hholds' hcreates
    simp only [PersonaState.finish] at hj hk
    by_cases hji : j = i
    · subst hji
      simp only [Function.update_self, Option.some.injEq] at hj
      subst hj
      cases hholds'
    · rw [Function.update_of_ne hji] at hj
      by_cases hki : k = i
      · subst hki
        simp only [Function.update_self, Option.some.injEq] at hk
        subst hk
        simp [PersonaStage.seen]
      · rw [Function.update_of_ne hki] at hk
        exact h.unseen j t' k t'' hj hk hholds' hcreates

theorem PersonasLocked.keep {stage : PersonaStage} (h : PersonasLocked s)
    (hold : s.txns i = some t) (hholds : t.holdsRow = true) (hseen : stage.seen = t.stage.seen)
    (hreached : ∀ p ∈ s.rows, p.userId = t.userId →
      p.id ∈ t.stage.pending ∨ p.id ∈ t.stage.cleared → p.id ∈ stage.pending ∨ p.id ∈ stage.cleared)
    (hback : ∀ id, id ∈ stage.pending ∨ id ∈ stage.cleared →
      id ∈ t.stage.pending ∨ id ∈ t.stage.cleared) :
    PersonasLocked (s.set i { t with stage := stage }) := by
  have hsound := h.sound i t hold
  refine h.advance (i := i) rfl (fun _ => id) (fun _ _ _ => id) h.lockedIssued rfl ?_ ?_ ?_
  · refine ⟨fun _ => hsound.owned hholds, fun _ => hsound.fresh hholds,
      fun _ => hsound.found hholds, ?_, ?_, ?_, ?_⟩
    · intro p hp hmem
      rw [hseen] at hmem
      exact hreached p hp (hsound.seenOwned p hp hmem) (hsound.reached p hp hmem)
    · rw [hseen]
      exact hsound.seenOwned
    · rw [hseen]
      exact fun id hid => hsound.clearedSeen id (hback id hid)
    · rw [hseen]
      exact hsound.seenIssued
  · exact fun _ hcreates j t' hj => h.unseen i t j t' hold hj hholds hcreates
  · exact fun id hmem => Or.inr ⟨t, hold, hseen ▸ hmem⟩

theorem loaded_iff : t.loaded = true ↔
    t.stage = .started ∧ t.request.creates = true ∨ t.stage = .selected := by
  unfold PersonaTxn.loaded
  split <;> simp_all

private theorem stage_of_readyToFlush {seen cleared : List UUID}
    (h : t.readyToFlush = some (seen, cleared)) : t.stage = .clearing seen [] cleared ∨
      t.loaded = true ∧ t.request.setsDefault = false ∧ seen = [] ∧ cleared = [] := by
  unfold PersonaTxn.readyToFlush at h
  split at h
  · cases h
    exact Or.inl ‹_›
  · split at h
    · rename_i hloaded
      cases h
      simp only [Bool.and_eq_true, Bool.not_eq_true'] at hloaded
      exact Or.inr ⟨hloaded.1, hloaded.2, rfl, rfl⟩
    · cases h

theorem PersonasLocked.create {userId : UUID} {request : PersonaRequest} (h : PersonasLocked s)
    (hcreates : request.creates = true) (hfresh : request.id ∉ s.issued) :
    PersonasLocked { (s.lock i request.id).set i ⟨userId, request, .started⟩ with
      issued := request.id :: s.issued } := by
  have hfree : s.Free i request.id := by
    cases howner : s.owner request.id with
    | none => exact Or.inl howner
    | some j => exact absurd (h.lockedIssued _ j howner) hfresh
  have hnew : ∀ p ∈ s.rows, p.id ≠ request.id := fun p hp hid => hfresh (hid ▸ h.issued p hp)
  refine h.advance (i := i) rfl (fun _ hid => List.mem_cons_of_mem _ hid)
    (fun j _ id => owner_lock hfree) ?_ rfl ?_ ?_ ?_
  · intro id j hlock
    by_cases hid : id = request.id
    · exact hid ▸ List.mem_cons_self
    · simp only [PersonaState.lock, PersonaState.set, Function.update_of_ne hid] at hlock
      exact List.mem_cons_of_mem _ (h.lockedIssued id j hlock)
  · refine ⟨fun _ => Function.update_self .., fun _ _ => ⟨List.mem_cons_self, hnew⟩,
      ?_, ?_, ?_, ?_, ?_⟩ <;>
      simp [hcreates, PersonaStage.seen, PersonaStage.pending, PersonaStage.cleared]
  · exact fun _ _ j t' hj hmem => hfresh ((h.sound j t' hj).seenIssued _ hmem)
  · simp [PersonaStage.seen]

theorem PersonasLocked.select {p : Persona} (h : PersonasLocked s)
    (hcreates : t.request.creates = false)
    (howned : getOwnedPersona s.rows t.request.id t.userId = some p)
    (hfree : s.Free i t.request.id) :
    PersonasLocked ((s.lock i t.request.id).set i { t with stage := .selected }) := by
  obtain ⟨hp, hid, huser⟩ := getOwnedPersona_mem howned
  have hlocked := h.lock (hid ▸ h.issued p hp) hfree
  refine hlocked.advance (i := i) rfl (fun _ => id) (fun _ _ _ => id) hlocked.lockedIssued rfl
    ?_ ?_ ?_
  · refine ⟨fun _ => Function.update_self .., ?_, fun _ _ => ⟨p, hp, hid, huser⟩, ?_, ?_, ?_,
      ?_⟩ <;>
      simp [hcreates, PersonaStage.seen, PersonaStage.pending, PersonaStage.cleared]
  · simp [hcreates]
  · simp [PersonaStage.seen]

theorem PersonasLocked.startClear {seen : List UUID} (h : PersonasLocked s)
    (hold : s.txns i = some t) (hloaded : t.loaded = true)
    (hseen : ∀ id ∈ seen, ∃ p ∈ s.rows, p.id = id ∧ p.userId = t.userId) :
    PersonasLocked (s.set i { t with stage := .clearing seen seen [] }) := by
  have hsound := h.sound i t hold
  have hholds : t.holdsRow = true := by
    rcases loaded_iff.mp hloaded with ⟨hstage, hcreates⟩ | hstage <;>
      simp_all [PersonaTxn.holdsRow]
  refine h.advance (i := i) rfl (fun _ => id) (fun _ _ _ => id) h.lockedIssued rfl ?_ ?_ ?_
  · refine ⟨fun _ => hsound.owned hholds, fun _ => hsound.fresh hholds,
      fun _ => hsound.found hholds, fun p _ hmem => Or.inl hmem, ?_, ?_, ?_⟩
    · intro p hp hmem
      obtain ⟨q, hq, hid, huser⟩ := hseen p.id hmem
      rw [← huser, eq_of_key_eq h.nodup hp hq hid.symm]
    · simp [PersonaStage.seen, PersonaStage.pending, PersonaStage.cleared]
    · intro id hmem
      obtain ⟨q, hq, rfl, -⟩ := hseen id hmem
      exact h.issued q hq
  · exact fun _ hcreates j t' hj => h.unseen i t j t' hold hj hholds hcreates
  · intro id hmem
    obtain ⟨q, hq, hid, -⟩ := hseen id hmem
    exact Or.inl ⟨q, hq, hid⟩

section Visit

variable {id : UUID} {seen pending cleared : List UUID}

private theorem PersonasLocked.skip (h : PersonasLocked s) (hold : s.txns i = some t)
    (hstage : t.stage = .clearing seen pending cleared)
    (hgone : getOwnedPersona s.rows id t.userId = none) :
    PersonasLocked (s.set i { t with stage := .clearing seen (pending.erase id) cleared }) := by
  refine h.keep hold (by simp [PersonaTxn.holdsRow, hstage])
    (by simp [PersonaStage.seen, hstage]) ?_ ?_
  · intro p hp huser hmem
    have hne : p.id ≠ id := by
      rintro rfl
      simpa [huser] using List.find?_eq_none.mp hgone p hp
    simpa [PersonaStage.pending, PersonaStage.cleared, hstage, List.mem_erase_of_ne hne]
      using hmem
  · intro id' hmem
    simp only [PersonaStage.pending, PersonaStage.cleared, hstage] at hmem ⊢
    exact hmem.imp_left List.mem_of_mem_erase

theorem PersonasLocked.reach {p : Persona} (h : PersonasLocked s) (hold : s.txns i = some t)
    (hstage : t.stage = .clearing seen pending cleared) (hmem : id ∈ pending)
    (howned : getOwnedPersona s.rows id t.userId = some p) (hfree : s.Free i id) :
    PersonasLocked ((s.lock i id).set i
      { t with stage := .clearing seen (pending.erase id) (cleared ++ [id]) }) := by
  obtain ⟨hp, hid, -⟩ := getOwnedPersona_mem howned
  have hlocked := h.lock (hid ▸ h.issued p hp) hfree
  refine hlocked.keep hold (by simp [PersonaTxn.holdsRow, hstage])
    (by simp [PersonaStage.seen, hstage]) ?_ ?_
  · intro q _ _ hq
    simp only [PersonaStage.pending, PersonaStage.cleared, hstage, List.mem_append,
      List.mem_singleton] at hq ⊢
    by_cases hne : q.id = id
    · exact Or.inr (Or.inr hne)
    · rw [List.mem_erase_of_ne hne]
      exact hq.imp_right Or.inl
  · intro id' hmem'
    simp only [PersonaStage.pending, PersonaStage.cleared, hstage, List.mem_append,
      List.mem_singleton] at hmem' ⊢
    rcases hmem' with herase | hcleared | rfl
    · exact Or.inl (List.mem_of_mem_erase herase)
    · exact Or.inr hcleared
    · exact Or.inl hmem

end Visit

theorem PersonasLocked.flush {seen cleared : List UUID} (h : PersonasLocked s)
    (hold : s.txns i = some t) (hready : t.readyToFlush = some (seen, cleared)) :
    PersonasLocked (s.set i { t with stage := .flushed seen cleared }) := by
  rcases stage_of_readyToFlush hready with hstage | ⟨hloaded, -, rfl, rfl⟩
  · refine h.keep hold (by simp [PersonaTxn.holdsRow, hstage])
      (by simp [PersonaStage.seen, hstage]) ?_ ?_ <;>
      simp [PersonaStage.pending, PersonaStage.cleared, hstage]
  · rcases loaded_iff.mp hloaded with ⟨hstage, hcreates⟩ | hstage
    · refine h.keep hold (by simp [PersonaTxn.holdsRow, hstage, hcreates])
        (by simp [PersonaStage.seen, hstage]) ?_ ?_ <;>
        simp [PersonaStage.pending, PersonaStage.cleared, hstage]
    · refine h.keep hold (by simp [PersonaTxn.holdsRow, hstage])
        (by simp [PersonaStage.seen, hstage]) ?_ ?_ <;>
        simp [PersonaStage.pending, PersonaStage.cleared, hstage]

theorem PersonasLocked.step {u : PersonaState} {label : PersonaLabel} (h : PersonasLocked s)
    (hstep : PersonaStep s label u) : PersonasLocked u := by
  cases hstep with
  | begins i userId request hidle hcreates =>
      refine h.advance (i := i) rfl (fun _ => id) (fun _ _ _ => id) h.lockedIssued rfl ?_ ?_ ?_
      · constructor <;>
          simp [PersonaTxn.holdsRow, hcreates, PersonaStage.seen, PersonaStage.pending,
            PersonaStage.cleared]
      · simp [hcreates]
      · simp [PersonaStage.seen]
  | creates i userId request hidle hcreates hfresh => exact h.create hcreates hfresh
  | selects i t p hold hcreates hstage howned hfree => exact h.select hcreates howned hfree
  | clears i t seen hold hloaded hseen => exact h.startClear hold hloaded hseen
  | skips i t id seen pending cleared hold hstage hgone => exact h.skip hold hstage hgone
  | updates i t id seen pending cleared p hold hstage hmem howned hfree =>
      exact h.reach hold hstage hmem howned hfree
  | flushes i t seen cleared hold hready => exact h.flush hold hready
  | fails i t e hold hlabel =>
      exact h.advance (i := i) rfl (fun _ => id) (fun j hne id => owner_finish hne)
        (fun id j hlock => h.lockedIssued id j (owner_of_finish hlock)) rfl ended_sound nofun
        (by simp [PersonaStage.seen])
  | commits i t seen cleared hold hstage => exact h.commit hold hstage

end Locked

/-! ## The invariant -/

section Commit

variable {s : PersonaState} {i : Nat} {t : PersonaTxn} {seen cleared : List UUID}

private theorem PersonaTxn.Sound.own (h : t.Sound s i) (hholds : t.holdsRow = true) :
    t.request.creates = true ∨ ∃ p ∈ s.rows, p.id = t.request.id ∧ p.userId = t.userId := by
  cases hcreates : t.request.creates with
  | true => exact Or.inl rfl
  | false => exact Or.inr (h.found hholds hcreates)

theorem default_of_write {p : Persona} (h : PersonasLocked s) (hold : s.txns i = some t)
    (hstage : t.stage = .flushed seen cleared) (hp : p ∈ t.write cleared s.rows)
    (hdefault : p.isDefault = true) :
    (p.id = t.request.id ∧ p.userId = t.userId ∧ t.request.setsDefault = true) ∨
      ∃ old ∈ s.rows, old.id = p.id ∧ old.userId = p.userId ∧ old.isDefault = true ∧
        old.id ∉ cleared := by
  have hsound := h.sound i t hold
  have hholds : t.holdsRow = true := by simp [PersonaTxn.holdsRow, hstage]
  rcases mem_write hp with ⟨hcreates, hid, huser, hsets⟩ | ⟨old, hmem, hid, huser, hback⟩
  · exact Or.inl ⟨hid, huser, hsets ▸ hdefault⟩
  · rcases hback hdefault with ⟨hwas, hnot⟩ | ⟨hown, hsets⟩
    · exact Or.inr ⟨old, hmem, hid, huser, hwas, hnot⟩
    · refine Or.inl ⟨hown, ?_, hsets⟩
      have holdId : old.id = t.request.id := hid.trans hown
      rcases hcreates : t.request.creates with - | -
      · obtain ⟨q, hq, hqid, hquser⟩ := hsound.found hholds hcreates
        rw [← huser, eq_of_key_eq h.nodup hmem hq (holdId.trans hqid.symm), hquser]
      · exact absurd holdId ((hsound.fresh hholds hcreates).2 old hmem)

private theorem atMostOneDefault_commit (h : PersonasLocked s) (hrows : AtMostOneDefault s.rows)
    (hold : s.txns i = some t) (hstage : t.stage = .flushed seen cleared)
    (hsaw : SawDefaults s (.commit i)) : AtMostOneDefault (t.write cleared s.rows) := by
  have hreached := (h.sound i t hold).reached
  simp only [PersonaStage.seen, PersonaStage.pending, PersonaStage.cleared, hstage,
    List.not_mem_nil, false_or] at hreached
  have hown {p : Persona} (hp : p ∈ s.rows) (hdefault : p.isDefault = true)
      (huser : p.userId = t.userId) (hsets : t.request.setsDefault = true)
      (hnot : p.id ∉ cleared) : p.id = t.request.id := by
    by_contra hne
    have htxn : s.txns i = some ⟨t.userId, t.request, .flushed seen cleared⟩ := by
      rw [hold, ← hstage]
    exact hnot (hreached p hp (hsaw _ _ seen cleared htxn hsets p hp huser hdefault hne))
  intro p hp q hq huser hpDefault hqDefault
  rcases default_of_write h hold hstage hp hpDefault with
    ⟨hpid, hpuser, hsets⟩ | ⟨p', hp', hpid, hpuser, hpwas, hpnot⟩ <;>
  rcases default_of_write h hold hstage hq hqDefault with
    ⟨hqid, hquser, hsets'⟩ | ⟨q', hq', hqid, hquser, hqwas, hqnot⟩
  · rw [hpid, hqid]
  · rw [hpid, ← hqid, hown hq' hqwas (hquser.trans (huser.symm.trans hpuser)) hsets hqnot]
  · rw [hqid, ← hpid, hown hp' hpwas (hpuser.trans (huser.trans hquser)) hsets' hpnot]
  · rw [← hpid, ← hqid]
    exact hrows p' hp' q' hq' (hpuser.trans (huser.trans hquser.symm)) hpwas hqwas

private theorem not_atMostOneDefault_commit (h : PersonasLocked s) (hold : s.txns i = some t)
    (hstage : t.stage = .flushed seen cleared) (hmissed : ¬ SawDefaults s (.commit i)) :
    ¬ AtMostOneDefault (t.write cleared s.rows) := by
  have hsound := h.sound i t hold
  have hholds : t.holdsRow = true := by simp [PersonaTxn.holdsRow, hstage]
  simp only [SawDefaults, not_forall] at hmissed
  obtain ⟨userId, request, seen', cleared', htxn, hsets, p, hp, huser, hdefault, hne, hunseen⟩ :=
    hmissed
  rw [hold, Option.some.injEq] at htxn
  subst htxn
  cases hstage
  have hnot : p.id ∉ cleared := fun hmem => hunseen (hsound.clearedSeen _ (Or.inr hmem))
  obtain ⟨q, hq, hqid, hquser, hqDefault⟩ := exists_default_write cleared hsets
    (hsound.own hholds)
  have hkept := mem_write_of_cleared (t := ⟨userId, request, .flushed seen cleared⟩)
    (mem_clearRows.mpr (Or.inr ⟨hp, hnot⟩)) hne
  intro hone
  exact hne ((hone p hkept q hq (huser.trans hquser.symm) hdefault hqDefault).trans hqid)

theorem sawDefaults_or_commit {u : PersonaState} {label : PersonaLabel}
    (hstep : PersonaStep s label u) :
    (u.rows = s.rows ∧ SawDefaults s label) ∨ ∃ i t seen cleared, label = .commit i ∧
      s.txns i = some t ∧ t.stage = .flushed seen cleared ∧ u.rows = t.write cleared s.rows := by
  cases hstep with
  | commits i t seen cleared hold hstage =>
      exact Or.inr ⟨i, t, seen, cleared, rfl, hold, hstage, rfl⟩
  | fails i t e hold hlabel =>
      refine Or.inl ⟨rfl, ?_⟩
      cases label with
      | commit j => exact absurd rfl (hlabel j)
      | _ => trivial
  | _ => exact Or.inl ⟨rfl, trivial⟩

private theorem one_default_step {u : PersonaState} {label : PersonaLabel}
    (h : PersonasLocked s ∧ AtMostOneDefault s.rows) (hsaw : SawDefaults s label)
    (hstep : s.step label = some u) : PersonasLocked u ∧ AtMostOneDefault u.rows := by
  have hinverted := personaStep_of_step hstep
  refine ⟨h.1.step hinverted, ?_⟩
  rcases sawDefaults_or_commit hinverted with
    ⟨hsame, -⟩ | ⟨i, t, seen, cleared, rfl, hold, hstage, hwrite⟩
  · rw [hsame]
    exact h.2
  · rw [hwrite]
    exact atMostOneDefault_commit h.1 h.2 hold hstage hsaw

theorem PersonasLocked.initial {rows : List Persona} (hrows : (rows.map Persona.id).Nodup) :
    PersonasLocked { rows := rows, issued := rows.map Persona.id } where
  nodup := hrows
  issued := fun _ hp => List.mem_map_of_mem hp
  lockedIssued := by simp
  sound := by simp
  unseen := by simp

/--
In every state that a run reaches each user has at most one default persona, exactly when
no default is committed beside another one that was not there for its `clear_default`.
-/
theorem one_default_iff {rows : List Persona} {labels : List PersonaLabel} {final : PersonaState}
    (hnodup : (rows.map Persona.id).Nodup) (hrows : AtMostOneDefault rows)
    (hexec : exec PersonaState.step { rows := rows, issued := rows.map Persona.id } labels =
      some final) :
    (∀ pre u, pre <+: labels →
        exec PersonaState.step { rows := rows, issued := rows.map Persona.id } pre = some u →
        AtMostOneDefault u.rows) ↔
      AllSteps SawDefaults PersonaState.step { rows := rows, issued := rows.map Persona.id }
        labels := by
  have hlocked {pre : List PersonaLabel} {u : PersonaState}
      (hpre : exec PersonaState.step { rows := rows, issued := rows.map Persona.id } pre = some u) :
      PersonasLocked u :=
    exec_invariant' (fun _ _ _ h hstep => h.step (personaStep_of_step hstep))
      (PersonasLocked.initial hnodup) hpre
  constructor
  · intro hall
    rcases AllSteps.or_violation SawDefaults hexec with
      hok | ⟨pre, label, post, u, v, rfl, hpre, -, hbad, hstep, -⟩
    · exact hok
    · have hbefore := hlocked hpre
      rcases sawDefaults_or_commit (personaStep_of_step hstep) with
        ⟨-, hok⟩ | ⟨i, t, seen, cleared, rfl, hold, hstage, hwrite⟩
      · exact absurd hok hbad
      · have hreached := hall (pre ++ [.commit i]) v ⟨post, by simp⟩
          (exec_append.mpr ⟨u, hpre, exec_cons.mpr ⟨v, hstep, rfl⟩⟩)
        rw [hwrite] at hreached
        exact absurd hreached (not_atMostOneDefault_commit hbefore hold hstage hbad)
  · rintro hok pre u ⟨post, rfl⟩ hpre
    exact (exec_invariant (fun _ _ _ h hsaw hstep => one_default_step h hsaw hstep)
      ⟨PersonasLocked.initial hnodup, hrows⟩ (hok.append hpre).1 hpre).2

end Commit

/-! ## One request alone -/

def PersonaRequest.run (request : PersonaRequest) (store : Store) (userId : UUID) :
    Except Exn Store :=
  match request with
  | .create id request => Prod.snd <$> createPersona store userId request id
  | .update id request => Prod.snd <$> updatePersona store userId id request
  | .delete id => deletePersona store userId id

def PersonaRequest.seen (request : PersonaRequest) (userId : UUID) (rows : List Persona) :
    List UUID :=
  (rows.filter fun p => p.userId == userId && some p.id != request.exceptId).map Persona.id

def personaLabels (i : Nat) (userId : UUID) (request : PersonaRequest) (rows : List Persona) :
    List PersonaLabel :=
  .begin i userId request :: (if request.creates then [] else [.select i]) ++
    (if request.setsDefault then
      .startClear i :: (request.seen userId rows).map (.visit i) else []) ++
    [.flush i, .commit i]

section Alone

variable {s : PersonaState} {i : Nat} {userId : UUID} {request : PersonaRequest}

private theorem getOwnedPersona_isSome {rows : List Persona} {p : Persona} (hp : p ∈ rows) :
    (getOwnedPersona rows p.id p.userId).isSome = true := by
  simp only [getOwnedPersona, List.find?_isSome]
  exact ⟨p, hp, by simp⟩

theorem exec_visits {seen pending cleared : List UUID}
    (htxn : s.txns i = some ⟨userId, request, .clearing seen pending cleared⟩)
    (hfree : ∀ id, s.Free i id)
    (hrows : ∀ id ∈ pending, (getOwnedPersona s.rows id userId).isSome = true) :
    ∃ u, exec PersonaState.step s (pending.map (.visit i)) = some u ∧ u.rows = s.rows ∧
      u.txns i = some ⟨userId, request, .clearing seen [] (cleared ++ pending)⟩ := by
  induction pending generalizing s cleared with
  | nil => exact ⟨s, rfl, rfl, by simpa using htxn⟩
  | cons id pending ih =>
      obtain ⟨p, howned⟩ := Option.isSome_iff_exists.mp (hrows id List.mem_cons_self)
      have hstep : s.step (.visit i id) = some ((s.lock i id).set i
          ⟨userId, request, .clearing seen pending (cleared ++ [id])⟩) := by
        simp [PersonaState.step, htxn, howned, hfree id]
      have hfree' : ∀ id', (s.lock i id).Free i id' := by
        intro id'
        by_cases hid : id' = id
        · exact Or.inr (by simp [PersonaState.lock, hid])
        · simpa [PersonaState.Free, PersonaState.lock, hid] using hfree id'
      obtain ⟨u, hexec, hsame, hu⟩ := ih
        (s := (s.lock i id).set i ⟨userId, request, .clearing seen pending (cleared ++ [id])⟩)
        (Function.update_self ..) hfree' fun id' hid' => hrows id' (List.mem_cons_of_mem _ hid')
      exact ⟨u, exec_cons.mpr ⟨_, hstep, hexec⟩, hsame, by simpa using hu⟩

private theorem clear_seen {rows : List Persona} (hnodup : (rows.map Persona.id).Nodup) :
    clearRows (request.seen userId rows) rows = clearDefault userId request.exceptId rows := by
  apply List.map_congr_left
  intro p hp
  have hseen : p.id ∈ request.seen userId rows ↔
      (p.userId == userId && some p.id != request.exceptId) = true := by
    simp only [PersonaRequest.seen, List.mem_map, List.mem_filter]
    constructor
    · rintro ⟨q, ⟨hq, hselected⟩, hid⟩
      rwa [eq_of_key_eq hnodup hp hq hid.symm]
    · exact fun hselected => ⟨p, ⟨hp, hselected⟩, rfl⟩
  simp [hseen]

theorem exec_loaded {stage : PersonaStage}
    (hold : s.txns i = some ⟨userId, request, stage⟩)
    (hloaded : PersonaTxn.loaded ⟨userId, request, stage⟩ = true) (hfree : ∀ id, s.Free i id)
    (hnull : request.violatesNotNull = false) :
    ∃ u seen cleared, exec PersonaState.step s
        ((if request.setsDefault then
            .startClear i :: (request.seen userId s.rows).map (.visit i) else []) ++
          [.flush i, .commit i]) = some u ∧
      u.rows = PersonaTxn.write ⟨userId, request, .flushed seen cleared⟩ cleared s.rows ∧
      cleared = if request.setsDefault then request.seen userId s.rows else [] := by
  have hflush {seen cleared : List UUID} {s' : PersonaState} {stage' : PersonaStage}
      (hold' : s'.txns i = some ⟨userId, request, stage'⟩) (hrows : s'.rows = s.rows)
      (hready : PersonaTxn.readyToFlush ⟨userId, request, stage'⟩ = some (seen, cleared)) :
      ∃ u, exec PersonaState.step s' [.flush i, .commit i] = some u ∧
        u.rows = PersonaTxn.write ⟨userId, request, .flushed seen cleared⟩ cleared s.rows := by
    refine ⟨?_, ?exec, ?rows⟩
    case exec =>
      simp [exec, PersonaState.step, PersonaState.set, hold', hready, hnull]
      rfl
    case rows =>
      rw [← hrows]
      rfl
  cases hsets : request.setsDefault with
  | false =>
      have hready : PersonaTxn.readyToFlush ⟨userId, request, stage⟩ = some ([], []) := by
        rcases loaded_iff.mp hloaded with ⟨hstage, -⟩ | hstage <;>
          simp_all [PersonaTxn.readyToFlush]
      obtain ⟨u, hexec, hwrite⟩ := hflush hold rfl hready
      exact ⟨u, [], [], hexec, hwrite, rfl⟩
  | true =>
      have hstart : s.step (.startClear i) = some (s.set i ⟨userId, request,
          .clearing (request.seen userId s.rows) (request.seen userId s.rows) []⟩) := by
        simp [PersonaState.step, hold, hsets, hloaded, PersonaRequest.seen]
      obtain ⟨u, hvisits, hrows, hu⟩ := exec_visits (s := s.set i ⟨userId, request,
        .clearing (request.seen userId s.rows) (request.seen userId s.rows) []⟩)
        (Function.update_self ..) hfree fun id hid => by
          obtain ⟨p, hp, rfl⟩ := List.mem_map.mp hid
          simp only [List.mem_filter, Bool.and_eq_true, beq_iff_eq] at hp
          exact hp.2.1 ▸ getOwnedPersona_isSome hp.1
      obtain ⟨v, hexec, hwrite⟩ := hflush hu hrows rfl
      exact ⟨v, _, _, exec_append.mpr ⟨u, exec_cons.mpr ⟨_, hstart, hvisits⟩, hexec⟩, hwrite, rfl⟩

def PersonaRequest.rows (request : PersonaRequest) (userId : UUID) (rows : List Persona) :
    List Persona :=
  let cleared :=
    if request.setsDefault then clearDefault userId request.exceptId rows else rows
  match request with
  | .create id request => cleared ++ [request.persona id userId]
  | .update id request => updateWhere (fun p => p.id == id) (applyPersonaUpdate request) cleared
  | .delete id => cleared.filter fun p => p.id != id

private theorem write_undisturbed {rows : List Persona} {stage : PersonaStage}
    (hnodup : (rows.map Persona.id).Nodup) :
    PersonaTxn.write ⟨userId, request, stage⟩
        (if request.setsDefault then request.seen userId rows else []) rows =
      request.rows userId rows := by
  cases hsets : request.setsDefault with
  | true => simp [PersonaTxn.write, PersonaRequest.rows, clear_seen hnodup, hsets]
  | false => simp [PersonaTxn.write, PersonaRequest.rows, hsets, clearRows, updateWhere]

theorem run_eq_ok {store store' : Store} (h : request.run store userId = .ok store') :
    store'.personas = request.rows userId store.personas ∧ request.violatesNotNull = false ∧
      (request.creates = false →
        (getOwnedPersona store.personas request.id userId).isSome = true) := by
  cases request with
  | create id request =>
      obtain ⟨persona, h⟩ := snd_map_eq_ok h
      obtain ⟨rows, hadd, h⟩ := bind_eq_ok h
      obtain ⟨-, rfl⟩ := addRow_eq_ok.mp hadd
      cases h
      exact ⟨rfl, rfl, nofun⟩
  | update id request =>
      obtain ⟨persona, h⟩ := snd_map_eq_ok h
      unfold updatePersona at h
      split at h
      · cases h
      · rename_i p howned
        split_ifs at h with hnull hsets
        · cases h
          simp_all [PersonaRequest.rows, PersonaRequest.setsDefault, PersonaRequest.violatesNotNull,
            PersonaRequest.exceptId, PersonaRequest.id]
        · cases h
          simp_all [PersonaRequest.rows, PersonaRequest.setsDefault, PersonaRequest.violatesNotNull,
            PersonaRequest.id]
  | delete id =>
      simp only [PersonaRequest.run, deletePersona] at h
      split at h <;> cases h
      simp_all [PersonaRequest.rows, PersonaRequest.setsDefault, PersonaRequest.violatesNotNull,
        PersonaRequest.id]

/-- With no other transaction open, the statements of a request amount to the service method. -/
theorem persona_alone {store store' : Store} (hidle : s.txns i = none)
    (hfree : ∀ id, s.owner id = none) (hrows : s.rows = store.personas)
    (hnodup : (s.rows.map Persona.id).Nodup)
    (hfresh : request.creates = true → request.id ∉ s.issued)
    (h : request.run store userId = .ok store') :
    ∃ u, exec PersonaState.step s (personaLabels i userId request s.rows) = some u ∧
      u.rows = store'.personas := by
  obtain ⟨hwrite, hnull, hfound⟩ := run_eq_ok h
  have hready : ∃ s' stage, exec PersonaState.step s (.begin i userId request ::
        if request.creates then [] else [.select i]) = some s' ∧ s'.rows = s.rows ∧
      s'.txns i = some ⟨userId, request, stage⟩ ∧
      PersonaTxn.loaded ⟨userId, request, stage⟩ = true ∧ ∀ id, s'.Free i id := by
    have hlocked (id : UUID) : (s.lock i request.id).Free i id := by
      by_cases hid : id = request.id <;>
        simp [PersonaState.Free, PersonaState.lock, hid, hfree]
    cases hcreates : request.creates with
    | true =>
        have hbegin : s.step (.begin i userId request) =
            some { (s.lock i request.id).set i ⟨userId, request, .started⟩ with
              issued := request.id :: s.issued } := by
          simp [PersonaState.step, hidle, hcreates, hfresh hcreates]
        exact ⟨_, .started, exec_cons.mpr ⟨_, hbegin, rfl⟩, rfl, Function.update_self .., hcreates,
          hlocked⟩
    | false =>
        obtain ⟨p, howned⟩ := Option.isSome_iff_exists.mp (hfound hcreates)
        have hbegin : s.step (.begin i userId request) =
            some (s.set i ⟨userId, request, .started⟩) := by
          simp [PersonaState.step, hidle, hcreates]
        have hselect : (s.set i ⟨userId, request, .started⟩).step (.select i) =
            some (((s.set i ⟨userId, request, .started⟩).lock i request.id).set i
              ⟨userId, request, .selected⟩) := by
          simp [PersonaState.step, PersonaState.set, PersonaState.Free, hcreates, hrows, howned,
            hfree]
        exact ⟨_, .selected, exec_cons.mpr ⟨_, hbegin, exec_cons.mpr ⟨_, hselect, rfl⟩⟩, rfl,
          Function.update_self .., rfl, hlocked⟩
  obtain ⟨s', stage, hbegin, hsame, hold, hloaded, hfree'⟩ := hready
  obtain ⟨u, seen, cleared, hexec, hu, rfl⟩ := exec_loaded hold hloaded hfree' hnull
  rw [hsame] at hexec hu
  refine ⟨u, ?_, ?_⟩
  · rw [personaLabels, List.append_assoc]
    exact exec_append.mpr ⟨s', hbegin, hexec⟩
  · rw [hu, write_undisturbed hnodup, hrows, hwrite]

end Alone

/-! ## Two new defaults -/

def partyRequest : PersonaCreateRequest where
  name := "Party"
  isDefault := true

def workRequest : PersonaCreateRequest where
  name := "Work"
  isDefault := true

def defaultsInTurn : List PersonaLabel :=
  [.begin 0 7 (.create 1 partyRequest), .startClear 0, .flush 0, .commit 0,
    .begin 1 7 (.create 2 workRequest), .startClear 1, .visit 1 1, .flush 1, .commit 1]

def sawRows (s : PersonaState) : PersonaLabel → Bool
  | .commit i => (s.txns i).all fun t => s.rows.all fun p => p.id ∈ t.stage.seen
  | _ => true

private theorem sawDefaults_of_sawRows {s : PersonaState} {label : PersonaLabel}
    (h : sawRows s label = true) : SawDefaults s label := by
  cases label with
  | commit i =>
      intro userId request seen cleared htxn _ p hp _ _ _
      simp only [sawRows, htxn, Option.all_some, List.all_eq_true, decide_eq_true_eq] at h
      exact h p hp
  | _ => trivial

theorem one_default_in_turn :
    ∃ final, exec PersonaState.step { rows := [], issued := [] } defaultsInTurn = some final ∧
      final.rows.map Persona.isDefault = [false, true] ∧
      ∀ pre u, pre <+: defaultsInTurn →
        exec PersonaState.step { rows := [], issued := [] } pre = some u →
        AtMostOneDefault u.rows := by
  have hexec : ∃ final, exec PersonaState.step { rows := [], issued := [] } defaultsInTurn =
      some final ∧ final.rows.map Persona.isDefault = [false, true] := ⟨_, rfl, rfl⟩
  obtain ⟨final, hexec, hflags⟩ := hexec
  have hempty : AtMostOneDefault [] := by simp [AtMostOneDefault]
  have hsaw : AllSteps (fun s label => sawRows s label = true) PersonaState.step
      { rows := [], issued := [] } defaultsInTurn := by decide +kernel
  exact ⟨final, hexec, hflags, (one_default_iff (by simp) hempty hexec).mpr
    (hsaw.mono fun _ _ => sawDefaults_of_sawRows)⟩

def racingDefaults : List PersonaLabel :=
  [.begin 0 7 (.create 1 partyRequest), .begin 1 7 (.create 2 workRequest), .startClear 0,
    .startClear 1, .flush 0, .flush 1, .commit 0, .commit 1]

/-- The user ends with two default personas. -/
theorem racing_defaults_both_stay :
    ∃ final, exec PersonaState.step { rows := [], issued := [] } racingDefaults = some final ∧
      final.rows = [partyRequest.persona 1 7, workRequest.persona 2 7] ∧
      ¬ AtMostOneDefault final.rows := by
  have hexec : ∃ final, exec PersonaState.step { rows := [], issued := [] } racingDefaults =
      some final ∧ final.rows = [partyRequest.persona 1 7, workRequest.persona 2 7] :=
    ⟨_, rfl, rfl⟩
  obtain ⟨final, hexec, hrows⟩ := hexec
  refine ⟨final, hexec, hrows, fun hone => ?_⟩
  rw [hrows] at hone
  have hsame := hone (partyRequest.persona 1 7) (by simp) (workRequest.persona 2 7) (by simp)
    rfl rfl rfl
  cases hsame

end Astra.Services
