import Astra.Migration.Downgrade
import Astra.Services.Effects

/-!
# Archival across the downgrade

The revised services archive a memory by its new `archived_at` and a character by
`is_active`; the downgrade trusts `status` and the legacy `archived_at` of the rows that
the upgrade brought along.  The columns of the two schemas agree after an upgrade of
rows that had not expired, and as long as nothing is archived that the legacy columns
call active.
-/

namespace Astra.Migration

open Astra.Foundation Astra.Platform Astra.Persistence Astra.Services

/-- The operations of the revised application on memories and characters. -/
inductive RevisedAction where
  | createMemory (request : MemoryCreateRequest) (id : UUID) (now : Timestamp)
  | archiveMemory (memoryId : UUID) (now : Timestamp)
  | createCharacter (request : CharacterCreateRequest) (id : UUID)
  | updateCharacter (characterId : UUID) (request : CharacterUpdateRequest)
  | archiveCharacter (characterId : UUID)

def RevisedAction.run (store : Store) (userId : UUID) : RevisedAction → Except Exn Store
  | createMemory request id now => Prod.snd <$> Services.createMemory store userId request id now
  | archiveMemory memoryId now => Services.archiveMemory store userId memoryId now
  | createCharacter request id => Prod.snd <$> Services.createCharacter store userId request id
  | updateCharacter characterId request =>
      Prod.snd <$> Services.updateCharacter store userId characterId request
  | archiveCharacter characterId => Services.archiveCharacter store userId characterId

def revisedStep (db : Database) (request : UUID × RevisedAction) : Option Database :=
  match request.2.run db.store request.1 with
  | .ok store => some { db with store := store }
  | .error _ => some db

private theorem revisedStep_columns {db db' : Database} {request : UUID × RevisedAction}
    (hstep : revisedStep db request = some db') :
    db'.memoryColumns = db.memoryColumns ∧ db'.characterColumns = db.characterColumns := by
  unfold revisedStep at hstep
  split at hstep <;> cases hstep <;> exact ⟨rfl, rfl⟩

/-- Nothing is archived that the legacy columns call active. -/
def ArchivesNoLegacyActive (db : Database) : UUID × RevisedAction → Prop
  | (userId, .archiveMemory memoryId _) =>
      ∀ m, getOwnedMemory db.store.memories memoryId userId = some m →
        (db.memoryColumns memoryId).status ≠ some .active
  | (userId, .archiveCharacter characterId) =>
      ∀ c, getOwnedCharacterAny db.store.characters characterId userId = some c →
        (db.characterColumns characterId).archivedAt ≠ none
  | (userId, .updateCharacter characterId request) =>
      request.isActive = some (some false) →
        ∀ c, getOwnedCharacterAny db.store.characters characterId userId = some c →
          (db.characterColumns characterId).archivedAt ≠ none
  | (_, .createMemory ..) | (_, .createCharacter ..) => True

/-- No memory was active and expired at the time of the upgrade. -/
def NoneExpired (now : Timestamp) (legacy : LegacyDatabase) : Prop :=
  ∀ m ∈ legacy.memories, m.status = .active → ¬ Retired now m

private theorem archivalAgrees_upgrade {now : Timestamp} {legacy : LegacyDatabase} {db : Database}
    (hlegacy : legacy.Constraints) (hexpired : NoneExpired now legacy)
    (hupgrade : upgrade now legacy = .ok db) : ArchivalAgrees db := by
  rw [upgrade_ok hupgrade]
  constructor
  · intro r hr hactive
    obtain ⟨m, hm, h⟩ := upgraded_of_mem hr
    rw [h.id, memoryColumns_upgraded hlegacy.memoryIds hm, (upgradedMemory_keeps now m).2,
      Option.some.injEq] at hactive
    rw [h.archivedAt, retiredAt_eq_none]
    exact hexpired m hm hactive
  · intro r hr hactive
    obtain ⟨c, hc, hid, hisActive⟩ := character_of_mem_upgraded hr
    rw [hid, characterColumns_upgraded hlegacy.characterIds hc] at hactive
    rw [hisActive]
    exact (projectCharacter_keeps legacy.versions c).2 hactive

/-! ## One operation -/

section Steps

variable {db : Database} {userId : UUID} {store' : Store}

private theorem createMemory_store {request : MemoryCreateRequest} {id : UUID} {now : Timestamp}
    {m : Memory} (h : createMemory db.store userId request id now = .ok (m, store')) :
    store'.memories = db.store.memories ++ [m] ∧ m.archivedAt = none ∧
      store'.characters = db.store.characters := by
  obtain ⟨_, -, h⟩ := bind_eq_ok h
  obtain ⟨_, -, h⟩ := bind_eq_ok h
  obtain ⟨_, -, h⟩ := bind_eq_ok h
  obtain ⟨_, -, h⟩ := bind_eq_ok h
  obtain ⟨rows, hadd, h⟩ := bind_eq_ok h
  obtain ⟨-, rfl⟩ := addRow_eq_ok.mp hadd
  cases h
  exact ⟨rfl, rfl, rfl⟩

private theorem createCharacter_store {request : CharacterCreateRequest} {id : UUID} {c : Character}
    (h : createCharacter db.store userId request id = .ok (c, store')) :
    store'.characters = db.store.characters ++ [c] ∧ c.isActive = true ∧
      store'.memories = db.store.memories := by
  obtain ⟨rows, hadd, h⟩ := bind_eq_ok h
  obtain ⟨-, rfl⟩ := addRow_eq_ok.mp hadd
  cases h
  exact ⟨rfl, rfl, rfl⟩

theorem ArchivalAgrees.updateCharacters (h : ArchivalAgrees db) {characterId : UUID}
    {change : Character → Character} (hkey : ∀ c, (change c).id = c.id)
    (hchange : (db.characterColumns characterId).archivedAt = none →
      ∀ c, c.isActive = true → (change c).isActive = true) :
    ArchivalAgrees { db with
      store := { db.store with
        characters := updateCharacterRow characterId change db.store.characters } } := by
  refine ⟨h.memories, ?_⟩
  intro c hc hactive
  rcases mem_updateWhere.mp hc with ⟨old, hold, hid, rfl⟩ | ⟨hold, -⟩
  · rw [beq_iff_eq] at hid
    rw [hkey, hid] at hactive
    refine hchange hactive old (h.characters old hold ?_)
    rw [hid]
    exact hactive
  · exact h.characters c hold hactive

theorem ArchivalAgrees.createMemory (h : ArchivalAgrees db) {request : MemoryCreateRequest}
    {id : UUID} {now : Timestamp} {m : Memory}
    (hcreate : createMemory db.store userId request id now = .ok (m, store')) :
    ArchivalAgrees { db with store := store' } := by
  obtain ⟨hmemories, hnew, hcharacters⟩ := createMemory_store hcreate
  constructor
  · intro r hr hactive
    rw [hmemories] at hr
    rcases List.mem_append.mp hr with hold | hadded
    · exact h.memories r hold hactive
    · rw [List.mem_singleton.mp hadded]
      exact hnew
  · intro c hc hactive
    rw [hcharacters] at hc
    exact h.characters c hc hactive

theorem ArchivalAgrees.createCharacter (h : ArchivalAgrees db) {request : CharacterCreateRequest}
    {id : UUID} {c : Character}
    (hcreate : createCharacter db.store userId request id = .ok (c, store')) :
    ArchivalAgrees { db with store := store' } := by
  obtain ⟨hcharacters, hnew, hmemories⟩ := createCharacter_store hcreate
  constructor
  · intro m hm hactive
    rw [hmemories] at hm
    exact h.memories m hm hactive
  · intro r hr hactive
    rw [hcharacters] at hr
    rcases List.mem_append.mp hr with hold | hadded
    · exact h.characters r hold hactive
    · rw [List.mem_singleton.mp hadded]
      exact hnew

theorem ArchivalAgrees.archiveMemory (h : ArchivalAgrees db) {memoryId : UUID} {now : Timestamp}
    (hok : ArchivesNoLegacyActive db (userId, .archiveMemory memoryId now))
    (harchive : archiveMemory db.store userId memoryId now = .ok store') :
    ArchivalAgrees { db with store := store' } := by
  unfold Services.archiveMemory at harchive
  split at harchive
  · cases harchive
  · rename_i found hfound
    cases harchive
    refine ⟨?_, h.characters⟩
    intro m hm hactive
    rcases mem_updateWhere.mp hm with ⟨old, -, hid, rfl⟩ | ⟨hold, -⟩
    · rw [beq_iff_eq] at hid
      rw [hid] at hactive
      exact absurd hactive (hok found hfound)
    · exact h.memories m hold hactive

theorem ArchivalAgrees.archiveCharacter (h : ArchivalAgrees db) {characterId : UUID}
    (hok : ArchivesNoLegacyActive db (userId, .archiveCharacter characterId))
    (harchive : archiveCharacter db.store userId characterId = .ok store') :
    ArchivalAgrees { db with store := store' } := by
  unfold Services.archiveCharacter at harchive
  split at harchive
  · cases harchive
  · rename_i found hfound
    cases harchive
    refine h.updateCharacters (fun _ => rfl) ?_
    intro hactive
    exact absurd hactive (hok found hfound)

theorem ArchivalAgrees.updateCharacter (h : ArchivalAgrees db) {characterId : UUID}
    {request : CharacterUpdateRequest} {c : Character}
    (hok : ArchivesNoLegacyActive db (userId, .updateCharacter characterId request))
    (hupdate : updateCharacter db.store userId characterId request = .ok (c, store')) :
    ArchivalAgrees { db with store := store' } := by
  unfold Services.updateCharacter at hupdate
  split at hupdate
  · cases hupdate
  · rename_i found hfound
    split at hupdate
    · cases hupdate
    · cases hupdate
      refine h.updateCharacters (fun _ => rfl) ?_
      intro hactive old hold
      -- only a request that sets `is_active` to false could switch the row off
      have hrequest : request.isActive ≠ some (some false) := fun hoff =>
        absurd hactive (hok hoff found hfound)
      simp only [applyCharacterUpdate]
      rcases hisActive : request.isActive with _ | _ | _ | _
      · simpa using hold
      · simpa using hold
      · exact absurd hisActive hrequest
      · rfl

theorem ArchivalAgrees.step {request : UUID × RevisedAction} {db' : Database}
    (h : ArchivalAgrees db) (hok : ArchivesNoLegacyActive db request)
    (hstep : revisedStep db request = some db') : ArchivalAgrees db' := by
  obtain ⟨userId, action⟩ := request
  unfold revisedStep at hstep
  split at hstep
  · rename_i store' hrun
    cases hstep
    cases action with
    | createMemory request id now => exact h.createMemory (snd_map_eq_ok hrun).choose_spec
    | archiveMemory memoryId now => exact h.archiveMemory hok hrun
    | createCharacter request id => exact h.createCharacter (snd_map_eq_ok hrun).choose_spec
    | updateCharacter characterId request =>
        exact h.updateCharacter hok (snd_map_eq_ok hrun).choose_spec
    | archiveCharacter characterId => exact h.archiveCharacter hok hrun
  · cases hstep
    exact h

end Steps

/--
When no memory had expired at the upgrade and nothing is archived that the legacy
columns call active, no downgrade resurrects anything.
-/
theorem downgrade_never_resurrects (py : PyRuntime) (versionIds : UUID → UUID) (now : Timestamp)
    (legacy : LegacyDatabase) (hlegacy : legacy.Constraints) (hexpired : NoneExpired now legacy)
    (upgraded : Database) (hupgrade : upgrade now legacy = .ok upgraded)
    (requests : List (UUID × RevisedAction))
    (hrequests : AllSteps ArchivesNoLegacyActive revisedStep upgraded requests)
    (db : Database) (hrun : exec revisedStep upgraded requests = some db)
    (restored : LegacyDatabase) (hdowngrade : downgrade py versionIds db = .ok restored) :
    NeverResurrects db restored := by
  have hstep : ∀ s request t, ArchivalAgrees s → ArchivesNoLegacyActive s request →
      revisedStep s request = some t → ArchivalAgrees t := by
    intro s request t hs hok hst
    exact hs.step hok hst
  have hagrees :=
    exec_invariant hstep (archivalAgrees_upgrade hlegacy hexpired hupgrade) hrequests hrun
  exact (downgrade_neverResurrects_iff hdowngrade).mpr hagrees

def legacyRow (id : UUID) (status : MemoryRowStatus) : LegacyMemory where
  id := id
  userId := 1
  conversationId := none
  characterId := none
  personaId := none
  sourceMessageId := none
  supersededById := none
  scope := .user
  kind := .preference
  status := status
  normalizedKey := "tea"
  content := "prefers tea"
  importance := 1 / 2
  confidence := 1
  lastAccessedAt := none
  accessCount := 0
  expiresAt := none
  metadata := []
  updatedAt := 5

def legacyArchive : LegacyDatabase where
  characters := [⟨40, 1, 1, none, some 3, []⟩]
  versions := [⟨50, 40, 1, "Mira", none, none, none, none, none⟩]
  memories := [legacyRow 1 .active, legacyRow 2 .superseded]

theorem legacyArchive_constraints : legacyArchive.Constraints := by
  constructor <;> decide +kernel

private theorem legacyArchive_noneExpired : NoneExpired 100 legacyArchive := by
  intro m hm hactive
  simp only [legacyArchive, List.mem_cons, List.not_mem_nil, or_false] at hm
  rcases hm with rfl | rfl
  · simp [Retired, legacyRow]
  · cases hactive

theorem upgrade_legacyArchive :
    upgrade 100 legacyArchive = .ok (upgradedDatabase 100 legacyArchive) := by
  rw [upgrade_eq, if_pos (by decide +kernel)]

def archiveRequests : List (UUID × RevisedAction) :=
  [(1, .createMemory { scope := .user, content := "likes rain" } 3 200),
    (1, .archiveMemory 3 300), (1, .archiveCharacter 40)]

private theorem archiveRequests_steps :
    AllSteps ArchivesNoLegacyActive revisedStep (upgradedDatabase 100 legacyArchive)
      archiveRequests := by
  let columns (db : Database) : Prop :=
    db.memoryColumns = (upgradedDatabase 100 legacyArchive).memoryColumns ∧
      db.characterColumns = (upgradedDatabase 100 legacyArchive).characterColumns
  have hkeep : ∀ s request t, columns s → revisedStep s request = some t → columns t := by
    intro s request t hs hstep
    obtain ⟨hmemory, hcharacter⟩ := revisedStep_columns hstep
    exact ⟨hmemory.trans hs.1, hcharacter.trans hs.2⟩
  have hnone : ((upgradedDatabase 100 legacyArchive).memoryColumns 3).status ≠ some .active := by
    decide +kernel
  have harchived :
      ((upgradedDatabase 100 legacyArchive).characterColumns 40).archivedAt ≠ none := by
    decide +kernel
  have hallowed : ∀ s request, columns s → request ∈ archiveRequests →
      ArchivesNoLegacyActive s request := by
    intro s request hs hrequest
    simp only [archiveRequests, List.mem_cons, List.not_mem_nil, or_false] at hrequest
    rcases hrequest with rfl | rfl | rfl
    · trivial
    · intro m _
      rw [hs.1]
      exact hnone
    · intro c _
      rw [hs.2]
      exact harchived
  exact AllSteps.of_invariant hkeep hallowed ⟨rfl, rfl⟩ (AllSteps.of_forall (fun _ h _ => h) _)

def restoredStatuses (db : Option Database) : Option (List (UUID × MemoryRowStatus)) :=
  db.bind fun db => (downgrade .ascii (· + 1000) db).toOption.map fun legacy =>
    legacy.memories.map fun m => (m.id, m.status)

theorem restored_of_statuses {db : Option Database} {statuses : List (UUID × MemoryRowStatus)}
    (h : restoredStatuses db = some statuses) :
    ∃ s legacy, db = some s ∧ downgrade .ascii (· + 1000) s = .ok legacy ∧
      legacy.memories.map (fun m => (m.id, m.status)) = statuses := by
  obtain ⟨s, rfl, h⟩ := Option.bind_eq_some_iff.mp h
  obtain ⟨legacy, hlegacy, rfl⟩ := Option.map_eq_some_iff.mp h
  cases hdowngrade : downgrade .ascii (· + 1000) s with
  | error e =>
      rw [hdowngrade] at hlegacy
      cases hlegacy
  | ok restored =>
      rw [hdowngrade] at hlegacy
      cases hlegacy
      exact ⟨s, _, rfl, hdowngrade, rfl⟩

theorem downgrade_never_resurrects_archived :
    ∃ upgraded db restored, upgrade 100 legacyArchive = .ok upgraded ∧
      exec revisedStep upgraded archiveRequests = some db ∧
      downgrade .ascii (· + 1000) db = .ok restored ∧
      restored.memories.map (fun m => (m.id, m.status)) =
        [(1, .active), (2, .superseded), (3, .archived)] ∧
      NeverResurrects db restored := by
  have hstatuses : restoredStatuses
      (exec revisedStep (upgradedDatabase 100 legacyArchive) archiveRequests) =
        some [(1, .active), (2, .superseded), (3, .archived)] := by
    decide +kernel
  obtain ⟨db, restored, hrun, hdowngrade, hrestored⟩ := restored_of_statuses hstatuses
  refine ⟨_, db, restored, upgrade_legacyArchive, hrun, hdowngrade, hrestored, ?_⟩
  exact downgrade_never_resurrects .ascii (· + 1000) 100 legacyArchive legacyArchive_constraints
    legacyArchive_noneExpired _ upgrade_legacyArchive archiveRequests archiveRequests_steps db hrun
    restored hdowngrade

/-- The memory that `MemoryService.archive` archived is active again. -/
theorem archived_memory_comes_back :
    legacyArchive.Constraints ∧
      ∃ upgraded db restored, upgrade 100 legacyArchive = .ok upgraded ∧
        exec revisedStep upgraded [(1, .archiveMemory 1 200)] = some db ∧
        downgrade .ascii (· + 1000) db = .ok restored ∧ ¬ NeverResurrects db restored := by
  have hstatuses : restoredStatuses
      (exec revisedStep (upgradedDatabase 100 legacyArchive) [(1, .archiveMemory 1 200)]) =
        some [(1, .active), (2, .superseded)] := by
    decide +kernel
  obtain ⟨db, restored, hrun, hdowngrade, -⟩ := restored_of_statuses hstatuses
  refine ⟨legacyArchive_constraints, _, db, restored, upgrade_legacyArchive, hrun, hdowngrade, ?_⟩
  rw [downgrade_neverResurrects_iff hdowngrade]
  intro hagrees
  have harchived :
      (exec revisedStep (upgradedDatabase 100 legacyArchive) [(1, .archiveMemory 1 200)]).map
        (fun db => db.store.memories.map fun m =>
          (m.id, (db.memoryColumns m.id).status, m.archivedAt)) =
        some [(1, some .active, some 200), (2, some .superseded, some 5)] := by
    decide +kernel
  rw [hrun, Option.map_some, Option.some.injEq] at harchived
  obtain ⟨m, rest, hmemories, hm, -⟩ := List.map_eq_cons_iff.mp harchived
  simp only [Prod.mk.injEq] at hm
  have hnone := hagrees.memories m (hmemories ▸ List.mem_cons_self) hm.2.1
  rw [hm.2.2] at hnone
  cases hnone

end Astra.Migration
