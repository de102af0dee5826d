import Astra.Migration.Downgrade

/-!
# Upgrade and downgrade

`upgrade()` followed at once by `downgrade()`.  The rows of the upgraded tables are the
legacy rows after the statements of the upgrade; the downgrade reads neither
`legacy_scope` nor `legacy_kind`, so that a value that the upgrade has replaced does not
come back.  Rows that differ in a merged scope alone stop the upgrade itself.
-/

namespace Astra.Migration

open Astra.Foundation Astra.Platform Astra.Persistence

structure SameTerms (m restored : LegacyMemory) : Prop where
  id : restored.id = m.id
  scope : restored.scope = m.scope
  kind : restored.kind = m.kind
  status : restored.status = m.status

/-- The two migrations succeed under all constraints, and give back every memory. -/
def GivesBack (legacy : LegacyDatabase) (result : Except Exn LegacyDatabase) : Prop :=
  ∃ restored, result = .ok restored ∧ restored.Constraints ∧
    List.Forall₂ SameTerms legacy.memories restored.memories

/-- The revised enumerations have the scope and the kind of the memory. -/
def InBothVocabularies (m : LegacyMemory) : Prop :=
  m.scope.memoryScope?.isSome = true ∧ m.kind.memoryKind?.isSome = true

instance (m : LegacyMemory) : Decidable (InBothVocabularies m) :=
  inferInstanceAs (Decidable (_ ∧ _))

/-! ## The rows between the two migrations -/

section Rows

variable {now : Timestamp} {legacy : LegacyDatabase} {m : LegacyMemory}

theorem rejoin {row model columns : Type} {id : row → UUID} {read : row → Option model}
    {modelId : model → UUID} {join : columns → model → row} {legacyColumns : row → columns}
    {lookup : UUID → columns} {rows : List row} (hread : ∀ r ∈ rows, ∃ x, read r = some x ∧
      modelId x = id r ∧ join (legacyColumns r) x = r)
    (hlookup : ∀ r ∈ rows, lookup (id r) = legacyColumns r) :
    (rows.filterMap read).map (fun x => join (lookup (modelId x)) x) = rows := by
  rw [List.map_filterMap]
  have hself : ∀ r ∈ rows, (read r).map (fun x => join (lookup (modelId x)) x) = some r := by
    intro r hr
    obtain ⟨x, hx, hid, hjoin⟩ := hread r hr
    rw [hx, Option.map_some, hid, hlookup r hr, hjoin]
  rw [List.filterMap_congr hself, List.filterMap_some]

private theorem scopeValue_of_memoryScope? {value : ScopeValue} {scope : MemoryScope}
    (h : value.memoryScope? = some scope) : scopeValue scope = value := by
  cases value <;> cases h <;> rfl

private theorem kindValue_of_memoryKind? {value : KindValue} {kind : MemoryKind}
    (h : value.memoryKind? = some kind) : kindValue kind = value := by
  cases value <;> cases h <;> rfl

private theorem memoryRow_of_memory? {row : MemoryRow} {r : Memory} (h : row.memory? = some r) :
    r.id = row.id ∧ memoryRow row.toLegacyMemoryColumns r = row := by
  unfold MemoryRow.memory? at h
  split at h
  · rename_i scope kind hscope hkind
    cases h
    refine ⟨rfl, ?_⟩
    simp only [memoryRow, scopeValue_of_memoryScope? hscope, kindValue_of_memoryKind? hkind]
  · cases h

theorem memoryRows_upgraded (hids : (legacy.memories.map LegacyMemory.id).Nodup) :
    (upgradedDatabase now legacy).memoryRows = legacy.memories.map (upgradedMemory now) := by
  have hread : ∀ row ∈ legacy.memories.map (upgradedMemory now), ∃ r, row.memory? = some r ∧
      r.id = row.id ∧ memoryRow row.toLegacyMemoryColumns r = row := by
    intro row hrow
    obtain ⟨m, -, rfl⟩ := List.mem_map.mp hrow
    obtain ⟨r, hread, -⟩ := upgraded_memory? now m
    exact ⟨r, hread, memoryRow_of_memory? hread⟩
  have hcolumns : ∀ row ∈ legacy.memories.map (upgradedMemory now),
      (upgradedDatabase now legacy).memoryColumns row.id = row.toLegacyMemoryColumns := by
    intro row hrow
    obtain ⟨m, hm, rfl⟩ := List.mem_map.mp hrow
    rw [(upgradedMemory_keeps now m).1]
    exact memoryColumns_upgraded hids hm
  exact rejoin hread hcolumns

private theorem projectCharacter_name (versions : List CharacterVersion) (c : LegacyCharacter) :
    ∃ name, (projectCharacter versions c).name = some name := by
  unfold projectCharacter defaultName
  split
  · exact ⟨_, rfl⟩
  · rename_i hnamed
    cases hname : (projectVersion versions c.widen).name with
    | none => simp [lacksName, hname] at hnamed
    | some name => exact ⟨name, rfl⟩

theorem characterRows_upgraded (hids : (legacy.characters.map LegacyCharacter.id).Nodup) :
    (upgradedDatabase now legacy).characterRows =
      legacy.characters.map (projectCharacter legacy.versions) := by
  have hread : ∀ row ∈ legacy.characters.map (projectCharacter legacy.versions),
      ∃ r, row.character? = some r ∧ r.id = row.id ∧
        characterRow row.toLegacyCharacterColumns r = row := by
    intro row hrow
    obtain ⟨c, -, rfl⟩ := List.mem_map.mp hrow
    obtain ⟨name, hname⟩ := projectCharacter_name legacy.versions c
    refine ⟨_, by rw [CharacterRow.character?, hname, Option.map_some], rfl, ?_⟩
    simp only [characterRow, ← hname]
  have hcolumns : ∀ row ∈ legacy.characters.map (projectCharacter legacy.versions),
      (upgradedDatabase now legacy).characterColumns row.id = row.toLegacyCharacterColumns := by
    intro row hrow
    obtain ⟨c, hc, rfl⟩ := List.mem_map.mp hrow
    rw [(projectCharacter_keeps legacy.versions c).1]
    exact characterColumns_upgraded hids hc
  exact rejoin hread hcolumns

end Rows

/-! ## Memories -/

def fallBack (py : PyRuntime) (row : MemoryRow) : MemoryRow :=
  let row := fillBookkeeping py row
  if hasRevisedKind row then mapRevisedKind row else row

section Memories

variable {py : PyRuntime} {now : Timestamp} {m restored : LegacyMemory}

theorem downgradeMemories_eq (rows : List MemoryRow) :
    downgradeMemories py rows =
      ((rows.map (fallBack py)).mapM narrowMemory >>= fun restored =>
        if ActiveIdentities restored then .ok restored else .error uniqueViolation) := by
  simp only [downgradeMemories, updateWhere, List.map_map]
  rfl

theorem fillBookkeeping_upgraded (now : Timestamp) (m : LegacyMemory) :
    fillBookkeeping py (upgradedMemory now m) = upgradedMemory now m := by
  obtain ⟨metadata, hrescope⟩ := rescope_eq m.widen
  obtain ⟨metadata', kind, memoryKind, hrekind, -⟩ := rekind_eq (rescope m.widen)
  rw [upgradedMemory, hrekind, hrescope]
  rfl

theorem rescope_kept (h : InBothVocabularies m) : rescope m.widen = m.widen := by
  have hscope : hasLegacyScope m.widen = false := by
    have hmember := h.1
    cases hvalue : m.scope <;>
      simp_all [hasLegacyScope, LegacyMemory.widen, ScopeValue.memoryScope?]
  simp only [rescope, hscope, Bool.false_eq_true, if_false]

private theorem narrowMemory_kept (h : InBothVocabularies m) (hkind : m.kind.isLegacy = true) :
    narrowMemory (fallBack py (upgradedMemory now m)) = .ok m := by
  have hkept : hasLegacyKind m.widen = false ∧ hasRevisedKind m.widen = false := by
    have hmember := h.2
    cases hvalue : m.kind <;>
      simp_all [hasLegacyKind, hasRevisedKind, LegacyMemory.widen, KindValue.memoryKind?,
        KindValue.isLegacy]
  have hrekind : rekind m.widen = m.widen := by
    simp only [rekind, hkept.1, Bool.false_eq_true, if_false]
  have hrow : upgradedMemory now m = { m.widen with archivedAt := retiredAt now m.widen } := by
    rw [upgradedMemory, rescope_kept h, hrekind]
    rfl
  have hsame : fallBack py (upgradedMemory now m) = upgradedMemory now m := by
    have hrevised : hasRevisedKind (upgradedMemory now m) = false := by
      rw [hrow]
      exact hkept.2
    simp only [fallBack, fillBookkeeping_upgraded, hrevised, Bool.false_eq_true, if_false]
  rw [hsame, hrow]
  simp only [narrowMemory, LegacyMemory.widen, hkind, if_true]

private theorem narrowMemory_terms {row : MemoryRow} (h : narrowMemory row = .ok restored) :
    restored.scope = row.scope ∧ restored.kind = row.kind := by
  unfold narrowMemory at h
  split at h
  · split at h
    · cases h
      exact ⟨rfl, rfl⟩
    · cases h
  · cases h

private theorem narrowMemory_inBoth
    (h : narrowMemory (fallBack py (upgradedMemory now m)) = .ok restored)
    (hsame : SameTerms m restored) : InBothVocabularies m := by
  obtain ⟨hscope, hkind⟩ := narrowMemory_terms h
  obtain ⟨metadata, hrescope⟩ := rescope_eq m.widen
  obtain ⟨metadata', kind, memoryKind, hrekind, hmember⟩ := rekind_eq (rescope m.widen)
  have hrow : (upgradedMemory now m).scope = revisedScope m.widen ∧
      (upgradedMemory now m).kind = kind := by
    rw [upgradedMemory, hrekind, hrescope]
    exact ⟨rfl, rfl⟩
  have hfallen : (fallBack py (upgradedMemory now m)).scope = revisedScope m.widen ∧
      ((fallBack py (upgradedMemory now m)).kind = .fact ∨
        (fallBack py (upgradedMemory now m)).kind = kind) := by
    simp only [fallBack, fillBookkeeping_upgraded]
    split
    · exact ⟨hrow.1, Or.inl rfl⟩
    · exact ⟨hrow.1, Or.inr hrow.2⟩
  constructor
  · obtain ⟨scope, hrevised⟩ := memoryScope?_revisedScope m.widen
    rw [← hsame.scope, hscope, hfallen.1, hrevised]
    rfl
  · rw [← hsame.kind, hkind]
    rcases hfallen.2 with hfact | hkept
    · rw [hfact]
      rfl
    · rw [hkept, hmember]
      rfl

end Memories

/-! ## Characters -/

section Characters

variable {versionIds : UUID → UUID}

private theorem narrowCharacter_projectCharacter (versions : List CharacterVersion)
    (c : LegacyCharacter) :
    narrowCharacter (projectCharacter versions c) = c := by
  have hproject : narrowCharacter (projectVersion versions c.widen) = c := by
    unfold projectVersion
    split
    · rfl
    · rfl
  unfold projectCharacter defaultName
  split
  · exact hproject
  · exact hproject

private theorem downgradeVersions_nodup {characters : List CharacterRow}
    {versions : List CharacterVersion}
    (hcharacters : (characters.map fun c => c.id).Nodup)
    (hversions : (versions.map fun cv => (cv.characterId, cv.version)).Nodup) :
    ((downgradeVersions versionIds characters versions).map
      fun cv => (cv.characterId, cv.version)).Nodup := by
  have hsync : ∀ cv,
      ((syncVersion characters cv).characterId, (syncVersion characters cv).version) =
      (cv.characterId, cv.version) := by
    intro cv
    unfold syncVersion
    split
    · rfl
    · rfl
  simp only [downgradeVersions, List.map_map, Function.comp_def, hsync, List.map_append]
  refine List.nodup_append.mpr ⟨hversions, ?_, ?_⟩
  · have hkept := (List.filter_sublist
      (p := fun c => !versions.any fun cv => cv.characterId == c.id)
      (l := characters)).map (fun c => c.id)
    have hids := (hkept.nodup hcharacters).map (f := fun id => (id, (1 : Int)))
      fun _ _ heq => (Prod.mk.inj heq).1
    rw [List.map_map] at hids
    exact hids
  · intro key hkey other hother
    rintro rfl
    obtain ⟨cv, hcv, rfl⟩ := List.mem_map.mp hkey
    obtain ⟨c, hc, heq⟩ := List.mem_map.mp hother
    have hnone := (List.mem_filter.mp hc).2
    rw [Bool.not_eq_true', List.any_eq_false] at hnone
    have hid : c.id = cv.characterId := (Prod.mk.inj heq).1
    exact hnone cv hcv (by rw [hid, beq_self_eq_true])

end Characters

/-! ## The round trip -/

section RoundTrip

variable {py : PyRuntime} {versionIds : UUID → UUID} {now : Timestamp} {legacy : LegacyDatabase}

private theorem upgrade_of_inBoth (hlegacy : legacy.Constraints)
    (hboth : ∀ m ∈ legacy.memories, InBothVocabularies m) :
    upgrade now legacy = .ok (upgradedDatabase now legacy) := by
  have hrows : (legacy.memories.map fun m => rescope m.widen) =
      legacy.memories.map LegacyMemory.widen :=
    List.map_congr_left fun m hm => rescope_kept (hboth m hm)
  have hactive : ActiveRows (legacy.memories.map LegacyMemory.widen) := by
    have hidentities := hlegacy.identities
    rw [ActiveIdentities] at hidentities
    rw [ActiveRows, List.filter_map, List.map_map]
    exact hidentities
  rw [upgrade_eq, hrows, if_pos hactive]

private theorem downgrade_upgrade (hlegacy : legacy.Constraints)
    (hboth : ∀ m ∈ legacy.memories, InBothVocabularies m) :
    (upgrade now legacy >>= downgrade py versionIds) = .ok
      { legacy with
        versions := downgradeVersions versionIds
          (legacy.characters.map (projectCharacter legacy.versions)) legacy.versions } := by
  have hmemories :
      downgradeMemories py (upgradedDatabase now legacy).memoryRows = .ok legacy.memories := by
    have hrows : ((legacy.memories.map (upgradedMemory now)).map (fallBack py)).mapM narrowMemory =
        .ok legacy.memories := by
      rw [mapM_eq_ok, List.map_map, List.forall₂_map_left_iff, List.forall₂_same]
      exact fun m hm => narrowMemory_kept (hboth m hm) (hlegacy.kinds m hm)
    rw [memoryRows_upgraded hlegacy.memoryIds, downgradeMemories_eq, hrows]
    exact if_pos hlegacy.identities
  have hcharacters :
      (upgradedDatabase now legacy).characterRows.map narrowCharacter = legacy.characters := by
    rw [characterRows_upgraded hlegacy.characterIds, List.map_map]
    conv_rhs => rw [← List.map_id legacy.characters]
    exact List.map_congr_left fun c _ => narrowCharacter_projectCharacter legacy.versions c
  have hdowngrade : downgrade py versionIds (upgradedDatabase now legacy) = .ok
      { legacy with
        versions := downgradeVersions versionIds
          (legacy.characters.map (projectCharacter legacy.versions)) legacy.versions } := by
    unfold downgrade
    rw [hmemories, hcharacters, characterRows_upgraded hlegacy.characterIds]
    rfl
  rw [upgrade_of_inBoth hlegacy hboth]
  exact hdowngrade

private theorem givesBack_of_inBoth (hlegacy : legacy.Constraints)
    (hboth : ∀ m ∈ legacy.memories, InBothVocabularies m) :
    GivesBack legacy (upgrade now legacy >>= downgrade py versionIds) := by
  refine ⟨_, downgrade_upgrade hlegacy hboth, ?_, ?_⟩
  · have hids : ((legacy.characters.map (projectCharacter legacy.versions)).map
        fun c => c.id).Nodup := by
      rw [List.map_map]
      simpa [Function.comp_def, projectCharacter_keeps] using hlegacy.characterIds
    exact { hlegacy with versions := downgradeVersions_nodup hids hlegacy.versions }
  · exact List.forall₂_same.mpr fun m _ => ⟨rfl, rfl, rfl, rfl⟩

private theorem forall_of_forall₂ {α β : Type} {R S : α → β → Prop} {P : α → Prop} {xs : List α}
    {ys : List β} (h : List.Forall₂ R xs ys) (h' : List.Forall₂ S xs ys)
    (himp : ∀ x y, R x y → S x y → P x) : ∀ x ∈ xs, P x := by
  induction h with
  | nil => simp
  | cons hxy _ ih =>
      cases h' with
      | cons hxy' hrest => exact List.forall_mem_cons.mpr ⟨himp _ _ hxy hxy', ih hrest⟩

theorem inBoth_of_givesBack (hlegacy : legacy.Constraints)
    (h : GivesBack legacy (upgrade now legacy >>= downgrade py versionIds)) :
    ∀ m ∈ legacy.memories, InBothVocabularies m := by
  obtain ⟨restored, hround, -, hsame⟩ := h
  obtain ⟨db, hupgrade, hdowngrade⟩ := bind_eq_ok hround
  rw [upgrade_ok hupgrade] at hdowngrade
  obtain ⟨memories, hmemories, hrestored⟩ := bind_eq_ok hdowngrade
  cases hrestored
  rw [memoryRows_upgraded hlegacy.memoryIds, downgradeMemories_eq] at hmemories
  obtain ⟨rows, hrows, hindex⟩ := bind_eq_ok hmemories
  split at hindex
  · cases hindex
    have hnarrowed := mapM_eq_ok.mp hrows
    rw [List.map_map, List.forall₂_map_left_iff] at hnarrowed
    exact forall_of_forall₂ hnarrowed hsame fun m r hnarrow hterms =>
      narrowMemory_inBoth hnarrow hterms
  · cases hindex

/--
An upgrade and a downgrade give back every memory under the constraints of the legacy
revision exactly when the revised enumerations have every scope and kind of the table.
-/
theorem round_trip_iff (py : PyRuntime) (versionIds : UUID → UUID) (now : Timestamp)
    (legacy : LegacyDatabase) (hlegacy : legacy.Constraints) :
    GivesBack legacy (upgrade now legacy >>= downgrade py versionIds) ↔
      ∀ m ∈ legacy.memories, InBothVocabularies m :=
  ⟨inBoth_of_givesBack hlegacy, givesBack_of_inBoth hlegacy⟩

end RoundTrip

def factRow (id : UUID) (scope : ScopeValue) (kind : KindValue) : LegacyMemory where
  id := id
  userId := 1
  conversationId := none
  characterId := none
  personaId := none
  sourceMessageId := none
  supersededById := none
  scope := scope
  kind := kind
  status := .active
  normalizedKey := "rain"
  content := "It rains."
  importance := 1 / 2
  confidence := 1
  lastAccessedAt := none
  accessCount := 0
  expiresAt := none
  metadata := []
  updatedAt := 5

def legacyFacts (memories : List LegacyMemory) : LegacyDatabase where
  characters := [⟨40, 1, 1, none, some 3, []⟩]
  memories := memories

theorem round_trip_iff_user :
    GivesBack (legacyFacts [factRow 1 .user .fact])
      (upgrade 100 (legacyFacts [factRow 1 .user .fact]) >>= downgrade .ascii (· + 1000)) := by
  have hlegacy : (legacyFacts [factRow 1 .user .fact]).Constraints := by
    constructor <;> decide +kernel
  exact (round_trip_iff .ascii (· + 1000) 100 _ hlegacy).mpr (by decide)

/--
Two active memories that differ in their scopes collide while the upgrade merges the
scopes; the event of a world comes back as a fact of the user.
-/
theorem world_memory_lost :
    (legacyFacts [factRow 1 .user .fact, factRow 2 .world .fact]).Constraints ∧
      upgrade 100 (legacyFacts [factRow 1 .user .fact, factRow 2 .world .fact]) =
        .error integrityError ∧
      ¬ GivesBack (legacyFacts [factRow 1 .user .fact, factRow 2 .world .fact])
        (upgrade 100 (legacyFacts [factRow 1 .user .fact, factRow 2 .world .fact]) >>=
          downgrade .ascii (· + 1000)) ∧
      (legacyFacts [factRow 2 .world .event]).Constraints ∧
      ((upgrade 100 (legacyFacts [factRow 2 .world .event]) >>=
          downgrade .ascii (· + 1000)).toOption.map fun restored =>
        restored.memories.map fun m => (m.id, m.scope, m.kind)) = some [(2, .user, .fact)] ∧
      ¬ GivesBack (legacyFacts [factRow 2 .world .event])
        (upgrade 100 (legacyFacts [factRow 2 .world .event]) >>=
          downgrade .ascii (· + 1000)) := by
  have hfails : upgrade 100 (legacyFacts [factRow 1 .user .fact, factRow 2 .world .fact]) =
      .error integrityError := by
    rw [upgrade_eq, if_neg (by decide +kernel)]
  have hfacts : (legacyFacts [factRow 1 .user .fact, factRow 2 .world .fact]).Constraints := by
    constructor <;> decide +kernel
  have hevent : (legacyFacts [factRow 2 .world .event]).Constraints := by
    constructor <;> decide +kernel
  refine ⟨hfacts, hfails, ?_, hevent, by decide +kernel, ?_⟩
  · rintro ⟨restored, hround, -⟩
    rw [hfails] at hround
    cases hround
  · intro hback
    have hboth := inBoth_of_givesBack hevent hback (factRow 2 .world .event) List.mem_cons_self
    exact absurd hboth (by decide)

end Astra.Migration
