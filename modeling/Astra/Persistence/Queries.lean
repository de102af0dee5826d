import Astra.Foundation.Table
import Astra.Persistence.Rows

/-!
# Owner-scoped lookups

The `get_owned` queries of the repositories.  A primary key selects at most one
row, so the first match is the result of `scalar_one_or_none()`.
-/

namespace Astra.Persistence

open Astra.Foundation Astra.Platform

def getOwnedConversation (rows : List Conversation) (conversationId userId : UUID) :
    Option Conversation :=
  rows.find? fun c => c.id == conversationId && c.userId == userId && c.archivedAt.isNone

def getOwnedCharacter (rows : List Character) (characterId userId : UUID) : Option Character :=
  rows.find? fun c => c.id == characterId && c.userId == userId && c.isActive

def getOwnedCharacterAny (rows : List Character) (characterId userId : UUID) : Option Character :=
  rows.find? fun c => c.id == characterId && c.userId == userId

def getOwnedPersona (rows : List Persona) (personaId userId : UUID) : Option Persona :=
  rows.find? fun p => p.id == personaId && p.userId == userId

def getOwnedMemory (rows : List Memory) (memoryId userId : UUID) : Option Memory :=
  rows.find? fun m => m.id == memoryId && m.userId == userId

def getSourceOwned (rows : List KnowledgeSource) (sourceId userId : UUID) :
    Option KnowledgeSource :=
  rows.find? fun s => s.id == sourceId && s.userId == userId

section Owned

variable {id userId : UUID}

theorem getOwnedConversation_mem {rows : List Conversation} {c : Conversation}
    (h : getOwnedConversation rows id userId = some c) :
    c ∈ rows ∧ c.id = id ∧ c.userId = userId := by
  have hmatch := List.find?_some h
  simp only [Bool.and_eq_true, beq_iff_eq] at hmatch
  exact ⟨List.mem_of_find?_eq_some h, hmatch.1⟩

theorem getOwnedConversation_owner {rows : List Conversation} {c row : Conversation}
    (hids : (rows.map Conversation.id).Nodup) (h : getOwnedConversation rows id userId = some c)
    (hrow : row ∈ rows) (hid : row.id = id) : row.userId = userId := by
  obtain ⟨hmem, hid', howner⟩ := getOwnedConversation_mem h
  rw [eq_of_key_eq hids hrow hmem (hid.trans hid'.symm)]
  exact howner

theorem getOwnedCharacterAny_mem {rows : List Character} {c : Character}
    (h : getOwnedCharacterAny rows id userId = some c) :
    c ∈ rows ∧ c.id = id ∧ c.userId = userId :=
  ⟨List.mem_of_find?_eq_some h, by simpa using List.find?_some h⟩

theorem getOwnedPersona_mem {rows : List Persona} {p : Persona}
    (h : getOwnedPersona rows id userId = some p) :
    p ∈ rows ∧ p.id = id ∧ p.userId = userId :=
  ⟨List.mem_of_find?_eq_some h, by simpa using List.find?_some h⟩

theorem getOwnedMemory_mem {rows : List Memory} {m : Memory}
    (h : getOwnedMemory rows id userId = some m) :
    m ∈ rows ∧ m.id = id ∧ m.userId = userId :=
  ⟨List.mem_of_find?_eq_some h, by simpa using List.find?_some h⟩

theorem getSourceOwned_mem {rows : List KnowledgeSource} {s : KnowledgeSource}
    (h : getSourceOwned rows id userId = some s) :
    s ∈ rows ∧ s.id = id ∧ s.userId = userId :=
  ⟨List.mem_of_find?_eq_some h, by simpa using List.find?_some h⟩

end Owned

def addRow {α : Type} (id : α → UUID) (row : α) (rows : List α) : Except Exn (List α) :=
  match insertRow id row rows with
  | none => .error integrityError
  | some rows => .ok rows

theorem addRow_eq_ok {α : Type} {id : α → UUID} {row : α} {rows rows' : List α} :
    addRow id row rows = .ok rows' ↔ id row ∉ rows.map id ∧ rows' = rows ++ [row] := by
  unfold addRow
  rw [← insertRow_eq_some]
  cases insertRow id row rows <;> simp

end Astra.Persistence
