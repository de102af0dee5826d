import Astra.Persistence.Queries
import Astra.Platform.Config

/-!
# Character and persona services

`CharacterService` and `PersonaService`.  A field of an update request is `none`
when it is not in `model_fields_set`; a null for a `NOT NULL` column fails at the
flush.
-/

namespace Astra.Services

open Astra.Foundation Astra.Platform Astra.Persistence

def notNullViolation : Exn :=
  .other "IntegrityError" "null value in column violates not-null constraint"

/-! ## Characters -/

structure CharacterCreateRequest where
  name : String
  tagline : Option String := none
  description : Option String := none
  personality : Option String := none
  scenario : Option String := none
  systemPrompt : Option String := none
  greeting : Option String := none
  avatarUrl : Option String := none
  metadata : Dict := []

structure CharacterUpdateRequest where
  name : Option (Option String) := none
  tagline : Option (Option String) := none
  description : Option (Option String) := none
  personality : Option (Option String) := none
  scenario : Option (Option String) := none
  systemPrompt : Option (Option String) := none
  greeting : Option (Option String) := none
  avatarUrl : Option (Option String) := none
  isActive : Option (Option Bool) := none
  metadata : Option (Option Dict) := none

def characterNotFound : Exn := notFoundException "Character was not found." .characterNotFound

def createCharacter (store : Store) (userId : UUID) (request : CharacterCreateRequest)
    (id : UUID) : Except Exn (Character × Store) := do
  let character : Character :=
    { id := id
      userId := userId
      name := request.name
      tagline := request.tagline
      description := request.description
      personality := request.personality
      scenario := request.scenario
      systemPrompt := request.systemPrompt
      greeting := request.greeting
      avatarUrl := request.avatarUrl
      isActive := true
      characterMetadata := request.metadata }
  let rows ← addRow Character.id character store.characters
  .ok (character, { store with characters := rows })

def applyCharacterUpdate (request : CharacterUpdateRequest) (c : Character) : Character :=
  { c with
    name := (request.name.getD (some c.name)).getD c.name
    tagline := request.tagline.getD c.tagline
    description := request.description.getD c.description
    personality := request.personality.getD c.personality
    scenario := request.scenario.getD c.scenario
    systemPrompt := request.systemPrompt.getD c.systemPrompt
    greeting := request.greeting.getD c.greeting
    avatarUrl := request.avatarUrl.getD c.avatarUrl
    isActive := (request.isActive.getD (some c.isActive)).getD c.isActive
    characterMetadata :=
      match request.metadata with
      | none => c.characterMetadata
      | some metadata => metadata.getD [] }

def updateCharacterRow (id : UUID) (change : Character → Character) (rows : List Character) :
    List Character :=
  updateWhere (fun c => c.id == id) change rows

def updateCharacter (store : Store) (userId characterId : UUID)
    (request : CharacterUpdateRequest) : Except Exn (Character × Store) :=
  match getOwnedCharacterAny store.characters characterId userId with
  | none => .error characterNotFound
  | some character =>
      if request.name = some none ∨ request.isActive = some none then .error notNullViolation
      else
        .ok (applyCharacterUpdate request character,
          { store with
            characters :=
              updateCharacterRow characterId (applyCharacterUpdate request) store.characters })

def archiveCharacter (store : Store) (userId characterId : UUID) : Except Exn Store :=
  match getOwnedCharacterAny store.characters characterId userId with
  | none => .error characterNotFound
  | some _ =>
      .ok
        { store with
          characters :=
            updateCharacterRow characterId (fun c => { c with isActive := false })
              store.characters }

/-! ## Personas -/

structure PersonaCreateRequest where
  name : String
  description : Option String := none
  instructions : Option String := none
  isDefault : Bool := false
  attributes : Dict := []

structure PersonaUpdateRequest where
  name : Option (Option String) := none
  description : Option (Option String) := none
  instructions : Option (Option String) := none
  isDefault : Option (Option Bool) := none
  attributes : Option (Option Dict) := none

def personaNotFound : Exn := notFoundException "Persona was not found." .personaNotFound

def clearDefault (userId : UUID) (exceptId : Option UUID) (rows : List Persona) : List Persona :=
  updateWhere (fun p => p.userId == userId && some p.id != exceptId)
    (fun p => { p with isDefault := false }) rows

def createPersona (store : Store) (userId : UUID) (request : PersonaCreateRequest)
    (id : UUID) : Except Exn (Persona × Store) := do
  let persona : Persona :=
    { id := id
      userId := userId
      name := request.name
      description := request.description
      instructions := request.instructions
      isDefault := request.isDefault
      personaAttributes := request.attributes }
  let cleared :=
    if request.isDefault then clearDefault userId none store.personas else store.personas
  let rows ← addRow Persona.id persona cleared
  .ok (persona, { store with personas := rows })

def applyPersonaUpdate (request : PersonaUpdateRequest) (p : Persona) : Persona :=
  { p with
    name := (request.name.getD (some p.name)).getD p.name
    description := request.description.getD p.description
    instructions := request.instructions.getD p.instructions
    isDefault := (request.isDefault.getD (some p.isDefault)).getD p.isDefault
    personaAttributes :=
      match request.attributes with
      | none => p.personaAttributes
      | some attributes => attributes.getD [] }

def updatePersona (store : Store) (userId personaId : UUID) (request : PersonaUpdateRequest) :
    Except Exn (Persona × Store) :=
  match getOwnedPersona store.personas personaId userId with
  | none => .error personaNotFound
  | some persona =>
      if request.name = some none ∨ request.isDefault = some none then .error notNullViolation
      else
        let cleared :=
          if request.isDefault = some (some true) then
            clearDefault userId (some personaId) store.personas
          else store.personas
        .ok (applyPersonaUpdate request persona,
          { store with
            personas :=
              updateWhere (fun p => p.id == personaId) (applyPersonaUpdate request) cleared })

/-- `PersonaService.delete`; the foreign key of the conversations is `ON DELETE SET NULL`. -/
def deletePersona (store : Store) (userId personaId : UUID) : Except Exn Store :=
  match getOwnedPersona store.personas personaId userId with
  | none => .error personaNotFound
  | some _ =>
      .ok
        { store with
          personas := store.personas.filter fun p => p.id != personaId
          conversations :=
            updateWhere (fun c => c.personaId == some personaId)
              (fun c => { c with personaId := none }) store.conversations }

end Astra.Services
