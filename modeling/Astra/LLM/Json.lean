import Astra.LLM.Contracts

/-!
# JSON at the provider edge

What the provider adapters use of Python's `json`, of dynamic values, and of the
validation of `LLMToolCall`.
-/

namespace Astra.LLM

open Astra.Platform

/-! ## The module -/

/--
`json.loads` and `json.dumps`.  Loading raises builtin exceptions; what has been loaded,
or holds one text, can be dumped.
-/
structure JsonModule where
  loads : String → Except Exn Json
  dumps : Json → Except Exn String
  loads_raises : ∀ text e, loads text = .error e → ∃ kind message, e = .other kind message
  loads_empty : loads "\x7b\x7d" = .ok (.obj [])
  dumps_loaded : ∀ text fields, loads text = .ok (.obj fields) →
    ∃ dumped, dumps (.obj fields) = .ok dumped
  dumps_text : ∀ key text, ∃ dumped, dumps (.obj [(key, .str text)]) = .ok dumped

def jsonDecodeError (message : String) : Exn := .other "JSONDecodeError" message

def isJsonDecodeError : Exn → Bool
  | .other kind _ => kind == "JSONDecodeError"
  | _ => false

/-! ## Dynamic values -/

def attributeError (message : String) : Exn := .other "AttributeError" message

def typeName : Json → String
  | .null => "NoneType"
  | .bool _ => "bool"
  | .int _ => "int"
  | .float _ => "float"
  | .str _ => "str"
  | .arr _ => "list"
  | .obj _ => "dict"

def getKey (value : Json) (key : String) : Except Exn Json :=
  match value with
  | .obj fields => .ok ((Dict.get? fields key).getD .null)
  | value => .error (attributeError ("'" ++ typeName value ++ "' object has no attribute 'get'"))

def orValue (value default : Json) : Json := if value.truthy then value else default

def orText (value : Option String) (default : String) : String :=
  match value with
  | none => default
  | some text => if text = "" then default else text

/-! ## Tool calls -/

def validationError (model : String) : Exn :=
  .other "ValidationError" ("1 validation error for " ++ model)

def LLMToolCall.validate (id name : String) : Json → Except Exn LLMToolCall
  | .obj fields => .ok { id := id, name := name, arguments := fields }
  | _ => .error (validationError "LLMToolCall")

theorem LLMToolCall.validate_eq_ok {id name : String} {arguments : Json} {call : LLMToolCall} :
    LLMToolCall.validate id name arguments = .ok call ↔
      ∃ fields, arguments = .obj fields ∧
        call = { id := id, name := name, arguments := fields } := by
  cases arguments <;> simp [LLMToolCall.validate, eq_comm]

/-! ## A module for evaluation -/

def entryText : String × Json → String
  | (key, .str value) => "\"" ++ key ++ "\": \"" ++ value ++ "\""
  | (key, _) => "\"" ++ key ++ "\": null"

def flatText : Json → String
  | .obj fields => "\x7b" ++ ", ".intercalate (fields.map entryText) ++ "\x7d"
  | _ => "null"

def JsonModule.table (entries : List (String × Json)) : JsonModule where
  loads text :=
    match Dict.get? (("\x7b\x7d", .obj []) :: entries) text with
    | none => .error (jsonDecodeError "Expecting value")
    | some value => .ok value
  dumps value := .ok (flatText value)
  loads_raises text e h := by
    split at h
    · cases h
      exact ⟨_, _, rfl⟩
    · cases h
  loads_empty := rfl
  dumps_loaded _ _ _ := ⟨_, rfl⟩
  dumps_text _ _ := ⟨_, rfl⟩

end Astra.LLM
