import Astra.Platform.Errors
import Mathlib.Data.Finset.Sort
import Mathlib.Data.String.Basic

/-!
# Tool contracts and the registry

`tools/contracts.py` and `tools/registry.py`.  A registry is known by the names in
its dictionary, in the order of registration; what a factory returns is an answer
of the environment, since a factory is any callable.
-/

namespace Astra.Tools

open Astra.Platform

structure ToolDefinition where
  name : String
  description : String
  inputSchema : Dict

structure Tool where
  definition : ToolDefinition

structure ToolContext where
  userId : UUID
  conversationId : Option UUID := none
  allowedTools : Option (Finset String) := none

structure ToolExecutionResult where
  toolName : String
  content : String
  data : Dict := []

structure ToolRegistry where
  names : List String := []
  nodup : names.Nodup := by decide

def ToolRegistry.register (registry : ToolRegistry) (name : String) : Except Exn ToolRegistry :=
  if h : name ∈ registry.names then
    .error (valueError ("Tool '" ++ name ++ "' is already registered."))
  else .ok ⟨registry.names ++ [name], registry.nodup.append (by simp) (by simpa using h)⟩

def getToolRegistry : Except Exn ToolRegistry := do
  let registry ← ToolRegistry.register {} "search_knowledge"
  registry.register "search_conversation"

example : getToolRegistry.map ToolRegistry.names =
    .ok ["search_knowledge", "search_conversation"] := rfl

def sorted (names : Finset String) : List String := names.sort

end Astra.Tools
