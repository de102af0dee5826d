import Astra.LLM.Contracts

/-!
# Provider resolution

`llm/registry.py`, `llm/factory.py` and `llm/resolver.py`.  Resolving a provider
constructs it, so a missing API key surfaces here, before any request is made.
-/

namespace Astra.LLM

open Astra.Platform

inductive LLMProviderName where
  | openai
  | ollama
  deriving DecidableEq, Repr

def LLMProviderName.value : LLMProviderName → String
  | .openai => "openai"
  | .ollama => "ollama"

def LLMProviderName.parse? (text : String) : Option LLMProviderName :=
  if text = "openai" then some .openai
  else if text = "ollama" then some .ollama
  else none

structure ProviderSettings where
  openaiApiKey : Option String
  openaiBaseUrl : Option String
  ollamaBaseUrl : String

structure ProviderClass where
  construct : ProviderSettings → Except Exn Unit

def openAIProvider (client : String → Option String → Except Exn Unit) : ProviderClass where
  construct settings :=
    match settings.openaiApiKey with
    | none =>
        .error (llmException "OPENAI_API_KEY is not configured." .llmNotConfigured 503)
    | some key =>
        if key = "" then
          .error (llmException "OPENAI_API_KEY is not configured." .llmNotConfigured 503)
        else client key settings.openaiBaseUrl

def ollamaProvider : ProviderClass where
  construct _ := .ok ()

structure ProviderRegistry where
  providers : List (LLMProviderName × ProviderClass)

def ProviderRegistry.get (registry : ProviderRegistry) (name : LLMProviderName) :
    Except Exn ProviderClass :=
  match registry.providers.find? fun entry => entry.1 == name with
  | none =>
      .error (llmException ("LLM provider '" ++ name.value ++ "' is not registered.")
        .llmProviderNotFound 502)
  | some entry => .ok entry.2

def buildDefaultRegistry (client : String → Option String → Except Exn Unit) :
    ProviderRegistry :=
  ⟨[(.openai, openAIProvider client), (.ollama, ollamaProvider)]⟩

/-- `LLMProviderResolver.resolve`, through `LLMFactory.get_provider`. -/
def resolveProvider (registry : ProviderRegistry) (settings : ProviderSettings)
    (providerName : String) : Except Exn Unit :=
  match LLMProviderName.parse? providerName with
  | none =>
      .error (llmException ("Unknown LLM provider '" ++ providerName ++ "'.")
        .llmProviderNotFound 502)
  | some name => do
      let providerClass ← registry.get name
      providerClass.construct settings

end Astra.LLM
