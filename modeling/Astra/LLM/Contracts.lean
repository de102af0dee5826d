import Astra.Platform.Errors

/-!
# Provider-independent LLM contracts

`llm/contracts`: the messages, requests, responses and stream chunks that pass
between the chat services, the agent runtime and the providers.
-/

namespace Astra.LLM

open Astra.Platform

inductive LLMMessageRole where
  | system
  | user
  | assistant
  | tool
  deriving DecidableEq, Repr

structure LLMToolDefinition where
  name : String
  description : String
  inputSchema : Dict

structure LLMToolCall where
  id : String
  name : String
  arguments : Dict := []

structure LLMMessage where
  role : LLMMessageRole
  content : String
  name : Option String := none
  toolCallId : Option String := none
  toolCalls : List LLMToolCall := []
  metadata : Dict := []

structure LLMRequest where
  messages : List LLMMessage
  model : Option String := none
  temperature : Option Rat := none
  maxTokens : Option Nat := none
  tools : List LLMToolDefinition := []
  toolChoice : Option String := none
  metadata : Dict := []

structure LLMUsage where
  inputTokens : Option Nat := none
  outputTokens : Option Nat := none
  totalTokens : Option Nat := none

def tokenEntry (key : String) : Option Nat → Dict
  | none => []
  | some count => [(key, .int count)]

def LLMUsage.modelDump (usage : LLMUsage) : Dict :=
  tokenEntry "input_tokens" usage.inputTokens ++
    tokenEntry "output_tokens" usage.outputTokens ++
    tokenEntry "total_tokens" usage.totalTokens

structure LLMResponse where
  content : String
  model : String
  provider : String
  finishReason : Option String := none
  usage : Option LLMUsage := none
  providerResponseId : Option String := none
  toolCalls : List LLMToolCall := []
  metadata : Dict := []

structure LLMChunk where
  content : String
  model : String
  provider : String
  finishReason : Option String := none
  providerResponseId : Option String := none
  usage : Option LLMUsage := none
  metadata : Dict := []

end Astra.LLM
