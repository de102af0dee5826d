/-!
# Application settings

The fields of `core/config.py` that the modelled services read, with the bounds
that its validation enforces and the proofs use.
-/

namespace Astra.Platform

structure AppConfig where
  defaultLlmProvider : String
  defaultLlmModel : String
  chatContextMessageLimit : Nat
  chatMaxMessageLength : Nat
  chatDefaultTemperature : Rat
  chatDefaultMaxTokens : Nat
  platformSystemPrompt : String
  memoryContextLimit : Nat
  memoryMinImportance : Rat
  ragChunkSizeChars : Int
  ragChunkOverlapChars : Int
  chatContextMessageLimit_pos : 1 ≤ chatContextMessageLimit := by decide

end Astra.Platform
