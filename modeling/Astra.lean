import Astra.Agents.CallIds
import Astra.Agents.ChatService
import Astra.Agents.NativeCalls
import Astra.Agents.Recovery
import Astra.Auth.Credentials
import Astra.Auth.Registration
import Astra.Auth.Revocation
import Astra.Chat.Absorption
import Astra.Chat.Idempotency
import Astra.Chat.LanguageGuard
import Astra.Chat.Locks
import Astra.Chat.Recall
import Astra.Chat.Recency
import Astra.Chat.StartStream
import Astra.Chat.Truncation
import Astra.Client.Chunks
import Astra.Client.Delivery
import Astra.Client.FailedPages
import Astra.Client.History
import Astra.Client.SignedIn
import Astra.Client.TimelineOrder
import Astra.Client.TokenCell
import Astra.Knowledge.Coverage
import Astra.Knowledge.Progress
import Astra.Knowledge.Retrieval
import Astra.LLM.Ollama
import Astra.LLM.OpenAI
import Astra.Migration.Archival
import Astra.Migration.RoundTrip
import Astra.Migration.Scopes
import Astra.Prompts.TokenBudget
import Astra.Services.Defaults
import Astra.Services.Walks
import Astra.Tenancy.Archived
import Astra.Tenancy.Tenants
import Astra.Tenancy.Updates
