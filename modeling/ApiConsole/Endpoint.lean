import ApiConsole.Request

/-!
# Endpoints

The routes of the service. An endpoint has a key that never changes, a display name, a method, a
path in which braces mark the places to fill in, a description and a category. The catalog has all
endpoints in display order, with look-up by key and by route, and filtering by category and search
text. A search text matches an endpoint if it occurs, blanks at its ends and letter case apart, in
the name, the path or the description; the order of the catalog is kept.
-/
namespace ApiConsole

/-! ## Categories

The groups of endpoints, and the filter that lets one of them or all of them pass. Both are read
from their key with blanks around it and in any letter case. -/

inductive Category where
  | health
  | config
  | models
  | inference
  | vision
  | diffusion
  | contexts
  deriving DecidableEq, Repr

namespace Category

/-- All categories in display order. -/
def all : List Category := [health, config, models, inference, vision, diffusion, contexts]

def key : Category → String
  | health => "health"
  | config => "config"
  | models => "models"
  | inference => "inference"
  | vision => "vision"
  | diffusion => "diffusion"
  | contexts => "contexts"

/-- Reads a category from its key. -/
def parse (text : String) : Except Refusal Category :=
  let wanted := String.ofList (Text.lower (Text.trim text.toList))
  match all.find? (·.key == wanted) with
  | some c => .ok c
  | none => .error (.unknownCategory text)

theorem mem_all (c : Category) : c ∈ all := by cases c <;> decide

end Category

/-- Which categories pass. -/
inductive CategoryFilter where
  | all
  | only (category : Category)
  deriving DecidableEq, Repr

namespace CategoryFilter

def passes : CategoryFilter → Category → Bool
  | all, _ => true
  | only wanted, c => wanted == c

def key : CategoryFilter → String
  | all => "all"
  | only c => c.key

/-- Reads a filter: the word `all` or the key of a category. -/
def parse (text : String) : Except Refusal CategoryFilter :=
  if Text.equalIgnoringAsciiCase (Text.trim text.toList) "all".toList then .ok all
  else (Category.parse text).map only

end CategoryFilter

/-! ## Identities and descriptions -/

/-- The identity of an endpoint. -/
inductive EndpointId where
  | health
  | apiInfo
  | serverMetrics
  | configGet
  | configUpdate
  | configRecommendations
  | modelsList
  | openAiModels
  | modelLoad
  | modelSwitch
  | modelUnload
  | modelsScan
  | modelDelete
  | cacheStats
  | cacheClear
  | chatCompletions
  | messages
  | generate
  | generateBatch
  | visionGenerate
  | diffusionGenerate
  | diffusionVideo
  | imageFetch
  | contextsList
  | contextsStats
  | contextGet
  | contextIngest
  | contextQuery
  | contextPromote
  | contextDemote
  | contextDelete
  deriving DecidableEq, Repr

namespace EndpointId

/-- The key under which an endpoint is known. -/
def key : EndpointId → String
  | health => "health"
  | apiInfo => "api_info"
  | serverMetrics => "server_metrics"
  | configGet => "config_get"
  | configUpdate => "config_update"
  | configRecommendations => "config_recommendations"
  | modelsList => "models_list"
  | openAiModels => "openai_models"
  | modelLoad => "model_load"
  | modelSwitch => "model_switch"
  | modelUnload => "model_unload"
  | modelsScan => "models_scan"
  | modelDelete => "model_delete"
  | cacheStats => "cache_stats"
  | cacheClear => "cache_clear"
  | chatCompletions => "chat_completions"
  | messages => "messages"
  | generate => "generate"
  | generateBatch => "generate_batch"
  | visionGenerate => "vision_generate"
  | diffusionGenerate => "diffusion_generate"
  | diffusionVideo => "diffusion_video"
  | imageFetch => "image_fetch"
  | contextsList => "contexts_list"
  | contextsStats => "contexts_stats"
  | contextGet => "context_get"
  | contextIngest => "context_ingest"
  | contextQuery => "context_query"
  | contextPromote => "context_promote"
  | contextDemote => "context_demote"
  | contextDelete => "context_delete"

end EndpointId

structure Endpoint where
  id : EndpointId
  name : String
  method : Method
  path : String
  description : String
  category : Category
  deriving DecidableEq, Repr

/-- The description of each endpoint. -/
def EndpointId.endpoint : EndpointId → Endpoint
  | .health => ⟨.health, "Health Check", .get, "/health",
      "Server liveness and loaded model summary", .health⟩
  | .apiInfo => ⟨.apiInfo, "API Info", .get, "/api",
      "Service version and route index", .health⟩
  | .serverMetrics => ⟨.serverMetrics, "Server Metrics", .get, "/api/v1/server/metrics",
      "Request counters, latency and memory usage", .health⟩
  | .configGet => ⟨.configGet, "Get Config", .get, "/api/v1/config",
      "Current server, workspace and runtime configuration", .config⟩
  | .configUpdate => ⟨.configUpdate, "Update Config", .post, "/api/v1/config",
      "Update runtime configuration fields", .config⟩
  | .configRecommendations => ⟨.configRecommendations, "Config Recommendations", .get,
      "/api/v1/config/recommendations",
      "Suggested settings for the detected hardware", .config⟩
  | .modelsList => ⟨.modelsList, "List Models", .get, "/api/v1/models",
      "Models known to the server and their load state", .models⟩
  | .openAiModels => ⟨.openAiModels, "List Models (OpenAI)", .get, "/v1/models",
      "OpenAI-compatible model listing", .models⟩
  | .modelLoad => ⟨.modelLoad, "Load Model", .post, "/api/v1/models/load",
      "Load a GGUF model into the workspace", .models⟩
  | .modelSwitch => ⟨.modelSwitch, "Switch Model", .post, "/api/v1/models/switch",
      "Make a loaded model the active one", .models⟩
  | .modelUnload => ⟨.modelUnload, "Unload Model", .post, "/api/v1/models/unload",
      "Release a loaded model", .models⟩
  | .modelsScan => ⟨.modelsScan, "Scan Models Folder", .post, "/api/v1/models/scan",
      "Discover model files in a folder", .models⟩
  | .modelDelete => ⟨.modelDelete, "Delete Model", .delete, "/api/v1/models/\x7bmodel_id\x7d",
      "Unload and forget a model", .models⟩
  | .cacheStats => ⟨.cacheStats, "Cache Stats", .get, "/api/v1/models/cache/stats",
      "Tensor cache hit rates and sizes", .models⟩
  | .cacheClear => ⟨.cacheClear, "Clear Cache", .post, "/api/v1/models/cache/clear",
      "Drop all cached model tensors", .models⟩
  | .chatCompletions => ⟨.chatCompletions, "Chat Completions", .post, "/v1/chat/completions",
      "OpenAI-compatible chat completion", .inference⟩
  | .messages => ⟨.messages, "Messages", .post, "/v1/messages",
      "Anthropic-compatible messages API", .inference⟩
  | .generate => ⟨.generate, "Generate", .post, "/api/v1/generate",
      "Raw prompt text generation", .inference⟩
  | .generateBatch => ⟨.generateBatch, "Batch Generate", .post, "/api/v1/generate/batch",
      "Several conversations in one call", .inference⟩
  | .visionGenerate => ⟨.visionGenerate, "Vision Generate", .post, "/api/v1/vision/generate",
      "Answer a prompt about an image", .vision⟩
  | .diffusionGenerate => ⟨.diffusionGenerate, "Generate Image", .post,
      "/api/v1/diffusion/generate",
      "Text-to-image diffusion", .diffusion⟩
  | .diffusionVideo => ⟨.diffusionVideo, "Generate Video", .post, "/api/v1/diffusion/video",
      "Text-to-video diffusion", .diffusion⟩
  | .imageFetch => ⟨.imageFetch, "Fetch Image", .get, "/api/v1/images/\x7bfilename\x7d",
      "Download a generated image", .diffusion⟩
  | .contextsList => ⟨.contextsList, "List Contexts", .get, "/api/v1/contexts",
      "Ingested contexts and their tiers", .contexts⟩
  | .contextsStats => ⟨.contextsStats, "Context Stats", .get, "/api/v1/contexts/stats",
      "Context cache memory and hit statistics", .contexts⟩
  | .contextGet => ⟨.contextGet, "Get Context", .get, "/api/v1/contexts/\x7bcontext_id\x7d",
      "Details of one ingested context", .contexts⟩
  | .contextIngest => ⟨.contextIngest, "Ingest Context", .post, "/api/v1/contexts/ingest",
      "Precompute the KV cache for a document", .contexts⟩
  | .contextQuery => ⟨.contextQuery, "Query Context", .post,
      "/api/v1/contexts/\x7bcontext_id\x7d/query",
      "Ask a question against a cached context", .contexts⟩
  | .contextPromote => ⟨.contextPromote, "Promote Context", .post,
      "/api/v1/contexts/\x7bcontext_id\x7d/promote",
      "Move a context to a hotter tier", .contexts⟩
  | .contextDemote => ⟨.contextDemote, "Demote Context", .post,
      "/api/v1/contexts/\x7bcontext_id\x7d/demote",
      "Move a context to a colder tier", .contexts⟩
  | .contextDelete => ⟨.contextDelete, "Delete Context", .delete,
      "/api/v1/contexts/\x7bcontext_id\x7d",
      "Remove a cached context", .contexts⟩

@[simp] theorem EndpointId.id_endpoint (id : EndpointId) : id.endpoint.id = id := by
  cases id <;> rfl

/-! ## The catalog -/

namespace EndpointId

/-- All endpoints in display order. -/
def all : List EndpointId :=
  [.health, .apiInfo, .serverMetrics, .configGet, .configUpdate, .configRecommendations,
   .modelsList, .openAiModels, .modelLoad, .modelSwitch, .modelUnload, .modelsScan,
   .modelDelete, .cacheStats, .cacheClear, .chatCompletions, .messages, .generate,
   .generateBatch, .visionGenerate, .diffusionGenerate, .diffusionVideo, .imageFetch,
   .contextsList, .contextsStats, .contextGet, .contextIngest, .contextQuery, .contextPromote,
   .contextDemote, .contextDelete]

theorem mem_all (id : EndpointId) : id ∈ all := by cases id <;> decide

/-- Reads an endpoint from its key. -/
def parse (text : String) : Except Refusal EndpointId :=
  match all.find? (·.key == Text.trimmed text) with
  | some id => .ok id
  | none => .error (.unknownEndpoint text)

end EndpointId

/-- Whether a search text matches an endpoint; the blank text matches all. -/
def Endpoint.matchesSearch (e : Endpoint) (term : String) : Bool :=
  let wanted := Text.lower (Text.trim term.toList)
  wanted.isEmpty || [e.name, e.path, e.description].any fun field =>
    Text.occursIn wanted (Text.lower field.toList)

namespace Catalog

/-- The descriptions of all endpoints in display order. -/
def endpoints : List Endpoint := EndpointId.all.map EndpointId.endpoint

/-- The endpoints that pass a category filter and match a search text. -/
def filter (category : CategoryFilter) (search : String) : List Endpoint :=
  endpoints.filter fun e => category.passes e.category && e.matchesSearch search

/-- The number of endpoints of each category. -/
def counts : List (Category × Nat) :=
  Category.all.map fun c => (c, (endpoints.filter (·.category == c)).length)

/-- The endpoint with exactly this method and path. -/
def findRoute (method : Method) (path : String) : Option Endpoint :=
  endpoints.find? fun e => e.method == method && e.path == path

theorem mem_endpoints (id : EndpointId) : id.endpoint ∈ endpoints :=
  List.mem_map_of_mem (EndpointId.mem_all id)

end Catalog

end ApiConsole
