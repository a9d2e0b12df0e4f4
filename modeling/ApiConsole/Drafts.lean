import ApiConsole.Endpoint

/-!
# Drafts

The body texts that are being edited, one for each endpoint that was visited. A draft starts as the
template of its endpoint and is kept while other endpoints are active.
-/
namespace ApiConsole

/-! ## Templates

The body with which the draft of an endpoint starts. It depends on the endpoint and, where a model
is named, on the model hint, which goes into the `model` or `model_id` member as it is. Endpoints
that take no body have no template. -/

open Json

namespace Template

/-- The fraction nearest to `num / den`. -/
def fraction (num den : Nat) : Value :=
  .number (.real ((Decimal.Binary64.ofRatio false num den).getD (.zero false)))

/-- One message of a conversation, from the user. -/
def userMessage (content : String) : Value :=
  .ofMembers [("role", .string "user"), ("content", .string content)]

def greeting : Value := userMessage "Hello from SnapLLM."

end Template

open Template

/-- The members of the template body of an endpoint, `none` if it takes no body. -/
def EndpointId.templateMembers (hint : String) : EndpointId → Option (List (String × Value))
  | .health | .apiInfo | .serverMetrics | .configGet | .configRecommendations | .modelsList
  | .openAiModels | .cacheStats | .imageFetch | .contextsList | .contextsStats | .contextGet
  | .cacheClear | .modelDelete | .contextDelete => none
  | .configUpdate => some [
      ("default_models_path", .string "models"),
      ("max_models", .nat 4),
      ("default_ram_budget_mb", .nat 16384),
      ("default_strategy", .string "balanced")]
  | .modelLoad => some [
      ("model_id", .string hint),
      ("file_path", .string "models/model.gguf"),
      ("model_type", .string "auto"),
      ("cache_only", .bool false)]
  | .modelSwitch | .modelUnload => some [("model_id", .string hint)]
  | .modelsScan => some [("path", .string "models")]
  | .chatCompletions => some [
      ("model", .string hint),
      ("messages", .array [greeting]),
      ("max_tokens", .nat 256),
      ("temperature", fraction 7 10),
      ("stream", .bool false)]
  | .messages => some [
      ("model", .string hint),
      ("max_tokens", .nat 256),
      ("messages", .array [greeting])]
  | .generate => some [
      ("model", .string hint),
      ("prompt", .string "Write a haiku about fast model switching."),
      ("max_tokens", .nat 128),
      ("temperature", fraction 8 10)]
  | .generateBatch => some [
      ("model", .string hint),
      ("batch", .array [
        .array [userMessage "Summarize the benefits of KV cache reuse in one sentence."],
        .array [userMessage "Translate 'good morning' into French."]]),
      ("max_tokens", .nat 128)]
  | .visionGenerate => some [
      ("model", .string hint),
      ("prompt", .string "Describe this image."),
      ("image", .string "<base64-image-data>"),
      ("max_tokens", .nat 256)]
  | .diffusionGenerate => some [
      ("model", .string hint),
      ("prompt", .string "A lighthouse on a cliff at sunset, oil painting"),
      ("negative_prompt", .string ""),
      ("width", .nat 512),
      ("height", .nat 512),
      ("steps", .nat 20),
      ("cfg_scale", fraction 7 1),
      ("seed", .number (.int (-1)))]
  | .diffusionVideo => some [
      ("model", .string hint),
      ("prompt", .string "Waves rolling onto a beach"),
      ("num_frames", .nat 16),
      ("fps", .nat 8),
      ("width", .nat 512),
      ("height", .nat 512)]
  | .contextIngest => some [
      ("model_id", .string hint),
      ("name", .string "product-docs"),
      ("content", .string ("SnapLLM keeps several models resident and switches between them " ++
        "in milliseconds.")),
      ("ttl_seconds", .nat 86400),
      ("priority", .string "normal")]
  | .contextQuery => some [
      ("query", .string "How fast is model switching?"),
      ("max_tokens", .nat 256),
      ("temperature", fraction 7 10)]
  | .contextPromote => some [("tier", .string "hot")]
  | .contextDemote => some [("tier", .string "cold")]

/-- The template body of an endpoint, `none` if it takes no body. -/
def EndpointId.template (id : EndpointId) (hint : String) : Option Value :=
  (id.templateMembers hint).map .ofMembers

/-- The template body as draft text; empty if there is none. -/
def EndpointId.templateText (id : EndpointId) (hint : String) : String :=
  match id.template hint with
  | some v => v.pretty
  | none => ""

/-! ## The drafts of a session -/

structure Drafts where
  get? : EndpointId → Option String

namespace Drafts

/-- No drafts. -/
def empty : Drafts := ⟨fun _ => none⟩

/-- The drafts with a text put in for one endpoint. -/
def set (d : Drafts) (id : EndpointId) (text : String) : Drafts :=
  ⟨fun e => if e = id then some text else d.get? e⟩

/-- The drafts with the template put in for an endpoint that has no draft yet. -/
def seed (d : Drafts) (id : EndpointId) (hint : String) : Drafts :=
  if (d.get? id).isSome then d else d.set id (id.templateText hint)

/-- The drafts with the template put in for an endpoint, whatever was there. -/
def reset (d : Drafts) (id : EndpointId) (hint : String) : Drafts :=
  d.set id (id.templateText hint)

/-- The text of an endpoint; empty if it has no draft. -/
def text (d : Drafts) (id : EndpointId) : String := (d.get? id).getD ""

/-- The number of endpoints that have a draft. -/
def size (d : Drafts) : Nat := (EndpointId.all.filter fun id => (d.get? id).isSome).length

@[simp] theorem get?_empty (id : EndpointId) : empty.get? id = none := rfl

@[simp] theorem get?_set_self (d : Drafts) (id : EndpointId) (text : String) :
    (d.set id text).get? id = some text := by simp [set]

theorem get?_set_of_ne (d : Drafts) {id e : EndpointId} (h : e ≠ id) (text : String) :
    (d.set id text).get? e = d.get? e := by simp [set, h]

theorem get?_seed_of_some {d : Drafts} {id : EndpointId} {text : String}
    (h : d.get? id = some text) (hint : String) : d.seed id hint = d := by simp [seed, h]

theorem get?_seed_of_none {d : Drafts} {id : EndpointId} (h : d.get? id = none) (hint : String) :
    (d.seed id hint).get? id = some (id.templateText hint) := by simp [seed, h]

end Drafts

end ApiConsole
