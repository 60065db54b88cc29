import QdrantQwen.Bridge.Handler

/-!
# The embedding bridge (`localai_mcp_server.py`)

`LocalAIMCPServer` answers four methods, each with one call to `base_url`.  The two embedding
methods read `data.get('embeddings', [])`: a body without that key, such as FastAPI's
`{"detail": "Not Found"}` for a path the server does not have, is reported as zero embeddings
and no error.

* `LocalAIMCPServer.handleRequest`;
* `handleRequest_withStatus`      no method reads the status of a response.
-/

namespace QQ

/-- `LocalAIMCPServer`: the attribute `__init__` sets -/
structure LocalAIMCPServer where
  base_url : PyStr

namespace LocalAIMCPServer

/-- `LocalAIMCPServer()` -/
def init : LocalAIMCPServer := ⟨pyStr "http://localhost:8000"⟩

variable (self : LocalAIMCPServer) (backend : Backend) (now : PyStr)

/-- `health_check()` -/
def healthCheck : Json :=
  bridgeHandler "Health check" backend (.ok ⟨.GET, self.base_url ++ pyStr "/health", none⟩)
    fun data => pure (.obj [("status", .s "ok"), ("service", .s "localai_embedding_service"),
      ("endpoint", .str self.base_url), ("health_data", data), ("timestamp", .str now)])

/-- `len(embeddings[0].get('embedding', [])) if embeddings else 0` -/
def dimensionOf (embeddings : Json) : Except PyExc Nat := do
  if embeddings.truthy then (← (← embeddings.index0).get (pyStr "embedding") (.list [])).len
  else pure 0

/-- the call both embedding methods make for `texts` -/
def embeddingsReq (texts : Json) : HttpReq :=
  ⟨.POST, self.base_url ++ pyStr "/embeddings", some (.obj [("texts", texts)])⟩

/-- `generate_embeddings(texts)` -/
def generateEmbeddings (texts : Json) : Json :=
  bridgeHandler "Generate embeddings" backend (.ok (self.embeddingsReq texts)) fun data => do
    let embeddings ← data.get (pyStr "embeddings") (.list [])
    let count ← embeddings.len
    let dimension ← dimensionOf embeddings
    let model ← data.get (pyStr "model") (.s "unknown")
    pure (.obj [("embeddings", embeddings), ("count", .int count), ("dimension", .int dimension),
      ("model", model), ("timestamp", .str now)])

/-- `generate_single_embedding(text)` -/
def generateSingleEmbedding (text : Json) : Json :=
  bridgeHandler "Generate single embedding" backend (.ok (self.embeddingsReq (.list [text])))
    fun data => do
      let embeddings ← data.get (pyStr "embeddings") (.list [])
      let embedding ← if embeddings.truthy then
          (← embeddings.index0).get (pyStr "embedding") (.list [])
        else pure (.list [])
      let dimension ← dimensionOf embeddings
      let model ← data.get (pyStr "model") (.s "unknown")
      pure (.obj [("embedding", embedding), ("text", text), ("dimension", .int dimension),
        ("model", model), ("timestamp", .str now)])

/-- `get_models()` -/
def getModels : Json :=
  bridgeHandler "Get models" backend (.ok ⟨.GET, self.base_url ++ pyStr "/models", none⟩)
    fun data => do
      let models ← data.get (pyStr "models") (.list [])
      let current_model ← data.get (pyStr "current_model") (.s "unknown")
      pure (.obj [("models", models), ("current_model", current_model), ("status", .s "ok"),
        ("timestamp", .str now)])

/-- `handle_request(method, params)` -/
def handleRequest (method params : Json) : Json :=
  dispatch do
    if isMethod method "embedding_health" then pure (self.healthCheck backend now)
    else if isMethod method "embedding_generate" then do
      let texts ← params.get (pyStr "texts") (.list [])
      pure (self.generateEmbeddings backend now texts)
    else if isMethod method "embedding_generate_single" then do
      let text ← params.get (pyStr "text") (.s "")
      pure (self.generateSingleEmbedding backend now text)
    else if isMethod method "embedding_models" then pure (self.getModels backend now)
    else pure (unknownMethod method)

/-- every method reports an error when no call succeeds -/
theorem handleRequest_failed (method params : Json) (h : ∀ r, ∃ e, fetch backend r = .error e) :
    (self.handleRequest backend now method params).hasKey (pyStr "error") = true := by
  apply dispatch_hasKey
  intro result hres
  split_ifs at hres <;> (repeat obtain ⟨_, -, hres⟩ := bind_eq_ok hres) <;> cases hres <;>
    first | exact bridgeHandler_failed _ _ _ _ h | rfl

/-- no method reads the status of a response -/
theorem handleRequest_withStatus (status : Nat) (method params : Json) :
    self.handleRequest (backend.withStatus status) now method params =
      self.handleRequest backend now method params := by
  simp only [handleRequest, healthCheck, generateEmbeddings, generateSingleEmbedding,
    getModels, bridgeHandler_withStatus]

/-- the embedding service on `base_url`, which has no `/embeddings` route: FastAPI answers 404 -/
def embeddingNotFound : Backend := fun _ =>
  .ok ⟨404, pyStr "Not Found", .ok (.obj [("detail", .s "Not Found")])⟩

end LocalAIMCPServer

end QQ
