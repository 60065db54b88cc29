import QdrantQwen.Embedding.Fallback
import QdrantQwen.Py.Http

/-!
# The embedding service (`embedding_service.py`)

The service keeps the globals its handlers read: `MODEL_NAME`, `model_type`,
`QWEN3_EMBEDDING_DIM`, `embedding_model` and `model_device`.  At startup `load_model` probes
Ollama (`GET /api/version`, then a test `POST /api/embeddings`); only when the whole probe
succeeds does it set `model_type = "ollama_qwen3"`, the device, and the dimension to the length
of the test embedding, and `startup_event` swallows the exception of a failed probe.  No
handler writes a global, so the service serves every request in the state startup left.  No
function assigns `embedding_model`, so `/` and `/health` never report the model loaded.

`get_embeddings` raises `HTTPException(503)` before its `try` unless the probe succeeded.
Inside the `try` it posts the text, cuts or pads the returned vector to the recorded dimension
and divides it by its norm; both `except` clauses return `deterministic_embedding(text, 2560)`.
`create_embedding` (`POST /embed`) turns any exception into `HTTPException(500, str(e))`.

* `Startup.state`                  the state requests are served in;
* `getEmbeddings`, `createEmbedding`, `createEmbeddingsBatch`;
* `ollamaEmbedding_length`         the backend path returns `QWEN3_EMBEDDING_DIM` components;
* `getEmbeddings_after_startup`    what every request meets: 503 after a failed probe; after a
                                   successful one the backend's vector, or
                                   `deterministic_embedding(text, 2560)` when the `try` raised;
* `getEmbeddings_backend_unit`     a usable backend answer is divided into a unit vector;
* `modelLoaded_state`              `model_loaded` is false in every state.
-/

namespace QQ

/-! ## the state -/

/-- the module globals the handlers read; `embedding_model` tells whether the global holds a
model object -/
structure ServiceState where
  MODEL_NAME : PyStr
  model_type : PyStr
  QWEN3_EMBEDDING_DIM : Nat
  embedding_model : Option Unit
  model_device : PyStr

/-- the globals after import, `MODEL_NAME = os.getenv("MODEL_NAME", ...)` -/
def initialState (env_model_name : Option PyStr) : ServiceState :=
  ⟨env_model_name.getD (pyStr "sentence-transformers/all-MiniLM-L6-v2"),
    pyStr "sentence_transformers", 2560, none, pyStr "cpu"⟩

/-- the `model_type` of a loaded model -/
def ollamaQwen3 : PyStr := pyStr "ollama_qwen3"

/-- the Ollama endpoint both the probe and `get_embeddings` post to -/
def ollamaEmbeddingsUrl : PyStr := pyStr "http://localai-ollama:11434/api/embeddings"

/-! ## startup -/

/-- the part of `load_model`'s `try` that can raise, `torch` telling whether `import torch`
succeeds; its result is `embedding_dim` -/
def probeDim (torch : Bool) (ollama : Backend) : Except PyExc Nat := do
  if !torch then throw ⟨.ImportError, pyStr "No module named 'torch'"⟩
  let version_url := pyStr "http://localai-ollama:11434/api/version"
  let response ← ollama ⟨.GET, version_url, none⟩
  raiseForStatus version_url response
  let test_response ← ollama ⟨.POST, ollamaEmbeddingsUrl,
    some (.obj [("model", .s "qwen3-embedding:4b"), ("prompt", .s "test")])⟩
  raiseForStatus ollamaEmbeddingsUrl test_response
  let test_result ← test_response.json
  if ← test_result.contains (pyStr "embedding") then
    (← test_result.subscript (pyStr "embedding")).len
  else throw ⟨.Exception, pyStr "No embedding returned from test call"⟩

/-- `load_model()`: the globals after a successful probe, else the re-raised exception; `cuda`
is `torch.cuda.is_available()` -/
def loadModel (torch cuda : Bool) (ollama : Backend) (st : ServiceState) :
    Except PyExc ServiceState :=
  match probeDim torch ollama with
  | .ok embedding_dim =>
    .ok { st with
      model_device := if cuda then pyStr "cuda" else pyStr "cpu"
      model_type := ollamaQwen3
      QWEN3_EMBEDDING_DIM := embedding_dim }
  | .error e =>
    if e.kind = .RequestException then
      .error ⟨.Exception, pyStr "Ollama API connection failed: " ++ e.msg⟩
    else .error ⟨.Exception, pyStr "Qwen3 model verification failed: " ++ e.msg⟩

/-- `startup_event()`: a failed `load_model` leaves the globals as they were -/
def startupEvent (torch cuda : Bool) (ollama : Backend) (st : ServiceState) : ServiceState :=
  match loadModel torch cuda ollama st with
  | .ok st' => st'
  | .error _ => st

/-- what the process meets: the `MODEL_NAME` variable, whether `torch` imports, whether CUDA is
available, and Ollama as it answers the probe -/
structure Startup where
  env_model_name : Option PyStr
  torch : Bool
  cuda : Bool
  ollama : Backend

/-- the state every request is served in -/
def Startup.state (s : Startup) : ServiceState :=
  startupEvent s.torch s.cuda s.ollama (initialState s.env_model_name)

theorem state_of_probe_ok (s : Startup) (d : Nat) (h : probeDim s.torch s.ollama = .ok d) :
    s.state = { initialState s.env_model_name with
      model_device := if s.cuda then pyStr "cuda" else pyStr "cpu"
      model_type := ollamaQwen3
      QWEN3_EMBEDDING_DIM := d } := by
  simp only [Startup.state, startupEvent, loadModel, h]

theorem state_of_probe_error (s : Startup) (e : PyExc) (h : probeDim s.torch s.ollama = .error e) :
    s.state = initialState s.env_model_name := by
  simp only [Startup.state, startupEvent, loadModel, h]
  split_ifs <;> rfl

/-! ## two Ollamas -/

/-- Ollama refusing every connection -/
def ollamaDown : Backend := fun _ => .error ⟨.RequestException, pyStr "Connection refused"⟩

/-- Ollama answering every call with `status` and the body `{"embedding": xs}` -/
def ollamaAnswering (status : Nat) (xs : List Json) : Backend :=
  fun _ => .ok ⟨status, pyStr "OK", .ok (.obj [("embedding", .list xs)])⟩

/-- a probe answered with status `status < 400` and `{"embedding": xs}` records `len(xs)` -/
theorem probeDim_answering (status : Nat) (xs : List Json) (h : status < 400) :
    probeDim true (ollamaAnswering status xs) = .ok xs.length := by
  have hr := raiseForStatus_ok
  simp only [probeDim, ollamaAnswering, Bool.not_true, Bool.false_eq_true, if_false, ok_bind,
    hr _ ⟨status, pyStr "OK", .ok (.obj [("embedding", .list xs)])⟩ h]
  rfl

/-! ## `get_embeddings` -/

/-- lines 215-218: `embedding_vector` cut to `target_dim` items, or extended with `0.0` -/
def reconcile (embedding_vector : Json) (target_dim : Nat) : Except PyExc Json := do
  let n ← embedding_vector.len
  if n > target_dim then embedding_vector.sliceTo target_dim
  else if n < target_dim then
    embedding_vector.extend (List.replicate (target_dim - n) (.float (.fin 0)))
  else pure embedding_vector

/-- the request `get_embeddings` sends for `text` -/
def embedRequest (text : PyStr) : HttpReq :=
  ⟨.POST, ollamaEmbeddingsUrl,
    some (.obj [("model", .s "qwen3-embedding:4b"), ("prompt", .str text), ("stream", .bool false)])⟩

/-- lines 194-210: `result["embedding"]` of the backend's answer to `text` -/
def ollamaVector (ollama : Backend) (text : PyStr) : Except PyExc Json := do
  let response ← ollama (embedRequest text)
  raiseForStatus ollamaEmbeddingsUrl response
  let result ← response.json
  if ← result.contains (pyStr "embedding") then result.subscript (pyStr "embedding")
  else throw ⟨.Exception, pyStr "No embedding returned from Ollama API"⟩

/-- the body of `get_embeddings`' `try` on the model-loaded path -/
def ollamaEmbedding (st : ServiceState) (ollama : Backend) (text : PyStr) :
    Except PyExc NormVec := do
  let embedding_vector ← ollamaVector ollama text
  normalize (← reconcile embedding_vector st.QWEN3_EMBEDDING_DIM)

/-- `get_embeddings(text)`, `rng` being numpy's generator; both `except` clauses return
`deterministic_embedding(text, 2560)` -/
def getEmbeddings (rng : NormalSampler) (st : ServiceState) (ollama : Backend) (text : PyStr) :
    Except PyExc NormVec :=
  if st.model_type ≠ ollamaQwen3 then .error (.http 503 (pyStr "Ollama Qwen3 model not loaded"))
  else
    match ollamaEmbedding st ollama text with
    | .ok v => .ok v
    | .error _ => deterministicEmbedding rng text 2560

theorem getEmbeddings_not_loaded (rng : NormalSampler) (st : ServiceState) (ollama : Backend)
    (text : PyStr) (h : st.model_type ≠ ollamaQwen3) :
    getEmbeddings rng st ollama text = .error (.http 503 (pyStr "Ollama Qwen3 model not loaded")) :=
  if_pos h

theorem getEmbeddings_loaded (rng : NormalSampler) (st : ServiceState) (ollama : Backend)
    (text : PyStr) (h : st.model_type = ollamaQwen3) :
    getEmbeddings rng st ollama text = match ollamaEmbedding st ollama text with
      | .ok v => .ok v
      | .error _ => deterministicEmbedding rng text 2560 :=
  if_neg (not_not.mpr h)

/-! ### the backend path -/

/-- a reconciled vector is a list of `target_dim` items, or a `str` or `dict` of that length -/
theorem reconcile_ok {v r : Json} {d : Nat} (h : reconcile v d = .ok r) :
    (∃ xs, r = .list xs ∧ xs.length = d) ∨ (∃ t, r = .str t) ∨ (∃ kvs, r = .dict kvs) := by
  obtain ⟨n, hn, h⟩ := bind_eq_ok h
  cases v with
  | list xs =>
    cases hn
    split_ifs at h with h1 h2
    · cases h; exact .inl ⟨_, rfl, by simp; omega⟩
    · cases h; exact .inl ⟨_, rfl, by simp; omega⟩
    · cases h; exact .inl ⟨_, rfl, by omega⟩
  | str t => split_ifs at h <;> cases h <;> simp
  | dict kvs =>
    split_ifs at h <;> cases h
    simp
  | _ => cases hn

/-- `reconcile` on a list: the first `target_dim` items, then zeros up to `target_dim` -/
theorem reconcile_list (xs : List Json) (d : Nat) :
    reconcile (.list xs) d = .ok (.list (xs.take d ++ List.replicate (d - xs.length) (.float (.fin 0)))) := by
  simp only [reconcile, Json.len, ok_bind]
  split_ifs with h1 h2
  · simp [Json.sliceTo, List.take_of_length_le, Nat.sub_eq_zero_of_le (by omega : d ≤ xs.length)]
  · simp [Json.extend, List.take_of_length_le (by omega : xs.length ≤ d)]
  · simp only [List.take_of_length_le (by omega : xs.length ≤ d), show d - xs.length = 0 by omega,
      List.replicate_zero, List.append_nil]
    rfl

/-- **the backend path returns exactly `QWEN3_EMBEDDING_DIM` components** -/
theorem ollamaEmbedding_length (st : ServiceState) (ollama : Backend) (text : PyStr) (v : NormVec)
    (h : ollamaEmbedding st ollama text = .ok v) : v.length = st.QWEN3_EMBEDDING_DIM := by
  obtain ⟨_, -, h⟩ := bind_eq_ok h
  obtain ⟨r, hr, h⟩ := bind_eq_ok h
  rcases reconcile_ok hr with ⟨xs, rfl, hxs⟩ | ⟨t, rfl⟩ | ⟨kvs, rfl⟩
  · simp only [normalize] at h
    split_ifs at h
    cases h
    exact hxs
  · cases h
  · cases h

theorem ollamaEmbedding_cut_three_to_two :
    ollamaEmbedding ⟨pyStr "qwen3-embedding:4b", ollamaQwen3, 2, none, pyStr "cuda"⟩
        (ollamaAnswering 200 [.float (.fin 1), .float (.fin 2), .float (.fin 3)]) (pyStr "hello") =
      .ok ⟨.list [.float (.fin 1), .float (.fin 2)], rfl⟩ ∧
    NormVec.length ⟨.list [.float (.fin 1), .float (.fin 2)], rfl⟩ = 2 := by
  have h : ollamaEmbedding ⟨pyStr "qwen3-embedding:4b", ollamaQwen3, 2, none, pyStr "cuda"⟩
      (ollamaAnswering 200 [.float (.fin 1), .float (.fin 2), .float (.fin 3)]) (pyStr "hello") =
      .ok ⟨.list [.float (.fin 1), .float (.fin 2)], rfl⟩ := rfl
  exact ⟨h, ollamaEmbedding_length _ _ _ _ h⟩

/-- what `get_embeddings` reads of a 2xx answer whose body is a `dict` with an `embedding` -/
theorem ollamaVector_of_response (ollama : Backend) (text : PyStr) (r : Response)
    (kvs : List (PyStr × Json)) (v : Json) (hr : ollama (embedRequest text) = .ok r)
    (hs : r.status_code < 400) (hj : r.json = .ok (.dict kvs))
    (hv : kvs.lookup (pyStr "embedding") = some v) : ollamaVector ollama text = .ok v := by
  simp only [ollamaVector, hr, raiseForStatus_ok _ _ hs, hj, Json.contains, Json.subscript, hv,
    ok_bind, Option.isSome_some, if_true]

/-- on the backend path a list is cut or padded to `QWEN3_EMBEDDING_DIM`, then divided -/
theorem ollamaEmbedding_list (st : ServiceState) (ollama : Backend) (text : PyStr)
    (xs : List Json) (hv : ollamaVector ollama text = .ok (.list xs)) :
    ollamaEmbedding st ollama text = normalize (.list (xs.take st.QWEN3_EMBEDDING_DIM ++
      List.replicate (st.QWEN3_EMBEDDING_DIM - xs.length) (.float (.fin 0)))) := by
  simp only [ollamaEmbedding, hv, reconcile_list, ok_bind]

/-- the `try` raises when the call raises -/
theorem ollamaEmbedding_call_error (st : ServiceState) (ollama : Backend) (text : PyStr) (e : PyExc)
    (h : ollama (embedRequest text) = .error e) : ollamaEmbedding st ollama text = .error e := by
  simp only [ollamaEmbedding, ollamaVector, h, error_bind]

/-- the `try` raises on a status in `[400, 600)` -/
theorem ollamaEmbedding_status_error (st : ServiceState) (ollama : Backend) (text : PyStr)
    (r : Response) (h : ollama (embedRequest text) = .ok r) (h1 : 400 ≤ r.status_code)
    (h2 : r.status_code < 600) : ∃ e, ollamaEmbedding st ollama text = .error e := by
  obtain ⟨e, he⟩ := raiseForStatus_error ollamaEmbeddingsUrl r h1 h2
  exact ⟨e, by simp only [ollamaEmbedding, ollamaVector, h, he, ok_bind, error_bind]⟩

/-- **once the probe succeeded, every outcome of the later call gives a vector**: the backend's,
or `deterministic_embedding(text, 2560)` when the `try` raised -/
theorem getEmbeddings_loaded_ok (rng : NormalSampler) (st : ServiceState) (ollama : Backend)
    (text : PyStr) (h : st.model_type = ollamaQwen3) (htext : ∀ c ∈ text, isSurrogate c = false) :
    ∃ v, getEmbeddings rng st ollama text = .ok v := by
  rw [getEmbeddings_loaded rng st ollama text h]
  cases hv : ollamaEmbedding st ollama text with
  | ok v => exact ⟨v, rfl⟩
  | error e =>
    obtain ⟨v, hv, -⟩ := deterministicEmbedding_ok rng text 2560 _ (encode_eq_ok text htext)
    exact ⟨v, hv⟩

theorem leaves_of_zeros (ys : List Json) (h : ∀ y ∈ ys, y = .float (.fin 0)) :
    ys.filterMap npScalar = ys.map fun _ => .fin 0 := by
  induction ys with
  | nil => rfl
  | cons y ys ih =>
    rw [h y (List.mem_cons_self _ _)]
    simp [npScalar, ih fun z hz => h z (List.mem_cons_of_mem _ hz)]

/-- **a 2xx answer whose `embedding` is a list of zeros, the empty list included, is divided by
a zero norm: every one of the `d` components is NaN** -/
theorem getEmbeddings_zero_vector (rng : NormalSampler) (s : Startup) (ollama : Backend)
    (text : PyStr) (d : Nat) (r : Response) (kvs : List (PyStr × Json)) (xs : List Json)
    (hd : probeDim s.torch s.ollama = .ok d) (hr : ollama (embedRequest text) = .ok r)
    (hs : r.status_code < 400) (hj : r.json = .ok (.dict kvs))
    (hv : kvs.lookup (pyStr "embedding") = some (.list xs)) (hz : ∀ x ∈ xs, x = .float (.fin 0)) :
    ∃ v, getEmbeddings rng s.state ollama text = .ok v ∧ v.values = List.replicate d .nan := by
  have hst := state_of_probe_ok s d hd
  set ys := xs.take d ++ List.replicate (d - xs.length) (Json.float (.fin 0)) with hys_def
  have hys : ∀ y ∈ ys, y = .float (.fin 0) := by
    intro y hy
    rcases List.mem_append.mp hy with hy | hy
    · exact hz y (List.mem_of_mem_take hy)
    · exact List.eq_of_mem_replicate hy
  have hlen : ys.length = d := by simp [ys]; omega
  obtain ⟨v, hnv, harr⟩ := normalize_scalars ys fun y hy => by rw [hys y hy]; rfl
  refine ⟨v, ?_, ?_⟩
  · rw [getEmbeddings_loaded _ _ _ _ (by rw [hst]),
      ollamaEmbedding_list _ _ _ _ (ollamaVector_of_response _ _ _ _ _ hr hs hj hv), hst]
    show (match normalize (.list ys) with
      | .ok v => Except.ok v
      | .error _ => deterministicEmbedding rng text 2560) = .ok v
    rw [hnv]
  · rw [NormVec.values, harr, npLeaves_of_scalars _ fun y hy => by rw [hys y hy]; rfl,
      leaves_of_zeros _ hys, values_zero _ fun x hx => by obtain ⟨_, -, rfl⟩ := List.mem_map.mp hx; rfl]
    simp [hlen]

theorem getEmbeddings_empty_embedding_nan :
    probeDim true (ollamaAnswering 200 (List.replicate 2560 (.float (.fin (1 / 2))))) = .ok 2560 ∧
      ∃ v, getEmbeddings constantSampler (Startup.state ⟨none, true, true,
        ollamaAnswering 200 (List.replicate 2560 (.float (.fin (1 / 2))))⟩)
        (ollamaAnswering 200 []) (pyStr "") = .ok v ∧ v.values = List.replicate 2560 .nan := by
  have hd := probeDim_answering 200 (List.replicate 2560 (.float (.fin (1 / 2)))) (by decide)
  rw [List.length_replicate] at hd
  exact ⟨hd, getEmbeddings_zero_vector constantSampler _ (ollamaAnswering 200 []) (pyStr "") 2560
    ⟨200, pyStr "OK", .ok (.obj [("embedding", .list [])])⟩ _ [] hd rfl (by decide) rfl rfl
    (fun _ h => absurd h (List.not_mem_nil _))⟩

/-- **after a probe that recorded the dimension `d`, a failed later call is answered with
2560 components, whatever `d` is** -/
theorem getEmbeddings_fallback_dim (rng : NormalSampler) (s : Startup) (ollama : Backend)
    (text : PyStr) (d : Nat) (e : PyExc) (hd : probeDim s.torch s.ollama = .ok d)
    (he : ollamaEmbedding s.state ollama text = .error e)
    (htext : ∀ c ∈ text, isSurrogate c = false) :
    s.state.QWEN3_EMBEDDING_DIM = d ∧
      ∃ v, getEmbeddings rng s.state ollama text = .ok v ∧ v.length = 2560 := by
  have hst := state_of_probe_ok s d hd
  obtain ⟨v, hv, hlen, -⟩ := deterministicEmbedding_ok rng text 2560 _ (encode_eq_ok text htext)
  refine ⟨by rw [hst], v, ?_, hlen⟩
  rw [getEmbeddings_loaded _ _ _ _ (by rw [hst]), he]
  exact hv

theorem getEmbeddings_fallback_dim_1024 :
    probeDim true (ollamaAnswering 200 (List.replicate 1024 (.float (.fin (1 / 2))))) = .ok 1024 ∧
    ollamaEmbedding (Startup.state ⟨none, true, true,
        ollamaAnswering 200 (List.replicate 1024 (.float (.fin (1 / 2))))⟩) ollamaDown
        (pyStr "hello") = .error ⟨.RequestException, pyStr "Connection refused"⟩ ∧
    (∀ c ∈ pyStr "hello", isSurrogate c = false) ∧
    (Startup.state ⟨none, true, true, ollamaAnswering 200 (List.replicate 1024 (.float (.fin (1 / 2))))⟩
        ).QWEN3_EMBEDDING_DIM = 1024 ∧
      ∃ v, getEmbeddings constantSampler (Startup.state ⟨none, true, true,
        ollamaAnswering 200 (List.replicate 1024 (.float (.fin (1 / 2))))⟩) ollamaDown
        (pyStr "hello") = .ok v ∧ v.length = 2560 := by
  have hd := probeDim_answering 200 (List.replicate 1024 (.float (.fin (1 / 2)))) (by decide)
  rw [List.length_replicate] at hd
  exact ⟨hd, rfl, pyStr_no_surrogate _,
    getEmbeddings_fallback_dim constantSampler ⟨none, true, true,
      ollamaAnswering 200 (List.replicate 1024 (.float (.fin (1 / 2))))⟩ ollamaDown
      (pyStr "hello") 1024 _ hd rfl (pyStr_no_surrogate _)⟩

/-! ## `GET /` and `GET /health` -/

/-- `HealthResponse` -/
structure HealthResponse where
  status : PyStr
  model_loaded : Bool
  device : PyStr

/-- `embedding_model is not None or model_type == "deterministic"` -/
def modelLoaded (st : ServiceState) : Bool :=
  st.embedding_model.isSome || st.model_type == pyStr "deterministic"

/-- the `actual_device` of `health_check()`: its `sentence_transformers` branch imports `torch`
again and asks `torch.cuda.is_available()`, which answer as at startup -/
def actualDevice (torch cuda : Bool) (st : ServiceState) : Except PyExc PyStr :=
  if (pyStr "sentence_transformers").isPrefixOf st.model_type then
    if torch then .ok (if cuda then pyStr "cuda" else pyStr "cpu")
    else .error ⟨.ImportError, pyStr "No module named 'torch'"⟩
  else .ok st.model_device

/-- `health_check()` -/
def healthCheck (torch cuda : Bool) (st : ServiceState) : Except PyExc HealthResponse := do
  let actual_device ← actualDevice torch cuda st
  pure ⟨pyStr "healthy", modelLoaded st, actual_device⟩

/-- `root()` -/
def root (st : ServiceState) : Json :=
  .obj [("service", .s "Qwen3 Embedding Service - GGUF"), ("version", .s "1.0.0"),
    ("model", .str st.MODEL_NAME), ("model_type", .str st.model_type),
    ("device", .str st.model_device), ("status", .s "running"),
    ("model_loaded", .bool (modelLoaded st))]

/-- **`/` and `/health` never report the model loaded**: no function of the service assigns
`embedding_model` or the type `deterministic` -/
theorem modelLoaded_state (s : Startup) : modelLoaded s.state = false := by
  cases h : probeDim s.torch s.ollama with
  | ok d => rw [state_of_probe_ok s d h]; rfl
  | error e => rw [state_of_probe_error s e h]; rfl

/-! ## `POST /embed` and `POST /embed_batch` -/

/-- `EmbeddingRequest` -/
structure EmbeddingRequest where
  text : PyStr
  model_name : Option PyStr

/-- `EmbeddingResponse`; `processing_time_ms` is a clock reading and is left out -/
structure EmbeddingResponse where
  embedding : NormVec
  model : PyStr
  dimension : Nat

/-- `request.model_name or f"{MODEL_NAME}_{model_type}"` -/
def responseModel (st : ServiceState) : Option PyStr → PyStr
  | some m => if m.isEmpty then st.MODEL_NAME ++ pyStr "_" ++ st.model_type else m
  | none => st.MODEL_NAME ++ pyStr "_" ++ st.model_type

/-- `len(embedding)` of what `tolist()` gives, then pydantic's check that it is a
`List[float]`, which a nested array fails once per row.  The first line of the
`ValidationError` is pydantic's count; `rows` gives the lines it adds for the rows, which print
numpy's float64 values in the layout of pydantic's release -/
def embeddingDimension (rows : NormVec → PyStr) (v : NormVec) : Except PyExc Nat :=
  match (npShape v.arr).get v.shape_ok with
  | [n] => .ok n
  | [] => .error ⟨.TypeError, pyStr "object of type 'float' has no len()"⟩
  | n :: _ => .error ⟨.ValueError, showInt n ++
      pyStr (if n = 1 then " validation error" else " validation errors") ++
      pyStr " for EmbeddingResponse\n" ++ rows v⟩

/-- `create_embedding(request)` -/
def createEmbedding (rng : NormalSampler) (rows : NormVec → PyStr) (st : ServiceState)
    (ollama : Backend) (request : EmbeddingRequest) : Except PyExc EmbeddingResponse :=
  match (do
      let embedding ← getEmbeddings rng st ollama request.text
      let dimension ← embeddingDimension rows embedding
      pure ⟨embedding, responseModel st request.model_name, dimension⟩ :
      Except PyExc EmbeddingResponse) with
  | .ok response => .ok response
  | .error e => .error (.http 500 e.msg)

/-- the loop of `create_embeddings_batch` from the `i`-th request on, `ollama i` answering the
call made for the `i`-th one -/
def embedBatchFrom (rng : NormalSampler) (rows : NormVec → PyStr) (st : ServiceState)
    (ollama : Nat → Backend) : Nat → List EmbeddingRequest → Except PyExc (List EmbeddingResponse)
  | _, [] => .ok []
  | i, request :: requests => do
    let response ← createEmbedding rng rows st (ollama i) request
    let responses ← embedBatchFrom rng rows st ollama (i + 1) requests
    pure (response :: responses)

/-- `create_embeddings_batch(requests)`: the first exception ends the batch -/
def createEmbeddingsBatch (rng : NormalSampler) (rows : NormVec → PyStr) (st : ServiceState)
    (ollama : Nat → Backend) (requests : List EmbeddingRequest) :
    Except PyExc (List EmbeddingResponse) :=
  embedBatchFrom rng rows st ollama 0 requests

/-- the detail of the 500 that wraps the 503 -/
theorem http_503_msg :
    (PyExc.http 503 (pyStr "Ollama Qwen3 model not loaded")).msg =
      pyStr "503: Ollama Qwen3 model not loaded" := rfl

theorem createEmbedding_not_loaded (rng : NormalSampler) (rows : NormVec → PyStr)
    (st : ServiceState) (ollama : Backend) (request : EmbeddingRequest)
    (h : st.model_type ≠ ollamaQwen3) :
    createEmbedding rng rows st ollama request =
      .error (.http 500 (pyStr "503: Ollama Qwen3 model not loaded")) := by
  simp only [createEmbedding, getEmbeddings_not_loaded rng st ollama _ h, error_bind,
    http_503_msg]

theorem createEmbeddingsBatch_not_loaded (rng : NormalSampler) (rows : NormVec → PyStr)
    (st : ServiceState) (ollama : Nat → Backend) (requests : List EmbeddingRequest)
    (hr : requests ≠ []) (h : st.model_type ≠ ollamaQwen3) :
    createEmbeddingsBatch rng rows st ollama requests =
      .error (.http 500 (pyStr "503: Ollama Qwen3 model not loaded")) := by
  obtain ⟨request, requests, rfl⟩ := List.exists_cons_of_ne_nil hr
  simp only [createEmbeddingsBatch, embedBatchFrom, createEmbedding_not_loaded _ _ _ _ _ h,
    error_bind]

/-- **what a request meets after startup.**  After a failed probe `get_embeddings` raises 503
before its `try`, for every text and every backend, and `/embed` and every non-empty
`/embed_batch` answer 500.  After a successful probe it returns the backend's vector when the
`try` completes and `deterministic_embedding(text, 2560)` when it raises (the call itself
raised, or the status was an error), so every text `encode` accepts gets a vector -/
theorem getEmbeddings_after_startup (rng : NormalSampler) (rows : NormVec → PyStr) (s : Startup) :
    ((∃ e, probeDim s.torch s.ollama = .error e) →
      (∀ ollama text, getEmbeddings rng s.state ollama text =
          .error (.http 503 (pyStr "Ollama Qwen3 model not loaded")) ∧
        ∀ model_name, createEmbedding rng rows s.state ollama ⟨text, model_name⟩ =
          .error (.http 500 (pyStr "503: Ollama Qwen3 model not loaded"))) ∧
      ∀ ollamas requests, requests ≠ [] → createEmbeddingsBatch rng rows s.state ollamas requests =
        .error (.http 500 (pyStr "503: Ollama Qwen3 model not loaded"))) ∧
    ((∃ d, probeDim s.torch s.ollama = .ok d) → ∀ ollama text,
      (∀ v, ollamaEmbedding s.state ollama text = .ok v →
        getEmbeddings rng s.state ollama text = .ok v) ∧
      (∀ e, ollamaEmbedding s.state ollama text = .error e →
        getEmbeddings rng s.state ollama text = deterministicEmbedding rng text 2560) ∧
      (∀ e, ollama (embedRequest text) = .error e →
        getEmbeddings rng s.state ollama text = deterministicEmbedding rng text 2560) ∧
      (∀ r, ollama (embedRequest text) = .ok r → 400 ≤ r.status_code → r.status_code < 600 →
        getEmbeddings rng s.state ollama text = deterministicEmbedding rng text 2560) ∧
      ((∀ c ∈ text, isSurrogate c = false) → ∃ v, getEmbeddings rng s.state ollama text = .ok v)) := by
  refine ⟨fun ⟨e, he⟩ => ?_, fun ⟨d, hd⟩ ollama text => ?_⟩
  · have h : s.state.model_type ≠ ollamaQwen3 := by
      rw [state_of_probe_error s e he]
      exact (by decide : pyStr "sentence_transformers" ≠ ollamaQwen3)
    exact ⟨fun _ _ => ⟨getEmbeddings_not_loaded _ _ _ _ h,
      fun _ => createEmbedding_not_loaded _ _ _ _ _ h⟩,
      fun _ _ hr => createEmbeddingsBatch_not_loaded _ _ _ _ _ hr h⟩
  · have hl : s.state.model_type = ollamaQwen3 := by rw [state_of_probe_ok s d hd]
    have htry : ∀ e, ollamaEmbedding s.state ollama text = .error e →
        getEmbeddings rng s.state ollama text = deterministicEmbedding rng text 2560 :=
      fun e he => by rw [getEmbeddings_loaded _ _ _ _ hl, he]
    exact ⟨fun v hv => by rw [getEmbeddings_loaded _ _ _ _ hl, hv], htry,
      fun e he => htry e (ollamaEmbedding_call_error _ _ _ _ he),
      fun r hr h1 h2 => (ollamaEmbedding_status_error s.state _ _ r hr h1 h2).elim htry,
      getEmbeddings_loaded_ok _ _ _ _ hl⟩

/-- with Ollama down at startup every request is refused with 503 -/
theorem getEmbeddings_after_startup_down :
    (∃ e, probeDim true ollamaDown = .error e) ∧
      ∀ ollama text, getEmbeddings constantSampler (Startup.state ⟨none, true, true, ollamaDown⟩)
          ollama text = .error (.http 503 (pyStr "Ollama Qwen3 model not loaded")) ∧
        ∀ model_name, createEmbedding constantSampler (fun _ => [])
          (Startup.state ⟨none, true, true, ollamaDown⟩) ollama ⟨text, model_name⟩ =
          .error (.http 500 (pyStr "503: Ollama Qwen3 model not loaded")) :=
  have h : ∃ e, probeDim true ollamaDown = .error e := ⟨_, rfl⟩
  ⟨h, ((getEmbeddings_after_startup constantSampler (fun _ => [])
    ⟨none, true, true, ollamaDown⟩).1 h).1⟩

/-- with Ollama down at startup, `POST /embed` answers 500 although the deterministic fallback
was there to answer it -/
theorem embed_500_after_failed_probe :
    getEmbeddings constantSampler (Startup.state ⟨none, true, true, ollamaDown⟩) ollamaDown
        (pyStr "hello") = .error (.http 503 (pyStr "Ollama Qwen3 model not loaded")) ∧
      createEmbedding constantSampler (fun _ => []) (Startup.state ⟨none, true, true, ollamaDown⟩)
        ollamaDown ⟨pyStr "hello", none⟩ =
        .error (.http 500 (pyStr "503: Ollama Qwen3 model not loaded")) :=
  ⟨rfl, rfl⟩

end QQ
