import QdrantQwen.Bridge.Handler

/-!
# The Qdrant bridge (`qdrant_mcp_server.py`)

`QdrantMCPServer` answers six methods, each with one call to the Qdrant REST API at
`base_url`, and `now` is what `datetime.now().isoformat()` reads.  `insert_vectors` builds its
points with `zip(vectors, metadata)`, so a point is sent for each pair only: `handle_request`
passes `params.get('metadata', [])`, and without `metadata` no point is sent while
`inserted_count` is `len(vectors)`.

* `QdrantMCPServer.handleRequest`;
* `insertRequest_points`        the points sent, for a `metadata` list and for `None`;
* `insert_without_metadata`     a request without `metadata` sends no point;
* `insert_with_metadata`        one with a `metadata` list as long as `vectors` sends a point per
                                vector.
-/

namespace QQ

/-- `QdrantMCPServer`: the two attributes `__init__` sets -/
structure QdrantMCPServer where
  base_url : PyStr
  collection_name : PyStr

namespace QdrantMCPServer

/-- `QdrantMCPServer()` -/
def init : QdrantMCPServer := ⟨pyStr "http://localhost:6333", pyStr "ai_communication_vectors"⟩

variable (self : QdrantMCPServer) (backend : Backend) (now : PyStr)

/-- `data.get('result', {}).get('collections', [])` -/
def collectionsOf (data : Json) : Except PyExc Json := do
  let result ← data.get (pyStr "result") (.obj [])
  result.get (pyStr "collections") (.list [])

/-- `health_check()` -/
def healthCheck : Json :=
  bridgeHandler "Health check" backend (.ok ⟨.GET, self.base_url ++ pyStr "/collections", none⟩)
    fun data => do
      let collections_count ← (← collectionsOf data).len
      pure (.obj [("status", .s "ok"), ("service", .s "qdrant_vector_db"),
        ("endpoint", .str self.base_url), ("collections_count", .int collections_count),
        ("timestamp", .str now)])

/-- `list_collections()` -/
def listCollections : Json :=
  bridgeHandler "List collections" backend
    (.ok ⟨.GET, self.base_url ++ pyStr "/collections", none⟩) fun data => do
      let collections ← collectionsOf data
      let count ← (← collectionsOf data).len
      pure (.obj [("collections", collections), ("count", .int count), ("status", .s "ok")])

/-- `create_collection(collection_name)` -/
def createCollection (collection_name : Json) : Json :=
  bridgeHandler "Create collection" backend
    (.ok ⟨.PUT, self.base_url ++ pyStr "/collections/" ++ collection_name.toStr,
      some (.obj [("vectors", .obj [("size", .int 384), ("distance", .s "Cosine")])])⟩)
    fun data => do
      let status ← data.get (pyStr "status") (.s "unknown")
      let result ← data.get (pyStr "result") (.obj [])
      pure (.obj [("collection", collection_name), ("status", status), ("result", result),
        ("created_at", .str now)])

/-- the points of `enumerate(zip(vectors, metadata))`, the first with id `i + 1` -/
def pointsFrom : Nat → List Json → List Json → List Json
  | i, vector :: vectors, meta :: metadata =>
    .obj [("id", .int (i + 1)), ("vector", vector), ("payload", meta)] ::
      pointsFrom (i + 1) vectors metadata
  | _, _, _ => []

/-- the upsert `insert_vectors` sends for the points -/
def upsert (points : List Json) : HttpReq :=
  ⟨.PUT, self.base_url ++ pyStr "/collections/" ++ self.collection_name ++ pyStr "/points",
    some (.obj [("points", .list points)])⟩

/-- lines 88-99: `metadata is None` becomes `[{}] * len(vectors)`, then the points -/
def insertRequest (vectors metadata : Json) : Except PyExc HttpReq := do
  let metadata ← match metadata with
    | .null => do
      let n ← vectors.len
      pure (.list (List.replicate n (.obj [])))
    | m => pure m
  let vs ← vectors.iter
  let ms ← metadata.iter
  pure (self.upsert (pointsFrom 0 vs ms))

/-- `insert_vectors(vectors, metadata)` -/
def insertVectors (vectors metadata : Json) : Json :=
  bridgeHandler "Insert vectors" backend (self.insertRequest vectors metadata) fun data => do
    let inserted_count ← vectors.len
    let status ← data.get (pyStr "status") (.s "unknown")
    let result ← data.get (pyStr "result") (.obj [])
    pure (.obj [("inserted_count", .int inserted_count), ("collection", .str self.collection_name),
      ("status", status), ("result", result), ("timestamp", .str now)])

/-- `search_vectors(query_vector, limit)` -/
def searchVectors (query_vector limit : Json) : Json :=
  bridgeHandler "Search vectors" backend
    (.ok ⟨.POST, self.base_url ++ pyStr "/collections/" ++ self.collection_name ++
      pyStr "/points/search",
      some (.obj [("vector", query_vector), ("limit", limit), ("with_payload", .bool true)])⟩)
    fun data => do
      let results ← data.get (pyStr "result") (.list [])
      let found_count ← results.len
      let query_vector_dimension ← query_vector.len
      pure (.obj [("search_results", results), ("found_count", .int found_count),
        ("query_vector_dimension", .int query_vector_dimension), ("limit", limit),
        ("collection", .str self.collection_name), ("timestamp", .str now)])

/-- `get_collections_info()` -/
def getCollectionsInfo : Json :=
  bridgeHandler "Get collections info" backend
    (.ok ⟨.GET, self.base_url ++ pyStr "/collections/" ++ self.collection_name, none⟩)
    fun data => do
      let collection_info ← data.get (pyStr "result") (.obj [])
      pure (.obj [("collection_info", collection_info), ("status", .s "ok"),
        ("timestamp", .str now)])

/-- `handle_request(method, params)` -/
def handleRequest (method params : Json) : Json :=
  dispatch do
    if isMethod method "qdrant_health" then pure (self.healthCheck backend now)
    else if isMethod method "qdrant_collections" then pure (self.listCollections backend)
    else if isMethod method "qdrant_create_collection" then do
      let collection_name ← params.get (pyStr "collection_name") (.str self.collection_name)
      pure (self.createCollection backend now collection_name)
    else if isMethod method "qdrant_insert_vectors" then do
      let vectors ← params.get (pyStr "vectors") (.list [])
      let metadata ← params.get (pyStr "metadata") (.list [])
      pure (self.insertVectors backend now vectors metadata)
    else if isMethod method "qdrant_search" then do
      let query_vector ← params.get (pyStr "query_vector") (.list [])
      let limit ← params.get (pyStr "limit") (.int 5)
      pure (self.searchVectors backend now query_vector limit)
    else if isMethod method "qdrant_collections_info" then
      pure (self.getCollectionsInfo backend now)
    else pure (unknownMethod method)

/-! ## failed calls and the status -/

/-- every method reports an error when no call succeeds -/
theorem handleRequest_failed (method params : Json) (h : ∀ r, ∃ e, fetch backend r = .error e) :
    (self.handleRequest backend now method params).hasKey (pyStr "error") = true := by
  apply dispatch_hasKey
  intro result hres
  split_ifs at hres <;> (repeat obtain ⟨_, -, hres⟩ := bind_eq_ok hres) <;> cases hres <;>
    first | exact bridgeHandler_failed _ _ _ _ h | rfl

/-- no method reads the status of a response -/
theorem handleRequest_withStatus (status : Nat) (method params : Json) :
    self.handleRequest (backend.withStatus status) now method params =
      self.handleRequest backend now method params := by
  simp only [handleRequest, healthCheck, listCollections, createCollection, insertVectors,
    searchVectors, getCollectionsInfo, bridgeHandler_withStatus]

/-! ## the points of an upsert -/

theorem pointsFrom_nil_right (i : Nat) (vs : List Json) : pointsFrom i vs [] = [] := by
  cases vs <;> rfl

theorem pointsFrom_length (i : Nat) (vs ms : List Json) :
    (pointsFrom i vs ms).length = min vs.length ms.length := by
  induction vs generalizing i ms with
  | nil => cases ms <;> rfl
  | cons v vs ih =>
    cases ms with
    | nil => simp [pointsFrom]
    | cons m ms => simp [pointsFrom, ih, Nat.succ_min_succ]

/-- point `k` pairs `vectors[k]` with `metadata[k]` under the id `i + k + 1` -/
theorem pointsFrom_getD (i : Nat) (vs ms : List Json) (k : Nat) (hv : k < vs.length)
    (hm : k < ms.length) :
    (pointsFrom i vs ms).getD k .null =
      .obj [("id", .int (i + k + 1)), ("vector", vs.getD k .null), ("payload", ms.getD k .null)] := by
  induction vs generalizing i ms k with
  | nil => cases hv
  | cons v vs ih =>
    cases ms with
    | nil => cases hm
    | cons m ms =>
      cases k with
      | zero => rfl
      | succ k =>
        simp only [pointsFrom, List.getD_cons_succ]
        rw [ih (i + 1) ms k (by simpa using hv) (by simpa using hm)]
        congr 4
        push_cast
        ring

/-- the upsert for a `metadata` list: one point per pair, ids from 1 -/
theorem insertRequest_list (vs ms : List Json) :
    self.insertRequest (.list vs) (.list ms) = .ok (self.upsert (pointsFrom 0 vs ms)) := rfl

/-- the upsert for `metadata = None`: the payload `{}` for every vector -/
theorem insertRequest_null (vs : List Json) :
    self.insertRequest (.list vs) .null =
      .ok (self.upsert (pointsFrom 0 vs (List.replicate vs.length (.obj [])))) := rfl

/-- **without `metadata`, `qdrant_insert_vectors` sends no point and reports
`len(vectors)`** -/
theorem insert_without_metadata (backend : Backend) (now : PyStr) (vs : List Json) (r : Response)
    (kvs : List (PyStr × Json)) (hr : backend (init.upsert []) = .ok r)
    (hj : r.json = .ok (.dict kvs)) :
    init.insertRequest (.list vs) (.list []) = .ok (init.upsert []) ∧
    init.handleRequest backend now (.s "qdrant_insert_vectors") (.obj [("vectors", .list vs)]) =
      .obj [("inserted_count", .int vs.length), ("collection", .s "ai_communication_vectors"),
        ("status", (kvs.lookup (pyStr "status")).getD (.s "unknown")),
        ("result", (kvs.lookup (pyStr "result")).getD (.obj [])), ("timestamp", .str now)] := by
  have hreq : init.insertRequest (.list vs) (.list []) = .ok (init.upsert []) := by
    rw [insertRequest_list, pointsFrom_nil_right]
  have hm : init.handleRequest backend now (.s "qdrant_insert_vectors")
      (.obj [("vectors", .list vs)]) = init.insertVectors backend now (.list vs) (.list []) := rfl
  refine ⟨hreq, ?_⟩
  simp only [hm, insertVectors, bridgeHandler, hreq, fetch, hr, hj, ok_bind]
  rfl

/-- Qdrant acknowledging every call -/
def qdrantAck : Backend := fun _ => .ok ⟨200, pyStr "OK", .ok (.obj [("result",
  .obj [("operation_id", .int 0), ("status", .s "acknowledged")]), ("status", .s "ok")])⟩

theorem insert_one_vector_without_metadata :
    init.insertRequest (.list [.list [.float (.fin (1 / 10)), .float (.fin (2 / 10))]]) (.list []) =
      .ok (init.upsert []) ∧
    init.handleRequest qdrantAck (pyStr "2026-01-01T00:00:00") (.s "qdrant_insert_vectors")
        (.obj [("vectors", .list [.list [.float (.fin (1 / 10)), .float (.fin (2 / 10))]])]) =
      .obj [("inserted_count", .int 1), ("collection", .s "ai_communication_vectors"),
        ("status", .s "ok"),
        ("result", .obj [("operation_id", .int 0), ("status", .s "acknowledged")]),
        ("timestamp", .s "2026-01-01T00:00:00")] :=
  insert_without_metadata qdrantAck (pyStr "2026-01-01T00:00:00")
    [.list [.float (.fin (1 / 10)), .float (.fin (2 / 10))]] _ _ rfl rfl

/-- **with a `metadata` list as long as `vectors`, the upsert carries one point per vector, the
`k`-th with id `k + 1`, `vectors[k]` and `metadata[k]`, and `inserted_count` is their number** -/
theorem insert_with_metadata (backend : Backend) (now : PyStr) (vs ms : List Json)
    (hlen : ms.length = vs.length) (r : Response) (kvs : List (PyStr × Json))
    (hr : backend (init.upsert (pointsFrom 0 vs ms)) = .ok r) (hj : r.json = .ok (.dict kvs)) :
    init.insertRequest (.list vs) (.list ms) = .ok (init.upsert (pointsFrom 0 vs ms)) ∧
    (pointsFrom 0 vs ms).length = vs.length ∧
    (∀ k < vs.length, (pointsFrom 0 vs ms).getD k .null =
      .obj [("id", .int (k + 1)), ("vector", vs.getD k .null), ("payload", ms.getD k .null)]) ∧
    init.handleRequest backend now (.s "qdrant_insert_vectors")
        (.obj [("vectors", .list vs), ("metadata", .list ms)]) =
      .obj [("inserted_count", .int vs.length), ("collection", .s "ai_communication_vectors"),
        ("status", (kvs.lookup (pyStr "status")).getD (.s "unknown")),
        ("result", (kvs.lookup (pyStr "result")).getD (.obj [])), ("timestamp", .str now)] := by
  have hm : init.handleRequest backend now (.s "qdrant_insert_vectors")
      (.obj [("vectors", .list vs), ("metadata", .list ms)]) =
      init.insertVectors backend now (.list vs) (.list ms) := rfl
  refine ⟨insertRequest_list _ vs ms, by rw [pointsFrom_length, hlen, min_self],
    fun k hk => by rw [pointsFrom_getD 0 vs ms k hk (hlen ▸ hk), Nat.cast_zero, zero_add], ?_⟩
  simp only [hm, insertVectors, bridgeHandler, insertRequest_list, fetch, hr, hj, ok_bind]
  rfl

theorem insert_two_vectors_with_metadata :
    (pointsFrom 0 [.list [.float (.fin (1 / 10))], .list [.float (.fin (2 / 10))]]
      [.obj [("doc", .s "a")], .obj [("doc", .s "b")]]).length = 2 ∧
    (∀ k < 2, (pointsFrom 0 [.list [.float (.fin (1 / 10))], .list [.float (.fin (2 / 10))]]
      [.obj [("doc", .s "a")], .obj [("doc", .s "b")]]).getD k .null =
      .obj [("id", .int (k + 1)),
        ("vector", [Json.list [.float (.fin (1 / 10))], .list [.float (.fin (2 / 10))]].getD k .null),
        ("payload", [Json.obj [("doc", .s "a")], .obj [("doc", .s "b")]].getD k .null)]) ∧
    init.handleRequest qdrantAck (pyStr "2026-01-01T00:00:00") (.s "qdrant_insert_vectors")
        (.obj [("vectors", .list [.list [.float (.fin (1 / 10))], .list [.float (.fin (2 / 10))]]),
          ("metadata", .list [.obj [("doc", .s "a")], .obj [("doc", .s "b")]])]) =
      .obj [("inserted_count", .int 2), ("collection", .s "ai_communication_vectors"),
        ("status", .s "ok"),
        ("result", .obj [("operation_id", .int 0), ("status", .s "acknowledged")]),
        ("timestamp", .s "2026-01-01T00:00:00")] :=
  (insert_with_metadata qdrantAck (pyStr "2026-01-01T00:00:00")
    [.list [.float (.fin (1 / 10))], .list [.float (.fin (2 / 10))]]
    [.obj [("doc", .s "a")], .obj [("doc", .s "b")]] rfl _ _ rfl rfl).2

end QdrantMCPServer

end QQ
