import QdrantQwen.Bridge.Qdrant
import QdrantQwen.Bridge.LocalAI
import QdrantQwen.Py.Loads

/-!
# The two bridges: their stdio loop and their failed calls

Both bridges run the same `main`: read a line with `sys.stdin.readline()`, stop at `""`, answer
`json.loads(line.strip())` with one JSON-RPC response, and drop the line on a
`JSONDecodeError`.  Any other exception of the `try` (reading `method` from a value that is
not a `dict`, or a `ValueError` of `json.loads`) is answered with the error form.

`readline` returns `""` only at the end of the stream, since every line it returns keeps its
newline or is the non-empty last line (`Line`).  So the loop turns exactly once per line and
once more at the end, and its output is the answers of the lines in order.

`json.loads` raises a `ValueError` on a JSON text with an integer of more than 4300 digits,
so such a line is answered with the error form, an object included.

Neither bridge reads the status of a response: a call is reported as failed only when it raises,
and a 4xx or 5xx response with a JSON body is reported like a 2xx one with that body.

* `Line`, `readline`, `respond`, `mainLoop`;
* `answers`, `lineAnswer`           the answers as a pure function of the lines;
* `mainLoop_run`                    the loop with enough turns prints `answers`, and with fewer
                                    it is still running;
* `bridges_answer_every_line`       both bridges print `answers` and stop at the end of stdin;
* `bridges_report_raised_calls`     a call that raises is reported, the status never is.
-/

namespace QQ

/-- a line `sys.stdin.readline()` returns before the end of the stream: its newline kept, or
the last line without one, so never empty -/
structure Line where
  text : PyStr
  ne_nil : text ≠ []

/-- `sys.stdin.readline()` on what is left of stdin: `""` at its end -/
def readline : List Line → PyStr × List Line
  | [] => ([], [])
  | l :: ls => (l.text, ls)

/-- `{'jsonrpc': '2.0', 'id': id, 'result': result}` -/
def rpcResult (id result : Json) : Json :=
  .obj [("jsonrpc", .s "2.0"), ("id", id), ("result", result)]

/-- `{'jsonrpc': '2.0', 'id': None, 'error': {'message': msg}}` -/
def rpcError (msg : PyStr) : Json :=
  .obj [("jsonrpc", .s "2.0"), ("id", .null), ("error", .obj [("message", .str msg)])]

/-- the loop's `try` on one line: the response it prints, `none` when
`except json.JSONDecodeError: continue` drops the line -/
def respond (loads : PyStr → Except PyExc Json) (handleRequest : Json → Json → Json)
    (line : PyStr) : Option Json :=
  match (do
      let request ← loads (strip line)
      let method ← request.get (pyStr "method") (.s "")
      let params ← request.get (pyStr "params") (.obj [])
      let result := handleRequest method params
      let id ← request.get (pyStr "id") .null
      pure (rpcResult id result) : Except PyExc Json) with
  | .ok response => some response
  | .error e => if e.kind = .JSONDecodeError then none else some (rpcError e.msg)

/-- `main()`'s `while True` on what is left of stdin, `handle k` answering the `k`-th line
with the backends and the clock it meets; `fuel` bounds the turns -/
def mainLoop (loads : PyStr → Except PyExc Json) (handle : Nat → Json → Json → Json) :
    Nat → Nat → List Line → List Json → Option (List Json)
  | 0, _, _, _ => none
  | fuel + 1, k, stdin, out =>
    let (line, rest) := readline stdin
    if line.isEmpty then some out
    else mainLoop loads handle fuel (k + 1) rest (out ++ (respond loads (handle k) line).toList)

/-- `main()` of `qdrant_mcp_server.py`: `backends k` and `clock k` are what the `k`-th line
meets -/
def QdrantMCPServer.main (backends : Nat → Backend) (clock : Nat → PyStr) (stdin : List Line) :
    Option (List Json) :=
  mainLoop Loads.loads (fun k => QdrantMCPServer.init.handleRequest (backends k) (clock k))
    (stdin.length + 1) 0 stdin []

/-- `main()` of `localai_mcp_server.py` -/
def LocalAIMCPServer.main (backends : Nat → Backend) (clock : Nat → PyStr) (stdin : List Line) :
    Option (List Json) :=
  mainLoop Loads.loads (fun k => LocalAIMCPServer.init.handleRequest (backends k) (clock k))
    (stdin.length + 1) 0 stdin []

/-! ## the answers -/

/-- what a line is answered with, read off the outcome of `json.loads`: an object gets the
result of its method, any other value the error of `.get`, a `JSONDecodeError` nothing, any
other exception the error form -/
def lineAnswer (loads : PyStr → Except PyExc Json) (handleRequest : Json → Json → Json)
    (line : PyStr) : Option Json :=
  match loads (strip line) with
  | .ok (.dict kvs) =>
    some (rpcResult ((kvs.lookup (pyStr "id")).getD .null)
      (handleRequest ((kvs.lookup (pyStr "method")).getD (.s ""))
        ((kvs.lookup (pyStr "params")).getD (.obj []))))
  | .ok v => some (rpcError (v.noAttr "get").msg)
  | .error e => if e.kind = .JSONDecodeError then none else some (rpcError e.msg)

/-- the answers to the lines from the `k`-th on, in order -/
def answers (loads : PyStr → Except PyExc Json) (handle : Nat → Json → Json → Json) :
    Nat → List Line → List Json
  | _, [] => []
  | k, l :: ls => (lineAnswer loads (handle k) l.text).toList ++ answers loads handle (k + 1) ls

theorem respond_eq_lineAnswer (loads : PyStr → Except PyExc Json)
    (handleRequest : Json → Json → Json) (line : PyStr) :
    respond loads handleRequest line = lineAnswer loads handleRequest line := by
  unfold respond lineAnswer
  cases loads (strip line) with
  | error e => rfl
  | ok v => cases v <;> rfl

/-- **the loop with more turns than lines prints the answers of all of them and stops at the
end of the stream; with fewer it is still running** -/
theorem mainLoop_run (loads : PyStr → Except PyExc Json) (handle : Nat → Json → Json → Json)
    (lines : List Line) (fuel k : Nat) (out : List Json) :
    mainLoop loads handle fuel k lines out =
      if lines.length < fuel then some (out ++ answers loads handle k lines) else none := by
  induction lines generalizing fuel k out with
  | nil =>
    cases fuel with
    | zero => rfl
    | succ fuel => simp [mainLoop, readline, answers]
  | cons l ls ih =>
    cases fuel with
    | zero => rfl
    | succ fuel =>
      have hl : l.text.isEmpty = false := List.isEmpty_eq_false.mpr l.ne_nil
      simp only [mainLoop, readline, hl, Bool.false_eq_true, if_false, ih, answers,
        respond_eq_lineAnswer, List.append_assoc, List.length_cons, Nat.add_lt_add_iff_right]

/-- **each bridge prints the answers of its lines in order, and stops exactly at the end of
stdin**: with as many turns as lines its loop is still running -/
theorem bridges_answer_every_line (backends : Nat → Backend) (clock : Nat → PyStr)
    (stdin : List Line) :
    QdrantMCPServer.main backends clock stdin = some (answers Loads.loads
      (fun k => QdrantMCPServer.init.handleRequest (backends k) (clock k)) 0 stdin) ∧
    LocalAIMCPServer.main backends clock stdin = some (answers Loads.loads
      (fun k => LocalAIMCPServer.init.handleRequest (backends k) (clock k)) 0 stdin) ∧
    ∀ fuel ≤ stdin.length,
      mainLoop Loads.loads (fun k => QdrantMCPServer.init.handleRequest (backends k) (clock k))
        fuel 0 stdin [] = none ∧
      mainLoop Loads.loads (fun k => LocalAIMCPServer.init.handleRequest (backends k) (clock k))
        fuel 0 stdin [] = none := by
  refine ⟨?_, ?_, fun fuel hfuel => ?_⟩
  · rw [QdrantMCPServer.main, mainLoop_run, if_pos (Nat.lt_succ_self _), List.nil_append]
  · rw [LocalAIMCPServer.main, mainLoop_run, if_pos (Nat.lt_succ_self _), List.nil_append]
  · simp only [mainLoop_run, if_neg (Nat.not_lt.mpr hfuel), and_self]

/-- the line `\x7b"n":1000…0\x7d`, 4300 zeros, an object with one integer member -/
def bigIntLine : Line :=
  ⟨cp '{' :: cp '"' :: ([cp 'n'] ++ cp '"' :: cp ':' :: cp '1' ::
    (List.replicate 4300 (cp '0') ++ cp '}' :: [])), List.cons_ne_nil _ _⟩

/-- the object line gets the error form of the `ValueError` -/
theorem big_int_object_line_answered_with_error :
    QdrantMCPServer.main (fun _ => QdrantMCPServer.qdrantAck) (fun _ => pyStr "2026-01-01T00:00:00")
      [bigIntLine] = some [rpcError (Loads.intLimitError 4301).msg] := by
  have hstrip : strip bigIntLine.text = bigIntLine.text :=
    strip_eq_self (cp '{') (cp '}') (cp '"' :: cp 'n' :: cp '"' :: cp ':' :: cp '1' ::
      List.replicate 4300 (cp '0')) rfl rfl
  have hloads : Loads.loads bigIntLine.text =
      .error (Loads.intLimitError ((List.replicate 4300 (cp '0')).length + 1)) :=
    Loads.loads_object_big_int [cp 'n'] (cp '1') (List.replicate 4300 (cp '0')) []
      (fun c hc => by
        obtain rfl := List.eq_of_mem_singleton hc
        exact ⟨by decide, by decide, by decide⟩)
      rfl (by decide) (fun c hc => by rw [List.eq_of_mem_replicate hc]; rfl)
      (by rw [List.length_replicate]; decide)
  rw [List.length_replicate] at hloads
  rw [QdrantMCPServer.main, mainLoop_run, if_pos (Nat.lt_succ_self _), answers, answers,
    lineAnswer, hstrip, hloads]
  rfl

/-! ## failed calls -/

/-- **a call that raises is reported with an `error` key by every method of both bridges, and no
method reads the status of a response**: replacing it changes no result -/
theorem bridges_report_raised_calls (backend : Backend) (now : PyStr) (method params : Json)
    (h : ∀ r, ∃ e, fetch backend r = .error e) :
    (QdrantMCPServer.init.handleRequest backend now method params).hasKey (pyStr "error") = true ∧
    (LocalAIMCPServer.init.handleRequest backend now method params).hasKey (pyStr "error") =
      true ∧
    ∀ (server : Backend) (status : Nat),
      QdrantMCPServer.init.handleRequest (server.withStatus status) now method params =
        QdrantMCPServer.init.handleRequest server now method params ∧
      LocalAIMCPServer.init.handleRequest (server.withStatus status) now method params =
        LocalAIMCPServer.init.handleRequest server now method params :=
  ⟨QdrantMCPServer.handleRequest_failed _ _ _ _ _ h,
    LocalAIMCPServer.handleRequest_failed _ _ _ _ _ h,
    fun server status => ⟨QdrantMCPServer.handleRequest_withStatus _ server _ status _ _,
      LocalAIMCPServer.handleRequest_withStatus _ server _ status _ _⟩⟩

/-- no server listening: every call raises `ClientConnectorError` -/
def connectionRefused : Backend := fun _ =>
  .error ⟨.ClientError, pyStr "Cannot connect to host localhost:6333 ssl:default"⟩

theorem insert_with_no_server_reported :
    (∀ r, ∃ e, fetch connectionRefused r = .error e) ∧
    (QdrantMCPServer.init.handleRequest connectionRefused (pyStr "2026-01-01T00:00:00")
      (.s "qdrant_insert_vectors") (.obj [("vectors", .list [])])).hasKey (pyStr "error") = true ∧
    (LocalAIMCPServer.init.handleRequest connectionRefused (pyStr "2026-01-01T00:00:00")
      (.s "qdrant_insert_vectors") (.obj [("vectors", .list [])])).hasKey (pyStr "error") = true ∧
    ∀ (server : Backend) (status : Nat),
      QdrantMCPServer.init.handleRequest (server.withStatus status) (pyStr "2026-01-01T00:00:00")
          (.s "qdrant_insert_vectors") (.obj [("vectors", .list [])]) =
        QdrantMCPServer.init.handleRequest server (pyStr "2026-01-01T00:00:00")
          (.s "qdrant_insert_vectors") (.obj [("vectors", .list [])]) ∧
      LocalAIMCPServer.init.handleRequest (server.withStatus status)
          (pyStr "2026-01-01T00:00:00") (.s "qdrant_insert_vectors")
          (.obj [("vectors", .list [])]) =
        LocalAIMCPServer.init.handleRequest server (pyStr "2026-01-01T00:00:00")
          (.s "qdrant_insert_vectors") (.obj [("vectors", .list [])]) :=
  ⟨fun _ => ⟨_, rfl⟩, bridges_report_raised_calls connectionRefused (pyStr "2026-01-01T00:00:00")
    (.s "qdrant_insert_vectors") (.obj [("vectors", .list [])]) fun _ => ⟨_, rfl⟩⟩

/-- Qdrant without the collection: every call answers 404 with its error body -/
def qdrantNotFound : Backend := fun _ => .ok ⟨404, pyStr "Not Found", .ok (.obj [("status",
  .obj [("error", .s "Not found: Collection `ai_communication_vectors` doesn't exist!")]),
  ("time", .float (.fin (1 / 10000)))])⟩

/-- a 404 is reported as a success: an insert with no `error` key, and zero embeddings with
none -/
theorem not_found_reported_as_success :
    (∀ r, ∃ resp, qdrantNotFound r = .ok resp ∧ resp.status_code = 404) ∧
    (QdrantMCPServer.init.handleRequest qdrantNotFound (pyStr "2026-01-01T00:00:00")
      (.s "qdrant_insert_vectors") (.obj [("vectors", .list [.list [.float (.fin (1 / 10))]]),
        ("metadata", .list [.obj []])])).hasKey (pyStr "error") = false ∧
    (∀ r, ∃ resp, LocalAIMCPServer.embeddingNotFound r = .ok resp ∧ resp.status_code = 404) ∧
    LocalAIMCPServer.init.handleRequest LocalAIMCPServer.embeddingNotFound
        (pyStr "2026-01-01T00:00:00") (.s "embedding_generate") (.obj [("texts", .list [.s "hello"])]) =
      .obj [("embeddings", .list []), ("count", .int 0), ("dimension", .int 0),
        ("model", .s "unknown"), ("timestamp", .s "2026-01-01T00:00:00")] :=
  ⟨fun _ => ⟨_, rfl, rfl⟩, rfl, fun _ => ⟨_, rfl, rfl⟩, rfl⟩

end QQ
