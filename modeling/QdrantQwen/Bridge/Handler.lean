import QdrantQwen.Py.Http

/-!
# The handlers of the stdio bridges

Every handler method of the two bridges (`qdrant_mcp_server.py`, `localai_mcp_server.py`) has
one shape: build a request, make one `aiohttp` call, read `await response.json()`, build a
`dict` from the body, and turn any exception into `{'error': f'... failed: {str(e)}'}`.
`handle_request` picks the method by name and turns an exception of reading `params` into
`{'error': str(e)}`.

`aiohttp` raises no exception for a 4xx or 5xx status, and no handler reads
`response.status`: a handler sees a response only through its body (`fetch`).

* `bridgeHandler`          the shape of every handler method;
* `bridgeHandler_failed`   a call that raises gives an `error` key;
* `bridgeHandler_withStatus`   the status of the response does not change the result.
-/

namespace QQ

/-- `async with session.<verb>(...) as response: data = await response.json()` -/
def fetch (backend : Backend) (req : HttpReq) : Except PyExc Json := do
  let response ← backend req
  response.json

/-- `{'error': f'{what} failed: {str(e)}'}` -/
def failed (what : String) (e : PyExc) : Json :=
  .obj [("error", .str (pyStr what ++ pyStr " failed: " ++ e.msg))]

/-- a handler method: build the request (which may raise), make the call, build the result from
the body; its `except Exception` turns any exception into `failed what e` -/
def bridgeHandler (what : String) (backend : Backend) (req : Except PyExc HttpReq)
    (build : Json → Except PyExc Json) : Json :=
  match (do
      let data ← fetch backend (← req)
      build data) with
  | .ok result => result
  | .error e => failed what e

/-- `method == name` for a method read from a request -/
def isMethod (method : Json) (name : String) : Bool :=
  match method with
  | .str t => t == pyStr name
  | _ => false

/-- `{'error': f'Unknown method: {method}'}` -/
def unknownMethod (method : Json) : Json :=
  .obj [("error", .str (pyStr "Unknown method: " ++ method.toStr))]

/-- `handle_request`'s `try`: the method's result, or `{'error': str(e)}` -/
def dispatch (r : Except PyExc Json) : Json :=
  match r with
  | .ok result => result
  | .error e => .obj [("error", .str e.msg)]

/-! ## failures -/

@[simp] theorem failed_hasKey (what : String) (e : PyExc) :
    (failed what e).hasKey (pyStr "error") = true := rfl

@[simp] theorem unknownMethod_hasKey (method : Json) :
    (unknownMethod method).hasKey (pyStr "error") = true := rfl

/-- **a handler whose call raises reports an error** -/
theorem bridgeHandler_failed (what : String) (backend : Backend) (req : Except PyExc HttpReq)
    (build : Json → Except PyExc Json) (h : ∀ r, ∃ e, fetch backend r = .error e) :
    (bridgeHandler what backend req build).hasKey (pyStr "error") = true := by
  unfold bridgeHandler
  cases req with
  | error e => rfl
  | ok r =>
    obtain ⟨e, he⟩ := h r
    simp only [ok_bind, he, error_bind, failed_hasKey]

/-- `handle_request` reports an error when every method it may run does -/
theorem dispatch_hasKey (r : Except PyExc Json)
    (h : ∀ result, r = .ok result → result.hasKey (pyStr "error") = true) :
    (dispatch r).hasKey (pyStr "error") = true := by
  cases r with
  | error e => rfl
  | ok result => exact h result rfl

/-! ## the status is never read -/

/-- the same server with the status of every response replaced by `status` -/
def Backend.withStatus (backend : Backend) (status : Nat) : Backend :=
  fun req => (backend req).map fun r => { r with status_code := status }

theorem fetch_withStatus (backend : Backend) (status : Nat) :
    fetch (backend.withStatus status) = fetch backend := by
  funext req
  simp only [fetch, Backend.withStatus]
  cases backend req <;> rfl

@[simp] theorem bridgeHandler_withStatus (what : String) (backend : Backend) (status : Nat)
    (req : Except PyExc HttpReq) (build : Json → Except PyExc Json) :
    bridgeHandler what (backend.withStatus status) req build = bridgeHandler what backend req build := by
  simp only [bridgeHandler, fetch_withStatus]

end QQ
