import QdrantQwen.Py.Json

/-!
# HTTP calls to the backends

Every backend call of the programs, with `requests` in the two FastAPI services and with
`aiohttp` in the two stdio bridges, sends one request and gets back a response or an
exception (a refused connection, a timeout).  What the backend does is not known, so it is a
parameter: a `Backend` maps each request to any outcome, and a theorem over all backends holds
whatever the servers answer.

* `HttpReq`, `Response`, `Backend`   a request, what comes back, and a server;
* `raiseForStatus`               `requests`' check of the status, the only place where the
                                   programs look at it (the bridges never do).
-/

namespace QQ

/-- the HTTP method of a call -/
inductive Verb where
  | GET
  | PUT
  | POST
  deriving DecidableEq

/-- one HTTP request: method, URL and the `json=` payload -/
structure HttpReq where
  verb : Verb
  url : PyStr
  json : Option Json

/-- what a call comes back with: the status, its reason phrase, and what `response.json()`
gives, the body read as JSON or the exception of reading it -/
structure Response where
  status_code : Nat
  reason : PyStr
  json : Except PyExc Json

/-- a server: any outcome for any request -/
def Backend := HttpReq → Except PyExc Response

/-- `response.raise_for_status()` of `requests`, for the response to a request to `url` -/
def raiseForStatus (url : PyStr) (r : Response) : Except PyExc Unit :=
  if 400 ≤ r.status_code ∧ r.status_code < 500 then
    .error ⟨.RequestException, showInt r.status_code ++ pyStr " Client Error: " ++ r.reason ++
      pyStr " for url: " ++ url⟩
  else if 500 ≤ r.status_code ∧ r.status_code < 600 then
    .error ⟨.RequestException, showInt r.status_code ++ pyStr " Server Error: " ++ r.reason ++
      pyStr " for url: " ++ url⟩
  else .ok ()

theorem raiseForStatus_ok (url : PyStr) (r : Response) (h : r.status_code < 400) :
    raiseForStatus url r = .ok () := by
  simp only [raiseForStatus]
  rw [if_neg (by omega), if_neg (by omega)]

/-- a status in `[400, 600)` raises -/
theorem raiseForStatus_error (url : PyStr) (r : Response) (h1 : 400 ≤ r.status_code)
    (h2 : r.status_code < 600) : ∃ e, raiseForStatus url r = .error e := by
  unfold raiseForStatus
  split_ifs <;> first | exact ⟨_, rfl⟩ | omega

end QQ
