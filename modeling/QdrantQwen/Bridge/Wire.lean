import QdrantQwen.Bridge.Main
import QdrantQwen.Py.RoundTrip

/-!
# What the bridges write to stdout

`main()` prints each answer with `print(json.dumps(response))` inside its `try`; when
`json.dumps` raises, `except Exception` prints the error form in its place, by a `json.dumps`
that cannot raise.  In the model the first `json.dumps` raises only on an `int` of more than
4300 digits inside a result, and such an `int` comes only from a `Backend` body: bodies are
arbitrary values here, which over-approximates `await response.json()`, whose `json.loads`
would have refused that literal before the handler saw it.  `json.dumps` escapes every character
outside printable ASCII, so each answer is written as exactly one line.

A client reading stdout line by line therefore gets one line per answered request, in order,
and `json.loads` of each line gives back the answer whenever the answer is `plain` and nested
at most `maxNesting` deep.  The other way, a client that writes each request object as one line
with `json.dumps` has every request answered, in order, under its `id`: no line of it is dropped
or answered with the error form.

* `printResponse`, `stdout`, `readLines`;
* `printResponse_line`        every answer is written as one line of printable ASCII, read back
                              when `plain`;
* `bridges_write_answer_lines`  the stdout of a run of either bridge, line by line;
* `rpcAnswers`                  the JSON-RPC server the bridges stand for, on request objects;
* `bridges_serve_dumped_requests`  a client writing its requests with `json.dumps` is served
                              by either bridge as by `rpcAnswers`;
* `answer_printed_unless_result_raises`  the `id` of a request never makes the answer's
                              `json.dumps` raise: only the method's result can.
-/

namespace QQ

open Dumps

/-- `print(json.dumps(response))` in the loop's `try`, and when `json.dumps` raises, the
`print(json.dumps(error_response))` of `except Exception` -/
def printResponse (response : Json) : Except PyExc PyStr :=
  match dumps response with
  | .ok text => .ok (text ++ [cp '\n'])
  | .error e => do
    let text ← dumps (rpcError e.msg)
    pure (text ++ [cp '\n'])

/-- what the loop writes for the answers it printed -/
def stdout : List Json → Except PyExc PyStr
  | [] => .ok []
  | r :: rs => do
    let line ← printResponse r
    let rest ← stdout rs
    pure (line ++ rest)

/-- the lines a reader of a stream gets from `readline` one after another, each with its
newline, `acc` holding the part of a line read so far -/
def readLinesFrom : PyStr → PyStr → List PyStr
  | [], [] => []
  | [], acc => [acc]
  | c :: s, acc => if c = cp '\n' then (acc ++ [c]) :: readLinesFrom s [] else readLinesFrom s (acc ++ [c])

/-- the lines of a stream -/
def readLines (s : PyStr) : List PyStr := readLinesFrom s []

/-! ## one answer -/

/-- the error form always prints: it holds only strings and `None` -/
theorem dumps_rpcError (msg : PyStr) : ∃ t, dumps (rpcError msg) = .ok t := ⟨_, rfl⟩

theorem newline_ws : ∀ c ∈ [cp '\n'], Loads.isWs c = true := fun c hc => by
  rw [List.mem_singleton.mp hc]
  rfl

/-- **every answer is written as one line of printable ASCII, which `json.loads` reads back as
the answer when it is `plain` and not too deep** -/
theorem printResponse_line (response : Json) :
    ∃ text, printResponse response = .ok (text ++ [cp '\n']) ∧
      (∀ c ∈ text, printable c = true) ∧
      (plain response = true → response.depth ≤ maxNesting →
        Loads.loads (text ++ [cp '\n']) = .ok response) := by
  cases h : dumps response with
  | ok t =>
    exact ⟨t, by rw [printResponse, h], printable_dumps _ t h,
      fun hp _ => loads_dumps_ws response hp t _ h newline_ws⟩
  | error e =>
    obtain ⟨t, ht⟩ := dumps_rpcError e.msg
    refine ⟨t, by rw [printResponse, h]; simp only [ht, ok_bind]; rfl, printable_dumps _ t ht,
      fun hp _ => ?_⟩
    obtain ⟨t', ht'⟩ := dumps_ok response hp
    rw [h] at ht'
    cases ht'

/-! ## the stream -/

theorem readLinesFrom_line (t s acc : PyStr) (ht : cp '\n' ∉ t) :
    readLinesFrom (t ++ cp '\n' :: s) acc = (acc ++ t ++ [cp '\n']) :: readLinesFrom s [] := by
  induction t generalizing acc with
  | nil => simp [readLinesFrom]
  | cons c t ih =>
    have hc : c ≠ cp '\n' := fun h => ht (h ▸ List.mem_cons_self c t)
    rw [List.cons_append, readLinesFrom, if_neg hc, ih _ fun h => ht (List.mem_cons_of_mem c h)]
    simp

/-- a stream of lines without a newline in them, each ended by one, is read line by line -/
theorem readLines_lines (texts : List PyStr) (h : ∀ t ∈ texts, cp '\n' ∉ t) :
    readLines (texts.flatMap (· ++ [cp '\n'])) = texts.map (· ++ [cp '\n']) := by
  induction texts with
  | nil => rfl
  | cons t ts ih =>
    rw [List.flatMap_cons, List.map_cons, readLines, List.append_assoc, List.singleton_append,
      readLinesFrom_line t _ [] (h t (List.mem_cons_self t ts)), List.nil_append, ← readLines,
      ih fun x hx => h x (List.mem_cons_of_mem t hx)]

theorem newline_not_printable (t : PyStr) (h : ∀ c ∈ t, printable c = true) : cp '\n' ∉ t :=
  fun hn => absurd (h _ hn) (by decide)

/-- `texts`, each ended by a newline, are what a client reads for `responses`: one line per
answer, in order, of printable ASCII, which `json.loads` reads back as its answer when `plain`
and nested at most `maxNesting` deep -/
def AnswerLines (texts : List PyStr) (responses : List Json) : Prop :=
  readLines (texts.flatMap (· ++ [cp '\n'])) = texts.map (· ++ [cp '\n']) ∧
    texts.length = responses.length ∧ (∀ t ∈ texts, ∀ c ∈ t, printable c = true) ∧
    ∀ p ∈ texts.zip responses, plain p.2 = true → p.2.depth ≤ maxNesting →
      Loads.loads (p.1 ++ [cp '\n']) = .ok p.2

/-- the loop's stdout for any answers -/
theorem stdout_lines (responses : List Json) :
    ∃ texts, stdout responses = .ok (texts.flatMap (· ++ [cp '\n'])) ∧
      AnswerLines texts responses := by
  induction responses with
  | nil => refine ⟨[], rfl, rfl, rfl, ?_, ?_⟩ <;> intro x hx <;> cases hx
  | cons r rs ih =>
    obtain ⟨texts, hout, -, hlen, hpr, hread⟩ := ih
    obtain ⟨t, ht, htp, htr⟩ := printResponse_line r
    have hpr' : ∀ x ∈ t :: texts, ∀ c ∈ x, printable c = true := fun x hx =>
      (List.mem_cons.mp hx).elim (fun h => h ▸ htp) (hpr x)
    refine ⟨t :: texts, by rw [stdout, ht, ok_bind, hout, ok_bind, List.flatMap_cons]; rfl,
      readLines_lines _ fun x hx => newline_not_printable x (hpr' x hx),
      by rw [List.length_cons, List.length_cons, hlen], hpr', fun p hp => ?_⟩
    rcases List.mem_cons.mp hp with rfl | hp
    · exact htr
    · exact hread p hp

/-- **a client reading the stdout of either bridge line by line gets one line per answered
request, in order, each of printable ASCII, and `json.loads` of a line gives back its answer
whenever that answer is `plain`**, whatever the backends and the clock answer -/
theorem bridges_write_answer_lines (backends : Nat → Backend) (clock : Nat → PyStr)
    (stdin : List Line) :
    (∃ texts, (QdrantMCPServer.main backends clock stdin).map stdout =
        some (.ok (texts.flatMap (· ++ [cp '\n']))) ∧
      AnswerLines texts (answers Loads.loads
        (fun k => QdrantMCPServer.init.handleRequest (backends k) (clock k)) 0 stdin)) ∧
    (∃ texts, (LocalAIMCPServer.main backends clock stdin).map stdout =
        some (.ok (texts.flatMap (· ++ [cp '\n']))) ∧
      AnswerLines texts (answers Loads.loads
        (fun k => LocalAIMCPServer.init.handleRequest (backends k) (clock k)) 0 stdin)) := by
  obtain ⟨tq, hq, hlq⟩ := stdout_lines (answers Loads.loads
    (fun k => QdrantMCPServer.init.handleRequest (backends k) (clock k)) 0 stdin)
  obtain ⟨tl, hl, hll⟩ := stdout_lines (answers Loads.loads
    (fun k => LocalAIMCPServer.init.handleRequest (backends k) (clock k)) 0 stdin)
  refine ⟨⟨tq, ?_, hlq⟩, ⟨tl, ?_, hll⟩⟩
  · rw [QdrantMCPServer.main, mainLoop_run, if_pos (Nat.lt_succ_self _), List.nil_append,
      Option.map_some', hq]
  · rw [LocalAIMCPServer.main, mainLoop_run, if_pos (Nat.lt_succ_self _), List.nil_append,
      Option.map_some', hl]

/-! ## a client writing its requests with `json.dumps` -/

/-- the JSON-RPC server the bridges stand for: each request object answered in turn, under its
`id`, with what `handle k` gives for its `method` and `params` -/
def rpcAnswers (handle : Nat → Json → Json → Json) : Nat → List (List (PyStr × Json)) → List Json
  | _, [] => []
  | k, kvs :: reqs =>
    rpcResult ((kvs.lookup (pyStr "id")).getD .null)
      (handle k ((kvs.lookup (pyStr "method")).getD (.s ""))
        ((kvs.lookup (pyStr "params")).getD (.obj []))) :: rpcAnswers handle (k + 1) reqs

/-- `line` is what a client writes for the request object `kvs`: `json.dumps(request)` and a
newline, the request `plain` and nested at most `maxNesting` deep -/
def RequestLine (kvs : List (PyStr × Json)) (line : Line) : Prop :=
  plain (.dict kvs) = true ∧ (Json.dict kvs).depth ≤ maxNesting ∧
    ∃ t, dumps (.dict kvs) = .ok t ∧ line.text = t ++ [cp '\n']

theorem dumps_dict_braces (kvs : List (PyStr × Json)) (t : PyStr)
    (ht : dumps (.dict kvs) = .ok t) : ∃ m, t = cp '{' :: (m ++ [cp '}']) := by
  match kvs, ht with
  | [], ht => cases ht; exact ⟨[], rfl⟩
  | (k, v) :: kvs, ht =>
    obtain ⟨a, -, ht⟩ := bind_eq_ok ht
    obtain ⟨b, -, ht⟩ := bind_eq_ok ht
    cases ht
    exact ⟨_, rfl⟩

/-- `str.strip()` takes the newline off a line that starts and ends with a non-space -/
theorem strip_newline (c e : CodePoint) (m : PyStr) (hc : isSpace c = false)
    (he : isSpace e = false) : strip (c :: (m ++ [e]) ++ [cp '\n']) = c :: (m ++ [e]) := by
  have hrev : (c :: (m ++ [e]) ++ [cp '\n']).reverse = cp '\n' :: e :: (m.reverse ++ [c]) := by
    simp
  rw [strip, List.cons_append, List.dropWhile_cons_of_neg (by simp [hc]), ← List.cons_append, hrev,
    List.dropWhile_cons_of_pos (by decide), List.dropWhile_cons_of_neg (by simp [he])]
  simp

/-- the bridge reads a request line back as its request -/
theorem loads_requestLine (kvs : List (PyStr × Json)) (line : Line) (h : RequestLine kvs line) :
    Loads.loads (strip line.text) = .ok (.dict kvs) := by
  obtain ⟨hp, -, t, ht, hl⟩ := h
  have hload : Loads.loads t = .ok (.dict kvs) := by
    simpa using loads_dumps_ws _ hp t [] ht fun _ h => by cases h
  obtain ⟨m, rfl⟩ := dumps_dict_braces kvs _ ht
  rw [hl, strip_newline _ _ m (by decide) (by decide), hload]

/-- the bridge answers a request line with the result of its method, under its `id` -/
theorem lineAnswer_request (handleRequest : Json → Json → Json) (kvs : List (PyStr × Json))
    (line : Line) (h : RequestLine kvs line) :
    lineAnswer Loads.loads handleRequest line.text = some (rpcResult
      ((kvs.lookup (pyStr "id")).getD .null) (handleRequest ((kvs.lookup (pyStr "method")).getD
        (.s "")) ((kvs.lookup (pyStr "params")).getD (.obj [])))) := by
  rw [lineAnswer, loads_requestLine kvs line h]

/-- the answers to request lines are the server's answers to the requests -/
theorem answers_requests (handle : Nat → Json → Json → Json) (k : Nat)
    {reqs : List (List (PyStr × Json))} {stdin : List Line} (h : List.Forall₂ RequestLine reqs stdin) :
    answers Loads.loads handle k stdin = rpcAnswers handle k reqs := by
  induction h generalizing k with
  | nil => rfl
  | cons hl _ ih =>
    rw [answers, lineAnswer_request _ _ _ hl, Option.toList_some, List.singleton_append, ih,
      rpcAnswers]

/-- **a client that writes its requests as `json.dumps` lines is answered by either bridge once
per request, in order, each under its `id` with the result of its `method` on its `params`**:
no request line is dropped or answered with the error form -/
theorem bridges_serve_dumped_requests (backends : Nat → Backend) (clock : Nat → PyStr)
    (reqs : List (List (PyStr × Json))) (stdin : List Line)
    (h : List.Forall₂ RequestLine reqs stdin) :
    QdrantMCPServer.main backends clock stdin = some (rpcAnswers
      (fun k => QdrantMCPServer.init.handleRequest (backends k) (clock k)) 0 reqs) ∧
    LocalAIMCPServer.main backends clock stdin = some (rpcAnswers
      (fun k => LocalAIMCPServer.init.handleRequest (backends k) (clock k)) 0 reqs) := by
  constructor
  · rw [QdrantMCPServer.main, mainLoop_run, if_pos (Nat.lt_succ_self _), List.nil_append,
      answers_requests _ _ h]
  · rw [LocalAIMCPServer.main, mainLoop_run, if_pos (Nat.lt_succ_self _), List.nil_append,
      answers_requests _ _ h]

/-- `\x7b"method": "qdrant_health", "id": 1\x7d` -/
def healthRequest : List (PyStr × Json) :=
  [(pyStr "method", .str (pyStr "qdrant_health")), (pyStr "id", .int 1)]

/-- the line a client writes for it -/
def healthLine : Line := ⟨pyStr "\x7b\"method\": \"qdrant_health\", \"id\": 1\x7d\n", by decide⟩

/-- the health request, written with `json.dumps`, with no server listening -/
theorem health_request_served :
    List.Forall₂ RequestLine [healthRequest] [healthLine] ∧
    QdrantMCPServer.main (fun _ => connectionRefused) (fun _ => []) [healthLine] =
      some (rpcAnswers (fun _ => QdrantMCPServer.init.handleRequest connectionRefused []) 0
        [healthRequest]) ∧
    LocalAIMCPServer.main (fun _ => connectionRefused) (fun _ => []) [healthLine] =
      some (rpcAnswers (fun _ => LocalAIMCPServer.init.handleRequest connectionRefused []) 0
        [healthRequest]) :=
  have h : List.Forall₂ RequestLine [healthRequest] [healthLine] :=
    .cons ⟨rfl, by decide, _, rfl, rfl⟩ .nil
  ⟨h, bridges_serve_dumped_requests _ _ _ _ h⟩

/-! ## the `id` of a request never stops its answer from printing -/

theorem dumpsMembers_values : ∀ (kvs : List (PyStr × Json)) (t : PyStr), dumpsMembers kvs = .ok t →
    ∀ kv ∈ kvs, ∃ t, dumps kv.2 = .ok t
  | [], _, _ => fun _ h => by cases h
  | (k, v) :: kvs, t, h => by
    obtain ⟨a, ha, h⟩ := bind_eq_ok h
    obtain ⟨b, hb, -⟩ := bind_eq_ok h
    intro kv hkv
    rcases List.mem_cons.mp hkv with rfl | hkv
    · exact ⟨a, ha⟩
    · exact dumpsMembers_values kvs b hb kv hkv

theorem dumps_dict_values (kvs : List (PyStr × Json)) (t : PyStr) (h : dumps (.dict kvs) = .ok t) :
    ∀ kv ∈ kvs, ∃ t, dumps kv.2 = .ok t := by
  match kvs, h with
  | [], _ => exact fun _ h => by cases h
  | (k, v) :: kvs, h =>
    obtain ⟨a, ha, h⟩ := bind_eq_ok h
    obtain ⟨b, hb, -⟩ := bind_eq_ok h
    intro kv hkv
    rcases List.mem_cons.mp hkv with rfl | hkv
    · exact ⟨a, ha⟩
    · exact dumpsMembers_values kvs b hb kv hkv

/-- `request.get(k, d)` has a property every value of the request and `d` have -/
theorem lookup_getD_values (P : Json → Prop) (kvs : List (PyStr × Json)) (k : PyStr) (d : Json)
    (h : ∀ kv ∈ kvs, P kv.2) (hd : P d) : P ((kvs.lookup k).getD d) := by
  induction kvs with
  | nil => exact hd
  | cons kv kvs ih =>
    obtain ⟨k', v'⟩ := kv
    rw [List.lookup_cons]
    split
    · exact h _ (List.mem_cons_self _ _)
    · exact ih fun kv hkv => h kv (List.mem_cons_of_mem _ hkv)

/-- the response prints when its result does, and raises what its result raises otherwise -/
theorem dumps_rpcResult (id result : Json) (ti : PyStr) (hid : dumps id = .ok ti) :
    ((∃ t, dumps result = .ok t) → ∃ text, dumps (rpcResult id result) = .ok text) ∧
      ∀ e, dumps result = .error e → dumps (rpcResult id result) = .error e := by
  constructor
  · rintro ⟨t, ht⟩
    simp only [rpcResult, Json.obj, List.map, dumps, dumpsMembers, hid, ht, ok_bind]
    exact ⟨_, rfl⟩
  · intro e he
    simp only [rpcResult, Json.obj, List.map, dumps, dumpsMembers, hid, he, ok_bind, error_bind]

/-- **a line that `json.loads` reads as a request object is answered under an `id` that never
makes `json.dumps` raise: whatever the result of its method, the bridge prints the response
itself when the result prints, and otherwise the error form of what the result raised** -/
theorem answer_printed_unless_result_raises (line : PyStr) (kvs : List (PyStr × Json))
    (hl : Loads.loads (strip line) = .ok (.dict kvs)) (result : Json) :
    ((∃ t, dumps result = .ok t) →
      ∃ text, dumps (rpcResult ((kvs.lookup (pyStr "id")).getD .null) result) = .ok text ∧
        printResponse (rpcResult ((kvs.lookup (pyStr "id")).getD .null) result) =
          .ok (text ++ [cp '\n'])) ∧
    ∀ e, dumps result = .error e →
      printResponse (rpcResult ((kvs.lookup (pyStr "id")).getD .null) result) =
        printResponse (rpcError e.msg) := by
  obtain ⟨t, ht⟩ := dumps_loads _ _ hl
  obtain ⟨ti, hid⟩ := lookup_getD_values (fun v => ∃ t, dumps v = .ok t) kvs (pyStr "id") .null
    (dumps_dict_values kvs t ht) ⟨_, rfl⟩
  refine ⟨fun hr => ?_, fun e he => ?_⟩
  · obtain ⟨text, htext⟩ := (dumps_rpcResult _ result ti hid).1 hr
    exact ⟨text, htext, by rw [printResponse, htext]⟩
  · obtain ⟨te, hte⟩ := dumps_rpcError e.msg
    simp only [printResponse, (dumps_rpcResult _ result ti hid).2 e he, hte, ok_bind]
    rfl

/-- the health request line, answered with `None` -/
theorem health_line_answer_printed :
    Loads.loads (strip healthLine.text) = .ok (.dict healthRequest) ∧
    ((∃ t, dumps .null = .ok t) →
      ∃ text, dumps (rpcResult ((healthRequest.lookup (pyStr "id")).getD .null) .null) = .ok text ∧
        printResponse (rpcResult ((healthRequest.lookup (pyStr "id")).getD .null) .null) =
          .ok (text ++ [cp '\n'])) ∧
    ∀ e, dumps .null = .error e →
      printResponse (rpcResult ((healthRequest.lookup (pyStr "id")).getD .null) .null) =
        printResponse (rpcError e.msg) :=
  have hl := loads_requestLine healthRequest healthLine ⟨rfl, by decide, _, rfl, rfl⟩
  ⟨hl, answer_printed_unless_result_raises _ _ hl _⟩

end QQ
