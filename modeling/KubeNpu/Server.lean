import KubeNpu.Metrics

/-!
# `pkg/metrics/server.go`: the metrics server

Three paths are served: the process is alive, the process is ready, and a scrape.
The library `net/http` belongs to the language; of it the model keeps the exact
match of a path, the answer to any other path, and the order of a listener's life:
`Shutdown` closes it for good, whether or not it was ever open.
-/

namespace KubeNpu

/-- What a handler writes. -/
inductive Response where
  | text (status : ℕ) (body : String)
  /-- The text format of a scrape, from `promhttp.HandlerFor`. -/
  | metrics (scrape : List Metric)

/-- `http.StatusOK`. -/
def statusOK : ℕ := 200

/-- `http.StatusServiceUnavailable`. -/
def statusServiceUnavailable : ℕ := 503

/-- The handler of `NewServer`: `ready` is what the function of that name returns, or
`none` for a nil function. -/
def serveHTTP (ready : Option Bool) (scrape : List Metric) (path : String) : Response :=
  if path = "/healthz" then .text statusOK "ok"
  else if path = "/readyz" then
    if ready = some true then .text statusOK "ok"
    else .text statusServiceUnavailable "not ready\n"
  else if path = "/metrics" then .metrics scrape
  else .text 404 "404 page not found\n"

/-- The life of the listener. -/
inductive ServerState where
  /-- `Run` was not called. -/
  | idle
  /-- `Run` was called, and does not listen yet. -/
  | starting
  | listening
  /-- `ListenAndServe` returned an error of its own, which is logged. -/
  | failed
  /-- `Shutdown` was called. -/
  | closed
  deriving DecidableEq, Repr

end KubeNpu
