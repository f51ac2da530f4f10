import ClusterAccess.Client

/-!
# The life of a client

An `Operation` is what a caller can do with a client. `Client.perform` does one and gives a `Step`: the
client as it is afterwards, what was told, which requests were sent and what the caller gets.
`Client.run` does several in a row; the server counts the requests of all of them. `Client.performOver` and
`Client.runOver` do the same over a `Network` that may lose answers.
-/

namespace ClusterAccess.Client

inductive Operation where
  | rootPaths
  | close
  /-- Enters a block that the client is open in. -/
  | enter
  /-- Leaves the block, perhaps because of a failure, which goes on to the caller. -/
  | leave (failure : Option Failure)

/-- What a caller gets back. -/
inductive Reply where
  | document (paths : Json)
  | client
  | nothing

/-- What an operation does. -/
structure Step where
  client : Client
  events : List Event
  requests : List Http.Request
  outcome : Except Failure Reply

/-- A step that closes the client. -/
def closing (c : Client) (outcome : Except Failure Reply) : Step :=
  ⟨c.close.2, c.close.1, [], outcome⟩

/-- Does one operation, beginning with request number `n`. -/
def perform (c : Client) (server : Http.Server) (n : Nat) : Operation → Step
  | .rootPaths =>
    let answer := c.rootPaths server n
    ⟨c, [], answer.requests, answer.outcome.map .document⟩
  | .close => c.closing (.ok .nothing)
  | .enter => ⟨c, [], [], .ok .client⟩
  | .leave none => c.closing (.ok .nothing)
  | .leave (some failure) => c.closing (.error failure)

/-- Does operations in a row, beginning with request number `n`. -/
def run (c : Client) (server : Http.Server) (n : Nat) : List Operation → List Step
  | [] => []
  | op :: ops =>
    let step := c.perform server n op
    step :: run step.client server (n + step.requests.length) ops

/-! ## Lost answers -/

/-- What answers requests: a server, some of whose answers are lost on the way. -/
structure Network where
  server : Http.Server
  /-- The failure that a caller meets in place of an answer. -/
  lost : Nat → Option Failure := fun _ => none

/-- The first request of a step whose answer is lost; the requests of the step begin with number `n`. -/
def Step.firstLost (lost : Nat → Option Failure) (n : Nat) (s : Step) : Option (Nat × Failure) :=
  (List.range s.requests.length).findSome? fun i => (lost (n + i)).map fun failure => (i, failure)

/-- A step ends with the first answer that is lost. Nothing is sent after its request. -/
def Step.cutShort (lost : Nat → Option Failure) (n : Nat) (s : Step) : Step :=
  match s.firstLost lost n with
  | none => s
  | some (i, failure) => { s with requests := s.requests.take (i + 1), outcome := .error failure }

/-- Does one operation over a network, beginning with request number `n`. -/
def performOver (c : Client) (network : Network) (n : Nat) (op : Operation) : Step :=
  (c.perform network.server n op).cutShort network.lost n

/-- Does operations in a row over a network, beginning with request number `n`. -/
def runOver (c : Client) (network : Network) (n : Nat) : List Operation → List Step
  | [] => []
  | op :: ops =>
    let step := c.performOver network n op
    step :: runOver step.client network (n + step.requests.length) ops

/-! ## Runs -/

/-- The client after steps that began with it. -/
def after (c : Client) (steps : List Step) : Client := (steps.getLast?.map (·.client)).getD c

theorem run_cons (c : Client) (server : Http.Server) (n : Nat) (op : Operation) (ops : List Operation) :
    c.run server n (op :: ops) =
      c.perform server n op ::
        (c.perform server n op).client.run server (n + (c.perform server n op).requests.length) ops :=
  rfl

theorem runOver_cons (c : Client) (network : Network) (n : Nat) (op : Operation) (ops : List Operation) :
    c.runOver network n (op :: ops) =
      c.performOver network n op ::
        (c.performOver network n op).client.runOver network
          (n + (c.performOver network n op).requests.length) ops :=
  rfl

section

variable {network : Network} (lossless : ∀ i, network.lost i = none)

include lossless

theorem performOver_eq_perform (c : Client) (n : Nat) (op : Operation) :
    c.performOver network n op = c.perform network.server n op := by
  have kept : (c.perform network.server n op).firstLost network.lost n = none := by
    simp [Step.firstLost, lossless]
  rw [performOver, Step.cutShort, kept]

/-- A network that loses nothing answers as its server does. -/
theorem runOver_eq_run (c : Client) (n : Nat) (ops : List Operation) :
    c.runOver network n ops = c.run network.server n ops := by
  induction ops generalizing c n with
  | nil => rfl
  | cons op ops ih => rw [runOver_cons, run_cons, performOver_eq_perform lossless, ih]

end

end ClusterAccess.Client
