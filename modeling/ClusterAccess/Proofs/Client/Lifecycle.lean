import ClusterAccess.Client.Lifecycle
import ClusterAccess.Proofs.Client.Requests

/-!
# How a client lives and ends

A client ends with the first of its operations that `ends` one: a call of `close` or the end of a block. An
operation that ends a client closes it, and any other leaves it as it is (`client_performOver`). After any
run the client is thus the one it was or that one closed (`client_runOver`), and what was told is told once
(`events_runOver`). From this follows what each step of a run leaves (`lifecycle`).
-/

namespace ClusterAccess

variable {via : Pki.Provider}

/-- The event that tells of the end of a client. -/
def Event.isClosing : Event → Bool
  | .clientClosed .. => true
  | _ => false

namespace Client

/-- The operation ends a client that is open. -/
def Operation.ends : Operation → Bool
  | .close => true
  | .leave _ => true
  | .rootPaths => false
  | .enter => false

/-! ## Closing -/

/-- To close a client again changes nothing and tells nothing. -/
theorem close_close (c : Client) : c.close.2.close = ([], c.close.2) := by
  unfold close
  split <;> simp_all

/-! ## Steps -/

section

variable (c : Client) (network : Network) (n : Nat)

theorem client_cutShort (lost : Nat → Option Failure) (s : Step) : (s.cutShort lost n).client = s.client := by
  unfold Step.cutShort
  split <;> rfl

theorem events_cutShort (lost : Nat → Option Failure) (s : Step) : (s.cutShort lost n).events = s.events := by
  unfold Step.cutShort
  split <;> rfl

/-- A step that sends nothing loses nothing. -/
theorem cutShort_of_requests_nil (lost : Nat → Option Failure) {s : Step} (h : s.requests = []) :
    s.cutShort lost n = s := by
  have kept : s.firstLost lost n = none := by simp [Step.firstLost, h]
  rw [Step.cutShort, kept]

/-- An operation that ends a client closes it, and any other leaves it as it is. -/
theorem client_performOver (op : Operation) :
    (c.performOver network n op).client = if op.ends then c.close.2 else c := by
  rw [performOver, client_cutShort]
  cases op with
  | leave failure => cases failure <;> rfl
  | _ => rfl

theorem events_performOver (op : Operation) :
    (c.performOver network n op).events = if op.ends then c.close.1 else [] := by
  rw [performOver, events_cutShort]
  cases op with
  | leave failure => cases failure <;> rfl
  | _ => rfl

/-! ## Runs -/

theorem length_runOver (ops : List Operation) : (c.runOver network n ops).length = ops.length := by
  induction ops generalizing c n with
  | nil => rfl
  | cons op ops ih => rw [runOver_cons, List.length_cons, List.length_cons, ih]

/-- The first steps of a run are the run of the first operations. -/
theorem runOver_take (ops : List Operation) (k : Nat) :
    c.runOver network n (ops.take k) = (c.runOver network n ops).take k := by
  induction ops generalizing c n k with
  | nil => simp [runOver]
  | cons op ops ih =>
    cases k with
    | zero => rfl
    | succ k => rw [List.take_succ_cons, runOver_cons, runOver_cons, List.take_succ_cons, ih]

theorem after_cons_steps (step : Step) (steps : List Step) :
    c.after (step :: steps) = step.client.after steps := by
  cases steps with
  | nil => rfl
  | cons next steps =>
    have last : (next :: steps).getLast? = some ((next :: steps).getLast (by simp)) :=
      List.getLast?_eq_some_getLast _
    rw [after, after, List.getLast?_cons_cons, last]
    rfl

/-- After a run the client is the one it was, or that one closed. -/
theorem client_runOver (ops : List Operation) :
    c.after (c.runOver network n ops) = if ops.any Operation.ends then c.close.2 else c := by
  induction ops generalizing c n with
  | nil => rfl
  | cons op ops ih =>
    rw [runOver_cons, after_cons_steps, ih, client_performOver, List.any_cons]
    cases op.ends with
    | false => simp
    | true => simp [close_close]

/-- A run tells once that it closed the client. -/
theorem events_runOver (ops : List Operation) :
    (c.runOver network n ops).flatMap (·.events) = if ops.any Operation.ends then c.close.1 else [] := by
  induction ops generalizing c n with
  | nil => rfl
  | cons op ops ih =>
    rw [runOver_cons, List.flatMap_cons, ih, events_performOver, client_performOver, List.any_cons]
    cases op.ends with
    | false => simp
    | true => simp [close_close]

/-- A step of a run is the operation done by the client that the steps before left. -/
theorem getElem?_runOver {ops : List Operation} {k : Nat} {op : Operation} (h : ops[k]? = some op) :
    ∃ m, (c.runOver network n ops)[k]? =
      some ((c.after (c.runOver network n (ops.take k))).performOver network m op) := by
  induction ops generalizing c n k with
  | nil => cases h
  | cons first ops ih =>
    cases k with
    | zero =>
      cases h
      exact ⟨n, rfl⟩
    | succ k =>
      rw [List.getElem?_cons_succ] at h
      obtain ⟨m, hm⟩ := ih (c.performOver network n first).client
        (n + (c.performOver network n first).requests.length) h
      refine ⟨m, ?_⟩
      rw [runOver_cons, List.getElem?_cons_succ, hm, List.take_succ_cons, runOver_cons, after_cons_steps]

end

/-! ## Lives of opened clients -/

/-- What holds of a client that has done `done`, the last of it `op` in one step, and of all that was told
since the client was opened. -/
structure Lives (c : Config) (told : List Event) (done : List Operation) (before : Client)
    (op : Operation) (step : Step) : Prop where
  flag : step.client.closed = true ↔ ∃ op ∈ done, op.ends = true
  transport : step.client.session.closed = true ↔ ∃ op ∈ done, op.ends = true
  log : told.filter Event.isClosing =
    if step.client.closed then [.clientClosed c.masterUrl] else []
  /-- A session that changes was open and is closed. -/
  once : step.client.session ≠ before.session →
    before.session.closed = false ∧ step.client.session = before.session.close
  stays : before.closed = true → step.client = before
  asks : op = .rootPaths → step.client = before
  refuses : op = .rootPaths → before.closed = true →
    step.requests = [] ∧ step.outcome = .error .clientClosed

/-- The client of a configuration as it is opened. -/
structure IsNew (c : Config) (client : Client) : Prop where
  config : client.config = c
  opened : client.closed = false
  transport : client.session.closed = false
  master : ∃ url, Url.parse c.masterUrl = .ok url

theorem isNew_of_ofConfig {c : Config} {fs : Filesystem} {client : Client}
    (h : (ofConfig via c fs).outcome = .ok client) : IsNew c client := by
  obtain ⟨-, checked, context, -, rfl⟩ := ofConfig_eq_ok h
  obtain ⟨master, -, hm, -⟩ := checkEndpoints_eq_ok checked
  exact ⟨rfl, rfl, rfl, master, hm⟩

/-- Opening a client tells nothing of an end. -/
theorem closing_told (c : Config) : (told c).filter Event.isClosing = [] := by
  rw [List.filter_eq_nil_iff]
  intro e he
  simp only [told, Tls.Context.told, Config.toldOfAuth, List.mem_append, List.mem_ite_nil_right,
    List.mem_singleton] at he
  obtain ((⟨-, rfl⟩ | ⟨-, rfl⟩) | ⟨-, rfl⟩) | rfl := he <;> exact Bool.false_ne_true

section

variable {c : Config} {client : Client}

theorem IsNew.close_eq (new : IsNew c client) :
    client.close = ([.clientClosed c.masterUrl],
      { client with session := client.session.close, closed := true }) := by
  rw [close, new.opened, new.config]
  rfl

/-- A client that is closed sends nothing. -/
theorem performOver_rootPaths_of_closed {closed : Client} (h : closed.session.closed = true) {url : Url}
    (hu : Url.parse closed.config.masterUrl = .ok url) (network : Network) (n : Nat) :
    (closed.performOver network n .rootPaths).requests = [] ∧
      (closed.performOver network n .rootPaths).outcome = .error .clientClosed := by
  have answer : closed.rootPaths network.server n = ⟨[], .error .clientClosed⟩ := by
    rw [rootPaths, hu]
    simp only [Http.Session.get_of_closed h]
    rfl
  have nothing : (closed.perform network.server n .rootPaths).requests = [] := by
    rw [perform, answer]
  rw [performOver, cutShort_of_requests_nil n network.lost nothing]
  refine ⟨nothing, ?_⟩
  rw [perform, answer]
  rfl

theorem IsNew.transport_close (new : IsNew c client) : client.close.2.session.closed = true := by
  rw [new.close_eq]
  rfl

theorem IsNew.config_close (new : IsNew c client) : client.close.2.config = c := by
  rw [new.close_eq]
  exact new.config

/-- A step of an open client that ends it, or that does not. -/
theorem lives_of_open (new : IsNew c client) {told : List Event} {past : List Operation}
    {op : Operation} {step : Step} (unended : past.any Operation.ends = false)
    (next : step.client = if op.ends then client.close.2 else client)
    (log : told.filter Event.isClosing = if op.ends then [.clientClosed c.masterUrl] else []) :
    Lives c told (past ++ [op]) client op step := by
  have ended : (∃ o ∈ past ++ [op], o.ends = true) ↔ op.ends = true := by
    rw [← List.any_eq_true, List.any_append, unended]
    simp
  cases h : op.ends with
  | false =>
    rw [h] at next log ended
    rw [if_neg nofun] at next
    refine ⟨?_, ?_, ?_, fun changed => absurd (by rw [next]) changed, fun _ => next, fun _ => next, ?_⟩
    · rw [next, ended, new.opened]
    · rw [next, ended, new.transport]
    · rw [next, log, new.opened]
    · intro _ closed
      rw [new.opened] at closed
      cases closed
  | true =>
    rw [h] at next log ended
    rw [if_pos rfl] at next
    have away : op ≠ .rootPaths := by
      rintro rfl
      cases h
    refine ⟨?_, ?_, ?_, fun _ => ⟨new.transport, ?_⟩, ?_, fun asks => absurd asks away,
      fun asks => absurd asks away⟩
    · rw [next, ended, new.close_eq]
    · rw [next, ended, new.transport_close]
    · rw [next, log, new.close_eq]
    · rw [next, new.close_eq]
    · intro closed
      rw [new.opened] at closed
      cases closed

/-- A step of a client that has ended leaves it as it is. -/
theorem lives_of_closed (new : IsNew c client) {told : List Event} {past : List Operation}
    {op : Operation} {step : Step} (ended : past.any Operation.ends = true)
    (next : step.client = client.close.2)
    (log : told.filter Event.isClosing = [.clientClosed c.masterUrl])
    (refuses : op = .rootPaths → step.requests = [] ∧ step.outcome = .error .clientClosed) :
    Lives c told (past ++ [op]) client.close.2 op step := by
  have ended' : ∃ o ∈ past ++ [op], o.ends = true := by
    rw [← List.any_eq_true, List.any_append, ended]
    rfl
  have closed : client.close.2.closed = true := by rw [new.close_eq]
  refine ⟨?_, ?_, ?_, fun changed => absurd (by rw [next]) changed, fun _ => next, fun _ => next,
    fun asks _ => refuses asks⟩
  · rw [next]
    exact iff_of_true closed ended'
  · rw [next]
    exact iff_of_true new.transport_close ended'
  · rw [next, log, closed]
    rfl

theorem lives_performOver (new : IsNew c client) {opening : List Event}
    (quiet : opening.filter Event.isClosing = []) (network : Network) (n m : Nat)
    (past : List Operation) (op : Operation) :
    Lives c (opening ++ (client.runOver network n (past ++ [op])).flatMap (·.events)) (past ++ [op])
      (client.after (client.runOver network n past)) op
      ((client.after (client.runOver network n past)).performOver network m op) := by
  have log : (opening ++ (client.runOver network n (past ++ [op])).flatMap (·.events)).filter
        Event.isClosing =
      if past.any Operation.ends || op.ends then [.clientClosed c.masterUrl] else [] := by
    rw [List.filter_append, quiet, events_runOver, List.any_append, List.any_cons, List.any_nil,
      Bool.or_false, new.close_eq]
    split <;> rfl
  rw [client_runOver]
  cases ended : past.any Operation.ends with
  | false =>
    rw [ended, Bool.false_or] at log
    exact lives_of_open new ended (client_performOver client network m op) log
  | true =>
    rw [ended, Bool.true_or] at log
    refine lives_of_closed new ended ?_ log ?_
    · rw [if_pos rfl, client_performOver, close_close]
      split <;> rfl
    · rintro rfl
      obtain ⟨url, hu⟩ := new.master
      exact performOver_rootPaths_of_closed new.transport_close (by rwa [new.config_close]) network m

end

/-- In every run of an opened client, over a network that answers and loses answers as it likes, the flag of
the client and its session are closed as soon as an operation has ended it and from then on, the session is
closed once and this is told once, and to ask for paths changes nothing and sends nothing from then on. -/
theorem lifecycle {c : Config} {fs : Filesystem} {client : Client}
    (h : (ofConfig via c fs).outcome = .ok client) (network : Network) (n : Nat) (ops : List Operation) :
    let steps := client.runOver network n ops
    steps.length = ops.length ∧
      ∀ k op, ops[k]? = some op → ∃ step, steps[k]? = some step ∧
        Lives c ((ofConfig via c fs).events ++ (steps.take (k + 1)).flatMap (·.events)) (ops.take (k + 1))
          (client.after (steps.take k)) op step := by
  refine ⟨length_runOver .., fun k op ho => ?_⟩
  obtain ⟨m, hm⟩ := getElem?_runOver client network n ho
  have done : ops.take (k + 1) = ops.take k ++ [op] := by
    rw [List.take_add_one, ho]
    rfl
  have quiet : (ofConfig via c fs).events.filter Event.isClosing = [] := by
    rw [(ofConfig_eq_ok h).1, closing_told]
  refine ⟨_, hm, ?_⟩
  rw [← runOver_take, ← runOver_take, done]
  exact lives_performOver (isNew_of_ofConfig h) quiet network n m (ops.take k) op

/-! ### A client in two blocks -/

def samplePlain : Config where
  masterUrl := "http://a/"
  extendedApiUrl := "http://a/"

def samplePlainClient : Client where
  config := samplePlain
  session := {}

/-- A network that loses its first answer and then goes on. -/
def sampleLossy : Network where
  server _ := {}
  lost
    | 0 => some .noHome
    | _ => none

/-- The inner block is left, which closes the client, and then the outer one, because of a failure. -/
def sampleVisit : List Operation :=
  [.enter, .enter, .rootPaths, .leave none, .rootPaths, .leave (some .noHome)]

theorem lifecycle_samplePlain :
    (ofConfig .standard samplePlain (.inMemory [] [])).outcome = .ok samplePlainClient ∧
      ∃ asked left again, (samplePlainClient.runOver sampleLossy 0 sampleVisit)[2]? = some asked ∧
        (samplePlainClient.runOver sampleLossy 0 sampleVisit)[3]? = some left ∧
        (samplePlainClient.runOver sampleLossy 0 sampleVisit)[4]? = some again ∧
        asked.requests.length = 1 ∧ asked.client.session.closed ≠ true ∧
        left.client.session.closed = true ∧ again.requests = [] ∧ again.client.closed = true := by
  have opened : (ofConfig .standard samplePlain (.inMemory [] [])).outcome = .ok samplePlainClient := by decide
  obtain ⟨-, steps⟩ := lifecycle opened sampleLossy 0 sampleVisit
  obtain ⟨asked, ha, lasting⟩ := steps 2 .rootPaths rfl
  obtain ⟨left, hl, ended⟩ := steps 3 (.leave none) rfl
  obtain ⟨again, hg, closed⟩ := steps 4 .rootPaths rfl
  have one : asked.requests.length = 1 := by
    cases ha
    decide
  refine ⟨opened, asked, left, again, ha, hl, hg, one, ?_, ?_, ?_, ?_⟩
  · rw [ne_eq, lasting.transport]
    decide
  · exact ended.transport.mpr (by decide)
  · exact (closed.refuses rfl (by decide)).1
  · exact closed.flag.mpr (by decide)

end Client

end ClusterAccess
