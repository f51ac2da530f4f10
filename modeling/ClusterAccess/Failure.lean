import ClusterAccess.Config.Override
import ClusterAccess.Http.Status
import ClusterAccess.Json.Body
import ClusterAccess.Kubeconfig.Fault
import ClusterAccess.Pki.Fault
import ClusterAccess.Tls.Fault
import ClusterAccess.Url.Fault
import ClusterAccess.Yaml.Fault

/-!
# Failures

An `AccessError` is a failure that callers are promised: it says which endpoint, credential, key or
protocol cannot be used. A `Failure` is any reason for which something here ends without a result: an
access error, or one of the conditions that come from the layers below it. `Failure.brokenText` is where
this library stops: it makes no configurations of broken texts.
-/

namespace ClusterAccess

/-- Why a text is no endpoint. -/
inductive EndpointFault where
  | unreadable (fault : Url.Fault)
  | notAbsolute
  deriving DecidableEq, Repr

def EndpointFault.message : EndpointFault → String
  | unreadable fault => fault.message
  | notAbsolute => "must be an absolute http(s) URL."

/-- What can be wrong with an access to a cluster. -/
inductive AccessError where
  | missingEndpoint
  | invalidEndpoint (label url : String) (fault : EndpointFault)
  | material (fault : Pki.Fault)
  | tls (fault : Tls.Fault)
  | kubeconfig (source : String) (fault : Kubeconfig.Fault)
  | serviceAccount (path : String) (fault : ReadFault)
  deriving DecidableEq, Repr

def AccessError.message : AccessError → String
  | missingEndpoint => Config.missingEndpointMessage
  | invalidEndpoint label url fault =>
    "Invalid " ++ label ++ " URL " ++ Text.quoted url ++ ": " ++ fault.message
  | material fault => fault.message
  | tls fault => fault.message
  | kubeconfig source fault => fault.message source
  | serviceAccount path fault => "Could not read service account token " ++ path ++ ": " ++ fault.message

inductive Failure where
  | access (error : AccessError)
  | unbuildable (what : Yaml.Unbuildable)
  | unreadable (fault : ReadFault)
  | undecodableHost
  | certificateVersion (number : Nat)
  | passphraseTooLong
  | invalidUrl (fault : Url.Fault)
  | invalidRedirect (fault : Url.Fault)
  | tooManyRedirects
  | status (code : Nat) (url : String)
  | body (fault : Json.BytesFault)
  | clientClosed
  | noHome
  | fixedProtocol
  | brokenText
  deriving DecidableEq, Repr

def Failure.message : Failure → String
  | access error => error.message
  | unbuildable what => what.message
  | unreadable fault => fault.message
  | undecodableHost => "invalid hostname"
  | certificateVersion number => toString number ++ " is not a valid X509 version"
  | passphraseTooLong => "Passwords longer than 1023 bytes are not supported by this backend"
  | invalidUrl fault => fault.message
  | invalidRedirect fault => "Invalid URL in location header: " ++ fault.message ++ "."
  | tooManyRedirects => "Exceeded maximum allowed redirects."
  | status code url => Http.Status.report code url
  | body (.notText fault) => fault.message
  | body (.notUnits fault) => fault.message
  | body (.notDocument .malformed) => "not a JSON document"
  | body (.notDocument (.number fault)) => fault.message
  | clientClosed => "Cannot send a request, as the client has been closed."
  | noHome => "Could not determine home directory."
  | fixedProtocol => "The context's protocol doesn't support modification of highest and lowest version."
  | brokenText => "half of a surrogate pair is no text"

/-! ## Sequences of attempts -/

section

variable {ε α β : Type}

instance decidableEqExcept [DecidableEq ε] [DecidableEq α] : DecidableEq (Except ε α)
  | .error d, .error e => decidable_of_decidable_of_iff (p := d = e) (by simp)
  | .error _, .ok _ => .isFalse (by simp)
  | .ok _, .error _ => .isFalse (by simp)
  | .ok a, .ok b => decidable_of_decidable_of_iff (p := a = b) (by simp)

theorem Except.exists_of_isOk {x : Except ε α} (h : x.isOk = true) : ∃ a, x = .ok a := by
  cases x with
  | error e => cases h
  | ok a => exact ⟨a, rfl⟩

theorem Except.bind_eq_ok {x : Except ε α} {f : α → Except ε β} {b : β} :
    x.bind f = .ok b ↔ ∃ a, x = .ok a ∧ f a = .ok b := by
  cases x with
  | error e => simp [Except.bind]
  | ok a => simp [Except.bind]

theorem Except.bind_eq_error {x : Except ε α} {f : α → Except ε β} {e : ε} :
    x.bind f = .error e ↔ x = .error e ∨ ∃ a, x = .ok a ∧ f a = .error e := by
  cases x with
  | error e => simp [Except.bind]
  | ok a => simp [Except.bind]

theorem Except.map_eq_ok {x : Except ε α} {f : α → β} {b : β} :
    f <$> x = .ok b ↔ ∃ a, x = .ok a ∧ f a = b := by
  cases x with
  | error e => simp [Functor.map, Except.map]
  | ok a => simp [Functor.map, Except.map]

@[simp] theorem Except.mapError_ok (b : β) (f : α → ε) :
    (Except.ok b : Except α β).mapError f = .ok b := rfl

@[simp] theorem Except.mapError_error (a : α) (f : α → ε) :
    (Except.error a : Except α β).mapError f = .error (f a) := rfl

theorem Except.mapError_eq_ok {x : Except α β} {f : α → ε} {b : β} :
    x.mapError f = .ok b ↔ x = .ok b := by
  cases x with
  | error a => simp
  | ok b => simp

/-- The attempts of a list give something together when each of them gives its part. -/
theorem Except.mapM_eq_ok {f : α → Except ε β} {as : List α} {bs : List β} :
    as.mapM f = .ok bs ↔ as.map f = bs.map .ok := by
  induction as generalizing bs with
  | nil => cases bs <;> simp [pure, Except.pure]
  | cons a as ih =>
    have step : (a :: as).mapM f = .ok bs ↔
        ∃ b, f a = .ok b ∧ ∃ cs, as.mapM f = .ok cs ∧ b :: cs = bs := by
      rw [List.mapM_cons]
      refine Except.bind_eq_ok.trans (exists_congr fun b => and_congr_right fun _ => ?_)
      refine Except.bind_eq_ok.trans (exists_congr fun cs => and_congr_right fun _ => ?_)
      exact ⟨fun h => by cases h; rfl, fun h => by rw [h]; rfl⟩
    rw [step]
    constructor
    · rintro ⟨b, hb, cs, hcs, rfl⟩
      rw [List.map_cons, List.map_cons, hb, ih.mp hcs]
    · intro h
      cases bs with
      | nil => cases h
      | cons b cs =>
        rw [List.map_cons, List.map_cons, List.cons.injEq] at h
        exact ⟨b, h.1, cs, ih.mpr h.2, rfl⟩

/-- The attempts of a list go wrong together as the first of them that does. -/
theorem Except.mapM_eq_error {f : α → Except ε β} {as : List α} {e : ε} :
    as.mapM f = .error e ↔
      ∃ before a after, as = before ++ a :: after ∧ (∀ x ∈ before, ∃ b, f x = .ok b) ∧
        f a = .error e := by
  induction as with
  | nil => simp [pure, Except.pure]
  | cons a as ih =>
    rw [List.mapM_cons]
    cases ha : f a with
    | error d =>
      constructor
      · intro h
        cases h
        exact ⟨[], a, as, rfl, by simp, ha⟩
      · rintro ⟨before, x, after, split, fine, hx⟩
        cases before with
        | nil =>
          cases split
          rw [← ha, hx]
          rfl
        | cons y before =>
          cases split
          obtain ⟨b, hb⟩ := fine a List.mem_cons_self
          rw [ha] at hb
          cases hb
    | ok b =>
      have rest : (as.mapM f >>= fun cs => pure (b :: cs) : Except ε (List β)) = .error e ↔
          as.mapM f = .error e := by
        cases as.mapM f <;> simp [bind, Except.bind, pure, Except.pure]
      refine rest.trans (ih.trans ?_)
      constructor
      · rintro ⟨before, x, after, rfl, fine, hx⟩
        exact ⟨a :: before, x, after, rfl, List.forall_mem_cons.mpr ⟨⟨b, ha⟩, fine⟩, hx⟩
      · rintro ⟨before, x, after, split, fine, hx⟩
        cases before with
        | nil =>
          cases split
          rw [ha] at hx
          cases hx
        | cons y before =>
          cases split
          exact ⟨before, x, after, rfl, (List.forall_mem_cons.mp fine).2, hx⟩

/-- What the attempts of a list give together is what they give one by one. -/
theorem Except.mem_of_mapM_eq_ok {f : α → Except ε β} {as : List α} {bs : List β}
    (h : as.mapM f = .ok bs) {b : β} : b ∈ bs ↔ ∃ a ∈ as, f a = .ok b := by
  rw [← List.mem_map, Except.mapM_eq_ok.mp h, List.mem_map]
  simp

/-- Each attempt of a list that gives something together gives something. -/
theorem Except.exists_of_mapM_eq_ok {f : α → Except ε β} {as : List α} {bs : List β}
    (h : as.mapM f = .ok bs) {a : α} (ha : a ∈ as) : ∃ b, f a = .ok b := by
  have given : f a ∈ bs.map .ok := by
    rw [← Except.mapM_eq_ok.mp h]
    exact List.mem_map_of_mem ha
  obtain ⟨b, -, hb⟩ := List.mem_map.mp given
  exact ⟨b, hb.symm⟩

/-- What goes wrong with the attempt, if anything does, is of the given kind. -/
def FailsOnly (p : ε → Prop) (x : Except ε α) : Prop := ∀ e, x = .error e → p e

variable {p : ε → Prop}

theorem FailsOnly.ok (a : α) : FailsOnly p (.ok a) := by
  rintro e ⟨⟩

theorem FailsOnly.error {e : ε} (h : p e) : FailsOnly p (.error e : Except ε α) := by
  rintro _ ⟨⟩
  exact h

/-- A sequence goes wrong as one of its parts does. -/
theorem FailsOnly.bind {x : Except ε α} {f : α → Except ε β} (first : FailsOnly p x)
    (second : ∀ a, FailsOnly p (f a)) : FailsOnly p (x.bind f) := by
  intro e h
  obtain h | ⟨a, -, h⟩ := Except.bind_eq_error.mp h
  · exact first e h
  · exact second a e h

theorem FailsOnly.mono {q : ε → Prop} {x : Except ε α} (h : FailsOnly p x) (imp : ∀ e, p e → q e) :
    FailsOnly q x :=
  fun e he => imp e (h e he)

theorem FailsOnly.map {x : Except ε α} (f : α → β) (h : FailsOnly p x) : FailsOnly p (f <$> x) := by
  cases x with
  | error e => exact .error (h e rfl)
  | ok a => exact .ok (f a)

end

end ClusterAccess
