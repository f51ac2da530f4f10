import ClusterAccess.Failure
import ClusterAccess.Text.Blank

/-!
# Protocol bounds

A connection admits the versions between two bounds. `Bounds.ofNames` gives the bounds of the span of the
versions that names list, never below the least version that is safe, and `narrow` sets the limits of a
context to them. A context that was made for one version has no limits that could be set.
-/

namespace ClusterAccess.Tls

/-- The least version that is safe. -/
def leastSafe : Version := .tls12

/-- The versions from `minimum` on, up to `maximum` if there is one. -/
structure Bounds where
  minimum : Version
  maximum : Option Version
  deriving DecidableEq, Repr

namespace Bounds

def admits (b : Bounds) (v : Version) : Bool := b.minimum ≤ v && b.maximum.all (v ≤ ·)

/-- The version that a name stands for, without the blanks around it. -/
def version (name : String) : Except Fault Version :=
  match Version.ofName? (String.ofList (Text.strip name.toList)) with
  | some v => .ok v
  | none => .error (.unknownProtocol name)

/-- The bounds of the span of versions. -/
def span (v : Version) (vs : List Version) : Bounds :=
  ⟨max (vs.foldl min v) leastSafe, some (max (vs.foldl max v) leastSafe)⟩

/-- The bounds that names give. -/
def ofNames (names : List String) : Except Fault Bounds := do
  match ← names.mapM version with
  | [] => .error .noProtocols
  | v :: vs => .ok (span v vs)

end Bounds

/-! ## Contexts that are narrowed -/

/-- What a context is made for: whatever version both sides speak, as either of them or as one of them, or
a single version. -/
inductive Protocol where
  | any
  | client
  | server
  | only (v : Version)
  deriving DecidableEq, Repr

/-- Whether the limits of a context can be set. -/
def Protocol.isRange : Protocol → Bool
  | only _ => false
  | _ => true

/-- A context as far as its limits go, of a type in which every version is a limit: there may be others, such
as the end of what the library supports. -/
structure Limits (α : Type) where
  protocol : Protocol
  minimum : α
  maximum : α
  deriving DecidableEq, Repr

namespace Limits

variable {α : Type}

/-- The limits of a client's context that nobody has narrowed. -/
def start : Limits (Option Version) := ⟨.client, some leastSafe, none⟩

/-- Changes the limits of a context, which has to have some. -/
def change (f : Limits α → Limits α) : EStateM Failure (Limits α) Unit := do
  if (← get).protocol.isRange then modify f else throw .fixedProtocol

def setMinimum (limit : α) : EStateM Failure (Limits α) Unit := change fun l => { l with minimum := limit }

def setMaximum (limit : α) : EStateM Failure (Limits α) Unit := change fun l => { l with maximum := limit }

end Limits

/-- Sets the limits of a context to the bounds that names give, once all names are known. -/
def narrow {α : Type} (limit : Version → α) (names : List String) : EStateM Failure (Limits α) Unit := do
  let bounds ← ofExcept ((Bounds.ofNames names).mapError fun fault => .access (.tls fault))
  Limits.setMinimum (limit bounds.minimum)
  bounds.maximum.forM fun v => Limits.setMaximum (limit v)

end ClusterAccess.Tls
