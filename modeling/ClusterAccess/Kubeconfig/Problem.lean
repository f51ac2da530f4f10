/-!
# Problems of a kubeconfig document

A document that is no kubeconfig is described by its `Problem`s: where each is and what is wrong
there. `Validated` collects the problems of all parts of a record in the order of its fields, so one
bad field hides no other.
-/

namespace ClusterAccess.Kubeconfig

/-- A step from a value to a part of it. -/
inductive Step where
  | key (name : String)
  | item (index : Nat)
  deriving DecidableEq, Repr

def Step.render : Step → String
  | key name => name
  | item index => toString index

inductive ProblemKind where
  | missing
  | notText
  | notUnicode
  | notTruthWord
  | notTruthValue
  | notList
  | notRecord
  deriving DecidableEq, Repr

/-- Something wrong at a place of the document. -/
structure Problem where
  path : List Step
  kind : ProblemKind
  deriving DecidableEq, Repr

/-- The path with dots between its steps. -/
def Problem.location (p : Problem) : String :=
  ".".intercalate (p.path.map Step.render)

/-- A value that was accepted, or all problems of one that was not. -/
inductive Validated (α : Type) where
  | accepted (a : α)
  | refused (problems : List Problem)

namespace Validated

variable {α β : Type}

def map (f : α → β) : Validated α → Validated β
  | accepted a => accepted (f a)
  | refused ps => refused ps

/-- Two parts together: problems of the first come first. -/
def ap (f : Validated (α → β)) (x : Validated α) : Validated β :=
  match f, x with
  | accepted f, accepted a => accepted (f a)
  | accepted _, refused qs => refused qs
  | refused ps, accepted _ => refused ps
  | refused ps, refused qs => refused (ps ++ qs)

instance : Applicative Validated where
  pure := accepted
  map := map
  seq f x := ap f (x ())

def problem (path : List Step) (kind : ProblemKind) : Validated α := refused [⟨path, kind⟩]

/-- All items of a list, numbered from `i` on. -/
def items (check : Nat → β → Validated α) : Nat → List β → Validated (List α)
  | _, [] => accepted []
  | i, x :: xs => ap (map List.cons (check i x)) (items check (i + 1) xs)

end Validated

end ClusterAccess.Kubeconfig
