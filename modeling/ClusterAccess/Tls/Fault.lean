import ClusterAccess.Text.Quoted

/-!
# Protocol versions and what can go wrong with them

The versions of TLS in their order, and why a TLS context cannot be set up.
-/

namespace ClusterAccess.Tls

inductive Version where
  | tls10
  | tls11
  | tls12
  | tls13
  deriving DecidableEq, Repr

namespace Version

def all : List Version := [tls10, tls11, tls12, tls13]

/-- The place of a version in the order of their appearance. -/
def rank : Version → Nat
  | tls10 => 0
  | tls11 => 1
  | tls12 => 2
  | tls13 => 3

def name : Version → String
  | tls10 => "TLSv1"
  | tls11 => "TLSv1.1"
  | tls12 => "TLSv1.2"
  | tls13 => "TLSv1.3"

/-- The version of a name. -/
def ofName? (s : String) : Option Version := all.find? (·.name = s)

instance : LE Version := ⟨fun a b => a.rank ≤ b.rank⟩

instance (a b : Version) : Decidable (a ≤ b) := inferInstanceAs (Decidable (a.rank ≤ b.rank))

instance : Max Version := ⟨fun a b => if a ≤ b then b else a⟩

instance : Min Version := ⟨fun a b => if a ≤ b then a else b⟩

end Version

inductive Fault where
  | unknownProtocol (name : String)
  | noProtocols
  | rejected
  deriving DecidableEq, Repr

def Fault.message : Fault → String
  | unknownProtocol name =>
    "Unsupported TLS protocol " ++ Text.quoted name ++ ". Must be one of: " ++
      ", ".intercalate (Version.all.map Version.name)
  | noProtocols => "No TLS protocols enabled."
  | rejected => "Could not initialise TLS context"

end ClusterAccess.Tls
