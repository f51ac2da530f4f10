import ClusterAccess.Text.Bytes
import ClusterAccess.Url.Basic

/-!
# Requests and responses

Messages carry headers, in order, whose names are compared without regard to case. `Headers.set` gives
a name exactly one value: it replaces the first header of the name and drops the others.
-/

namespace ClusterAccess.Http

abbrev Headers := List (String × String)

namespace Headers

/-- Whether two names are of the same header. -/
def sameName (a b : String) : Bool :=
  a.toList.map Char.toLower = b.toList.map Char.toLower

/-- The values of all headers of a name. -/
def values (name : String) (hs : Headers) : List String :=
  (hs.filter fun h => sameName name h.1).map (·.2)

/-- The value of a name, with commas between the values of several headers. -/
def value? (name : String) (hs : Headers) : Option String :=
  match hs.values name with
  | [] => none
  | vs => some (", ".intercalate vs)

/-- The headers of other names. -/
def without (name : String) (hs : Headers) : Headers := hs.filter fun h => !sameName name h.1

/-- The headers with exactly one of a name, in the place of the first that was there. -/
def set (name value : String) : Headers → Headers
  | [] => [(name, value)]
  | h :: hs => if sameName name h.1 then (name, value) :: without name hs else h :: set name value hs

theorem values_without (name : String) (hs : Headers) : (hs.without name).values name = [] := by
  simp only [values, without, List.map_eq_nil_iff, List.filter_eq_nil_iff, List.mem_filter]
  rintro h ⟨_, hn⟩
  simpa using hn

theorem sameName_self (name : String) : sameName name name = true := by simp [sameName]

/-- A name that was set has the one value. -/
theorem values_set (name value : String) (hs : Headers) : (hs.set name value).values name = [value] := by
  induction hs with
  | nil => simp [set, values, sameName_self]
  | cons h hs ih =>
    unfold set
    split
    · have := values_without name hs
      simp only [values, List.filter_cons, sameName_self, if_true, List.map_cons] at this ⊢
      rw [this]
    · rename_i hn
      simpa [values, List.filter_cons, hn] using ih

/-- Setting a name leaves the headers of other names as they are. -/
theorem without_set (name value : String) (hs : Headers) :
    (hs.set name value).without name = hs.without name := by
  induction hs with
  | nil => simp [set, without, sameName_self]
  | cons h hs ih =>
    unfold set
    split
    · rename_i hn
      simp [without, sameName_self, hn]
    · rename_i hn
      simpa [without, hn] using ih

end Headers

structure Request where
  method : String
  url : Url
  headers : Headers

structure Response where
  status : Nat := 200
  headers : Headers := []
  body : Bytes := [0x7B, 0x7D]

/-- The header that carries a proof of identity. -/
def authorization : String := "Authorization"

def locationHeader : String := "Location"

/-- A server as a client meets it: the answer to each request in turn. -/
abbrev Server := Nat → Response

end ClusterAccess.Http
