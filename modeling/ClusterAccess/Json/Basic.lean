/-!
# JSON values

`Json` is what a JSON document says. An object keeps its members in the order they were written; when
a name comes twice, the last value counts, at the place of the first. Whole numbers are exact, and
other numbers keep the text they were written with.
-/

namespace ClusterAccess

inductive Json where
  | null
  | bool (b : Bool)
  | int (n : Int)
  | real (literal : String)
  | text (s : String)
  | array (items : List Json)
  | object (members : List (String × Json))

namespace Json

/-- The members after one more of them. -/
def insert (members : List (String × Json)) (name : String) (value : Json) : List (String × Json) :=
  match members with
  | [] => [(name, value)]
  | (n, v) :: rest => if n = name then (n, value) :: rest else (n, v) :: insert rest name value

/-- Members of which none has the name of another: the last value of a name counts. -/
def collect (members : List (String × Json)) : List (String × Json) :=
  members.foldl (fun kept m => insert kept m.1 m.2) []

/-- The member of an object. -/
def get? (name : String) : Json → Option Json
  | object members => members.lookup name
  | _ => none

def optionalText : Option String → Json
  | some s => text s
  | none => null

end Json

end ClusterAccess
