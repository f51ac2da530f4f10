import ClusterAccess.Hostname.Allowed
import ClusterAccess.Hostname.Direction
import ClusterAccess.Hostname.Joining
import ClusterAccess.Hostname.Punycode
import ClusterAccess.Text.Blank

/-!
# Labels of host names

A host name is a sequence of labels between dots. `isLabel` is the rule for one label in its own
script. On the wire a label is ASCII: `wireLabel?` writes it there, behind `xn--` if it is not ASCII
already, and `nativeLabel?` reads it back.
-/

namespace ClusterAccess.Hostname

/-- A character that is allowed in a context stands in it; `before` is what precedes it, nearest first. -/
def allowsInContext (before : List Char) (c : Char) (after : List Char) : Bool :=
  let n := c.toNat
  let all := before ++ c :: after
  if n = 0x200C || n = 0x200D then allowsJoiner before c after
  else if n = 0xB7 then before.head? = some 'l' && after.head? = some 'l'
  else if n = 0x375 then after.head?.any greek.contains
  else if n = 0x5F3 || n = 0x5F4 then before.head?.any hebrew.contains
  else if n = 0x30FB then
    all.any fun d => d != c && (hiragana.contains d || katakana.contains d || han.contains d)
  else if 0x660 ≤ n && n ≤ 0x669 then !all.any fun d => 0x6F0 ≤ d.toNat && d.toNat ≤ 0x6F9
  else if 0x6F0 ≤ n && n ≤ 0x6F9 then !all.any fun d => 0x660 ≤ d.toNat && d.toNat ≤ 0x669
  else false

/-- Every character of a label is allowed where it stands. -/
def allowedFrom (before : List Char) : List Char → Bool
  | [] => true
  | c :: after => (isAllowed c || allowsInContext before c after) && allowedFrom (c :: before) after

/-- No hyphen at the ends, and no two at the third and fourth place. -/
def hyphensInPlace (label : List Char) : Bool :=
  label.head? != some '-' && label.getLast? != some '-' && (label.drop 2).take 2 != ['-', '-']

/-- The rule for a label in its own script. -/
def isLabel (label : List Char) : Bool :=
  !label.isEmpty && label.length ≤ 254 && hyphensInPlace label &&
    !label.head?.any marks.contains && allowedFrom [] label && isComposed label &&
    isDirectional label

/-- What labels that are not ASCII begin with on the wire. -/
def wireMark : List Char := ['x', 'n', '-', '-']

/-- A label on the wire has at most this many characters. -/
def maxLabel : Nat := 63

/-- The label that an ASCII label stands for. -/
def nativeLabel? (label : List Char) : Option (List Char) :=
  let label := label.map Char.toLower
  if wireMark.isPrefixOf label then
    let code := label.drop wireMark.length
    if code.isEmpty || code.getLast? = some '-' then none
    else (Punycode.decode code).filter isLabel
  else if isLabel label then some label
  else none

def isAscii (cs : List Char) : Bool := cs.all (·.toNat < 128)

/-- A label as it is written on the wire. -/
def wireLabel? (label : List Char) : Option (List Char) :=
  let wire :=
    if isAscii label then (nativeLabel? label).map fun _ => label
    else if isLabel label then some (wireMark ++ Punycode.encode label)
    else none
  wire.filter (·.length ≤ maxLabel)

/-! ## Names -/

/-- The four characters that separate labels. -/
def isDot (c : Char) : Bool := c = '.' || c = '\u3002' || c = '\uFF0E' || c = '\uFF61'

/-- The labels of a name, and whether a dot ends it. -/
def labels (name : List Char) : List (List Char) × Bool :=
  let ls := Text.pieces '.' (name.map fun c => if isDot c then '.' else c)
  if ls.getLast? = some [] then (ls.dropLast, true) else (ls, false)

/-- A name of at most 253 characters, not counting a final dot. -/
def fits (name : List Char) (dotted : Bool) : Bool :=
  name.length ≤ if dotted then 254 else 253

/-- A name with each label replaced, and a final dot if it had one. -/
def mapLabels? (f : List Char → Option (List Char)) (name : List Char) :
    Option (List Char × Bool) :=
  if name.isEmpty || !fits name true then none
  else do
    let (ls, dotted) := labels name
    let ls ← ls.mapM f
    pure (Text.joinPieces '.' (if dotted then ls ++ [[]] else ls), dotted)

/-- A host name as it is written on the wire. -/
def encode? (name : List Char) : Option (List Char) := do
  let (wire, dotted) ← mapLabels? wireLabel? name
  if fits wire dotted then pure wire else none

/-- The host name that a name on the wire stands for. -/
def decode? (name : List Char) : Option (List Char) :=
  (mapLabels? nativeLabel? name).map (·.1)

end ClusterAccess.Hostname
