import ClusterAccess.Text.Blank
import ClusterAccess.Text.Numeral

/-!
# Internet addresses

Which texts are addresses: four numbers below 256 without leading zeros, or up to eight groups of
hexadecimal digits, of which one run of zeros may be left out, with a name for the network behind a
percent sign.
-/

namespace ClusterAccess.Url

def isAllDigits (cs : List Char) : Bool := !cs.isEmpty && cs.all Char.isDigit

/-- Four numbers with dots between them, whatever their values. -/
def looksLikeIpv4 (host : List Char) : Bool :=
  let parts := Text.pieces '.' host
  parts.length = 4 && parts.all isAllDigits

/-- A number from 0 to 255 without leading zeros. -/
def isOctet (cs : List Char) : Bool :=
  isAllDigits cs && cs.length ≤ 3 && (cs.head? != some '0' || cs.length = 1) &&
    Text.ofDigits 10 (Text.digitValues cs) ≤ 255

def isIpv4 (host : List Char) : Bool :=
  let parts := Text.pieces '.' host
  parts.length = 4 && parts.all isOctet

/-- A group of one to four hexadecimal digits. -/
def isHexGroup (cs : List Char) : Bool :=
  !cs.isEmpty && cs.length ≤ 4 && cs.all fun c => (Text.baseDigit? 16 c).isSome

/-- The groups of an address, an IPv4 address at the end counting as two. -/
def hexGroups? (address : List Char) : Option (List (List Char)) :=
  let parts := Text.pieces ':' address
  match parts.getLast? with
  | none => none
  | some last =>
    if parts.length < 3 then none
    else if last.contains '.' then
      if isIpv4 last then some (parts.dropLast ++ [['0'], ['0']]) else none
    else some parts

/-- Groups around the place where zeros are left out. An empty group at the very start or end belongs to
that place. -/
def isSkipping (front back : List (List Char)) : Bool :=
  let front := if front = [[]] then [] else front
  let back := if back = [[]] then [] else back
  front.all isHexGroup && back.all isHexGroup && front.length + back.length ≤ 7

/-- Eight groups, or fewer around one empty group that is not at the start or end. -/
def areAddressGroups (groups : List (List Char)) : Bool :=
  let inner := (groups.drop 1).dropLast
  match inner.findIdx? List.isEmpty with
  | none => groups.length = 8 && groups.all isHexGroup
  | some i =>
    groups.length ≤ 9 && !(inner.drop (i + 1)).any List.isEmpty &&
      isSkipping (groups.take (i + 1)) (groups.drop (i + 2))

def isIpv6 (host : List Char) : Bool :=
  let address := host.takeWhile (· != '%')
  let scope := host.drop address.length
  !host.contains '/' && scope != ['%'] && !(scope.drop 1).contains '%' &&
    (hexGroups? address).any areAddressGroups

end ClusterAccess.Url
