import ClusterAccess.Text.Quoted

/-!
# What is wrong with a URL

Each `Url.Fault` is one reason to refuse a text as a URL. The parts of a URL that are checked on their
own when a part of it is replaced are named in the message.
-/

namespace ClusterAccess.Url

inductive Fault where
  | tooLong
  | controlCharacter (c : Char) (position : Nat)
  | partTooLong (part : String)
  | controlCharacterInPart (part : String) (c : Char) (position : Nat)
  | ipv4Address (host : String)
  | ipv6Address (host : String)
  | hostname (host : String)
  | port (text : String)
  | pathWithoutSlash
  | pathWithTwoSlashes
  | pathWithColon
  deriving DecidableEq, Repr

open Text (quoted) in
def Fault.message : Fault → String
  | tooLong => "URL too long"
  | controlCharacter c position =>
    "Invalid non-printable ASCII character in URL, " ++ quoted c.toString ++ " at position " ++
      toString position ++ "."
  | partTooLong part => "URL component " ++ quoted part ++ " too long"
  | controlCharacterInPart part c position =>
    "Invalid non-printable ASCII character in URL " ++ part ++ " component, " ++ quoted c.toString ++
      " at position " ++ toString position ++ "."
  | ipv4Address host => "Invalid IPv4 address: " ++ quoted host
  | ipv6Address host => "Invalid IPv6 address: " ++ quoted host
  | hostname host => "Invalid IDNA hostname: " ++ quoted host
  | port text => "Invalid port: " ++ quoted text
  | pathWithoutSlash => "For absolute URLs, path must be empty or begin with '/'"
  | pathWithTwoSlashes => "Relative URLs cannot have a path starting with '//'"
  | pathWithColon => "Relative URLs cannot have a path starting with ':'"

end ClusterAccess.Url
