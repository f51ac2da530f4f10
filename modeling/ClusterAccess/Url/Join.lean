import ClusterAccess.Url.Basic

/-!
# Relative references

`Url.join?` is the URL that a reference means when it is read at a base URL: what the reference leaves
out comes from the base, a relative path goes on from the last slash of the base's path, and dot
segments are resolved. Only references in schemes with a hierarchy of paths are resolved.
-/

namespace ClusterAccess.Url

/-- A URL in the parts that resolution works on. Absent parts are empty. -/
structure Reference where
  scheme : String
  authority : List Char
  path : List Char
  params : List Char
  query : List Char
  fragment : List Char

/-- Schemes whose paths form a hierarchy. -/
def relativeSchemes : List String :=
  ["", "ftp", "http", "gopher", "nntp", "imap", "wais", "file", "https", "shttp", "mms",
    "prospero", "rtsp", "rtsps", "rtspu", "sftp", "svn", "svn+ssh", "ws", "wss"]

/-- Schemes whose URLs name an authority. -/
def authoritySchemes : List String :=
  ["", "ftp", "http", "gopher", "nntp", "telnet", "imap", "wais", "file", "mms", "https", "shttp",
    "snews", "prospero", "rtsp", "rtsps", "rtspu", "rsync", "svn", "svn+ssh", "sftp", "nfs", "git",
    "git+ssh", "ws", "wss"]

/-- Schemes whose last path segment may carry parameters. -/
def paramSchemes : List String :=
  ["", "ftp", "hdl", "prospero", "http", "imap", "https", "shttp", "rtsp", "rtsps", "rtspu", "sip",
    "sips", "mms", "sftp", "tel"]

/-- The parameters behind the first semicolon of the last segment. -/
def splitParams (path : List Char) : List Char × List Char :=
  let last := (splitAtLast '/' path).map (·.2) |>.getD path
  if last.contains ';' then
    let params := (last.dropWhile (· != ';')).drop 1
    (path.take (path.length - params.length - 1), params)
  else (path, [])

/-- The parts of a text; a reference without a scheme has the given one. -/
def Reference.split (cs : List Char) (scheme : String) : Reference :=
  let (own, rest) := splitScheme cs
  let scheme := if own.isEmpty then scheme else String.ofList (own.map Char.toLower)
  let (authority, rest) := splitAuthority rest
  let (fragment, rest) :=
    ((rest.dropWhile (· != '#')).drop 1, rest.takeWhile (· != '#'))
  let (query, path) := ((rest.dropWhile (· != '?')).drop 1, rest.takeWhile (· != '?'))
  let (path, params) := if paramSchemes.contains scheme then splitParams path else (path, [])
  ⟨scheme, authority, path, params, query, fragment⟩

/-- The text of a reference. -/
def Reference.render (r : Reference) : List Char :=
  let path := if r.params.isEmpty then r.path else r.path ++ ';' :: r.params
  let named := !r.authority.isEmpty || (r.scheme != "" && authoritySchemes.contains r.scheme) ||
    path.take 2 = ['/', '/']
  let path := if named && !path.isEmpty && path.head? != some '/' then '/' :: path else path
  (if r.scheme = "" then [] else r.scheme.toList ++ [':']) ++
    (if named then '/' :: '/' :: r.authority else []) ++ path ++
    (if r.query.isEmpty then [] else '?' :: r.query) ++
    (if r.fragment.isEmpty then [] else '#' :: r.fragment)

/-- The segments of a path that goes on from the last slash of another. Empty segments inside are
dropped. -/
def continuePath (base path : List Char) : List (List Char) :=
  let front := Text.pieces '/' base
  let front := if front.getLast? = some [] then front else front.dropLast
  let all := front ++ Text.pieces '/' path
  match all with
  | first :: rest => first :: (rest.dropLast.filter (!List.isEmpty ·)) ++ rest.getLast?.toList
  | [] => []

/-- A path from its segments, with dot segments resolved. -/
def resolveSegments (segments : List (List Char)) : List Char :=
  let push (out : List (List Char)) (s : List Char) : List (List Char) :=
    if s = ['.', '.'] then out.drop 1 else if s = ['.'] then out else s :: out
  let out := (segments.foldl push []).reverse
  let dotted := segments.getLast? = some ['.'] || segments.getLast? = some ['.', '.']
  let path := Text.joinPieces '/' (if dotted then out ++ [[]] else out)
  if path.isEmpty then ['/'] else path

/-- The reference seen from a base. -/
def Reference.resolve (base r : Reference) : Reference :=
  let hierarchic := authoritySchemes.contains r.scheme
  if hierarchic && !r.authority.isEmpty then r
  else
    let r := if hierarchic then { r with authority := base.authority } else r
    if r.path.isEmpty && r.params.isEmpty then
      { r with
        path := base.path
        params := base.params
        query := if r.query.isEmpty then base.query else r.query }
    else
      let segments :=
        if r.path.head? = some '/' then Text.pieces '/' r.path else continuePath base.path r.path
      { r with path := resolveSegments segments }

/-- The text of a reference read at a base. -/
def joinText (base text : List Char) : List Char :=
  if base.isEmpty then text
  else if text.isEmpty then base
  else
    let b := Reference.split base ""
    let r := Reference.split text b.scheme
    if r.scheme != b.scheme || !relativeSchemes.contains r.scheme then text
    else (b.resolve r).render

/-- The URL that a reference means at a base. -/
def join? (base u : Url) : Except Fault Url :=
  parse (String.ofList (joinText base.render.toList u.render.toList))

end ClusterAccess.Url
