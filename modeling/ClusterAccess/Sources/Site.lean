import ClusterAccess.Failure

/-!
# Where a program runs

A program runs at a `Site`, with an environment, a user and files. `Sources.ofSite` is what a configuration
can be found in there: the variable `HOME` says where the home directory is, and otherwise what the system
knows of the user.
-/

namespace ClusterAccess

/-- What surrounds a program. The system may know no home directory of its user. -/
structure Site where
  environ : List (String × String)
  userHome : Option String
  filesystem : Filesystem
  limits : Yaml.Limits := {}

def Site.homeVariable : String := "HOME"

namespace Sources

/-- A text without slashes at its end. -/
def withoutSlashesAtEnd (cs : List Char) : List Char := (cs.reverse.dropWhile (· = '/')).reverse

/-- The home directory of a name for it. A name that begins with a tilde is none. -/
def homeOf (named : Option String) : Except Failure Path :=
  match named with
  | none => .error .noHome
  | some text =>
    match withoutSlashesAtEnd text.toList with
    | [] => .ok (.ofText "/")
    | '~' :: _ => .error .noHome
    | cs => .ok (.ofText (String.ofList cs))

/-- The sources of a site. -/
def ofSite (properties : List (String × String)) (p : Site) : Except Failure Sources := do
  let home ← homeOf ((p.environ.lookup Site.homeVariable).or p.userHome)
  pure { properties, environ := p.environ, filesystem := p.filesystem, home, limits := p.limits }

end Sources

end ClusterAccess
