import ClusterAccess.Filesystem.Entry

/-!
# Snapshots

A `Snapshot` remembers what was found at some paths. Seen as a `Filesystem` it knows nothing else.
-/

namespace ClusterAccess

/-- What was found, under the texts of paths. -/
abbrev Snapshot := List (String × Except IoCause Entry)

namespace Snapshot

/-- The path by which a file is looked for. -/
def key (text : String) : String := (Path.ofText text).render

/-- What was found at a path. -/
def find (s : Snapshot) : Filesystem.Lookup := fun p => (s.lookup p.render).getD (.error .notFound)

def filesystem (s : Snapshot) : Filesystem := .ofEntries s.find

end Snapshot

end ClusterAccess
