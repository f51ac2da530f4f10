import ClusterAccess.Cli.Describe

/-!
# What a description looks at

A description depends on some variables of the environment and on some files. `environNames` names the
former; `paths` names the files that matter as far as the sources tell, so that with what is found there
it may name some more.
-/

namespace ClusterAccess.Cli

/-- The variables of the environment that matter. -/
def environNames : List String :=
  Site.homeVariable ::
    ([Config.tryServiceAccountProperty, Config.tryKubeconfigProperty, Kubeconfig.locationProperty].map
        Sources.environName ++
      Config.Override.table.map (·.environName))

/-- The files that a sketch names. -/
def materialPaths (k : Config.Sketch) : List String :=
  let files : List (Option Text.Content) := [k.get .caCertFile, k.get .clientCertFile, k.get .clientKeyFile]
  files.filterMap fun file => file.bind (·.text?)

/-- The files that matter. -/
def paths (s : Sources) : List String :=
  let mount : ServiceAccount.Mount := {}
  let material := match (Config.Sketch.ofSources s).outcome with
    | .ok sketch => materialPaths sketch
    | .error _ => []
  mount.tokenPath :: mount.caCertPath :: Kubeconfig.location s :: material

end ClusterAccess.Cli
