import ClusterAccess.Tls.Context

/-!
# Why a TLS context cannot be made

A piece of material goes wrong for what it is or for a path that can name no file
(`Context.IsReadingFailure`), a store of certificates for the version of one as well
(`Context.IsMaterialFailure`). Making the context of a configuration goes wrong for its material, for
its protocols or because the provider refuses what they hold (`Context.IsFailure`). No other failure
comes from it, and none that is about a URL.
-/

namespace ClusterAccess.Tls.Context

open Pki (KeyStore Material Provider TrustStore loadCertificates loadPrivateKey)

variable {via : Provider}

/-- What can go wrong when a piece of material is read. -/
inductive IsReadingFailure (fs : Filesystem) : Failure → Prop
  | material (fault : Pki.Fault) : IsReadingFailure fs (.access (.material fault))
  | nulInPath {path : String} (h : fs.readBytes path = .error .nulInPath) :
    IsReadingFailure fs (.unreadable .nulInPath)

/-- What can go wrong when a store is made of material. -/
inductive IsMaterialFailure (fs : Filesystem) : Failure → Prop
  | reading {e : Failure} (h : IsReadingFailure fs e) : IsMaterialFailure fs e
  | certificateVersion (number : Nat) : IsMaterialFailure fs (.certificateVersion number)

/-- What can go wrong when a context is made. -/
inductive IsFailure : Failure → Prop
  | material (fault : Pki.Fault) : IsFailure (.access (.material fault))
  | tls (fault : Tls.Fault) : IsFailure (.access (.tls fault))
  | certificateVersion (number : Nat) : IsFailure (.certificateVersion number)
  | passphraseTooLong : IsFailure .passphraseTooLong
  | nulInPath : IsFailure (.unreadable .nulInPath)

theorem IsMaterialFailure.isFailure {fs : Filesystem} {e : Failure} (h : IsMaterialFailure fs e) :
    IsFailure e := by
  cases h with
  | certificateVersion n => exact .certificateVersion n
  | reading h =>
    cases h with
    | material fault => exact .material fault
    | nulInPath => exact .nulInPath

/-! ## Material -/

section

variable {fs : Filesystem}

theorem failsOnly_readFile (label path : String) :
    FailsOnly (IsReadingFailure fs) (Material.readFile fs label path) := by
  unfold Material.readFile
  split
  · exact .ok _
  · next h => exact .error (.nulInPath h)
  · exact .error (.material _)

theorem failsOnly_decodeInline (label text : String) :
    FailsOnly (IsReadingFailure fs) (Material.decodeInline label text) := by
  unfold Material.decodeInline
  split
  · exact .ok _
  · exact .error (.material _)

theorem failsOnly_inline (label : String) (m : Material) :
    FailsOnly (IsReadingFailure fs) (Material.load.inline label m) := by
  unfold Material.load.inline
  split
  · split
    · exact .ok _
    · exact .map _ (failsOnly_decodeInline label _)
  · exact .ok _

theorem failsOnly_load (label : String) (m : Material) :
    FailsOnly (IsReadingFailure fs) (m.load fs label) := by
  unfold Material.load
  split
  · split
    · exact failsOnly_inline label m
    · exact .map _ (failsOnly_readFile label _)
  · exact failsOnly_inline label m

theorem failsOnly_loadCertificates (label : String) (b : Bytes) :
    FailsOnly (IsMaterialFailure fs) (loadCertificates label b) := by
  unfold loadCertificates
  split
  · exact .ok _
  · exact .error (.reading (.material _))
  · exact .error (.certificateVersion _)

theorem failsOnly_loadPrivateKey (b : Bytes) (passphrase : Option String) :
    FailsOnly (IsReadingFailure fs) (loadPrivateKey via b passphrase) := by
  unfold loadPrivateKey
  split
  · exact .ok _
  · exact .error (.material _)
  · split
    · exact .error (.material _)
    · split
      · exact .ok _
      · exact .error (.material _)

/-! ## Stores -/

theorem failsOnly_trustStore (c : Config) : FailsOnly (IsMaterialFailure fs) (trustStore c fs) := by
  unfold trustStore
  split
  · refine .bind ((failsOnly_load _ _).mono fun _ => .reading) fun bytes => ?_
    cases bytes with
    | none => exact .ok _
    | some b => exact .map _ (failsOnly_loadCertificates _ _)
  · exact .ok _

theorem failsOnly_ofBytes (src : KeyStore.Source) (certificate key : Bytes) :
    FailsOnly (IsMaterialFailure fs) (KeyStore.ofBytes via src certificate key) := by
  unfold KeyStore.ofBytes
  split
  · exact .error (.reading (.material _))
  · refine .bind (failsOnly_loadCertificates _ _) fun chain => ?_
    refine .bind ((failsOnly_loadPrivateKey _ _).mono fun _ => .reading) fun privateKey => ?_
    split
    · exact .ok _
    · exact .error (.reading (.material _))

theorem failsOnly_keyStore (c : Config) : FailsOnly (IsMaterialFailure fs) (keyStore via c fs) := by
  unfold keyStore
  split
  · refine .bind ((failsOnly_load _ _).mono fun _ => .reading) fun certificate => ?_
    refine .bind ((failsOnly_load _ _).mono fun _ => .reading) fun key => ?_
    cases certificate with
    | none => exact .ok _
    | some certificate =>
      cases key with
      | none => exact .ok _
      | some key => exact .map _ (failsOnly_ofBytes _ _ _)
  · exact .ok _

end

/-! ## Contexts -/

theorem failsOnly_boundsOf (c : Config) : FailsOnly IsFailure (boundsOf c) := by
  unfold boundsOf
  cases Bounds.ofNames c.enabledProtocols with
  | ok b => exact .ok _
  | error fault => exact .error (.tls fault)

theorem failsOnly_checkAnchors (trust : Option TrustStore) :
    FailsOnly IsFailure (checkAnchors via trust) := by
  unfold checkAnchors
  split
  · exact .ok _
  · split
    · exact .ok _
    · exact .error (.tls _)

theorem failsOnly_checkIdentity (s : KeyStore) : FailsOnly IsFailure (checkIdentity via s) := by
  refine .bind ?_ fun _ => ?_
  · unfold KeyStore.checkPassphrase
    split
    · exact .error .passphraseTooLong
    · exact .ok _
  · split
    · exact .ok _
    · exact .error (.tls _)

theorem failsOnly_loadIdentity (keys : Option KeyStore) :
    FailsOnly IsFailure (loadIdentity via keys).outcome := by
  cases keys with
  | none => exact .ok _
  | some s =>
    rw [loadIdentity, Logged.outcome_bind]
    exact .bind (.ok _) fun _ => failsOnly_checkIdentity s

/-- The context of a configuration cannot be made for one of these reasons, or is made. -/
theorem failsOnly_ofConfig (via : Provider) (c : Config) (fs : Filesystem) :
    FailsOnly IsFailure (ofConfig via c fs).outcome := by
  unfold ofConfig
  split
  · simp only [Logged.outcome_bind, Logged.outcome_ofExcept]
    refine .bind ((failsOnly_trustStore c).mono fun _ => IsMaterialFailure.isFailure) fun trust => ?_
    refine .bind ((failsOnly_keyStore c).mono fun _ => IsMaterialFailure.isFailure) fun keys => ?_
    refine .bind (failsOnly_boundsOf c) fun bounds => ?_
    refine .bind (failsOnly_checkAnchors trust) fun _ => ?_
    refine .bind (failsOnly_loadIdentity keys) fun _ => ?_
    exact .bind (.ok _) fun _ => .ok _
  · exact .ok _

end ClusterAccess.Tls.Context
