import ClusterAccess.Kubeconfig.Probe
import ClusterAccess.Proofs.Path

/-!
# References to files

A reference in a kubeconfig is written out as an absolute path: its own, or one below the home directory or
below the directory of the kubeconfig. That path is settled, and stays as it is when it is written out again,
from wherever (`resolved_settled`). A tilde stands for the home directory unless another slash follows its own:
what is behind it counts as an absolute path then, and the home directory is lost (`tilde_exactly`).
-/

namespace ClusterAccess

namespace Path

theorem isAbsolute_join (p q : Path) : (p.join q).isAbsolute = (p.isAbsolute || q.isAbsolute) := by
  unfold Path.join
  split
  · next h => rw [h, Bool.or_true]
  · next h =>
    rw [Bool.not_eq_true] at h
    rw [h, Bool.or_false]
    rfl

theorem isAbsolute_ofText {text : String} :
    (ofText text).isAbsolute = true ↔ text.toList.head? = some '/' := by
  cases h : text.toList with
  | nil => simp [ofText, isAbsolute, rootOf, h]
  | cons c cs =>
    by_cases hc : c = '/'
    · subst hc
      have rooted : rootOf ('/' :: cs) ≠ .here := by
        unfold rootOf
        split <;> simp_all
      simpa [ofText, isAbsolute, h] using rooted
    · have bare : (c :: cs).head? ≠ some '/' := by simpa using hc
      have relative : rootOf (c :: cs) = .here := rootOf_append .here bare
      simp [ofText, isAbsolute, h, hc, relative]

end Path

namespace Kubeconfig

open ClusterAccess.Path (Settled segments)

/-- The reference is a tilde, or begins with a tilde and a slash. -/
def HasTilde (reference : String) : Prop := reference = "~" ∨ ['~', '/'] <+: reference.toList

instance (reference : String) : Decidable (HasTilde reference) :=
  inferInstanceAs (Decidable (_ ∨ _))

/-- Another slash follows the tilde and its slash. -/
def HasSlashBehindTilde (reference : String) : Prop := ['~', '/', '/'] <+: reference.toList

instance (reference : String) : Decidable (HasSlashBehindTilde reference) :=
  inferInstanceAs (Decidable (_ <+: _))

/-- What follows a tilde and its slash. -/
def behindTilde (reference : String) : String := String.ofList (reference.toList.drop 2)

/-- The text leads to the home directory, and from there by the components of the reference behind its
tilde. -/
structure LeadsBelowHome (home : Path) (reference text : String) : Prop where
  root : (Path.ofText text).root = home.root
  names : (Path.ofText text).names = home.names ++ segments (reference.toList.drop 1)

/-! ## The path that is written out -/

theorem hasTilde_iff {reference : String} :
    (reference = "~" || reference.toList.take 2 = ['~', '/']) = true ↔ HasTilde reference := by
  rw [Bool.or_eq_true, decide_eq_true_iff, decide_eq_true_iff, HasTilde, List.prefix_iff_eq_take]
  exact or_congr .rfl eq_comm

section

variable {base home : Path} {reference : String}

theorem resolveFile_of_tilde (tilde : HasTilde reference) :
    resolveFile base home reference = (base.join (home.join (.ofText (behindTilde reference)))).render := by
  have nonempty : reference ≠ "" := by
    rintro rfl
    revert tilde
    decide
  simp only [resolveFile, if_neg nonempty, if_pos (hasTilde_iff.mpr tilde)]
  split
  · next absolute => rw [behindTilde, Path.join_of_isAbsolute absolute]
  · rfl

theorem resolveFile_of_not_tilde (nonempty : reference ≠ "") (plain : ¬HasTilde reference) :
    resolveFile base home reference = (base.join (.ofText reference)).render := by
  simp only [resolveFile, if_neg nonempty, if_neg (mt hasTilde_iff.mp plain)]
  split
  · next absolute => rw [Path.join_of_isAbsolute absolute]
  · rfl

/-- A reference that is not empty is written out as an absolute path in normal form. -/
theorem exists_resolved (based : base.isAbsolute = true) (baseNormal : base.Normal)
    (homeNormal : home.Normal) (nonempty : reference ≠ "") :
    ∃ p : Path, p.Normal ∧ p.isAbsolute = true ∧ resolveFile base home reference = p.render := by
  by_cases tilde : HasTilde reference
  · refine ⟨_, ?_, ?_, resolveFile_of_tilde tilde⟩
    · exact baseNormal.join (homeNormal.join (Path.normal_ofText _))
    · rw [Path.isAbsolute_join, based, Bool.true_or]
  · refine ⟨_, ?_, ?_, resolveFile_of_not_tilde nonempty tilde⟩
    · exact baseNormal.join (Path.normal_ofText _)
    · rw [Path.isAbsolute_join, based, Bool.true_or]

/-- A settled text is written out as it is. -/
theorem resolveFile_render {p : Path} (normal : p.Normal) (absolute : p.isAbsolute = true) :
    resolveFile base home p.render = p.render := by
  have slash : p.render.toList.head? = some '/' := (Path.settled_render normal absolute).absolute
  have nonempty : p.render ≠ "" := by
    intro h
    rw [h] at slash
    cases slash
  have plain : ¬HasTilde p.render := by
    rintro (h | ⟨rest, h⟩)
    · rw [h] at slash
      revert slash
      decide
    · rw [← h] at slash
      revert slash
      simp
  rw [resolveFile_of_not_tilde nonempty plain, Path.ofText_render normal,
    Path.join_of_isAbsolute absolute]

/-- The components of a reference that is not absolute follow those of the base. -/
theorem ofText_resolveFile_of_relative (baseNormal : base.Normal) (nonempty : reference ≠ "")
    (plain : ¬HasTilde reference) (relative : reference.toList.head? ≠ some '/') :
    Path.ofText (resolveFile base home reference) =
      ⟨base.root, base.names ++ segments reference.toList⟩ := by
  have below : (Path.ofText reference).isAbsolute = false := by
    rw [Bool.eq_false_iff]
    exact mt Path.isAbsolute_ofText.mp relative
  rw [resolveFile_of_not_tilde nonempty plain,
    Path.ofText_render (baseNormal.join (Path.normal_ofText reference)), Path.join_of_relative below,
    ← Path.namesOf_eq_segments]
  rfl

end

/-- Every reference but the empty one is written out as a settled text, which stays as it is when it is written
out again. The components of one that is neither absolute nor has a tilde follow those of the base. -/
theorem resolved_settled {base home : Path} (based : base.isAbsolute = true) (baseNormal : base.Normal)
    (homeNormal : home.Normal) {reference : String} (nonempty : reference ≠ "") :
    Settled (resolveFile base home reference) ∧
      (∀ base' home', resolveFile base' home' (resolveFile base home reference) =
        resolveFile base home reference) ∧
      (reference.toList.head? ≠ some '/' → ¬HasTilde reference →
        Path.ofText (resolveFile base home reference) =
          ⟨base.root, base.names ++ segments reference.toList⟩) := by
  obtain ⟨p, normal, absolute, written⟩ := exists_resolved based baseNormal homeNormal nonempty
  refine ⟨?_, fun base' home' => ?_, fun relative plain => ?_⟩
  · rw [written]
    exact Path.settled_render normal absolute
  · rw [written]
    exact resolveFile_render normal absolute
  · exact ofText_resolveFile_of_relative baseNormal nonempty plain relative

/-! ### A reference with detours -/

def sampleBase : Path := ⟨.slash, ["etc", "kube"]⟩

def sampleHome : Path := ⟨.slash, ["h"]⟩

theorem resolved_settled_sampleDetour :
    resolveFile sampleBase sampleHome "a/.//../b/" = "/etc/kube/a/../b" ∧
      Settled "/etc/kube/a/../b" ∧
      (∀ base home, resolveFile base home "/etc/kube/a/../b" = "/etc/kube/a/../b") ∧
      Path.ofText "/etc/kube/a/../b" = ⟨.slash, sampleBase.names ++ segments "a/.//../b/".toList⟩ := by
  have written : resolveFile sampleBase sampleHome "a/.//../b/" = "/etc/kube/a/../b" := by decide
  have based : sampleBase.isAbsolute = true := by decide
  have baseNormal : sampleBase.Normal := by decide
  have homeNormal : sampleHome.Normal := by decide
  have nonempty : "a/.//../b/" ≠ "" := by decide
  obtain ⟨settled, stays, below⟩ := resolved_settled based baseNormal homeNormal nonempty
  rw [written] at settled stays below
  exact ⟨written, settled, stays, below (by decide) (by decide)⟩

/-! ## Tildes -/

section

variable {home : Path} {reference : String}

/-- The slash of the tilde leads nowhere, so it does not matter whether it counts as behind the tilde. -/
theorem segments_behindTilde (tilde : HasTilde reference) :
    segments (behindTilde reference).toList = segments (reference.toList.drop 1) := by
  rcases tilde with rfl | ⟨rest, h⟩
  · decide
  · rw [behindTilde, String.toList_ofList, ← h, ← Path.namesOf_eq_segments, ← Path.namesOf_eq_segments]
    exact (Path.namesOf_slash rest).symm

/-- What is behind the tilde is absolute if another slash follows. -/
theorem isAbsolute_behindTilde (tilde : HasTilde reference) :
    (Path.ofText (behindTilde reference)).isAbsolute = true ↔ HasSlashBehindTilde reference := by
  rw [Path.isAbsolute_ofText, behindTilde, String.toList_ofList, HasSlashBehindTilde]
  rcases tilde with rfl | ⟨rest, h⟩
  · decide
  · rw [← h]
    cases rest with
    | nil => simp
    | cons c rest => simp [eq_comm]

/-- From an absolute home directory a tilde leads to an absolute path, which no base changes. -/
theorem resolveFile_of_home (homed : home.isAbsolute = true) (tilde : HasTilde reference) (base : Path) :
    resolveFile base home reference = (home.join (.ofText (behindTilde reference))).render := by
  have absolute : (home.join (.ofText (behindTilde reference))).isAbsolute = true := by
    rw [Path.isAbsolute_join, homed, Bool.true_or]
  rw [resolveFile_of_tilde tilde, Path.join_of_isAbsolute absolute]

theorem names_behindTilde (tilde : HasTilde reference) :
    (Path.ofText (behindTilde reference)).names = segments (reference.toList.drop 1) := by
  rw [← segments_behindTilde tilde, ← Path.namesOf_eq_segments]
  rfl

variable (homed : home.isAbsolute = true) (homeNormal : home.Normal) (tilde : HasTilde reference)
  (base : Path)

include homed homeNormal tilde

theorem ofText_resolveFile_of_tilde :
    Path.ofText (resolveFile base home reference) = home.join (.ofText (behindTilde reference)) := by
  rw [resolveFile_of_home homed tilde, Path.ofText_render (homeNormal.join (Path.normal_ofText _))]

/-- With another slash the home directory is lost. -/
theorem ofText_resolveFile_of_slash (slash : HasSlashBehindTilde reference) :
    Path.ofText (resolveFile base home reference) = Path.ofText (behindTilde reference) := by
  rw [ofText_resolveFile_of_tilde homed homeNormal tilde,
    Path.join_of_isAbsolute ((isAbsolute_behindTilde tilde).mpr slash)]

theorem leadsBelowHome_of_not_slash (inner : ¬HasSlashBehindTilde reference) :
    LeadsBelowHome home reference (resolveFile base home reference) := by
  have relative : (Path.ofText (behindTilde reference)).isAbsolute = false := by
    rw [Bool.eq_false_iff]
    exact mt (isAbsolute_behindTilde tilde).mp inner
  have reads := ofText_resolveFile_of_tilde homed homeNormal tilde base
  rw [Path.join_of_relative relative, names_behindTilde tilde] at reads
  constructor
  · rw [reads]
  · rw [reads]

/-- With another slash a tilde leads below a home directory only if that is the root of what is behind. -/
theorem leadsBelowHome_iff_of_slash (slash : HasSlashBehindTilde reference) :
    LeadsBelowHome home reference (resolveFile base home reference) ↔
      home = ⟨(Path.ofText (behindTilde reference)).root, []⟩ := by
  have lost := ofText_resolveFile_of_slash homed homeNormal tilde base slash
  have names := names_behindTilde tilde
  constructor
  · rintro ⟨root, below⟩
    rw [lost] at root below
    rw [names, List.self_eq_append_left] at below
    rw [root, ← below]
  · intro bare
    constructor
    · rw [lost, bare]
    · rw [lost, names, bare, List.nil_append]

end

/-- A tilde leads below the home directory unless another slash follows its own, save for a home directory that
is a root anyway. With that slash, what is behind counts as an absolute path. What a tilde leads to does not
depend on the base. -/
theorem tilde_exactly {home : Path} (homed : home.isAbsolute = true) (homeNormal : home.Normal)
    {reference : String} (tilde : HasTilde reference) (base : Path) :
    (LeadsBelowHome home reference (resolveFile base home reference) ↔
      ¬HasSlashBehindTilde reference ∨ home = ⟨(Path.ofText (behindTilde reference)).root, []⟩) ∧
    (HasSlashBehindTilde reference →
      Path.ofText (resolveFile base home reference) = Path.ofText (behindTilde reference)) ∧
    ∀ base', resolveFile base' home reference = resolveFile base home reference := by
  refine ⟨?_, ofText_resolveFile_of_slash homed homeNormal tilde base, fun base' => ?_⟩
  · by_cases slash : HasSlashBehindTilde reference
    · rw [leadsBelowHome_iff_of_slash homed homeNormal tilde base slash]
      simp [slash]
    · exact iff_of_true (leadsBelowHome_of_not_slash homed homeNormal tilde base slash) (.inl slash)
  · rw [resolveFile_of_home homed tilde, resolveFile_of_home homed tilde]

/-! ### Tildes with one slash and with two -/

theorem tilde_exactly_sampleOwn :
    HasTilde "~/./a//..///b/" ∧
      LeadsBelowHome sampleHome "~/./a//..///b/" (resolveFile sampleBase sampleHome "~/./a//..///b/") ∧
      ∀ base, resolveFile base sampleHome "~/./a//..///b/" = "/h/a/../b" := by
  have tilde : HasTilde "~/./a//..///b/" := by decide
  have homed : sampleHome.isAbsolute = true := by decide
  have homeNormal : sampleHome.Normal := by decide
  have written : resolveFile sampleBase sampleHome "~/./a//..///b/" = "/h/a/../b" := by decide
  obtain ⟨below, -, stays⟩ := tilde_exactly homed homeNormal tilde sampleBase
  exact ⟨tilde, below.mpr (.inl (by decide)), fun base => (stays base).trans written⟩

/-- A tilde that does not lead to the home directory. -/
theorem not_leadsBelowHome_sampleSlashes :
    HasTilde "~//etc" ∧ resolveFile sampleBase sampleHome "~//etc" = "/etc" ∧
      ¬LeadsBelowHome sampleHome "~//etc" (resolveFile sampleBase sampleHome "~//etc") := by
  have written : resolveFile sampleBase sampleHome "~//etc" = "/etc" := by decide
  refine ⟨by decide, written, ?_⟩
  rintro ⟨-, below⟩
  rw [written] at below
  revert below
  decide

end Kubeconfig

end ClusterAccess
