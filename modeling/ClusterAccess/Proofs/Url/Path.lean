import ClusterAccess.Proofs.Endpoint
import ClusterAccess.Proofs.Url.Server

/-!
# Which path a URL has

The path of a text is what stands behind scheme and authority, up to the mark that begins a query or a
fragment. A text without these marks has neither (`Parts.unmarked_iff`), and what is written behind a slash
goes on in its path (`behindServer_append_slash`). So a base URL has its version in the path exactly if no
mark stands in the URL of the master or in the version (`Endpoint.versioned_exactly`).
-/

namespace ClusterAccess

namespace Url

/-! ## Paths and marks -/

/-- A character that no query and no fragment begins with. -/
def isPathChar (c : Char) : Bool := c != '?' && c != '#'

/-- No mark in the text begins a query or a fragment. -/
def Unmarked (cs : List Char) : Prop := ∀ c ∈ cs, isPathChar c = true

instance (cs : List Char) : Decidable (Unmarked cs) := List.decidableBAll _ cs

/-- What follows the scheme and the authority of a text. -/
def behindServer (cs : List Char) : List Char := (splitAuthority (splitScheme cs).2).2

theorem Parts.path_split (cs : List Char) :
    (Parts.split cs).path = (behindServer cs).takeWhile isPathChar := rfl

theorem unmarked_nil : Unmarked [] := List.forall_mem_nil _

theorem unmarked_append {cs ds : List Char} : Unmarked (cs ++ ds) ↔ Unmarked cs ∧ Unmarked ds :=
  List.forall_mem_append

theorem unmarked_cons_of_pathChar {c : Char} (h : isPathChar c = true) (cs : List Char) :
    Unmarked (c :: cs) ↔ Unmarked cs := by
  rw [Unmarked, List.forall_mem_cons]
  exact and_iff_right h

theorem unmarked_slashes (n : Nat) : Unmarked (List.replicate n '/') := by
  intro c hc
  rw [List.eq_of_mem_replicate hc]
  rfl

theorem isPathChar_of_isAuthorityChar {c : Char} (h : isAuthorityChar c = true) :
    isPathChar c = true := by
  simp only [isAuthorityChar, isPathChar, Bool.and_eq_true] at h ⊢
  exact ⟨h.1.2, h.2⟩

theorem unmarked_of_isScheme {cs : List Char} (h : IsScheme cs) : Unmarked cs := by
  rcases h with rfl | ⟨-, inside⟩
  · exact unmarked_nil
  · intro c hc
    have scheme := inside c hc
    by_contra marked
    have mark : c = '?' ∨ c = '#' := by
      by_contra neither
      simp_all [isPathChar]
    rcases mark with rfl | rfl <;> revert scheme <;> decide

/-- Neither a scheme nor an authority has a mark in it. -/
theorem unmarked_behindServer (cs : List Char) : Unmarked (behindServer cs) ↔ Unmarked cs := by
  have authority (ds : List Char) : Unmarked (splitAuthority ds).2 ↔ Unmarked ds := by
    obtain ⟨authority, tail, inside, stop, rfl⟩ | none := splitAuthority_cases ds
    · rw [splitAuthority_append inside stop]
      have front : Unmarked ('/' :: '/' :: authority) := by
        rw [unmarked_cons_of_pathChar rfl, unmarked_cons_of_pathChar rfl]
        exact fun c hc => isPathChar_of_isAuthorityChar (inside c hc)
      rw [← List.cons_append, ← List.cons_append, unmarked_append]
      exact (and_iff_right front).symm
    · rw [none]
  rw [behindServer, authority]
  obtain ⟨scheme, rest, h, rfl⟩ | none := splitScheme_cases cs
  · rw [splitScheme_append h, unmarked_append, unmarked_cons_of_pathChar (by decide)]
    exact (and_iff_right (unmarked_of_isScheme h)).symm
  · rw [none]

/-- A text has neither query nor fragment exactly if it has no mark. -/
theorem Parts.unmarked_iff (cs : List Char) :
    (Parts.split cs).query = none ∧ (Parts.split cs).fragment = none ↔ Unmarked cs := by
  rw [← unmarked_behindServer]
  have cut : (Parts.split cs).query =
        (splitBehind '?' (· != '#') ((behindServer cs).dropWhile isPathChar)).1 ∧
      (Parts.split cs).fragment =
        (splitBehind '#' (fun _ => true)
          (splitBehind '?' (· != '#') ((behindServer cs).dropWhile isPathChar)).2).1 := ⟨rfl, rfl⟩
  rw [cut.1, cut.2]
  cases h : (behindServer cs).dropWhile isPathChar with
  | nil => simpa [splitBehind, Unmarked] using List.dropWhile_eq_nil_iff.mp h
  | cons c rest =>
    have mark : isPathChar c = false := head?_dropWhile_stop isPathChar _ c (by rw [h]; rfl)
    have there : ¬ Unmarked (behindServer cs) := by
      intro unmarked
      rw [List.dropWhile_eq_nil_iff.mpr unmarked] at h
      cases h
    refine ⟨fun missing => ?_, fun unmarked => absurd unmarked there⟩
    -- the mark that ends the path begins a query, or else a fragment
    by_cases question : c = '?'
    · simp [splitBehind, question] at missing
    · have number : c = '#' := by simpa [isPathChar, question] using mark
      simp [splitBehind, number] at missing

/-! ## What is written behind a slash -/

/-- What is written behind a slash follows what was there, unless nothing was there and slashes begin an
authority. -/
theorem behindServer_append_slash {cs : List Char} (last : cs.getLast? ≠ some '/') (rest : List Char) :
    behindServer (cs ++ '/' :: rest) = behindServer cs ++ '/' :: rest ∨
      behindServer cs = [] ∧ behindServer (cs ++ '/' :: rest) = (splitAuthority ('/' :: rest)).2 := by
  have last' := getLast?_splitScheme last
  rw [behindServer, behindServer, splitScheme_append_slash]
  generalize (splitScheme cs).2 = tail at last'
  obtain ⟨authority, path, inside, stop, rfl⟩ | none := splitAuthority_cases tail
  · refine .inl ?_
    rw [splitAuthority_append inside stop, List.cons_append, List.cons_append, List.append_assoc,
      splitAuthority_append inside]
    cases path with
    | nil => simp [isAuthorityChar]
    | cons c path => exact stop
  · match tail with
    | [] => exact .inr ⟨rfl, rfl⟩
    | [c] =>
      have hc : c ≠ '/' := by simpa using last'
      refine .inl ?_
      simp [splitAuthority, hc]
    | c :: d :: tail =>
      refine .inl ?_
      by_cases slashes : c = '/' ∧ d = '/'
      · obtain ⟨rfl, rfl⟩ := slashes
        -- a text that begins with two slashes has none of them left behind its authority
        have short := congrArg (fun cut => cut.2.length) none
        have := List.length_dropWhile_le isAuthorityChar tail
        simp only [splitAuthority, List.length_cons] at short
        change (tail.dropWhile isAuthorityChar).length = _ at short
        omega
      · rw [List.cons_append, List.cons_append, splitAuthority_of_not_slashes slashes,
          splitAuthority_of_not_slashes slashes]
        rfl

end Url

namespace Endpoint

open Url (Parts Unmarked behindServer isPathChar splitAuthority)

/-! ## Versions in paths -/

/-- The composed text has its version in the path: it has neither query nor fragment, and its path is that of
the master, without slashes at its end, with the interface and the version behind it. -/
structure VersionedByPath (composed master interface version : String) : Prop where
  query : (Parts.split composed.toList).query = none
  fragment : (Parts.split composed.toList).fragment = none
  path : (Parts.split composed.toList).path =
    (Parts.split master.toList).path.rdropWhile (· = '/') ++
      ("/" ++ interface ++ "/" ++ version ++ "/").toList

/-- A path ends where the first mark stands, whatever follows. -/
theorem takeWhile_append_of_marked {cs : List Char} (marked : ¬ Unmarked cs) (rest : List Char) :
    (cs ++ rest).takeWhile isPathChar = cs.takeWhile isPathChar := by
  induction cs with
  | nil => exact absurd Url.unmarked_nil marked
  | cons c cs ih =>
    rw [List.cons_append, List.takeWhile_cons, List.takeWhile_cons]
    by_cases inside : isPathChar c = true
    · have later : ¬ Unmarked cs := fun unmarked => marked (List.forall_mem_cons.mpr ⟨inside, unmarked⟩)
      rw [if_pos inside, if_pos inside, ih later]
    · rw [if_neg inside, if_neg inside]

theorem rdropWhile_append_slashes (cs : List Char) (n : Nat) :
    (cs ++ List.replicate n '/').rdropWhile (· = '/') = cs.rdropWhile (· = '/') := by
  have slashes : ∀ c ∈ (List.replicate n '/').reverse, decide (c = '/') = true := by
    intro c hc
    rw [List.mem_reverse] at hc
    exact decide_eq_true (List.eq_of_mem_replicate hc)
  rw [List.rdropWhile, List.reverse_append, List.dropWhile_append_of_pos slashes]
  rfl

theorem getLast?_behindServer {cs : List Char} (last : cs.getLast? ≠ some '/') :
    (behindServer cs).getLast? ≠ some '/' := by
  have last' := Url.getLast?_splitScheme last
  rw [behindServer]
  generalize (Url.splitScheme cs).2 = tail at last'
  obtain ⟨authority, path, inside, stop, rfl⟩ | none := Url.splitAuthority_cases tail
  · rw [Url.splitAuthority_append inside stop]
    intro hl
    refine last' ?_
    rw [← List.cons_append, ← List.cons_append, List.getLast?_append, hl]
    rfl
  · rwa [none]

/-- Of slashes behind a text some are left behind its server. -/
theorem exists_behindServer_slashes {cs : List Char} (last : cs.getLast? ≠ some '/') (n : Nat) :
    ∃ k, behindServer (cs ++ List.replicate n '/') = behindServer cs ++ List.replicate k '/' := by
  cases n with
  | zero => exact ⟨0, by simp⟩
  | succ n =>
    rw [List.replicate_succ]
    obtain h | ⟨none, h⟩ := Url.behindServer_append_slash last (List.replicate n '/')
    · exact ⟨n + 1, by rw [h, List.replicate_succ]⟩
    · rw [h, none]
      match n with
      | 0 => exact ⟨1, rfl⟩
      | 1 => exact ⟨0, rfl⟩
      | n + 2 => exact ⟨n + 1, by simp [splitAuthority, List.replicate_succ]⟩

theorem splitAuthority_of_inner {rest : List Char} (inner : rest.head? ≠ some '/') :
    splitAuthority ('/' :: rest) = ([], '/' :: rest) := by
  cases rest with
  | nil => rfl
  | cons c rest =>
    refine Url.splitAuthority_of_not_slashes ?_ rest
    rintro ⟨-, rfl⟩
    exact inner rfl

section

variable {composed master : String} {rest : List Char}

/-- Without a mark in the master, what is written behind it goes on in its path. -/
theorem path_of_unmarked (unmarked : Unmarked master.toList)
    (h : composed.toList = stripped master ++ '/' :: rest) (inner : rest.head? ≠ some '/') :
    (Parts.split composed.toList).path =
      (Parts.split master.toList).path.rdropWhile (· = '/') ++ ('/' :: rest).takeWhile isPathChar := by
  obtain ⟨n, hn⟩ := exists_stripped_append master
  obtain ⟨k, hk⟩ := exists_behindServer_slashes (getLast?_stripped master) n
  have kept : Unmarked (behindServer (stripped master)) := by
    rw [Url.unmarked_behindServer]
    rw [hn, Url.unmarked_append] at unmarked
    exact unmarked.1
  have given : (Parts.split master.toList).path =
      behindServer (stripped master) ++ List.replicate k '/' := by
    rw [Parts.path_split, hn, hk, List.takeWhile_append_of_pos kept, List.takeWhile_replicate]
    rfl
  have bare : (Parts.split master.toList).path.rdropWhile (· = '/') =
      behindServer (stripped master) := by
    rw [given, rdropWhile_append_slashes, List.rdropWhile_eq_self_iff]
    intro hne
    have last := getLast?_behindServer (getLast?_stripped master)
    rw [List.getLast?_eq_some_getLast hne] at last
    simpa using last
  have onward : behindServer composed.toList = behindServer (stripped master) ++ '/' :: rest := by
    rw [h]
    obtain onward | ⟨none, onward⟩ := Url.behindServer_append_slash (getLast?_stripped master) rest
    · exact onward
    · rw [onward, none, splitAuthority_of_inner inner, List.nil_append]
  rw [bare, Parts.path_split, onward, List.takeWhile_append_of_pos kept]

/-- A mark in the master keeps out of its path whatever is written behind it. -/
theorem path_of_marked (marked : ¬ Unmarked master.toList)
    (h : composed.toList = stripped master ++ '/' :: rest) :
    (Parts.split composed.toList).path = (Parts.split master.toList).path := by
  obtain ⟨n, hn⟩ := exists_stripped_append master
  obtain ⟨k, hk⟩ := exists_behindServer_slashes (getLast?_stripped master) n
  have held : ¬ Unmarked (behindServer (stripped master)) := by
    intro unmarked
    refine marked ?_
    rw [hn, Url.unmarked_append]
    exact ⟨(Url.unmarked_behindServer _).mp unmarked, Url.unmarked_slashes n⟩
  have onward : behindServer composed.toList = behindServer (stripped master) ++ '/' :: rest := by
    rw [h]
    obtain onward | ⟨none, -⟩ := Url.behindServer_append_slash (getLast?_stripped master) rest
    · exact onward
    · rw [none] at held
      exact absurd Url.unmarked_nil held
  rw [Parts.path_split, Parts.path_split, onward, hn, hk, takeWhile_append_of_marked held,
    takeWhile_append_of_marked held]

end

/-- Where interface and version stand in a composed text. They are in its path exactly if no mark is in the
master or in the version. A mark in the master keeps both out of the path, and one in the version ends it. -/
structure PlacesVersion (composed master interface version : String) : Prop where
  versioned : VersionedByPath composed master interface version ↔
    Unmarked master.toList ∧ Unmarked version.toList
  marked : ¬ Unmarked master.toList →
    (Parts.split composed.toList).path = (Parts.split master.toList).path
  unmarked : Unmarked master.toList → (Parts.split composed.toList).path =
    (Parts.split master.toList).path.rdropWhile (· = '/') ++
      ("/" ++ interface ++ "/" ++ version ++ "/").toList.takeWhile isPathChar

theorem placesVersion_of_append {composed master interface version : String}
    (h : composed = withTrailingSlash master ++ interface ++ "/" ++ version ++ "/")
    (inner : (interface ++ "/").toList.head? ≠ some '/') (plain : Unmarked interface.toList) :
    PlacesVersion composed master interface version := by
  have text : composed.toList =
      stripped master ++ '/' :: (interface.toList ++ '/' :: (version.toList ++ ['/'])) := by
    simp [h, toList_withTrailingSlash]
  have behind : ("/" ++ interface ++ "/" ++ version ++ "/").toList =
      '/' :: (interface.toList ++ '/' :: (version.toList ++ ['/'])) := by simp
  have inner' : (interface.toList ++ '/' :: (version.toList ++ ['/'])).head? ≠ some '/' := by
    cases hi : interface.toList with
    | nil => simp [hi] at inner
    | cons c cs => simpa [hi] using inner
  have all : Unmarked composed.toList ↔ Unmarked master.toList ∧ Unmarked version.toList := by
    obtain ⟨n, hn⟩ := exists_stripped_append master
    have slash := Url.unmarked_cons_of_pathChar (c := '/') rfl
    rw [text, hn, Url.unmarked_append, Url.unmarked_append, slash, Url.unmarked_append, slash,
      Url.unmarked_append, slash]
    simp only [Url.unmarked_slashes, plain, Url.unmarked_nil, and_true, true_and]
  refine ⟨⟨fun versioned => all.mp ?_, fun unmarked => ?_⟩, fun marked => path_of_marked marked text,
    fun unmarked => ?_⟩
  · exact (Parts.unmarked_iff _).mp ⟨versioned.query, versioned.fragment⟩
  · obtain ⟨query, fragment⟩ := (Parts.unmarked_iff _).mpr (all.mpr unmarked)
    refine ⟨query, fragment, ?_⟩
    have onward : Unmarked ('/' :: (interface.toList ++ '/' :: (version.toList ++ ['/']))) := by
      have whole := all.mpr unmarked
      rw [text, Url.unmarked_append] at whole
      exact whole.2
    rw [path_of_unmarked unmarked.1 text inner', List.takeWhile_eq_self_iff.mpr onward, behind]
  · rw [path_of_unmarked unmarked text inner', behind]

/-- The base URLs of a cluster have their versions in their paths exactly if no mark is in the URL of the
master or in the version. -/
theorem versioned_exactly {masterUrl : String} {extendedApiUrl : Option String}
    {apiVersion extendedApiVersion : String} {urls : BaseUrls}
    (h : compose masterUrl extendedApiUrl apiVersion extendedApiVersion = .ok urls) :
    PlacesVersion urls.masterUrl masterUrl "api" apiVersion ∧
      (extendedApiUrl = none →
        PlacesVersion urls.extendedApiUrl masterUrl "oapi" extendedApiVersion) := by
  obtain ⟨rfl, -, -⟩ := BaseUrls.check_eq_ok h
  constructor
  · refine placesVersion_of_append ?_ (by decide) (by decide)
    simp [baseUrls, String.append_assoc]
  · rintro rfl
    refine placesVersion_of_append ?_ (by decide) (by decide)
    simp [baseUrls, String.append_assoc]

/-! ### Masters with a path and with a query -/

theorem versioned_exactly_sampleBelow :
    ∃ urls, compose "https://a/k//" none "v1" "v2?" = .ok urls ∧
      VersionedByPath urls.masterUrl "https://a/k//" "api" "v1" ∧
      ¬ VersionedByPath urls.extendedApiUrl "https://a/k//" "oapi" "v2?" := by
  have composed : compose "https://a/k//" none "v1" "v2?" =
      .ok ⟨"https://a/k/api/v1/", "https://a/k/oapi/v2?/"⟩ := by decide
  obtain ⟨master, extended⟩ := versioned_exactly composed
  have unmarked : Unmarked "https://a/k//".toList ∧ Unmarked "v1".toList := by decide
  refine ⟨_, composed, master.versioned.mpr unmarked, fun versioned => ?_⟩
  obtain ⟨-, marked⟩ := (extended rfl).versioned.mp versioned
  exact absurd (marked '?' (by decide)) (by decide)

/-- A base URL that has its version in its query. -/
theorem not_versionedByPath_sampleQuery :
    ∃ urls, compose "https://a?b" none "v1" "v1" = .ok urls ∧
      urls.masterUrl = "https://a?b/api/v1/" ∧
      ¬ VersionedByPath urls.masterUrl "https://a?b" "api" "v1" := by
  have composed : compose "https://a?b" none "v1" "v1" =
      .ok ⟨"https://a?b/api/v1/", "https://a?b/oapi/v1/"⟩ := by decide
  refine ⟨_, composed, rfl, fun versioned => ?_⟩
  have query : (Parts.split "https://a?b/api/v1/".toList).query ≠ none := by decide
  exact query versioned.query

end Endpoint

end ClusterAccess
