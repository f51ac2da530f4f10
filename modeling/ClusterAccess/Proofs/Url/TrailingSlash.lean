import ClusterAccess.Config.Layers
import ClusterAccess.Proofs.Endpoint
import ClusterAccess.Proofs.Url.Server

/-!
# Slashes at the end of base URLs

`trailingSlashes` counts the slashes that a text ends in. Giving a text its slash makes this number one, and
changes no text that ends in one slash already. A base URL that is composed with a version ends in one slash
more than the version does, and in two more when the version is nothing but slashes. So a base URL ends in just
one slash exactly if its version is `Bare`, or if it is given as a whole
(`Config.Draft.trailing_slashes_exact`).
-/

namespace ClusterAccess

namespace Endpoint

/-- How many slashes the text ends in. -/
def trailingSlashes (text : String) : Nat := (text.toList.rtakeWhile (· = '/')).length

def EndsInOneSlash (text : String) : Prop := trailingSlashes text = 1

instance (text : String) : Decidable (EndsInOneSlash text) :=
  inferInstanceAs (Decidable (trailingSlashes text = 1))

/-- There is something in the text, and it does not end in a slash. -/
def Bare (text : String) : Prop := text ≠ "" ∧ text.toList.getLast? ≠ some '/'

instance (text : String) : Decidable (Bare text) := instDecidableAnd

theorem trailingSlashes_eq_zero {text : String} :
    trailingSlashes text = 0 ↔ text.toList.getLast? ≠ some '/' := by
  rw [trailingSlashes, List.length_eq_zero_iff, List.rtakeWhile_eq_nil_iff]
  constructor
  · intro last ends
    have hne : text.toList ≠ [] := by
      intro he
      rw [he] at ends
      cases ends
    rw [List.getLast?_eq_some_getLast hne, Option.some.injEq] at ends
    exact last hne (decide_eq_true ends)
  · intro last hne ends
    rw [List.getLast?_eq_some_getLast hne, of_decide_eq_true ends] at last
    exact last rfl

/-- What does not end in a slash counts for nothing before another text. -/
theorem trailingSlashes_append {text : String} (last : text.toList.getLast? ≠ some '/')
    (rest : String) : trailingSlashes (text ++ rest) = trailingSlashes rest := by
  have stop : text.toList.rtakeWhile (· = '/') = [] :=
    List.length_eq_zero_iff.mp (trailingSlashes_eq_zero.mpr last)
  rw [List.rtakeWhile, List.reverse_eq_nil_iff] at stop
  rw [trailingSlashes, trailingSlashes, String.toList_append, List.rtakeWhile, List.rtakeWhile,
    List.reverse_append, List.takeWhile_append]
  split
  · next whole => rw [stop, List.append_nil, (List.takeWhile_prefix _).eq_of_length whole]
  · rfl

theorem trailingSlashes_append_slash (text : String) :
    trailingSlashes (text ++ "/") = trailingSlashes text + 1 := by
  have slash : "/".toList = ['/'] := rfl
  rw [trailingSlashes, String.toList_append, slash, List.rtakeWhile_concat_pos _ _ _ rfl,
    List.length_append]
  rfl

/-! ## Texts that are given their slash -/

theorem trailingSlashes_withTrailingSlash (url : String) :
    trailingSlashes (withTrailingSlash url) = 1 := by
  have split : withTrailingSlash url = String.ofList (stripped url) ++ "/" := by
    rw [← String.toList_inj, toList_withTrailingSlash]
    simp
  have none : trailingSlashes (String.ofList (stripped url)) = 0 := by
    rw [trailingSlashes_eq_zero, String.toList_ofList]
    exact getLast?_stripped url
  rw [split, trailingSlashes_append_slash, none]

/-- The texts that are left as they are. -/
theorem withTrailingSlash_eq_self_iff {url : String} :
    withTrailingSlash url = url ↔ EndsInOneSlash url := by
  constructor
  · intro h
    rw [← h]
    exact trailingSlashes_withTrailingSlash url
  · intro one
    have slashes : url.toList.rtakeWhile (· = '/') = ['/'] := by
      obtain ⟨c, hc⟩ := List.length_eq_one_iff.mp one
      have inside : c ∈ url.toList.rtakeWhile (· = '/') := by
        rw [hc]
        exact List.mem_singleton_self c
      have slash : c = '/' := by simpa using List.mem_rtakeWhile_imp inside
      rw [hc, slash]
    rw [← String.toList_inj, toList_withTrailingSlash, stripped, ← slashes,
      List.rdropWhile_append_rtakeWhile]

theorem withTrailingSlash_idempotent (url : String) :
    withTrailingSlash (withTrailingSlash url) = withTrailingSlash url :=
  withTrailingSlash_eq_self_iff.mpr (trailingSlashes_withTrailingSlash url)

/-! ## Texts that end in a version -/

/-- A version and the slashes around it count alone, whatever stands before them. -/
theorem trailingSlashes_versioned {composed front interface version : String} {c : Char}
    (h : composed = front ++ interface ++ "/" ++ version ++ "/")
    (last : interface.toList.getLast? = some c) (hc : c ≠ '/') :
    trailingSlashes composed = trailingSlashes ("/" ++ version) + 1 := by
  have stop : (front ++ interface).toList.getLast? ≠ some '/' := by
    rw [String.toList_append, List.getLast?_append, last, Option.some_or, ne_eq, Option.some.injEq]
    exact hc
  rw [h, trailingSlashes_append_slash, String.append_assoc, trailingSlashes_append stop]

theorem trailingSlashes_slash_append {version : String} :
    trailingSlashes ("/" ++ version) = 0 ↔ Bare version := by
  have slash : "/".toList = ['/'] := rfl
  rw [trailingSlashes_eq_zero, String.toList_append, slash, List.singleton_append, List.getLast?_cons,
    Bare]
  by_cases he : version = ""
  · simp [he]
  · have hne : version.toList ≠ [] := fun h => he (String.toList_eq_nil_iff.mp h)
    rw [List.getLast?_eq_some_getLast hne, Option.getD_some]
    exact (and_iff_right he).symm

theorem endsInOneSlash_iff {composed version : String}
    (h : trailingSlashes composed = trailingSlashes ("/" ++ version) + 1) :
    EndsInOneSlash composed ↔ Bare version := by
  rw [EndsInOneSlash, h, Nat.add_eq_right, trailingSlashes_slash_append]

end Endpoint

namespace Config.Draft

open Endpoint

/-- How many slashes the base URLs of a completed draft end in. -/
structure EndsAs (d : Draft) (c : Config) : Prop where
  master : trailingSlashes c.masterUrl = trailingSlashes ("/" ++ d.apiVersion) + 1
  beside : d.extendedApiUrl = none →
    trailingSlashes c.extendedApiUrl = trailingSlashes ("/" ++ d.extendedApiVersion) + 1
  given : d.extendedApiUrl ≠ none → EndsInOneSlash c.extendedApiUrl

theorem endsAs_of_build {d : Draft} {c : Config} (h : d.build = .ok c) : d.EndsAs c := by
  obtain ⟨masterUrl, urls, -, -, hu, rfl⟩ := build_eq_ok h
  obtain ⟨rfl, -, -⟩ := BaseUrls.check_eq_ok hu
  refine ⟨?_, fun beside => ?_, fun given => ?_⟩
  · have composed : (baseUrls masterUrl d.extendedApiUrl d.apiVersion d.extendedApiVersion).masterUrl =
        withTrailingSlash masterUrl ++ "api" ++ "/" ++ d.apiVersion ++ "/" := by
      simp [baseUrls, String.append_assoc]
    exact trailingSlashes_versioned composed rfl (by decide)
  · have composed : (baseUrls masterUrl none d.apiVersion d.extendedApiVersion).extendedApiUrl =
        withTrailingSlash masterUrl ++ "oapi" ++ "/" ++ d.extendedApiVersion ++ "/" := by
      simp [baseUrls, String.append_assoc]
    rw [beside]
    exact trailingSlashes_versioned composed rfl (by decide)
  · obtain ⟨url, hx⟩ := Option.ne_none_iff_exists'.mp given
    rw [hx]
    exact trailingSlashes_withTrailingSlash url

/-- Base URLs end in at least one slash. The master has just one exactly if its version is bare, and the
extended interface exactly if its version is, unless its URL is given. A text is left as it is when it is
given its slash for a second time, and for the first time only if it has just one. -/
theorem trailing_slashes_exact {d : Draft} {c : Config} (h : d.build = .ok c) :
    d.EndsAs c ∧ (EndsInOneSlash c.masterUrl ↔ Bare d.apiVersion) ∧
      (EndsInOneSlash c.extendedApiUrl ↔ (d.extendedApiUrl = none → Bare d.extendedApiVersion)) ∧
      (∀ url, withTrailingSlash (withTrailingSlash url) = withTrailingSlash url) ∧
      ∀ url, withTrailingSlash url = url ↔ EndsInOneSlash url := by
  have ends := endsAs_of_build h
  refine ⟨ends, endsInOneSlash_iff ends.master, ?_, withTrailingSlash_idempotent,
    fun _ => withTrailingSlash_eq_self_iff⟩
  by_cases beside : d.extendedApiUrl = none
  · rw [endsInOneSlash_iff (ends.beside beside)]
    exact (imp_iff_right beside).symm
  · exact iff_of_true (ends.given beside) (absurd · beside)

/-! ### Versions that are bare and that are not -/

/-- A draft with a bare version for its master and none for the extended interface, whose URL is given. -/
def sampleSlashed : Draft :=
  { masterUrl := some "https://a/k//", extendedApiUrl := some "https://b///", extendedApiVersion := "" }

theorem trailing_slashes_sampleSlashed :
    ∃ c, sampleSlashed.build = .ok c ∧ EndsInOneSlash c.masterUrl ∧ EndsInOneSlash c.extendedApiUrl := by
  have built : sampleSlashed.build = .ok { sampleSlashed.toOptions with
      masterUrl := "https://a/k/api/v1/", extendedApiUrl := "https://b/" } := by decide
  obtain ⟨-, master, extended, -⟩ := trailing_slashes_exact built
  exact ⟨_, built, master.mpr (by decide), extended.mpr nofun⟩

/-- A base URL that ends in two slashes, since its version ends in one. -/
theorem not_endsInOneSlash_sampleVersion :
    ∃ c, ({ masterUrl := some "https://a", apiVersion := "v1/" } : Draft).build = .ok c ∧
      c.masterUrl = "https://a/api/v1//" ∧ ¬ EndsInOneSlash c.masterUrl := by
  have built : ({ masterUrl := some "https://a", apiVersion := "v1/" } : Draft).build = .ok
      { apiVersion := "v1/", masterUrl := "https://a/api/v1//",
        extendedApiUrl := "https://a/oapi/v1/" } := by decide
  exact ⟨_, built, rfl, by decide⟩

end Config.Draft

end ClusterAccess
