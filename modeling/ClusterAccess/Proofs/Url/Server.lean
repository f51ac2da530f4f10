import ClusterAccess.Endpoint
import ClusterAccess.Proofs.Url.Cutting
import Mathlib.Data.List.DropRight

/-!
# Which server a URL names

The scheme and the authority of a text say which server it names. What is written behind a slash changes
neither (`Parts.server_append_slash`), unless that slash and the next character begin an authority. So the
base URLs of a cluster name the server of the URL that they are made from, whatever versions are written
behind it (`Endpoint.sameServer_baseUrls`).
-/

namespace ClusterAccess

namespace Url

/-- The texts have one scheme and one authority, and with it one user information, host and port. -/
structure SameServer (a b : String) : Prop where
  scheme : (Parts.split a.toList).scheme = (Parts.split b.toList).scheme
  authority : (Parts.split a.toList).authority = (Parts.split b.toList).authority

/-! ## What a slash cuts off -/

theorem not_mem_slash_of_isScheme {cs : List Char} (h : IsScheme cs) : '/' ∉ cs := by
  rcases h with rfl | ⟨-, inside⟩
  · exact List.not_mem_nil
  · intro hm
    have := inside '/' hm
    revert this
    decide

/-- A scheme ends before the first slash. -/
theorem splitScheme_append_slash (cs rest : List Char) :
    splitScheme (cs ++ '/' :: rest) = ((splitScheme cs).1, (splitScheme cs).2 ++ '/' :: rest) := by
  obtain ⟨scheme, tail, h, rfl⟩ | none := splitScheme_cases cs
  · rw [splitScheme_append h, List.append_assoc, List.cons_append, splitScheme_append h]
  · rw [none]
    obtain ⟨scheme, tail, h, he⟩ | none' := splitScheme_cases (cs ++ '/' :: rest)
    · -- the colon of such a scheme would stand before the slash, in the text that has none
      obtain ⟨mid, rfl, hm⟩ | ⟨mid, rfl, hm⟩ := List.append_eq_append_iff.mp he
      · cases mid with
        | nil => cases hm
        | cons c mid =>
          obtain ⟨rfl, -⟩ := List.cons.inj hm
          exact absurd (by simp) (not_mem_slash_of_isScheme h)
      · cases mid with
        | nil => cases hm
        | cons c mid =>
          obtain ⟨rfl, -⟩ := List.cons.inj hm
          rw [splitScheme_append h, Prod.mk.injEq] at none
          have := congrArg List.length none.2
          simp only [List.length_append, List.length_cons] at this
          omega
    · exact none'

/-- What follows the scheme ends as the whole text does. -/
theorem getLast?_splitScheme {cs : List Char} (last : cs.getLast? ≠ some '/') :
    (splitScheme cs).2.getLast? ≠ some '/' := by
  obtain ⟨scheme, tail, h, rfl⟩ | none := splitScheme_cases cs
  · rw [splitScheme_append h]
    intro hl
    refine last ?_
    rw [List.getLast?_append, List.getLast?_cons, hl]
    rfl
  · rwa [none]

/-- An authority ends before the first slash behind it. -/
theorem authority_append_slash {cs rest : List Char} (last : cs.getLast? ≠ some '/')
    (bare : (splitAuthority ('/' :: rest)).1 = []) :
    (splitAuthority (cs ++ '/' :: rest)).1 = (splitAuthority cs).1 := by
  match cs with
  | [] => exact bare
  | [c] =>
    have hc : c ≠ '/' := by simpa using last
    simp [splitAuthority, hc]
  | c :: d :: cs =>
    by_cases h : c = '/' ∧ d = '/'
    · obtain ⟨rfl, rfl⟩ := h
      exact takeWhile_append_cons_of_neg (by decide) cs rest
    · rw [List.cons_append, List.cons_append, splitAuthority_of_not_slashes h,
        splitAuthority_of_not_slashes h]

/-- What is written behind a slash changes neither the scheme nor the authority of a text that does not end
in one. -/
theorem Parts.server_append_slash {cs rest : List Char} (last : cs.getLast? ≠ some '/')
    (bare : (splitAuthority ('/' :: rest)).1 = []) :
    (Parts.split (cs ++ '/' :: rest)).scheme = (Parts.split cs).scheme ∧
      (Parts.split (cs ++ '/' :: rest)).authority = (Parts.split cs).authority := by
  rw [Parts.scheme_split, Parts.scheme_split, Parts.authority_split, Parts.authority_split,
    splitScheme_append_slash]
  exact ⟨rfl, authority_append_slash (getLast?_splitScheme last) bare⟩

end Url

namespace Endpoint

open Url (Parts SameServer splitAuthority)

/-- The text of a URL without the slashes at its end. -/
def stripped (url : String) : List Char := url.toList.rdropWhile (· = '/')

theorem getLast?_stripped (url : String) : (stripped url).getLast? ≠ some '/' := by
  intro h
  have hne : stripped url ≠ [] := by
    intro he
    rw [he] at h
    cases h
  have last := List.rdropWhile_last_not (· = '/') url.toList hne
  rw [List.getLast?_eq_some_getLast hne, Option.some.injEq] at h
  exact last (decide_eq_true h)

theorem toList_withTrailingSlash (url : String) :
    (withTrailingSlash url).toList = stripped url ++ ['/'] := by
  rw [withTrailingSlash, String.toList_ofList]
  rfl

/-- The slashes at the end of a URL are all that is stripped. -/
theorem exists_stripped_append (url : String) :
    ∃ n, url.toList = stripped url ++ List.replicate n '/' := by
  refine ⟨(url.toList.rtakeWhile (· = '/')).length, ?_⟩
  have slashes : ∀ c ∈ url.toList.rtakeWhile (· = '/'), c = '/' := by
    intro c hc
    simpa using List.mem_rtakeWhile_imp hc
  rw [← List.eq_replicate_of_mem slashes, stripped, List.rdropWhile_append_rtakeWhile]

theorem splitAuthority_replicate (n : Nat) : (splitAuthority (List.replicate n '/')).1 = [] := by
  match n with
  | 0 => rfl
  | 1 => rfl
  | 2 => rfl
  | n + 3 => simp [splitAuthority, List.replicate_succ]

/-- A text that continues a stripped URL behind a slash names the server of that URL. -/
theorem sameServer_of_stripped {text url : String} (rest : List Char)
    (h : text.toList = stripped url ++ '/' :: rest) (bare : (splitAuthority ('/' :: rest)).1 = []) :
    SameServer text url := by
  have server := Parts.server_append_slash (getLast?_stripped url) bare
  obtain ⟨n, hn⟩ := exists_stripped_append url
  cases n with
  | zero =>
    rw [List.replicate_zero, List.append_nil] at hn
    exact ⟨by rw [h, hn, server.1], by rw [h, hn, server.2]⟩
  | succ n =>
    have slashes := Parts.server_append_slash (getLast?_stripped url) (splitAuthority_replicate (n + 1))
    rw [List.replicate_succ] at hn
    exact ⟨by rw [h, hn, server.1, slashes.1], by rw [h, hn, server.2, slashes.2]⟩

/-- The base URLs name the servers of the URLs that they are made from. -/
theorem sameServer_baseUrls (masterUrl : String) (extendedApiUrl : Option String)
    (apiVersion extendedApiVersion : String) :
    SameServer (baseUrls masterUrl extendedApiUrl apiVersion extendedApiVersion).masterUrl masterUrl ∧
      SameServer (baseUrls masterUrl extendedApiUrl apiVersion extendedApiVersion).extendedApiUrl
        (extendedApiUrl.getD masterUrl) := by
  constructor
  · refine sameServer_of_stripped ("api/".toList ++ apiVersion.toList ++ ['/']) ?_ rfl
    simp [baseUrls, toList_withTrailingSlash]
  · cases extendedApiUrl with
    | none =>
      refine sameServer_of_stripped ("oapi/".toList ++ extendedApiVersion.toList ++ ['/']) ?_ rfl
      simp [baseUrls, toList_withTrailingSlash]
    | some url => exact sameServer_of_stripped [] (toList_withTrailingSlash url) rfl

end Endpoint

end ClusterAccess
