import ClusterAccess.Config.Basic
import ClusterAccess.Proofs.Url.Cutting

/-!
# Passwords in the texts of URLs

The authority of a URL may name a user and, behind a colon, a password. `discreet` is the text of a URL with
a mask in the place of the password. It is cut as the text itself is, but for the user information
(`Parts.split_discreet`, `Authority.split_hideInAuthority`), so texts that are the same when the password
is hidden differ in the password alone (`cut_eq_of_discreet`).
-/

namespace ClusterAccess.Url

/-- A user name and a password behind a colon, the password hidden. Without a colon there is none. -/
def hidePassword (userinfo : List Char) : List Char :=
  if userinfo.contains ':' then userinfo.takeWhile (· != ':') ++ ':' :: Config.mask.toList
  else userinfo

/-- An authority with its password hidden. -/
def hideInAuthority (authority : List Char) : List Char :=
  match splitAtLast '@' authority with
  | some (userinfo, server) => hidePassword userinfo ++ '@' :: server
  | none => authority

/-- The text of a URL with its password hidden. -/
def discreet (url : String) : String :=
  let cs := url.toList
  let (authority, tail) := splitAuthority (splitScheme cs).2
  let front := cs.take (cs.length - (authority ++ tail).length)
  String.ofList (front ++ hideInAuthority authority ++ tail)

/-! ## What is hidden -/

theorem takeWhile_hidePassword (userinfo : List Char) :
    (hidePassword userinfo).takeWhile (· != ':') = userinfo.takeWhile (· != ':') := by
  unfold hidePassword
  split
  · refine takeWhile_append_of_stop (fun c hc => ?_) (by simp)
    exact List.mem_takeWhile_imp (p := (· != ':')) hc
  · rfl

/-- Of an authority with its password hidden the other parts are the same. -/
theorem Authority.split_hideInAuthority (authority : List Char) :
    Authority.split (hideInAuthority authority) =
      { Authority.split authority with userinfo := hidePassword (Authority.split authority).userinfo } := by
  unfold hideInAuthority
  obtain ⟨userinfo, server, last, rfl⟩ | none := splitAtLast_cases '@' authority
  · simp only [splitAtLast_append last, Authority.split, Option.getD_some]
  · simp only [none, Authority.split, Option.getD_none]
    rfl

theorem isAuthorityChar_hidePassword {userinfo : List Char}
    (inside : ∀ c ∈ userinfo, isAuthorityChar c = true) :
    ∀ c ∈ hidePassword userinfo, isAuthorityChar c = true := by
  unfold hidePassword
  split
  · have masked : ∀ c ∈ ':' :: Config.mask.toList, isAuthorityChar c = true := by
      simp [Config.mask, isAuthorityChar]
    intro c hc
    rcases List.mem_append.mp hc with hc | hc
    · exact inside c ((List.takeWhile_subset _) hc)
    · exact masked c hc
  · exact inside

theorem isAuthorityChar_hideInAuthority {authority : List Char}
    (inside : ∀ c ∈ authority, isAuthorityChar c = true) :
    ∀ c ∈ hideInAuthority authority, isAuthorityChar c = true := by
  unfold hideInAuthority
  obtain ⟨userinfo, server, last, rfl⟩ | none := splitAtLast_cases '@' authority
  · rw [splitAtLast_append last]
    rw [List.forall_mem_append] at inside ⊢
    exact ⟨isAuthorityChar_hidePassword inside.1, inside.2⟩
  · rw [none]
    exact inside

/-! ## What is left -/

theorem toList_discreet {url : String} {front authority tail : List Char}
    (joined : url.toList = front ++ '/' :: '/' :: (authority ++ tail))
    (cut : splitAuthority (splitScheme url.toList).2 = (authority, tail)) :
    (discreet url).toList = front ++ '/' :: '/' :: (hideInAuthority authority ++ tail) := by
  have kept : url.toList.take (url.toList.length - (authority ++ tail).length) = front ++ ['/', '/'] := by
    refine take_front ?_
    rw [joined]
    simp
  simp only [discreet, cut, kept, String.toList_ofList]
  simp

/-- Without an authority there is nothing to hide. -/
theorem discreet_eq_self {url : String}
    (none : splitAuthority (splitScheme url.toList).2 = ([], (splitScheme url.toList).2)) :
    discreet url = url := by
  obtain ⟨front, joined, -⟩ := exists_front url.toList
  have kept : url.toList.take (url.toList.length - (splitScheme url.toList).2.length) = front :=
    take_front joined
  have hidden : hideInAuthority [] = [] := rfl
  simp only [discreet, none, List.nil_append, kept, hidden, List.append_nil]
  rw [← joined, String.ofList_toList]

/-- The text of a URL with its password hidden is cut as the text itself, but for its authority. -/
theorem Parts.split_discreet (url : String) :
    Parts.split (discreet url).toList =
      { Parts.split url.toList with authority := hideInAuthority (Parts.split url.toList).authority } := by
  obtain ⟨front, joined, exchange⟩ := exists_front url.toList
  obtain ⟨authority, tail, inside, stop, hr⟩ | none := splitAuthority_cases (splitScheme url.toList).2
  · have cut : splitAuthority (splitScheme url.toList).2 = (authority, tail) := by
      rw [hr, splitAuthority_append inside stop]
    have cut' : splitAuthority ('/' :: '/' :: (hideInAuthority authority ++ tail)) =
        (hideInAuthority authority, tail) :=
      splitAuthority_append (isAuthorityChar_hideInAuthority inside) stop
    have hidden := toList_discreet (by rw [← hr]; exact joined) cut
    have scheme : (splitScheme (discreet url).toList).1 = (splitScheme url.toList).1 := by
      rw [hidden, exchange]
    have behind : (splitAuthority (splitScheme (discreet url).toList).2).2 =
        (splitAuthority (splitScheme url.toList).2).2 := by
      rw [hidden, exchange, cut, cut']
    rw [Parts.split_congr scheme behind, hidden, exchange, cut', Parts.authority_split, cut]
  · have hidden : hideInAuthority [] = [] := rfl
    rw [discreet_eq_self none, Parts.authority_split, none, hidden]
    exact (Parts.split_congr rfl rfl).trans (by rw [none])

/-- The authority of the text of a URL, in its parts. -/
def Authority.ofText (url : String) : Authority := .split (Parts.split url.toList).authority

/-- Texts that are the same when the password is hidden are cut into the same parts, but for what follows
the first colon of the user information. -/
theorem cut_eq_of_discreet {s t : String} (h : discreet s = discreet t) :
    ∃ authority userinfo, Parts.split s.toList = { Parts.split t.toList with authority } ∧
      Authority.ofText s = { Authority.ofText t with userinfo } ∧
      userinfo.takeWhile (· != ':') = (Authority.ofText t).userinfo.takeWhile (· != ':') := by
  have cut : Parts.split (discreet s).toList = Parts.split (discreet t).toList := by rw [h]
  rw [Parts.split_discreet, Parts.split_discreet, Parts.mk.injEq] at cut
  obtain ⟨scheme, authority, path, query, fragment⟩ := cut
  have named := congrArg Authority.split authority
  rw [Authority.split_hideInAuthority, Authority.split_hideInAuthority, Authority.mk.injEq] at named
  obtain ⟨userinfo, host, port⟩ := named
  refine ⟨(Parts.split s.toList).authority, (Authority.ofText s).userinfo, ?_, ?_, ?_⟩
  · dsimp only
    rw [← scheme, ← path, ← query, ← fragment]
  · dsimp only [Authority.ofText]
    rw [← host, ← port]
  · rw [← takeWhile_hidePassword, Authority.ofText, userinfo, takeWhile_hidePassword, Authority.ofText]

end ClusterAccess.Url
