import ClusterAccess.Pki.Store

/-!
# Certificates as readings of their bytes

A certificate that was read keeps the bytes that it was read from (`encoded_of_ofDer?`), so among the
certificates of a bundle those with the same bytes are the same (`IsReading.eq`). The certificates of a bundle
are the readings of what it carries, one for one and in order (`bundle_eq_ok`).
-/

namespace ClusterAccess.Pki

namespace Der.Reader

variable {α β : Type} {r : Reader α} {b rest : Bytes}

theorem run_bind_eq_some {f : α → Reader β} {x : β} :
    (r >>= f).run b = some (x, rest) ↔
      ∃ a mid, r.run b = some (a, mid) ∧ (f a).run mid = some (x, rest) := by
  rw [StateT.run_bind]
  simp [Option.bind_eq_some_iff]

theorem parse_eq_some {a : α} (h : r.parse b = some a) : ∃ rest, r.run b = some (a, rest) := by
  obtain ⟨⟨a', rest⟩, hr, h⟩ := Option.bind_eq_some_iff.mp h
  simp only [Option.pure_def, Option.ite_none_right_eq_some, Option.some.injEq] at h
  obtain ⟨-, rfl⟩ := h
  exact ⟨rest, hr⟩

/-- The value inside an element is read from its body alone. -/
theorem run_inside_eq_some {t : Tag} {a : α} (h : (inside t r).run b = some (a, rest)) :
    ∃ body, r.parse body = some a := by
  obtain ⟨body, mid, -, h⟩ := run_bind_eq_some.mp h
  refine ⟨body, ?_⟩
  split at h
  · next a' hp =>
    cases h
    exact hp
  · cases h

end Der.Reader

namespace Certificate

open Der.Reader (parse_eq_some run_bind_eq_some run_inside_eq_some)

/-- A certificate keeps the bytes that it was read from. -/
theorem encoded_of_ofDer? {b : Bytes} {c : Certificate} (h : ofDer? b = some c) : c.encoded = b := by
  obtain ⟨_, h⟩ := parse_eq_some h
  obtain ⟨body, h⟩ := run_inside_eq_some h
  obtain ⟨_, h⟩ := parse_eq_some h
  obtain ⟨_, _, -, h⟩ := run_bind_eq_some.mp h
  obtain ⟨_, _, -, h⟩ := run_bind_eq_some.mp h
  obtain ⟨_, _, -, h⟩ := run_bind_eq_some.mp h
  cases h
  rfl

/-- The certificate is what its bytes are read as. -/
def IsReading (c : Certificate) : Prop := ofDer? c.encoded = some c

theorem IsReading.eq {c d : Certificate} (hc : c.IsReading) (hd : d.IsReading)
    (h : c.encoded = d.encoded) : c = d := by
  unfold IsReading at hc hd
  rw [h, hd] at hc
  exact (Option.some.inj hc).symm

theorem ofDer?_of_read {b : Bytes} {c : Certificate} (h : read b = .ok c) : ofDer? b = some c := by
  unfold read at h
  split at h
  · cases h
  · next hc =>
    split at h <;> cases h
    exact hc

theorem isReading_of_read {b : Bytes} {c : Certificate} (h : read b = .ok c) : c.IsReading := by
  have read := ofDer?_of_read h
  rw [IsReading, encoded_of_ofDer? read, read]

/-- A certificate is read from what it keeps. -/
theorem read_encoded {b : Bytes} {c : Certificate} (h : read b = .ok c) :
    c.encoded = b ∧ read c.encoded = .ok c := by
  have kept := encoded_of_ofDer? (ofDer?_of_read h)
  exact ⟨kept, kept ▸ h⟩

/-- Certificates are read one by one from what they keep. -/
theorem mapM_read_eq_ok {bodies : List Bytes} {cs : List Certificate} :
    bodies.mapM read = .ok cs ↔ bodies = cs.map (·.encoded) ∧ ∀ c ∈ cs, read c.encoded = .ok c := by
  rw [Except.mapM_eq_ok]
  constructor
  · intro h
    induction cs generalizing bodies with
    | nil => exact ⟨List.map_eq_nil_iff.mp h, by simp⟩
    | cons c cs ih =>
      cases bodies with
      | nil => cases h
      | cons b bodies =>
        obtain ⟨hb, h⟩ := List.cons.inj h
        obtain ⟨kept, hc⟩ := read_encoded hb
        obtain ⟨rfl, all⟩ := ih h
        exact ⟨by rw [List.map_cons, kept], List.forall_mem_cons.mpr ⟨hc, all⟩⟩
  · rintro ⟨rfl, all⟩
    rw [List.map_map]
    exact List.map_congr_left all

/-- The encoded certificates that bytes carry: in blocks, or the bytes as they are. -/
def carried? (b : Bytes) : Option (List Bytes) :=
  if Pem.looksLike b then
    (Pem.blocks? b).map fun blocks =>
      (blocks.filter fun k => k.label = "CERTIFICATE" || k.label = "X509 CERTIFICATE").map (·.body)
  else some [b]

/-- A bundle holds the readings of all that it carries, and carries something. -/
theorem bundle_eq_ok {b : Bytes} {cs : List Certificate} :
    bundle b = .ok cs ↔
      cs ≠ [] ∧ carried? b = some (cs.map (·.encoded)) ∧ ∀ c ∈ cs, read c.encoded = .ok c := by
  unfold bundle carried?
  cases Pem.looksLike b with
  | false =>
    rw [if_neg (by simp), if_neg (by simp), Except.map_eq_ok, Option.some_inj]
    constructor
    · rintro ⟨c, hc, rfl⟩
      obtain ⟨kept, hc⟩ := read_encoded hc
      exact ⟨by simp, by simp [kept], by simpa using hc⟩
    · rintro ⟨-, kept, all⟩
      obtain ⟨c, rfl, rfl⟩ := List.map_eq_singleton_iff.mp kept.symm
      exact ⟨c, all c List.mem_cons_self, rfl⟩
  | true =>
    rw [if_pos rfl, if_pos rfl, readBlocks]
    cases Pem.blocks? b with
    | none => simp
    | some blocks =>
      rw [Option.map_some, Option.some_inj, ← mapM_read_eq_ok, List.mapM_map]
      refine Except.bind_eq_ok.trans ⟨?_, ?_⟩
      · rintro ⟨ds, read, h⟩
        split at h
        · cases h
        · next nonempty =>
          cases h
          exact ⟨by simpa using nonempty, read⟩
      · rintro ⟨nonempty, read⟩
        refine ⟨cs, read, ?_⟩
        rw [if_neg (by simpa using nonempty)]
        rfl

theorem isReading_of_bundle {b : Bytes} {cs : List Certificate} (h : bundle b = .ok cs) :
    ∀ c ∈ cs, c.IsReading := by
  obtain ⟨-, -, all⟩ := bundle_eq_ok.mp h
  exact fun c hc => isReading_of_read (all c hc)

end Certificate

theorem isReading_of_loadCertificates {label : String} {b : Bytes} {cs : List Certificate}
    (h : loadCertificates label b = .ok cs) : ∀ c ∈ cs, c.IsReading := by
  unfold loadCertificates at h
  split at h
  · next hb =>
    cases h
    exact Certificate.isReading_of_bundle hb
  · cases h
  · cases h

end ClusterAccess.Pki
