import ClusterAccess.Failure
import ClusterAccess.Proofs.Yaml.Merging
import ClusterAccess.Yaml.Document

/-!
# All that is reached is built

Each step of the building `Advances`: nodes are met once, and a collection that is met waits until it is
entered, when its parts are met. A step that enters a collection leaves less `pending`, so there is a turn for
each of them and none waits at the end. A node that is reached from the root has then been built
(`Graph.form?_of_construct`).
-/

namespace ClusterAccess.Yaml

namespace Construction

/-! ## Progress -/

/-- The node is met, if there is such a node. -/
def IsMet (c : Construction) (id : Nat) : Prop := c.progress[id]? ≠ some .unmet

/-- Whether a node is not met yet. -/
def isUnmet : Progress → Bool
  | .unmet => true
  | _ => false

/-- How much there is to do: nodes that are not met, and collections that wait. -/
def pending (c : Construction) : Nat := c.progress.countP isUnmet + c.waiting.length

/-- The second state is about the document of the first, and no node is lost that was met. -/
structure Keeps (c c' : Construction) : Prop where
  root : c'.graph.root = c.graph.root
  size : c'.progress.size = c.progress.size
  kept : ∀ id, c.IsMet id → c'.IsMet id

/-- The second state comes from the first by building on. -/
structure Advances (c c' : Construction) : Prop extends Keeps c c' where
  pending : c'.pending ≤ c.pending
  waiting : c.waiting <+: c'.waiting
  met : ∀ id, c'.progress[id]? = some .met → c.progress[id]? = some .met ∨ id ∈ c'.waiting
  built : ∀ (id : Nat) (f : Form), c'.progress[id]? = some (.built f) →
    c.progress[id]? = some (.built f) ∨ ∀ part ∈ f.parts, c'.IsMet part

theorem Keeps.refl (c : Construction) : Keeps c c := ⟨rfl, rfl, fun _ h => h⟩

theorem Keeps.trans {c c' c'' : Construction} (h : Keeps c c') (h' : Keeps c' c'') : Keeps c c'' :=
  ⟨h'.root.trans h.root, h'.size.trans h.size, fun id hm => h'.kept id (h.kept id hm)⟩

namespace Advances

variable {c c' c'' : Construction}

theorem refl (c : Construction) : Advances c c :=
  ⟨.refl c, Nat.le_refl _, List.prefix_rfl, fun _ h => .inl h, fun _ _ h => .inl h⟩

theorem trans (h : Advances c c') (h' : Advances c' c'') : Advances c c'' where
  toKeeps := h.toKeeps.trans h'.toKeeps
  pending := Nat.le_trans h'.pending h.pending
  waiting := h.waiting.trans h'.waiting
  met id hm := by
    obtain hm | hm := h'.met id hm
    · obtain hm | hm := h.met id hm
      · exact .inl hm
      · exact .inr (h'.waiting.subset hm)
    · exact .inr hm
  built id f hb := by
    obtain hb | hb := h'.built id f hb
    · obtain hb | hb := h.built id f hb
      · exact .inl hb
      · exact .inr fun part hp => h'.kept part (hb part hp)
    · exact .inr hb

/-- Another graph with the same root. -/
theorem withGraph {g : Graph} (h : g.root = c.graph.root) : Advances c { c with graph := g } :=
  ⟨⟨h, rfl, fun _ h => h⟩, Nat.le_refl _, List.prefix_rfl, fun _ h => .inl h, fun _ _ h => .inl h⟩

end Advances

section

variable {ps : Array Progress} {id : Nat} {p : Progress}

theorem countP_isUnmet_le (h : isUnmet p = false) :
    (ps.setIfInBounds id p).countP isUnmet ≤ ps.countP isUnmet := by
  unfold Array.setIfInBounds
  split
  · rw [Array.countP_set, h]
    exact Nat.sub_le _ _
  · exact Nat.le_refl _

theorem countP_isUnmet_add_one (h : isUnmet p = false) (unmet : ps[id]? = some .unmet) :
    (ps.setIfInBounds id p).countP isUnmet + 1 = ps.countP isUnmet := by
  obtain ⟨inside, found⟩ := Array.getElem?_eq_some_iff.mp unmet
  have counted : isUnmet ps[id] = true := by rw [found]; rfl
  have some := Array.boole_getElem_le_countP (p := isUnmet) inside
  rw [if_pos counted] at some
  rw [Array.setIfInBounds, dif_pos inside, Array.countP_set, if_pos counted, h]
  exact Nat.sub_add_cancel some

/-- What is noted down for a node changes the progress of that node only. -/
theorem getElem?_note {other : Nat} {q : Progress} (h : (ps.setIfInBounds id p)[other]? = some q) :
    other = id ∧ q = p ∨ other ≠ id ∧ ps[other]? = some q := by
  rw [Array.getElem?_setIfInBounds] at h
  split at h
  · next same =>
    split at h
    · cases h
      exact .inl ⟨same.symm, rfl⟩
    · cases h
  · next apart => exact .inr ⟨Ne.symm apart, h⟩

end

section

variable {limits : Limits} {c c' : Construction} {id : Nat}

theorem isMet_note {p : Progress} (h : isUnmet p = false) {other : Nat} (met : c.IsMet other) :
    { c with progress := c.progress.setIfInBounds id p }.IsMet other := by
  intro unmet
  obtain ⟨-, rfl⟩ | ⟨-, unmet⟩ := getElem?_note unmet
  · cases h
  · exact met unmet

theorem isMet_note_self {p : Progress} (h : isUnmet p = false) :
    { c with progress := c.progress.setIfInBounds id p }.IsMet id := by
  intro unmet
  obtain ⟨-, rfl⟩ | ⟨apart, -⟩ := getElem?_note unmet
  · cases h
  · exact apart rfl

/-- A collection is met and waits. -/
theorem advances_wait (unmet : c.progress[id]? = some .unmet) :
    Advances c { c with progress := c.progress.setIfInBounds id .met, waiting := c.waiting ++ [id] } where
  root := rfl
  size := Array.size_setIfInBounds
  kept _ met := isMet_note (p := .met) rfl met
  pending := by
    have one := countP_isUnmet_add_one (p := .met) rfl unmet
    simp only [pending, List.length_append, List.length_singleton]
    omega
  waiting := List.prefix_append _ _
  met other h := by
    obtain ⟨rfl, -⟩ | ⟨-, h⟩ := getElem?_note h
    · exact .inr (by simp)
    · exact .inl h
  built other f h := by
    obtain ⟨-, h⟩ | ⟨-, h⟩ := getElem?_note h
    · cases h
    · exact .inl h

/-- A form is noted down for a node whose parts are met. -/
theorem advances_note {f : Form} (parts : ∀ part ∈ f.parts, c.IsMet part) :
    Advances c { c with progress := c.progress.setIfInBounds id (.built f) } where
  root := rfl
  size := Array.size_setIfInBounds
  kept _ met := isMet_note (p := .built f) rfl met
  pending := Nat.add_le_add_right (countP_isUnmet_le rfl) _
  waiting := List.prefix_rfl
  met other h := by
    obtain ⟨-, h⟩ | ⟨-, h⟩ := getElem?_note h
    · cases h
    · exact .inl h
  built other f' h := by
    obtain ⟨-, h⟩ | ⟨-, h⟩ := getElem?_note h
    · cases h
      exact .inr fun part hp => isMet_note (p := .built f) rfl (parts part hp)
    · exact .inl h

/-! ## Steps -/

theorem run_attempt_eq_ok {α : Type} {x : Result α} {a : α} :
    attempt x c = .ok (a, c') ↔ x = .ok a ∧ c' = c := by
  cases x with
  | error e => simp [attempt, Except.map]
  | ok b => simp [attempt, Except.map, eq_comm]

/-- A node is met, and nothing that was met before is lost. -/
theorem advances_of_meet (h : meet limits id c = .ok ((), c')) : Advances c c' ∧ c'.IsMet id := by
  rw [meet, run_get_bind] at h
  cases hp : c.progress[id]? with
  | none =>
    rw [hp] at h
    cases h
    exact ⟨.refl _, by simp [IsMet, hp]⟩
  | some p =>
    rw [hp] at h
    cases p with
    | met | built =>
      cases h
      exact ⟨.refl _, by simp [IsMet, hp]⟩
    | unmet =>
      dsimp only at h
      by_cases collection : Graph.isCollectionTag (c.graph.tagOf id)
      · rw [if_pos collection] at h
        cases h
        exact ⟨advances_wait hp, isMet_note_self (p := .met) rfl⟩
      · rw [if_neg collection] at h
        obtain ⟨v, _, hv, hn⟩ := run_bind_eq_ok.mp h
        obtain ⟨-, rfl⟩ := run_attempt_eq_ok.mp hv
        cases hn
        exact ⟨advances_note (f := .scalar v) nofun, isMet_note_self (p := .built (.scalar v)) rfl⟩

/-- Steps that each meet something meet it all. -/
theorem advances_of_forM {α : Type} {as : List α} {step : α → Construct Unit} (parts : α → List Nat)
    (steps : ∀ a c c', step a c = .ok ((), c') → Advances c c' ∧ ∀ part ∈ parts a, c'.IsMet part)
    (h : as.forM step c = .ok ((), c')) : Advances c c' ∧ ∀ part ∈ as.flatMap parts, c'.IsMet part := by
  induction as generalizing c with
  | nil =>
    cases h
    exact ⟨.refl _, nofun⟩
  | cons a as ih =>
    obtain ⟨⟨⟩, middle, hs, h⟩ := run_bind_eq_ok.mp h
    obtain ⟨first, met⟩ := steps _ _ _ hs
    obtain ⟨others, rest⟩ := ih h
    refine ⟨first.trans others, fun part hp => ?_⟩
    obtain hp | hp := List.mem_append.mp hp
    · exact others.kept part (met part hp)
    · exact rest part hp

/-- A key and its value are met. -/
theorem advances_of_meetEntry {entry : Nat × Nat} (h : meetEntry limits entry c = .ok ((), c')) :
    Advances c c' ∧ ∀ part ∈ [entry.1, entry.2], c'.IsMet part := by
  obtain ⟨⟨⟩, middle, hk, h⟩ := run_bind_eq_ok.mp h
  rw [run_get_bind] at h
  obtain ⟨first, key⟩ := advances_of_meet hk
  split at h
  · obtain ⟨⟨⟩, -⟩ := run_attempt_eq_ok.mp h
  · obtain ⟨second, value⟩ := advances_of_meet h
    refine ⟨first.trans second, ?_⟩
    simp [second.kept _ key, value]

theorem advances_of_meetPair {entry : Nat × Nat} (h : meetPair limits id c = .ok (entry, c')) :
    Advances c c' ∧ ∀ part ∈ [entry.1, entry.2], c'.IsMet part := by
  rw [meetPair, run_get_bind] at h
  cases hn : c.graph.node id with
  | scalar | seq =>
    rw [hn] at h
    obtain ⟨⟨⟩, -⟩ := run_attempt_eq_ok.mp h
  | map tag entries =>
    rw [hn] at h
    match entries, h with
    | [], h | _ :: _ :: _, h => obtain ⟨⟨⟩, -⟩ := run_attempt_eq_ok.mp h
    | [pair], h =>
      obtain ⟨⟨⟩, middle, hk, h⟩ := run_bind_eq_ok.mp h
      obtain ⟨⟨⟩, last, hv, h⟩ := run_bind_eq_ok.mp h
      cases h
      obtain ⟨first, key⟩ := advances_of_meet hk
      obtain ⟨second, value⟩ := advances_of_meet hv
      refine ⟨first.trans second, ?_⟩
      simp [second.kept _ key, value]

theorem advances_of_mapM_meetPair {ids : List Nat} {entries : List (Nat × Nat)}
    (h : ids.mapM (meetPair limits) c = .ok (entries, c')) :
    Advances c c' ∧ ∀ part ∈ entries.flatMap fun e => [e.1, e.2], c'.IsMet part := by
  induction ids generalizing c entries with
  | nil =>
    cases h
    exact ⟨.refl _, nofun⟩
  | cons id ids ih =>
    rw [List.mapM_cons] at h
    obtain ⟨entry, middle, hs, h⟩ := run_bind_eq_ok.mp h
    obtain ⟨others, last, ho, h⟩ := run_bind_eq_ok.mp h
    cases h
    obtain ⟨first, met⟩ := advances_of_meetPair hs
    obtain ⟨second, rest⟩ := ih ho
    refine ⟨first.trans second, fun part hp => ?_⟩
    rw [List.flatMap_cons] at hp
    obtain hp | hp := List.mem_append.mp hp
    · exact second.kept part (met part hp)
    · exact rest part hp

/-- The entries of a mapping are met, and the merges leave the root where it is. -/
theorem advances_of_meetEntries {entries : List (Nat × Nat)}
    (h : meetEntries limits id c = .ok (entries, c')) :
    Advances c c' ∧ ∀ part ∈ entries.flatMap fun e => [e.1, e.2], c'.IsMet part := by
  rw [meetEntries, run_get_bind] at h
  obtain ⟨⟨⟨⟩, graph⟩, _, hf, h⟩ := run_bind_eq_ok.mp h
  obtain ⟨flat, same⟩ := run_attempt_eq_ok.mp hf
  subst same
  obtain ⟨⟨⟩, _, hs, h⟩ := run_bind_eq_ok.mp h
  cases hs
  obtain ⟨⟨⟩, _, he, h⟩ := run_bind_eq_ok.mp h
  cases h
  have merged := (Graph.flattens_flatten limits.chaining id _ _ flat).1
  obtain ⟨entering, met⟩ := advances_of_forM (fun e => [e.1, e.2]) (fun _ _ _ h => advances_of_meetEntry h) he
  exact ⟨(Advances.withGraph merged.root).trans entering, met⟩

/-- The parts of a form are met when it is made. -/
theorem advances_of_meetParts {tag : Tag} {n : Node} {f : Form}
    (h : meetParts limits id tag n c = .ok (f, c')) : Advances c c' ∧ ∀ part ∈ f.parts, c'.IsMet part := by
  have refused (h : attempt (refuse .wrongKind) c = .ok (f, c')) : False := by
    obtain ⟨⟨⟩, -⟩ := run_attempt_eq_ok.mp h
  cases tag <;> cases n
  case seq.seq =>
    obtain ⟨⟨⟩, _, hi, h⟩ := run_bind_eq_ok.mp h
    cases h
    have items := advances_of_forM (fun item => [item])
      (fun _ _ _ h => by simpa using advances_of_meet h) hi
    simpa [Form.parts] using items
  case omap.seq | pairs.seq =>
    obtain ⟨entries, hi, rfl⟩ := run_map_eq_ok.mp h
    exact advances_of_mapM_meetPair hi
  case map.map =>
    obtain ⟨entries, he, rfl⟩ := run_map_eq_ok.mp h
    exact advances_of_meetEntries he
  case set.map =>
    obtain ⟨entries, he, rfl⟩ := run_map_eq_ok.mp h
    obtain ⟨advances, met⟩ := advances_of_meetEntries he
    refine ⟨advances, fun part hp => met part ?_⟩
    obtain ⟨entry, he, rfl⟩ := List.mem_map.mp hp
    exact List.mem_flatMap.mpr ⟨entry, he, List.mem_cons_self⟩
  all_goals exact (refused h).elim

/-- A collection that is entered has been built, and waits no more. -/
theorem advances_of_enter (h : enter limits id c = .ok ((), c')) :
    Advances c c' ∧ c'.progress[id]? ≠ some .met := by
  rw [enter, run_get_bind] at h
  obtain ⟨f, _, hp, h⟩ := run_bind_eq_ok.mp h
  cases h
  obtain ⟨advances, parts⟩ := advances_of_meetParts hp
  refine ⟨advances.trans (advances_note parts), fun met => ?_⟩
  obtain ⟨-, ⟨⟩⟩ | ⟨apart, -⟩ := getElem?_note met
  exact apart rfl

end

/-! ## Runs -/

/-- A collection that is met waits to be entered, and the parts of what is built are met. -/
structure Sound (c : Construction) : Prop where
  waits : ∀ id : Nat, c.progress[id]? = some .met → id ∈ c.waiting
  parts : ∀ (id : Nat) (f : Form), c.progress[id]? = some (.built f) → ∀ part ∈ f.parts, c.IsMet part

section

variable {limits : Limits} {c c' : Construction}

/-- Entering the first collection that waits leaves less to do. -/
theorem Sound.enter {id : Nat} {rest : List Nat} (sound : c.Sound) (first : c.waiting = id :: rest)
    (h : enter limits id { c with waiting := rest } = .ok ((), c')) :
    c'.Sound ∧ c'.pending < c.pending ∧ Keeps c c' := by
  obtain ⟨advances, done⟩ := advances_of_enter h
  refine ⟨⟨fun other met => ?_, fun other f built => ?_⟩, ?_, advances.root, advances.size, advances.kept⟩
  · obtain met' | waits := advances.met other met
    · have waits := sound.waits other met'
      rw [first] at waits
      obtain rfl | waits := List.mem_cons.mp waits
      · exact absurd met done
      · exact advances.waiting.subset waits
    · exact waits
  · obtain built' | parts := advances.built other f built
    · exact fun part hp => advances.kept part (sound.parts other f built' part hp)
    · exact parts
  · have fewer := advances.pending
    simp only [pending, first, List.length_cons] at fewer ⊢
    omega

/-- With a turn for each of the nodes that are left, none waits at the end. -/
theorem Sound.enterAll {n : Nat} (sound : c.Sound) (enough : c.pending ≤ n)
    (h : enterAll limits n c = .ok ((), c')) : c'.Sound ∧ c'.waiting = [] ∧ Keeps c c' := by
  induction n generalizing c with
  | zero =>
    cases h
    have none : c'.waiting.length = 0 := by
      unfold pending at enough
      omega
    exact ⟨sound, List.length_eq_zero_iff.mp none, .refl _⟩
  | succ n ih =>
    rw [Construction.enterAll, run_get_bind] at h
    cases hw : c.waiting with
    | nil =>
      rw [hw] at h
      cases h
      exact ⟨sound, hw, .refl _⟩
    | cons id rest =>
      rw [hw] at h
      obtain ⟨⟨⟩, _, hs, h⟩ := run_bind_eq_ok.mp h
      cases hs
      obtain ⟨⟨⟩, middle, he, h⟩ := run_bind_eq_ok.mp h
      obtain ⟨sound', fewer, keeps⟩ := sound.enter hw he
      obtain ⟨sound'', none, keeps'⟩ := ih sound' (by omega) h
      exact ⟨sound'', none, keeps.trans keeps'⟩

end

/-- A node that is reached from the root, through the parts of what has been built. -/
inductive Reaches (c : Construction) : Nat → Prop
  | root : Reaches c c.graph.root
  | part {id part : Nat} {f : Form} (from' : Reaches c id) (form : c.form? id = some f)
      (h : part ∈ f.parts) : Reaches c part

theorem form?_eq_some {c : Construction} {id : Nat} {f : Form} :
    c.form? id = some f ↔ c.progress[id]? = some (.built f) := by
  unfold form?
  cases c.progress[id]? with
  | none => simp
  | some p => cases p <;> simp

/-- What is reached has been met. -/
theorem Sound.isMet {c : Construction} (sound : c.Sound) (root : c.IsMet c.graph.root) {id : Nat}
    (reached : c.Reaches id) : c.IsMet id := by
  cases reached with
  | root => exact root
  | part _ form h => exact sound.parts _ _ (form?_eq_some.mp form) _ h

/-- The building begins with all nodes unmet. -/
theorem sound_of_start {g : Graph} {n : Nat} {c : Construction}
    (h : Advances ⟨g, Array.replicate n .unmet, []⟩ c) : c.Sound ∧ c.pending ≤ n := by
  have start {id : Nat} {p : Progress} (hp : (Array.replicate n Progress.unmet)[id]? = some p) :
      p = .unmet := by
    rw [Array.getElem?_replicate] at hp
    split at hp
    · exact (Option.some.inj hp).symm
    · cases hp
  refine ⟨⟨fun id met => ?_, fun id f built => ?_⟩, ?_⟩
  · obtain met | waits := h.met id met
    · cases start met
    · exact waits
  · obtain built | parts := h.built id f built
    · cases start built
    · exact parts
  · have all := h.pending
    simpa [pending, Array.countP_replicate, isUnmet] using all

/-- Where nothing waits, a node that is reached has been built. -/
theorem Sound.exists_form {c : Construction} (sound : c.Sound) (none : c.waiting = [])
    (root : c.IsMet c.graph.root) {id : Nat} (inside : id < c.progress.size) (reached : c.Reaches id) :
    ∃ f, c.form? id = some f := by
  have met := sound.isMet root reached
  obtain ⟨p, hp⟩ : ∃ p, c.progress[id]? = some p := ⟨_, Array.getElem?_eq_getElem inside⟩
  cases p with
  | unmet => exact absurd hp met
  | met =>
    have waits := sound.waits id hp
    rw [none] at waits
    cases waits
  | built f => exact ⟨f, form?_eq_some.mpr hp⟩

end Construction

open Construction

/-- When a graph has been built, none of its collections waits. Each of its nodes that is reached from the
root has been built. -/
theorem Graph.form?_of_construct {limits : Limits} {g : Graph} {c : Construction}
    (h : g.construct limits = .ok c) :
    c.waiting = [] ∧ c.graph.root = g.root ∧
      ∀ id < g.nodes.size, c.Reaches id → ∃ f, c.form? id = some f := by
  obtain ⟨⟨⟨⟩, _⟩, run, h⟩ := Except.bind_eq_ok.mp h
  cases h
  obtain ⟨⟨⟩, first, hm, he⟩ := run_bind_eq_ok.mp run
  obtain ⟨advances, met⟩ := advances_of_meet hm
  obtain ⟨sound, enough⟩ := sound_of_start advances
  obtain ⟨sound', none, later⟩ := sound.enterAll enough he
  have keeps := advances.toKeeps.trans later
  have root : c.IsMet c.graph.root := by
    rw [keeps.root]
    exact later.kept _ met
  refine ⟨none, keeps.root, fun id inside reached => sound'.exists_form none root ?_ reached⟩
  rwa [keeps.size, Array.size_replicate]

end ClusterAccess.Yaml
