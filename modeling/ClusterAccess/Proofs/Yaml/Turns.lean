import ClusterAccess.Proofs.Yaml.Merging
import ClusterAccess.Yaml.Node

/-!
# Building a graph takes no more turns than there are

The functions that build nodes call one another as often as there are turns left. How many there are does not
matter, as long as there are enough for the tokens: two numbers of turns that are enough `Agree`. For this each
function takes some tokens before it comes to itself again, so that what is left of the turns is enough for
what is left of the tokens (`AllSettled`). The graph of a document does not depend on turns then
(`Graph.ofTokensIn_eq`).
-/

namespace ClusterAccess.Yaml

namespace GraphBuilder

/-- Two ways to build do the same from a state, and leave so many tokens at most. -/
structure Agree {α : Type} (x y : Build α) (s : GraphBuilder) (n : Nat) : Prop where
  same : x s = y s
  left : ∀ a s', x s = .ok (a, s') → s'.tokens.length ≤ n

section

variable {α β : Type} {x y : Build α} {s : GraphBuilder} {n m : Nat}

theorem Agree.mono (h : Agree x y s n) (le : n ≤ m) : Agree x y s m :=
  ⟨h.same, fun a s' ha => Nat.le_trans (h.left a s' ha) le⟩

theorem Agree.bind {f g : α → Build β} (first : Agree x y s m)
    (rest : ∀ a s', x s = .ok (a, s') → s'.tokens.length ≤ m → Agree (f a) (g a) s' n) :
    Agree (x >>= f) (y >>= g) s n := by
  refine ⟨?_, fun b s'' h => ?_⟩
  · change (x s >>= fun p => f p.1 p.2) = (y s >>= fun p => g p.1 p.2)
    rw [← first.same]
    cases hx : x s with
    | error e => rfl
    | ok p => exact (rest p.1 p.2 hx (first.left p.1 p.2 hx)).same
  · obtain ⟨a, s', hx, h⟩ := run_bind_eq_ok.mp h
    exact (rest a s' hx (first.left a s' hx)).left b s'' h

theorem agree_self (left : ∀ a s', x s = .ok (a, s') → s'.tokens.length ≤ n) : Agree x x s n :=
  ⟨rfl, left⟩

theorem agree_pure (a : α) (le : s.tokens.length ≤ n) : Agree (pure a) (pure a) s n :=
  agree_self fun _ _ h => by cases h; exact le

theorem agree_throw (fault : Fault) : Agree (throw fault : Build α) (throw fault) s n := agree_self nofun

theorem agree_fail (what : Malformed) : Agree (fail what : Build α) (fail what) s n := agree_throw _

theorem agree_modify {f : GraphBuilder → GraphBuilder} (le : (f s).tokens.length ≤ n) :
    Agree (modify f) (modify f) s n :=
  agree_self fun _ _ h => by cases h; exact le

theorem Agree.get_bind {f g : GraphBuilder → Build β} (h : Agree (f s) (g s) s n) :
    Agree (get >>= f) (get >>= g) s n := ⟨h.same, h.left⟩

theorem Agree.map (h : Agree x y s n) (f : α → β) : Agree (f <$> x) (f <$> y) s n := by
  rw [map_eq_pure_bind, map_eq_pure_bind]
  exact h.bind fun _ _ _ le => agree_pure _ le

theorem Agree.ite {c : Prop} [Decidable c] {x' y' : Build α} (yes : Agree x y s n) (no : Agree x' y' s n) :
    Agree (if c then x else x') (if c then y else y') s n := by
  by_cases h : c
  · rwa [if_pos h, if_pos h]
  · rwa [if_neg h, if_neg h]

end

/-! ## Tokens that are taken -/

section

variable {α β : Type} {s s' : GraphBuilder} {n : Nat}

theorem peek_eq_ok {t : Token} (h : peek s = .ok (t, s')) : s' = s ∧ ∃ ts, s.tokens = t :: ts := by
  rw [peek, run_get_bind] at h
  cases ht : s.tokens with
  | nil =>
    rw [ht] at h
    cases h
  | cons u us =>
    rw [ht] at h
    cases h
    exact ⟨rfl, us, rfl⟩

theorem Agree.peek_bind {f g : Token → Build β}
    (rest : ∀ t, 0 < s.tokens.length → Agree (f t) (g t) s n) : Agree (peek >>= f) (peek >>= g) s n := by
  refine Agree.bind (m := s.tokens.length) (agree_self fun t s' h => ?_) fun t s' h _ => ?_
  · obtain ⟨rfl, -⟩ := peek_eq_ok h
    exact Nat.le_refl _
  · obtain ⟨rfl, ts, tokens⟩ := peek_eq_ok h
    exact rest t (tokens ▸ Nat.succ_pos _)

theorem agree_skip (le : s.tokens.length ≤ n + 1) : Agree skip skip s n := by
  refine agree_modify ?_
  rw [List.length_drop]
  exact Nat.sub_le_of_le_add le

theorem Agree.skip_bind {f g : Unit → Build β}
    (rest : ∀ s', s'.tokens.length = s.tokens.length - 1 → Agree (f ()) (g ()) s' n) :
    Agree (skip >>= f) (skip >>= g) s n := by
  refine (agree_skip (Nat.le_add_right _ 1)).bind fun _ s' h _ => ?_
  cases h
  exact rest _ List.length_drop

theorem Agree.sees_ite {ts : List Token} {x y x' y' : Build α}
    (yes : 0 < s.tokens.length → Agree x y s n) (no : Agree x' y' s n) :
    Agree (sees ts >>= fun b => if b then x else x') (sees ts >>= fun b => if b then y else y') s n := by
  rw [sees, bind_assoc, bind_assoc]
  refine .peek_bind fun t nonempty => ?_
  rw [pure_bind, pure_bind]
  exact .ite (yes nonempty) no

theorem tokens_of_place {anchor : Option String} {node : Node} {id : Nat}
    (h : place anchor node s = .ok (id, s')) : s'.tokens = s.tokens := by
  rw [place, run_get_bind] at h
  cases anchor with
  | none =>
    cases h
    rfl
  | some name =>
    by_cases known : (s.names.lookup name).isSome
    · simp only [known, if_true] at h
      cases h
    · simp only [known] at h
      cases h
      rfl

theorem agree_place {anchor : Option String} {node : Node} (le : s.tokens.length ≤ n) :
    Agree (place anchor node) (place anchor node) s n :=
  agree_self fun _ _ h => by rwa [tokens_of_place h]

theorem agree_collect {anchor : Option String} {empty : Node} {x y : Build Node}
    (filled : ∀ s', s'.tokens.length = s.tokens.length → Agree x y s' n) :
    Agree (collect anchor empty x) (collect anchor empty y) s n := by
  refine (agree_place (Nat.le_refl _)).bind fun id s' h _ => ?_
  refine (filled s' (congrArg _ (tokens_of_place h))).bind fun node s'' _ le => ?_
  exact (agree_modify le).bind fun _ _ _ le => agree_pure _ le

theorem agree_within {room : Nat} {x y : Nat → Build α} (h : ∀ room, Agree (x room) (y room) s n) :
    Agree (within room x) (within room y) s n := by
  cases room with
  | zero => exact agree_throw _
  | succ room => exact h room

theorem length_of_anchor? {a : Option String} (h : anchor? s = .ok (a, s')) :
    s'.tokens.length + a.isSome.toNat ≤ s.tokens.length := by
  obtain ⟨t, s'', hp, h⟩ := run_bind_eq_ok.mp h
  obtain ⟨rfl, ts, tokens⟩ := peek_eq_ok hp
  cases t
  case anchor name =>
    cases h
    simp [tokens]
  all_goals
    cases h
    exact Nat.le_refl _

theorem length_of_tag? {t : Option TagName} (h : tag? s = .ok (t, s')) :
    s'.tokens.length + t.isSome.toNat ≤ s.tokens.length := by
  obtain ⟨u, s'', hp, h⟩ := run_bind_eq_ok.mp h
  obtain ⟨rfl, ts, tokens⟩ := peek_eq_ok hp
  cases u
  case tag name =>
    cases h
    simp [tokens]
  all_goals
    cases h
    exact Nat.le_refl _

/-- A tag in full is there if the tag is, and takes no token of its own. -/
theorem tokens_of_fullTag {t : Option TagName} {full : Option String}
    (h : t.mapM fullTag s = .ok (full, s')) : s'.tokens = s.tokens ∧ full.isSome = t.isSome := by
  cases t with
  | none =>
    cases h
    exact ⟨rfl, rfl⟩
  | some t =>
    rw [Option.mapM_some] at h
    obtain ⟨name, hf, rfl⟩ := run_map_eq_ok.mp h
    refine ⟨?_, rfl⟩
    rw [fullTag] at hf
    cases handle : t.handle with
    | none =>
      rw [handle] at hf
      cases hf
      rfl
    | some handle' =>
      simp only [handle, run_get_bind] at hf
      cases known : s.handles.find? (·.1 = handle') with
      | none =>
        rw [known] at hf
        cases hf
      | some entry =>
        rw [known] at hf
        cases hf
        rfl

/-- Properties that are there take a token. -/
theorem length_of_properties {a t : Option String} (h : properties s = .ok ((a, t), s')) :
    s'.tokens.length + (a.isSome || t.isSome).toNat ≤ s.tokens.length := by
  obtain ⟨a', s₁, ha, h⟩ := run_bind_eq_ok.mp h
  have first := length_of_anchor? ha
  cases a' with
  | some name =>
    obtain ⟨t', s₂, ht, h⟩ := run_bind_eq_ok.mp h
    obtain ⟨full, s₃, hf, h⟩ := run_bind_eq_ok.mp h
    cases h
    have second := length_of_tag? ht
    obtain ⟨tokens, -⟩ := tokens_of_fullTag hf
    simp only [tokens, Option.isSome_some, Bool.true_or, Bool.toNat_true] at first ⊢
    omega
  | none =>
    obtain ⟨t', s₂, ht, h⟩ := run_bind_eq_ok.mp h
    have second := length_of_tag? ht
    cases t' with
    | none =>
      cases h
      exact Nat.le_trans second first
    | some t' =>
      obtain ⟨a', s₃, ha, h⟩ := run_bind_eq_ok.mp h
      obtain ⟨full, s₄, hf, h⟩ := run_bind_eq_ok.mp h
      cases h
      have third := length_of_anchor? ha
      obtain ⟨tokens, there⟩ := tokens_of_fullTag hf
      simp only [tokens, there, Option.isSome_some, Bool.or_true, Bool.toNat_true] at second ⊢
      omega

/-- A node without content takes a token with its properties. -/
theorem agree_absentOr {a t : Option String}
    (le : s.tokens.length + (a.isSome || t.isSome).toNat ≤ n + 1) :
    Agree (absentOr a t) (absentOr a t) s n := by
  unfold absentOr
  split
  · exact agree_fail _
  · next given =>
    have taken : (a.isSome || t.isSome) = true := by
      cases a <;> cases t <;> first | rfl | exact absurd rfl given
    rw [taken, Bool.toNat_true] at le
    exact agree_place (Nat.le_of_succ_le_succ le)

theorem agree_flowSeparator (first : Bool) :
    Agree (flowSeparator first) (flowSeparator first) s s.tokens.length := by
  unfold flowSeparator
  exact .ite (agree_pure _ (Nat.le_refl _))
    (.sees_ite (fun _ => agree_skip (Nat.le_add_right _ 1)) (agree_fail _))

end

/-! ## Turns that are enough -/

/-- With `f` turns, where they are enough for the tokens, a way to build does what it does with any number that
is enough, and it takes so many tokens at least. -/
def Settled {α : Type} (x : Nat → Build α) (f spare taken : Nat) : Prop :=
  ∀ (g : Nat) (s : GraphBuilder), 4 * s.tokens.length + spare ≤ f → 4 * s.tokens.length + spare ≤ g →
    Agree (x f) (x g) s (s.tokens.length - taken)

theorem settled_succ {α : Type} {x : Nat → Build α} {f spare taken : Nat} (pos : 0 < spare)
    (h : ∀ (g : Nat) (s : GraphBuilder), 4 * s.tokens.length + spare ≤ f + 1 →
      4 * s.tokens.length + spare ≤ g + 1 → Agree (x (f + 1)) (x (g + 1)) s (s.tokens.length - taken)) :
    Settled x (f + 1) spare taken := by
  intro g s hf hg
  obtain ⟨g, rfl⟩ := Nat.exists_eq_add_of_le' (Nat.le_trans (Nat.le_trans pos (Nat.le_add_left _ _)) hg)
  exact h g s hf hg

/-- With `f` turns all functions that build nodes are settled. One that only looks at a token before it calls
another has a turn to spare for that. -/
structure AllSettled (f : Nat) : Prop where
  node (room : Nat) (block unindented : Bool) : Settled (node · room block unindented) f 2 0
  flowNode (room : Nat) : Settled (GraphBuilder.node · room false false) f 2 1
  nodeUnless (room : Nat) (ends : List Token) (block unindented : Bool) :
    Settled (nodeUnless · room ends block unindented) f 3 0
  entryValue (room : Nat) (ends : List Token) (block : Bool) : Settled (entryValue · room ends block) f 1 0
  blockItems (room : Nat) : Settled (blockItems · room) f 1 0
  unindentedItems (room : Nat) : Settled (unindentedItems · room) f 1 0
  blockEntries (room : Nat) : Settled (blockEntries · room) f 1 0
  flowItems (room : Nat) (first : Bool) : Settled (flowItems · room first) f 3 0
  flowEntries (room : Nat) (first : Bool) : Settled (flowEntries · room first) f 3 0

section

variable {f : Nat} (all : AllSettled f)

include all

/-- A node takes a token, unless its items are not indented: then the first of them does. -/
theorem settled_node (room : Nat) (block unindented : Bool) {taken : Nat} (le : taken ≤ 1)
    (none : unindented = true → taken = 0) : Settled (node · room block unindented) (f + 1) 2 taken := by
  refine settled_succ (by decide) fun g s hf hg => ?_
  rw [node, node]
  refine .peek_bind fun t nonempty => ?_
  split
  · next name =>
    refine .skip_bind fun s₁ shorter => .get_bind ?_
    cases s₁.names.lookup name with
    | none => exact agree_fail _
    | some id => exact agree_pure _ (by omega)
  · refine Agree.bind (m := s.tokens.length) (agree_self fun p s₁ h => ?_) fun p s₁ h le₁ => ?_
    · exact Nat.le_trans (Nat.le_add_right _ _) (length_of_properties h)
    have properties := length_of_properties h
    refine .peek_bind fun t nonempty => ?_
    split
    · cases unindented with
      | false => exact agree_absentOr (by omega)
      | true =>
        refine agree_collect fun s₂ same => agree_within fun room => ?_
        refine (all.unindentedItems room g s₂ (by omega) (by omega)).bind fun items s₃ _ le₃ => ?_
        rw [none rfl]
        exact agree_pure _ (by omega)
    · exact .skip_bind fun s₂ shorter => agree_place (by omega)
    · refine agree_collect fun s₂ same => agree_within fun room => .skip_bind fun s₃ shorter => ?_
      refine (all.flowItems room true g s₃ (by omega) (by omega)).bind fun items s₄ _ le₄ => ?_
      exact agree_pure _ (by omega)
    · refine agree_collect fun s₂ same => agree_within fun room => .skip_bind fun s₃ shorter => ?_
      refine (all.flowEntries room true g s₃ (by omega) (by omega)).bind fun entries s₄ _ le₄ => ?_
      exact agree_pure _ (by omega)
    · refine .ite (agree_collect fun s₂ same => agree_within fun room => ?_) (agree_absentOr (by omega))
      refine .skip_bind fun s₃ shorter => ?_
      refine (all.blockItems room g s₃ (by omega) (by omega)).bind fun items s₄ _ le₄ => ?_
      exact agree_pure _ (by omega)
    · refine .ite (agree_collect fun s₂ same => agree_within fun room => ?_) (agree_absentOr (by omega))
      refine .skip_bind fun s₃ shorter => ?_
      refine (all.blockEntries room g s₃ (by omega) (by omega)).bind fun entries s₄ _ le₄ => ?_
      exact agree_pure _ (by omega)
    · exact agree_absentOr (by omega)

theorem settled_nodeUnless (room : Nat) (ends : List Token) (block unindented : Bool) :
    Settled (nodeUnless · room ends block unindented) (f + 1) 3 0 := by
  refine settled_succ (by decide) fun g s hf hg => ?_
  rw [nodeUnless, nodeUnless]
  refine .sees_ite (fun _ => agree_place (Nat.le_refl _)) ?_
  exact all.node room block unindented g s (by omega) (by omega)

theorem settled_entryValue (room : Nat) (ends : List Token) (block : Bool) :
    Settled (entryValue · room ends block) (f + 1) 1 0 := by
  refine settled_succ (by decide) fun g s hf hg => ?_
  rw [entryValue, entryValue]
  refine .sees_ite (fun nonempty => .skip_bind fun s₁ shorter => ?_) (agree_place (Nat.le_refl _))
  exact (all.nodeUnless room ends block block g s₁ (by omega) (by omega)).mono (by omega)

theorem settled_blockItems (room : Nat) : Settled (blockItems · room) (f + 1) 1 0 := by
  refine settled_succ (by decide) fun g s hf hg => ?_
  rw [blockItems, blockItems]
  refine .peek_bind fun t nonempty => ?_
  split
  · refine .skip_bind fun s₁ shorter => ?_
    refine (all.nodeUnless room _ _ _ g s₁ (by omega) (by omega)).bind fun item s₂ _ le₂ => ?_
    refine (all.blockItems room g s₂ (by omega) (by omega)).bind fun items s₃ _ le₃ => ?_
    exact agree_pure _ (by omega)
  · exact .skip_bind fun s₁ shorter => agree_pure _ (by omega)
  · exact agree_fail _

theorem settled_unindentedItems (room : Nat) : Settled (unindentedItems · room) (f + 1) 1 0 := by
  refine settled_succ (by decide) fun g s hf hg => ?_
  rw [unindentedItems, unindentedItems]
  refine .peek_bind fun t nonempty => ?_
  split
  · refine .skip_bind fun s₁ shorter => ?_
    refine (all.nodeUnless room _ _ _ g s₁ (by omega) (by omega)).bind fun item s₂ _ le₂ => ?_
    refine (all.unindentedItems room g s₂ (by omega) (by omega)).bind fun items s₃ _ le₃ => ?_
    exact agree_pure _ (by omega)
  · exact agree_pure _ (Nat.le_refl _)

theorem settled_blockEntries (room : Nat) : Settled (blockEntries · room) (f + 1) 1 0 := by
  refine settled_succ (by decide) fun g s hf hg => ?_
  rw [blockEntries, blockEntries]
  refine .peek_bind fun t nonempty => ?_
  split
  · refine .skip_bind fun s₁ shorter => ?_
    refine (all.nodeUnless room _ _ _ g s₁ (by omega) (by omega)).bind fun key s₂ _ le₂ => ?_
    refine (all.entryValue room _ _ g s₂ (by omega) (by omega)).bind fun value s₃ _ le₃ => ?_
    refine (all.blockEntries room g s₃ (by omega) (by omega)).bind fun entries s₄ _ le₄ => ?_
    exact agree_pure _ (by omega)
  · exact .skip_bind fun s₁ shorter => agree_pure _ (by omega)
  · exact agree_fail _

theorem settled_flowItems (room : Nat) (first : Bool) : Settled (flowItems · room first) (f + 1) 3 0 := by
  refine settled_succ (by decide) fun g s hf hg => ?_
  rw [flowItems, flowItems]
  refine .sees_ite (fun _ => .skip_bind fun s₁ shorter => agree_pure _ (by omega)) ?_
  refine (agree_flowSeparator first).bind fun _ s₁ _ le₁ => ?_
  refine .peek_bind fun t nonempty => ?_
  split
  · exact .skip_bind fun s₂ shorter => agree_pure _ (by omega)
  · refine .skip_bind fun s₂ shorter => ?_
    refine Agree.bind (m := s₂.tokens.length) (agree_collect fun s₃ same => agree_within fun room => ?_)
      fun pair s₃ _ le₃ => ?_
    · refine (all.nodeUnless room _ _ _ g s₃ (by omega) (by omega)).bind fun key s₄ _ le₄ => ?_
      refine (all.entryValue room _ _ g s₄ (by omega) (by omega)).bind fun value s₅ _ le₅ => ?_
      exact agree_pure _ (by omega)
    · refine (all.flowItems room false g s₃ (by omega) (by omega)).bind fun items s₄ _ le₄ => ?_
      exact agree_pure _ (by omega)
  · refine (all.flowNode room g s₁ (by omega) (by omega)).bind fun item s₂ _ le₂ => ?_
    refine (all.flowItems room false g s₂ (by omega) (by omega)).bind fun items s₃ _ le₃ => ?_
    exact agree_pure _ (by omega)

theorem settled_flowEntries (room : Nat) (first : Bool) :
    Settled (flowEntries · room first) (f + 1) 3 0 := by
  refine settled_succ (by decide) fun g s hf hg => ?_
  rw [flowEntries, flowEntries]
  refine .sees_ite (fun _ => .skip_bind fun s₁ shorter => agree_pure _ (by omega)) ?_
  refine (agree_flowSeparator first).bind fun _ s₁ _ le₁ => ?_
  refine .peek_bind fun t nonempty => ?_
  split
  · exact .skip_bind fun s₂ shorter => agree_pure _ (by omega)
  · refine .skip_bind fun s₂ shorter => ?_
    refine (all.nodeUnless room _ _ _ g s₂ (by omega) (by omega)).bind fun key s₃ _ le₃ => ?_
    refine (all.entryValue room _ _ g s₃ (by omega) (by omega)).bind fun value s₄ _ le₄ => ?_
    refine (all.flowEntries room false g s₄ (by omega) (by omega)).bind fun entries s₅ _ le₅ => ?_
    exact agree_pure _ (by omega)
  · refine (all.flowNode room g s₁ (by omega) (by omega)).bind fun key s₂ _ le₂ => ?_
    refine (agree_place (Nat.le_refl _)).bind fun value s₃ _ le₃ => ?_
    refine (all.flowEntries room false g s₃ (by omega) (by omega)).bind fun entries s₄ _ le₄ => ?_
    exact agree_pure _ (by omega)

end

/-- Whatever the number of turns, all functions that build nodes are settled. -/
theorem allSettled (f : Nat) : AllSettled f := by
  induction f with
  | zero =>
    -- no tokens are so few that no turns are enough for them
    have none {α : Type} (x : Nat → Build α) {spare taken : Nat} (pos : 0 < spare) :
        Settled x 0 spare taken := fun _ _ hf _ => absurd hf (by omega)
    exact ⟨fun _ _ _ => none _ (by decide), fun _ => none _ (by decide), fun _ _ _ _ => none _ (by decide),
      fun _ _ _ => none _ (by decide), fun _ => none _ (by decide), fun _ => none _ (by decide),
      fun _ => none _ (by decide), fun _ _ => none _ (by decide), fun _ _ => none _ (by decide)⟩
  | succ f all =>
    exact
      { node := fun room block unindented => settled_node all room block unindented (Nat.zero_le _) fun _ => rfl
        flowNode := fun room => settled_node all room false false (Nat.le_refl _) nofun
        nodeUnless := settled_nodeUnless all
        entryValue := settled_entryValue all
        blockItems := settled_blockItems all
        unindentedItems := settled_unindentedItems all
        blockEntries := settled_blockEntries all
        flowItems := settled_flowItems all
        flowEntries := settled_flowEntries all }

/-! ## Documents -/

theorem settled_directives (versioned : Bool) (f : Nat) : Settled (directives · versioned) f 1 0 := by
  induction f generalizing versioned with
  | zero => exact fun _ _ hf _ => absurd hf (by omega)
  | succ f ih =>
    refine settled_succ (by decide) fun g s hf hg => ?_
    rw [directives, directives]
    refine .peek_bind fun t nonempty => ?_
    split
    · refine .skip_bind fun s₁ shorter => ?_
      have further (versioned : Bool) (s₂ : GraphBuilder) (le : s₂.tokens.length ≤ s₁.tokens.length) :
          Agree (directives f versioned) (directives g versioned) s₂ s.tokens.length :=
        (ih versioned g s₂ (by omega) (by omega)).mono (by omega)
      split
      · exact .ite (agree_fail _) (.ite (agree_fail _) (further true s₁ (Nat.le_refl _)))
      · refine .get_bind (.ite (agree_fail _) ?_)
        exact (agree_modify (Nat.le_refl _)).bind fun _ s₂ _ le => further versioned s₂ le
      · exact further versioned s₁ (Nat.le_refl _)
    · exact agree_modify (Nat.le_refl _)

theorem settled_skipDocumentEnds (f : Nat) : Settled skipDocumentEnds f 1 0 := by
  induction f with
  | zero => exact fun _ _ hf _ => absurd hf (by omega)
  | succ f ih =>
    refine settled_succ (by decide) fun g s hf hg => ?_
    rw [skipDocumentEnds, skipDocumentEnds]
    refine .sees_ite (fun nonempty => .skip_bind fun s₁ shorter => ?_) (agree_pure _ (Nat.le_refl _))
    exact (ih g s₁ (by omega) (by omega)).mono (by omega)

theorem settled_documentStart (f : Nat) : Settled documentStart f 1 0 := by
  intro g s hf hg
  refine (agree_modify (n := s.tokens.length) (Nat.le_refl _)).bind fun _ s₁ _ le₁ => ?_
  refine (settled_directives false f g s₁ (by omega) (by omega)).bind fun _ s₂ _ le₂ => ?_
  exact .sees_ite (fun _ => agree_skip (by omega)) (agree_fail _)

theorem settled_root? (room f : Nat) : Settled (root? · room) f 2 0 := by
  intro g s hf hg
  have roots (s₁ : GraphBuilder) (le : s₁.tokens.length ≤ s.tokens.length) :
      Agree (some <$> node f room true false) (some <$> node g room true false) s₁ s.tokens.length :=
    (((allSettled f).node room true false g s₁ (by omega) (by omega)).mono (by omega)).map _
  refine .peek_bind fun t nonempty => .ite ?_ ?_
  · exact (agree_modify (Nat.le_refl _)).bind fun _ s₁ _ le => roots s₁ le
  · refine (settled_skipDocumentEnds f g s (by omega) (by omega)).bind fun _ s₁ _ le₁ => ?_
    refine .sees_ite (fun _ => agree_pure _ (by omega)) ?_
    refine (settled_documentStart f g s₁ (by omega) (by omega)).bind fun _ s₂ _ le₂ => ?_
    refine .peek_bind fun t nonempty => .ite ?_ (roots s₂ (by omega))
    exact Agree.map (agree_place (by omega)) _

theorem settled_streamEnd (f : Nat) : Settled streamEnd f 1 0 := by
  intro g s hf hg
  refine (settled_skipDocumentEnds f g s (by omega) (by omega)).bind fun _ s₁ _ le₁ => ?_
  refine .sees_ite (fun _ => agree_pure _ (by omega)) ?_
  exact (settled_documentStart f g s₁ (by omega) (by omega)).bind fun _ s₂ _ le₂ => agree_fail _

theorem settled_onlyRoot? (room f : Nat) : Settled (onlyRoot? · room) f 2 0 := by
  intro g s hf hg
  refine (settled_root? room f g s (by omega) (by omega)).bind fun r s₁ _ le₁ => ?_
  cases r with
  | none => exact agree_pure _ le₁
  | some id =>
    exact (settled_streamEnd f g s₁ (by omega) (by omega)).bind fun _ s₂ _ le₂ => agree_pure _ (by omega)

end GraphBuilder

/-- With any number of turns that is enough for the tokens the graph is the same. -/
theorem Graph.ofTokensIn_eq {turns : Nat} {t : Tokens} (enough : 4 * t.tokens.length + 2 ≤ turns)
    (limits : Limits) : ofTokensIn turns limits t = ofTokens limits t := by
  have same : GraphBuilder.onlyRoot? turns limits.nesting ⟨t.tokens, t.fault, [], #[], []⟩ =
      GraphBuilder.onlyRoot? (4 * t.tokens.length + 16) limits.nesting ⟨t.tokens, t.fault, [], #[], []⟩ :=
    (GraphBuilder.settled_onlyRoot? limits.nesting turns _ _ enough (Nat.add_le_add_left (by decide) _)).same
  rw [ofTokens, ofTokensIn, ofTokensIn, StateT.run, StateT.run, same]

end ClusterAccess.Yaml
