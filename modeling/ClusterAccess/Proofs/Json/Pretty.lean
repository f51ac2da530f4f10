import ClusterAccess.Proofs.Json.Quoted

/-!
# Documents as they are written

Characters spell a value if they are read as it whatever follows (`Spells`). The text that `Json.pretty` writes
for a document spells it with the members of its objects in the order of their names (`Json.sorted`), so the
document is read back from its text and no member is lost (`ofText_pretty`). This is shown of `Plain`
documents, which hold no numbers and no name twice in one object.
-/

namespace ClusterAccess.Json

/-! ## Documents in order -/

mutual

/-- A value with the members of its objects in the order of their names. -/
def sorted : Json → Json
  | array items => array (sortedItems items)
  | object members => object ((sortedMembers members).mergeSort fun a b => a.1 ≤ b.1)
  | v => v

def sortedItems : List Json → List Json
  | [] => []
  | v :: vs => v.sorted :: sortedItems vs

def sortedMembers : List (String × Json) → List (String × Json)
  | [] => []
  | (n, v) :: ms => (n, v.sorted) :: sortedMembers ms

end

/-- A document without numbers, in whose objects each name stands once. -/
inductive Plain : Json → Prop
  | null : Plain .null
  | bool (b : Bool) : Plain (.bool b)
  | text (s : String) : Plain (.text s)
  | array {items : List Json} (h : ∀ v ∈ items, Plain v) : Plain (.array items)
  | object {members : List (String × Json)} (distinct : (members.map (·.1)).Nodup)
      (h : ∀ m ∈ members, Plain m.2) : Plain (.object members)

theorem sortedItems_eq_map (items : List Json) : sortedItems items = items.map sorted := by
  induction items with
  | nil => rfl
  | cons v vs ih => rw [sortedItems, ih, List.map_cons]

theorem sortedMembers_eq_map (members : List (String × Json)) :
    sortedMembers members = members.map fun m => (m.1, m.2.sorted) := by
  induction members with
  | nil => rfl
  | cons m ms ih => rw [sortedMembers, ih, List.map_cons]

theorem prettyItems_eq_map (depth : Nat) (items : List Json) :
    prettyItems depth items = items.map (prettyChars depth) := by
  induction items with
  | nil => rfl
  | cons v vs ih => rw [prettyItems, ih, List.map_cons]

theorem prettyMembers_eq_map (depth : Nat) (members : List (String × Json)) :
    prettyMembers depth members = members.map fun m => (m.1, prettyChars depth m.2) := by
  induction members with
  | nil => rfl
  | cons m ms ih => rw [prettyMembers, ih, List.map_cons]

/-- The text of a member whose value has the given text. -/
def memberText (chars : Json → List Char) (m : String × Json) : List Char :=
  quotedText m.1 ++ ':' :: ' ' :: chars m.2

theorem exists_memberText (chars : Json → List Char) (m : String × Json) :
    ∃ more, memberText chars m = '"' :: more := ⟨_, rfl⟩

/-- Members are written in the order that `sorted` gives them. -/
theorem inOrder_prettyMembers (depth : Nat) (members : List (String × Json)) :
    inOrder (prettyMembers depth members) =
      (members.mergeSort fun a b => a.1 ≤ b.1).map (memberText (prettyChars depth)) := by
  rw [inOrder, prettyMembers_eq_map, ← List.map_mergeSort (r := fun a b => a.1 ≤ b.1) (by simp),
    List.map_map]
  rfl

/-! ## Members with distinct names -/

theorem insert_of_not_mem {members : List (String × Json)} {name : String}
    (h : name ∉ members.map (·.1)) (v : Json) : insert members name v = members ++ [(name, v)] := by
  induction members with
  | nil => rfl
  | cons m ms ih =>
    rw [List.map_cons, List.mem_cons, not_or] at h
    rw [insert, if_neg (Ne.symm h.1), ih h.2, List.cons_append]

theorem foldl_insert {kept members : List (String × Json)}
    (h : ((kept ++ members).map (·.1)).Nodup) :
    members.foldl (fun kept m => insert kept m.1 m.2) kept = kept ++ members := by
  induction members generalizing kept with
  | nil => rw [List.foldl_nil, List.append_nil]
  | cons m ms ih =>
    have fresh : m.1 ∉ kept.map (·.1) := by
      rw [List.map_append, List.nodup_append] at h
      exact fun hm => h.2.2 _ hm _ List.mem_cons_self rfl
    rw [List.foldl_cons, insert_of_not_mem fresh, ih (by simpa using h), List.append_assoc]
    rfl

theorem collect_of_nodup {members : List (String × Json)} (h : (members.map (·.1)).Nodup) :
    collect members = members := foldl_insert h

/-! ## Gaps -/

/-- Characters that stand between tokens. -/
def IsGaps (cs : List Char) : Prop := ∀ c ∈ cs, isGap c = true

theorem isGaps_lineAt (depth : Nat) : IsGaps (lineAt depth) := by
  intro c hc
  obtain rfl | hc := List.mem_cons.mp hc
  · rfl
  · rw [List.eq_of_mem_replicate hc]
    rfl

theorem skipGap_append {gap : List Char} (h : IsGaps gap) (cs : List Char) :
    skipGap (gap ++ cs) = skipGap cs := List.dropWhile_append_of_pos h

theorem skipGap_of_not_isGap {c : Char} (h : isGap c = false) (cs : List Char) :
    skipGap (c :: cs) = c :: cs := by
  rw [skipGap, List.dropWhile_cons_of_neg (by simp [h])]

/-! ## Spelling -/

/-- The characters are read as the value, whatever follows, and begin like a value. -/
structure Spells (cs : List Char) (v : Json) : Prop where
  reads : ∀ fuel rest, cs.length < fuel → readValue fuel (cs ++ rest) = .ok (v, rest)
  starts : ∃ c more, cs = c :: more ∧ isGap c = false ∧ c ≠ ']'

theorem Spells.skipGap_eq {cs : List Char} {v : Json} (h : Spells cs v) {gap : List Char}
    (hg : IsGaps gap) (rest : List Char) : skipGap (gap ++ (cs ++ rest)) = cs ++ rest := by
  obtain ⟨c, more, rfl, start, -⟩ := h.starts
  rw [skipGap_append hg, List.cons_append, skipGap_of_not_isGap start]

/-- A value without others in it is read in one step. -/
theorem spells_of_reads {cs : List Char} {v : Json}
    (reads : ∀ fuel rest, readValue (fuel + 1) (cs ++ rest) = .ok (v, rest))
    (starts : ∃ c more, cs = c :: more ∧ isGap c = false ∧ c ≠ ']') : Spells cs v := by
  refine ⟨fun fuel rest h => ?_, starts⟩
  obtain ⟨fuel, rfl⟩ := Nat.exists_eq_add_one.mpr (Nat.zero_lt_of_lt h)
  exact reads fuel rest

theorem spells_null : Spells (atom .null) .null :=
  spells_of_reads (fun _ _ => rfl) ⟨_, _, rfl, rfl, by decide⟩

theorem spells_bool (b : Bool) : Spells (atom (.bool b)) (.bool b) := by
  cases b with
  | false => exact spells_of_reads (fun _ _ => rfl) ⟨_, _, rfl, rfl, by decide⟩
  | true => exact spells_of_reads (fun _ _ => rfl) ⟨_, _, rfl, rfl, by decide⟩

theorem spells_text (s : String) : Spells (quotedText s) (.text s) := by
  refine spells_of_reads (fun fuel rest => ?_) ⟨_, _, rfl, rfl, by decide⟩
  rw [quotedText, List.cons_append, List.cons_append, List.append_assoc, List.singleton_append, readValue,
    readString_quoted]
  change Except.ok (Json.text (String.ofList s.toList), rest) = _
  rw [String.ofList_toList]

theorem spells_empty_array : Spells (atom (.array [])) (.array []) :=
  spells_of_reads (fun _ _ => rfl) ⟨_, _, rfl, rfl, by decide⟩

theorem spells_empty_object : Spells (atom (.object [])) (.object []) :=
  spells_of_reads (fun _ _ => rfl) ⟨_, _, rfl, rfl, by decide⟩

/-! ## Collections -/

section

variable {fuel : Nat} {cs mid more rest : List Char} {v : Json}

/-- The last item. -/
theorem readItems_of_bracket (read : readValue fuel cs = .ok (v, mid))
    (behind : skipGap mid = ']' :: rest) : readItems (fuel + 1) cs = .ok ([v], rest) := by
  rw [readItems, read]
  simp only [bind, Except.bind, behind]
  rfl

/-- An item that others follow. -/
theorem readItems_of_comma (read : readValue fuel cs = .ok (v, mid))
    (behind : skipGap mid = ',' :: more) :
    readItems (fuel + 1) cs = (readItems fuel (skipGap more)).map fun r => (v :: r.1, r.2) := by
  rw [readItems, read]
  simp only [bind, Except.bind, behind]
  cases readItems fuel (skipGap more) <;> rfl

/-- The last member. -/
theorem readMembers_of_brace {name : String} (read : readValue fuel cs = .ok (v, mid))
    (spaced : skipGap more = cs) (behind : skipGap mid = '\x7d' :: rest) :
    readMembers (fuel + 1) (quotedText name ++ ':' :: more) = .ok ([(name, v)], rest) := by
  rw [quotedText, List.cons_append, List.cons_append, List.append_assoc, List.singleton_append, readMembers,
    readString_quoted]
  simp only [bind, Except.bind, skipGap_of_not_isGap (c := ':') rfl, spaced, read, behind,
    String.ofList_toList]
  rfl

/-- A member that others follow. -/
theorem readMembers_of_comma {name : String} {next : List Char} (read : readValue fuel cs = .ok (v, mid))
    (spaced : skipGap more = cs) (behind : skipGap mid = ',' :: next) :
    readMembers (fuel + 1) (quotedText name ++ ':' :: more) =
      (readMembers fuel (skipGap next)).map fun r => ((name, v) :: r.1, r.2) := by
  rw [quotedText, List.cons_append, List.cons_append, List.append_assoc, List.singleton_append, readMembers,
    readString_quoted]
  simp only [bind, Except.bind, skipGap_of_not_isGap (c := ':') rfl, spaced, read, behind,
    String.ofList_toList]
  cases readMembers fuel (skipGap next) <;> rfl

end

section

variable {chars : Json → List Char} {value : Json → Json} {gap last : List Char}

theorem separated_cons (sep p q : List Char) (ps : List (List Char)) :
    separated sep (p :: q :: ps) = p ++ (sep ++ separated sep (q :: ps)) := by
  rw [separated, List.intercalate_cons_cons, List.append_assoc]
  rfl

/-- Pieces begin as the first of them does. -/
theorem exists_separated (sep : List Char) {p : List Char} (ps : List (List Char)) {c : Char}
    {more : List Char} (hp : p = c :: more) : ∃ behind, separated sep (p :: ps) = c :: behind := by
  cases ps with
  | nil => exact ⟨more, by rw [separated, List.intercalate_singleton, hp]⟩
  | cons q ps => exact ⟨_, by rw [separated_cons, hp, List.cons_append]⟩

theorem skipGap_separated (hg : IsGaps gap) (sep rest : List Char) {p : List Char}
    (ps : List (List Char)) {c : Char} {more : List Char} (hp : p = c :: more) (start : isGap c = false) :
    skipGap (gap ++ (separated sep (p :: ps) ++ rest)) = separated sep (p :: ps) ++ rest := by
  obtain ⟨behind, hb⟩ := exists_separated sep ps hp
  rw [skipGap_append hg, hb, List.cons_append, skipGap_of_not_isGap start]

/-- Items are read one after the other, up to the bracket. -/
theorem readItems_separated (hg : IsGaps gap) (hl : IsGaps last) (rest : List Char) {v : Json}
    {vs : List Json} (h : ∀ w ∈ v :: vs, Spells (chars w) (value w)) {fuel : Nat}
    (enough : (separated (',' :: gap) ((v :: vs).map chars)).length + 1 < fuel) :
    readItems fuel (separated (',' :: gap) ((v :: vs).map chars) ++ (last ++ ']' :: rest)) =
      .ok ((v :: vs).map value, rest) := by
  have first := h v List.mem_cons_self
  induction vs generalizing v fuel with
  | nil =>
    obtain ⟨fuel, rfl⟩ := Nat.exists_eq_add_one.mpr (Nat.zero_lt_of_lt enough)
    rw [List.map_singleton, separated, List.intercalate_singleton] at enough ⊢
    refine readItems_of_bracket (first.reads fuel _ (by omega)) ?_
    rw [skipGap_append hl, skipGap_of_not_isGap rfl]
  | cons w vs ih =>
    obtain ⟨fuel, rfl⟩ := Nat.exists_eq_add_one.mpr (Nat.zero_lt_of_lt enough)
    have others : ∀ u ∈ w :: vs, Spells (chars u) (value u) :=
      fun u hu => h u (List.mem_cons_of_mem v hu)
    obtain ⟨c, more, hc, start, -⟩ := (others w List.mem_cons_self).starts
    rw [List.map_cons, List.map_cons, separated_cons, ← List.map_cons] at enough ⊢
    simp only [List.length_append, List.length_cons] at enough
    rw [List.append_assoc, List.append_assoc, List.cons_append,
      readItems_of_comma (first.reads fuel _ (by omega)) (skipGap_of_not_isGap rfl _), List.map_cons,
      skipGap_separated hg _ _ _ hc start, ← List.map_cons,
      ih others (by omega) (others w List.mem_cons_self)]
    rfl

/-- Members are read one after the other, up to the brace. -/
theorem readMembers_separated (hg : IsGaps gap) (hl : IsGaps last) (rest : List Char)
    {m : String × Json} {ms : List (String × Json)}
    (h : ∀ m' ∈ m :: ms, Spells (chars m'.2) (value m'.2)) {fuel : Nat}
    (enough : (separated (',' :: gap) ((m :: ms).map (memberText chars))).length + 1 < fuel) :
    readMembers fuel
        (separated (',' :: gap) ((m :: ms).map (memberText chars)) ++ (last ++ '\x7d' :: rest)) =
      .ok ((m :: ms).map fun m => (m.1, value m.2), rest) := by
  have first := h m List.mem_cons_self
  have spaced : ∀ behind, skipGap (' ' :: (chars m.2 ++ behind)) = chars m.2 ++ behind :=
    first.skipGap_eq (List.forall_mem_singleton.mpr rfl)
  induction ms generalizing m fuel with
  | nil =>
    obtain ⟨fuel, rfl⟩ := Nat.exists_eq_add_one.mpr (Nat.zero_lt_of_lt enough)
    rw [List.map_singleton, separated, List.intercalate_singleton, memberText] at enough ⊢
    simp only [List.length_append, List.length_cons] at enough
    rw [List.append_assoc, List.cons_append, List.cons_append]
    refine readMembers_of_brace (first.reads fuel _ (by omega)) (spaced _) ?_
    rw [skipGap_append hl, skipGap_of_not_isGap rfl]
  | cons m' ms ih =>
    obtain ⟨fuel, rfl⟩ := Nat.exists_eq_add_one.mpr (Nat.zero_lt_of_lt enough)
    have others : ∀ u ∈ m' :: ms, Spells (chars u.2) (value u.2) :=
      fun u hu => h u (List.mem_cons_of_mem m hu)
    have second := others m' List.mem_cons_self
    obtain ⟨more, quote⟩ := exists_memberText chars m'
    rw [List.map_cons, List.map_cons, separated_cons, ← List.map_cons, memberText] at enough ⊢
    simp only [List.length_append, List.length_cons] at enough
    rw [List.append_assoc, List.append_assoc, List.append_assoc, List.cons_append, List.cons_append,
      List.cons_append, readMembers_of_comma (first.reads fuel _ (by omega)) (spaced _)
        (skipGap_of_not_isGap rfl _), List.map_cons, skipGap_separated hg _ _ _ quote rfl, ← List.map_cons,
      ih others (by omega) second (second.skipGap_eq (List.forall_mem_singleton.mpr rfl))]
    rfl

end

/-! ## Collections on lines of their own -/

/-- An array that does not end at once. -/
theorem readValue_of_bracket {fuel : Nat} {cs text more : List Char} {c : Char}
    (h : skipGap cs = text) (first : text = c :: more) (away : c ≠ ']') :
    readValue (fuel + 1) ('[' :: cs) = (readItems fuel text).map fun r => (.array r.1, r.2) := by
  rw [readValue, h]
  split
  · cases first
    exact absurd rfl away
  · cases readItems fuel text <;> rfl

/-- An object that does not end at once. -/
theorem readValue_of_brace {fuel : Nat} {cs text more : List Char} {c : Char}
    (h : skipGap cs = text) (first : text = c :: more) (away : c ≠ '\x7d') :
    readValue (fuel + 1) ('\x7b' :: cs) =
      (readMembers fuel text).map fun r => (.object (collect r.1), r.2) := by
  rw [readValue, h]
  split
  · cases first
    exact absurd rfl away
  · cases readMembers fuel text <;> rfl

theorem lines_append (depth : Nat) (opening closing : Char) (pieces : List (List Char))
    (rest : List Char) :
    lines depth opening closing pieces ++ rest =
      opening :: (lineAt (depth + 1) ++ (separated (',' :: lineAt (depth + 1)) pieces ++
        (lineAt depth ++ closing :: rest))) := by
  simp [lines, List.append_assoc]

theorem length_lines (depth : Nat) (opening closing : Char) (pieces : List (List Char)) :
    (separated (',' :: lineAt (depth + 1)) pieces).length + 2 <
      (lines depth opening closing pieces).length := by
  simp only [lines, lineAt, List.length_append, List.length_cons, List.length_replicate]
  omega

section

variable {chars : Json → List Char} {value : Json → Json} (depth : Nat)

theorem spells_lines_items {v : Json} {vs : List Json}
    (h : ∀ w ∈ v :: vs, Spells (chars w) (value w)) :
    Spells (lines depth '[' ']' ((v :: vs).map chars)) (.array ((v :: vs).map value)) := by
  refine ⟨fun fuel rest enough => ?_, _, _, rfl, rfl, by decide⟩
  obtain ⟨fuel, rfl⟩ := Nat.exists_eq_add_one.mpr (Nat.zero_lt_of_lt enough)
  obtain ⟨c, more, hc, start, away⟩ := (h v List.mem_cons_self).starts
  obtain ⟨behind, hb⟩ := exists_separated (',' :: lineAt (depth + 1)) (vs.map chars) hc
  have long := length_lines depth '[' ']' ((v :: vs).map chars)
  have gap := isGaps_lineAt (depth + 1)
  rw [lines_append, List.map_cons,
    readValue_of_bracket (skipGap_separated gap _ _ (vs.map chars) hc start)
      (by rw [hb, List.cons_append]) away, ← List.map_cons,
    readItems_separated gap (isGaps_lineAt depth) rest h (by omega)]
  rfl

theorem spells_lines_members {m : String × Json} {ms : List (String × Json)}
    (h : ∀ m' ∈ m :: ms, Spells (chars m'.2) (value m'.2)) :
    Spells (lines depth '\x7b' '\x7d' ((m :: ms).map (memberText chars)))
      (.object (collect ((m :: ms).map fun m => (m.1, value m.2)))) := by
  refine ⟨fun fuel rest enough => ?_, _, _, rfl, rfl, by decide⟩
  obtain ⟨fuel, rfl⟩ := Nat.exists_eq_add_one.mpr (Nat.zero_lt_of_lt enough)
  obtain ⟨more, quote⟩ := exists_memberText chars m
  obtain ⟨behind, hb⟩ := exists_separated (',' :: lineAt (depth + 1)) (ms.map (memberText chars)) quote
  have long := length_lines depth '\x7b' '\x7d' ((m :: ms).map (memberText chars))
  have gap := isGaps_lineAt (depth + 1)
  rw [lines_append, List.map_cons,
    readValue_of_brace (skipGap_separated gap _ _ (ms.map (memberText chars)) quote rfl)
      (by rw [hb, List.cons_append]) (by decide), ← List.map_cons,
    readMembers_separated gap (isGaps_lineAt depth) rest h (by omega)]
  rfl

end

/-! ## Documents -/

/-- A plain document is spelled with its members in order. -/
theorem spells_prettyChars {v : Json} (h : Plain v) (depth : Nat) :
    Spells (prettyChars depth v) v.sorted := by
  induction h generalizing depth with
  | null => exact spells_null
  | bool b => exact spells_bool b
  | text s => exact spells_text s
  | @array items _ ih =>
    cases items with
    | nil => exact spells_empty_array
    | cons v vs =>
      rw [prettyChars, prettyItems_eq_map, sorted, sortedItems_eq_map]
      exact spells_lines_items depth fun w hw => ih w hw (depth + 1)
  | @object members distinct _ ih =>
    cases members with
    | nil =>
      rw [prettyChars, sorted, sortedMembers, List.mergeSort_nil]
      · exact spells_empty_object
      all_goals nofun
    | cons m ms =>
      rw [prettyChars, inOrder_prettyMembers, sorted, sortedMembers_eq_map,
        ← List.map_mergeSort (r := fun a b => a.1 ≤ b.1) (by simp)]
      have same := List.mergeSort_perm (m :: ms) fun a b => a.1 ≤ b.1
      generalize (m :: ms).mergeSort (fun a b => a.1 ≤ b.1) = ordered at same
      cases ordered with
      | nil => exact absurd same.length_eq nofun
      | cons m' ms' =>
        have spelled := spells_lines_members depth fun w hw => ih w (same.mem_iff.mp hw) (depth + 1)
        rwa [collect_of_nodup] at spelled
        rw [List.map_map]
        exact (same.map (·.1)).nodup_iff.mpr distinct

/-- A plain document is read back from its text, with its members in order. -/
theorem ofText_pretty {v : Json} (h : Plain v) : ofText (v.pretty ++ "\n") = .ok v.sorted := by
  have spelled := spells_prettyChars h 0
  have text : (v.pretty ++ "\n").toList = prettyChars 0 v ++ ['\n'] := by
    rw [String.toList_append, pretty, String.toList_ofList]
    rfl
  have start : skipGap (prettyChars 0 v ++ ['\n']) = prettyChars 0 v ++ ['\n'] :=
    spelled.skipGap_eq (List.forall_mem_nil _) ['\n']
  have long : (prettyChars 0 v).length < (prettyChars 0 v ++ ['\n']).length + 1 := by
    rw [List.length_append]
    omega
  rw [ofText, text, ofChars, start, spelled.reads _ ['\n'] long]
  rfl

/-! ## What order leaves -/

/-- An object keeps its members in order, and these are the members it had, each in order. -/
theorem sorted_object (members : List (String × Json)) :
    ∃ ordered, (object members).sorted = object ordered ∧
      ordered.Perm (members.map fun m => (m.1, m.2.sorted)) := by
  refine ⟨_, rfl, ?_⟩
  rw [← sortedMembers_eq_map]
  exact List.mergeSort_perm _ _

end ClusterAccess.Json
