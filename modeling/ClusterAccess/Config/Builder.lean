import ClusterAccess.Config.Layers

/-!
# Calls to a builder

A builder holds a draft. A `Call` is what its user does: an explicit choice, which changes the draft, or
a completion, which answers with a configuration and leaves the draft as it is. `Draft.perform` does
one call and `Draft.after` is the draft after several. `Call.lastSaid?` reads off the calls what the last
of them says about a field.
-/

namespace ClusterAccess.Config

/-- The value that a choice gives to a field, if it governs the field. -/
def Choice.says? : Choice → (f : Field) → Option f.Value
  | .setting s, f => s.for? f
  | .basicAuth username _, .username => some username
  | .basicAuth _ password, .password => some password
  | .basicAuth .., _ => none

theorem Choice.last?_settings (c : Choice) (f : Field) : Setting.last? c.settings f = c.says? f := by
  cases c with
  | setting s => exact Setting.last?_singleton s f
  | basicAuth username password =>
    rw [Choice.settings, Setting.last?_cons, Setting.last?_singleton]
    cases f <;> rfl

inductive Call where
  | choose (c : Choice)
  | build

namespace Call

/-- The value that a call gives to a field. A completion gives none. -/
def says? : Call → (f : Field) → Option f.Value
  | choose c, f => c.says? f
  | build, _ => none

/-- What the last call that governs a field says. -/
def lastSaid? (calls : List Call) (f : Field) : Option f.Value := calls.reverse.findSome? (·.says? f)

theorem lastSaid?_cons (c : Call) (calls : List Call) (f : Field) :
    lastSaid? (c :: calls) f = (lastSaid? calls f).or (c.says? f) := by
  rw [lastSaid?, List.reverse_cons, List.findSome?_append, List.findSome?_singleton, lastSaid?]

end Call

namespace Draft

/-- What a call leaves behind and answers. -/
structure Step where
  draft : Draft
  answer : Option (Except Failure Config)

def perform (d : Draft) : Call → Step
  | .choose c => ⟨d.choose c, none⟩
  | .build => ⟨d, some d.build⟩

/-- The draft after calls in a row. -/
def after (d : Draft) (calls : List Call) : Draft := calls.foldl (fun d c => (d.perform c).draft) d

theorem after_cons (d : Draft) (c : Call) (calls : List Call) :
    d.after (c :: calls) = (d.perform c).draft.after calls := rfl

/-- A choice says what the fields that it governs hold, and leaves the others alone. -/
theorem get_choose (d : Draft) (c : Choice) (f : Field) :
    (d.choose c).get f = (c.says? f).getD (d.get f) := by
  rw [choose, get_update, Choice.last?_settings]

theorem get_perform (d : Draft) (c : Call) (f : Field) :
    (d.perform c).draft.get f = (c.says? f).getD (d.get f) := by
  cases c with
  | choose c => exact get_choose d c f
  | build => rfl

/-- After calls a field holds what the last that governs it says, and otherwise what it held before. -/
theorem get_after (d : Draft) (calls : List Call) (f : Field) :
    (d.after calls).get f = (Call.lastSaid? calls f).getD (d.get f) := by
  induction calls generalizing d with
  | nil => rfl
  | cons c calls ih =>
    rw [after_cons, ih, get_perform, Call.lastSaid?_cons]
    cases Call.lastSaid? calls f <;> rfl

end Draft

end ClusterAccess.Config
