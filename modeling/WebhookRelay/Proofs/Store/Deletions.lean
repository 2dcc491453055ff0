import WebhookRelay.Proofs.Store.Interleaving

/-! # How often a rule is deleted

To delete a rule is to look for it and then to remove it, and a client that has found the
rule returns that it has deleted it, whatever has become of the rule in the meantime.  So two
clients can report to have deleted a rule that was saved once
(`Clients.two_deletions_of_one_rule`).

What is saved and what is deleted still balances, if two more things are counted: the saves
that replace a rule, and the removals that come too late and remove nothing
(`Clients.balance`).  Nothing else lets the reported deletions exceed the saves
(`Clients.deletions_le_saves_iff`).
-/

namespace WebhookRelay

namespace EntryCall

/-- Does a command put an entry under a key? -/
def puts (key : String) : EntryCall → Bool
  | .put other _ => other = key
  | .get _ | .delete _ | .keys _ => false

/-- Does a command remove the entry under a key? -/
def removes (key : String) : EntryCall → Bool
  | .delete other => other = key
  | .get _ | .put _ _ | .keys _ => false

theorem any_puts (command : EntryCall) (key : String) :
    command.change?.any (puts key) = command.puts key := by
  cases command <;> rfl

theorem any_removes (command : EntryCall) (key : String) :
    command.change?.any (removes key) = command.removes key := by
  cases command <;> rfl

end EntryCall

/-- Is there an entry under a key? -/
def Memory.holds (m : Memory) (key : String) : Bool := (m.get? key).isSome

namespace Event

variable {ι : Type}

/-- Is this where a call returns that it has saved the rule with an id? -/
def saved (id : String) (e : Event ι) : Bool :=
  match e.reply with
  | some ⟨.put rule, _⟩ => rule.id.val = id
  | _ => false

/-- Is this where a call returns that it has deleted the rule with an id? -/
def deleted (id : String) (e : Event ι) : Bool :=
  match e.reply with
  | some ⟨.delete other, true⟩ => other = id
  | _ => false

/-- A call that has saved or deleted the rule tells of a change that puts or removes its
entry. -/
theorem saved_and_deleted_eq (store : RuleStore) (id : String) (e : Event ι) :
    e.saved id = (e.reply.bind (Report.change? store)).any (EntryCall.puts (store.key id)) ∧
      e.deleted id =
        (e.reply.bind (Report.change? store)).any (EntryCall.removes (store.key id)) := by
  cases hreply : e.reply with
  | none => simp [saved, deleted, hreply]
  | some report =>
    obtain ⟨call, reply⟩ := report
    cases call with
    | put rule =>
      simp [saved, deleted, hreply, Report.change?, EntryCall.puts, EntryCall.removes,
        RuleStore.key_inj]
    | delete other =>
      cases reply <;>
        simp [saved, deleted, hreply, Report.change?, EntryCall.puts, EntryCall.removes,
          RuleStore.key_inj]
    | get other | list => simp [saved, deleted, hreply, Report.change?]

/-- Does a command put an entry in the place of another one? -/
def replaces (key : String) (e : Event ι) : Bool := e.command.puts key && e.before.holds key

/-- Does a command come too late to remove an entry? -/
def late (key : String) (e : Event ι) : Bool := e.command.removes key && !e.before.holds key

end Event

/-- **The balance of a command.**  What is put and what was there, and what a removal missed,
are as many as what is removed, what is replaced and what is there then. -/
theorem EntryCall.balance (command : EntryCall) (m : Memory) (key : String) :
    (command.puts key).toNat + (command.removes key && !m.holds key).toNat +
        (m.holds key).toNat =
      (command.removes key).toNat + (command.puts key && m.holds key).toNat +
        ((command.leave m).holds key).toNat := by
  cases command with
  | get other | keys stem =>
    rw [leave_of_change?_eq_none rfl]
    simp [puts, removes]
  | put other value =>
    have hleave : ((put other value).leave m).get? key =
        if key = other then some value else m.get? key := m.get?_put other value key
    simp only [puts, removes, Memory.holds, hleave]
    by_cases hkey : other = key
    · cases h : m.get? key <;> simp [hkey]
    · simp [hkey, Ne.symm hkey]
  | delete other =>
    have hleave : ((delete other).leave m).get? key =
        if key = other then none else m.get? key := m.get?_erase other key
    simp only [puts, removes, Memory.holds, hleave]
    by_cases hkey : other = key
    · cases h : m.get? key <;> simp [hkey]
    · simp [hkey, Ne.symm hkey]

namespace Clients

variable {ι : Type} [DecidableEq ι] {s : Clients ι} {store : RuleStore}

/-- **The balance of a schedule.**  What is put under a key and what comes too late to be
removed from it are as many as what is removed, what is replaced and what is left. -/
theorem balance (s : Clients ι) (schedule : List ι) (key : String) :
    (s.history schedule).countP (fun e => e.command.puts key) +
        (s.history schedule).countP (Event.late key) + (s.memory.holds key).toNat =
      (s.history schedule).countP (fun e => e.command.removes key) +
        (s.history schedule).countP (Event.replaces key) +
        ((s.after schedule).memory.holds key).toNat := by
  induction schedule generalizing s with
  | nil => rfl
  | cons i rest ih =>
    cases hcommand : (s.pending i).command? with
    | none =>
      rw [history_cons_of_done hcommand, after_cons, step_of_done hcommand]
      exact ih s
    | some command =>
      have hcount : ∀ p : Event ι → Bool, (s.history (i :: rest)).countP p =
          (p ⟨i, command, s.memory, ((s.step i).pending i).result?⟩).toNat +
            ((s.step i).history rest).countP p := by
        intro p
        rw [history_cons_of_command hcommand, List.countP_cons, Nat.add_comm]
        cases p ⟨i, command, s.memory, ((s.step i).pending i).result?⟩ <;> rfl
      have hstep := command.balance s.memory key
      have hrest := ih (s.step i)
      rw [memory_step_of_command hcommand] at hrest
      rw [hcount, hcount, hcount, hcount, after_cons]
      simp only [Event.late, Event.replaces] at hrest ⊢
      omega

/-- A call returns the change that it made with the command that made it. -/
theorem Sound.reply_of_mem (h : s.Sound store) {schedule : List ι} {e : Event ι}
    (he : e ∈ s.history schedule) : e.reply.bind (Report.change? store) = e.command.change? := by
  obtain ⟨t, i, ht, hevent⟩ := h.exists_event? he
  obtain ⟨command, hcommand, rfl⟩ := Option.map_eq_some_iff.mp hevent
  exact (ht.faithful i).told_step hcommand t.memory

/-- What calls report to have saved and deleted is put and removed under its key. -/
theorem Sound.counts (h : s.Sound store) (schedule : List ι) (id : String) :
    (s.history schedule).countP (Event.saved id) =
        (s.history schedule).countP (fun e => e.command.puts (store.key id)) ∧
      (s.history schedule).countP (Event.deleted id) =
        (s.history schedule).countP (fun e => e.command.removes (store.key id)) := by
  refine ⟨List.countP_congr fun e he => ?_, List.countP_congr fun e he => ?_⟩
  · rw [(e.saved_and_deleted_eq store id).1, h.reply_of_mem he, EntryCall.any_puts]
  · rw [(e.saved_and_deleted_eq store id).2, h.reply_of_mem he, EntryCall.any_removes]

/-- **When more is deleted than saved.**  Clients make their calls on an empty memory and are
served in turns.  At every moment the calls that have reported to have deleted the rule with
an id are at most those that have saved it and those that came too late to remove it.  They
are at most those that have saved it if and only if those that came too late are made up for
by those that replaced it, and by the one that is still there. -/
theorem deletions_le_saves_iff (store : RuleStore) (calls : ι → RuleCall) (schedule : List ι)
    (id : String) :
    let s := start store calls .empty
    let history := s.history schedule
    history.countP (Event.deleted id) ≤
        history.countP (Event.saved id) + history.countP (Event.late (store.key id)) ∧
      (history.countP (Event.deleted id) ≤ history.countP (Event.saved id) ↔
        history.countP (Event.late (store.key id)) ≤
          history.countP (Event.replaces (store.key id)) +
            ((s.after schedule).memory.holds (store.key id)).toNat) := by
  intro s history
  have hs : s.Sound store :=
    Sound.of_start (v := ⟨.empty, Memory.empty.get?⟩)
      (RuleStore.represents_of_fresh fun _ _ => rfl) calls
  obtain ⟨hsaved, hdeleted⟩ := hs.counts schedule id
  have hbalance := s.balance schedule (store.key id)
  have hempty : (s.memory.holds (store.key id)).toNat = 0 := rfl
  simp only [history, hsaved, hdeleted]
  omega

/-- Two clients find the rule that was saved, and both report to have deleted it. -/
theorem two_deletions_of_one_rule :
    let rule : Rule := ⟨⟨"r", by decide⟩, ⟨"n", by decide⟩,
      ⟨⟨"t", by decide⟩, ⟨"b", by decide⟩, none, none, none, none⟩, ⟨"u", by decide⟩⟩
    let calls : Nat → RuleCall := fun
      | 0 => .put rule
      | _ => .delete "r"
    let history := (start {} calls .empty).history [0, 1, 2, 1, 2]
    ¬ history.countP (Event.deleted "r") ≤ history.countP (Event.saved "r") := by
  decide +kernel

end Clients
end WebhookRelay
