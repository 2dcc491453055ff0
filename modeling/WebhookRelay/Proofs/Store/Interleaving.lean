import WebhookRelay.Proofs.Store.Refinement

/-! # Clients that are served in turns

Clients share a memory.  Each of them makes a call of a rule store, and a call is a script,
which gives one command after the other.  A command is served at once, but between two
commands of a client any number of commands of others may be served.  A schedule says whose
turn it is.  Its history (`Clients.history`) tells for each command who gave it, the memory
that it was given to and what the client returned, if that was its last command.

What a call does to the memory it does with its last command, and what it returns tells so
(`Script.Faithful`).  Hence the memory represents a catalog at every moment of every schedule
(`Clients.Sound.after`), as if the calls had been made one after the other.  A call that is
not interrupted does what it does when it is run (`Clients.exists_after_replicate`).
-/

namespace WebhookRelay

/-! ## Commands -/

namespace EntryCall

/-- The command itself if it changes entries. -/
def change? : EntryCall → Option EntryCall
  | .put key value => some (.put key value)
  | .delete key => some (.delete key)
  | .get _ | .keys _ => none

/-- The memory that a command leaves. -/
def leave (command : EntryCall) (m : Memory) : Memory := (command.script.run Memory.backend m).2

/-- What is no change leaves the memory as it is. -/
theorem leave_of_change?_eq_none {command : EntryCall} (h : command.change? = none) (m : Memory) :
    command.leave m = m := by
  cases command with
  | get key | keys stem => rfl
  | put key value | delete key => cases h

theorem eq_of_change?_eq_some {command change : EntryCall} (h : command.change? = some change) :
    command = change := by
  cases command <;> cases h <;> rfl

end EntryCall

namespace Script

variable {α β γ σ : Type}

/-- The command that a script gives next, if it is not done. -/
def command? : Script α → Option EntryCall
  | done _ => none
  | get key _ => some (.get key)
  | put key value _ => some (.put key value)
  | delete key _ => some (.delete key)
  | keys stem _ => some (.keys stem)

/-- The result of a script that is done. -/
def result? : Script α → Option α
  | done a => some a
  | get _ _ | put _ _ _ | delete _ _ | keys _ _ => none

/-- Gives the next command of a script, which goes on with the answer. -/
def step (backend : Backend σ) : Script α → σ → Script α × σ
  | done a, s => (done a, s)
  | get key next, s =>
    let (value, s) := backend.get key s
    (next value, s)
  | put key value next, s => (next, backend.put key value s)
  | delete key next, s => (next, backend.delete key s)
  | keys stem next, s =>
    let (found, s) := backend.keys stem s
    (next found, s)

/-- A step leaves what its command leaves. -/
theorem step_snd {script : Script α} {command : EntryCall} (h : script.command? = some command)
    (m : Memory) : (script.step Memory.backend m).2 = command.leave m := by
  cases script <;> cases h <;> rfl

theorem map_map (script : Script α) (f : α → β) (g : β → γ) :
    (script.map f).map g = script.map fun a => g (f a) := by
  simp only [map]
  induction script with
  | done a => rfl
  | get key next ih => simp only [bind, ih]
  | put key value next ih => simp only [bind, ih]
  | delete key next ih => simp only [bind, ih]
  | keys stem next ih => simp only [bind, ih]

end Script

/-! ## Reports -/

/-- A call of a rule store and what it returned. -/
abbrev Report := (call : RuleCall) × call.Reply

/-- The change to the entries of a store that a report tells of. -/
def Report.change? (store : RuleStore) : Report → Option EntryCall
  | ⟨.put rule, _⟩ => some (.put (store.key rule.id.val) rule.toJson)
  | ⟨.delete id, true⟩ => some (.delete (store.key id))
  | ⟨.delete _, false⟩ | ⟨.get _, _⟩ | ⟨.list, _⟩ => none

/-- Only putting a rule and deleting one are told as changes. -/
theorem Report.change?_eq_some {store : RuleStore} {report : Report} {command : EntryCall}
    (h : report.change? store = some command) :
    (∃ rule, report = ⟨.put rule, ()⟩ ∧ command = .put (store.key rule.id.val) rule.toJson) ∨
      ∃ id, report = ⟨.delete id, true⟩ ∧ command = .delete (store.key id) := by
  obtain ⟨call, reply⟩ := report
  cases call with
  | put rule =>
    cases h
    exact Or.inl ⟨rule, rfl, rfl⟩
  | delete id =>
    cases reply <;> cases h
    exact Or.inr ⟨id, rfl, rfl⟩
  | get id | list => cases h

/-- The script of a call that reports. -/
def RuleStore.task (store : RuleStore) (call : RuleCall) : Script Report :=
  (call.script store).map fun reply => ⟨call, reply⟩

namespace Script

/-- The change that a script tells of when it is done. -/
def told (store : RuleStore) (script : Script Report) : Option EntryCall :=
  script.result?.bind (Report.change? store)

/-- A script tells of the changes that it makes: whatever the answer to a command is, the
command changes entries if and only if the script is done with it and tells of that change. -/
def Faithful (store : RuleStore) : Script Report → Prop
  | done _ => True
  | get _ next => ∀ value, (next value).Faithful store ∧ (next value).told store = none
  | put key value next => next.Faithful store ∧ next.told store = some (.put key value)
  | delete key next => next.Faithful store ∧ next.told store = some (.delete key)
  | keys _ next => ∀ found, (next found).Faithful store ∧ (next found).told store = none

variable {store : RuleStore} {script : Script Report}

theorem Faithful.step (h : script.Faithful store) (m : Memory) :
    (script.step Memory.backend m).1.Faithful store := by
  cases script with
  | done r => trivial
  | get key next => exact (h _).1
  | put key value next => exact h.1
  | delete key next => exact h.1
  | keys stem next => exact (h _).1

theorem Faithful.told_step (h : script.Faithful store) {command : EntryCall}
    (hcommand : script.command? = some command) (m : Memory) :
    (script.step Memory.backend m).1.told store = command.change? := by
  cases script <;> cases hcommand
  · exact (h _).2
  · exact h.2
  · exact h.2
  · exact (h _).2

end Script

namespace RuleStore

variable {store : RuleStore}

/-- Reading changes nothing, and a list tells of no change. -/
theorem faithful_read (keys : List String)
    (f : Except RuleError (List Rule) → Except RuleError (List Rule)) :
    ((read keys).map fun rules => (⟨.list, f rules⟩ : Report)).Faithful store ∧
      ((read keys).map fun rules => (⟨.list, f rules⟩ : Report)).told store = none := by
  induction keys generalizing f with
  | nil => exact ⟨trivial, rfl⟩
  | cons key keys ih =>
    refine ⟨?_, rfl⟩
    intro value
    cases value with
    | none => exact ih f
    | some text =>
      cases hrule : Rule.ofJson text with
      | error e =>
        simp only [hrule]
        exact ⟨trivial, rfl⟩
      | ok rule =>
        simp only [hrule]
        rw [← Script.map, Script.map_map]
        exact ih _

/-- A command that is told as a change, or is none, keeps a memory representing a catalog. -/
theorem Represents.leave {m : Memory} {v : View} (h : store.Represents m v)
    {script : Script Report} {command : EntryCall} (htold : script.told store = command.change?) :
    ∃ w : View, store.Represents (command.leave m) w := by
  cases hchange : command.change? with
  | none => exact ⟨v, by rwa [EntryCall.leave_of_change?_eq_none hchange]⟩
  | some change =>
    obtain ⟨report, -, hreport⟩ := Option.bind_eq_some_iff.mp (htold.trans hchange)
    rw [EntryCall.eq_of_change?_eq_some hchange]
    rcases Report.change?_eq_some hreport with ⟨rule, -, rfl⟩ | ⟨id, -, rfl⟩
    · exact ⟨_, h.put rule⟩
    · exact ⟨_, h.erase id⟩

/-- **Each call tells of the changes that it makes.** -/
theorem faithful_task (store : RuleStore) (call : RuleCall) : (store.task call).Faithful store := by
  cases call with
  | put rule => exact ⟨trivial, rfl⟩
  | list => exact fun found => faithful_read found _
  | get id =>
    intro value
    cases value <;> exact ⟨trivial, rfl⟩
  | delete id =>
    intro value
    cases value with
    | none => exact ⟨trivial, rfl⟩
    | some text => exact ⟨⟨trivial, rfl⟩, rfl⟩

end RuleStore

/-! ## Turns -/

/-- Clients of a memory, each with what is left of its call. -/
structure Clients (ι : Type) where
  memory : Memory
  pending : ι → Script Report

/-- A command that was served. -/
structure Event (ι : Type) where
  client : ι
  command : EntryCall
  /-- The memory that the command was given to. -/
  before : Memory
  /-- What the call of the client returned, if this was its last command. -/
  reply : Option Report

namespace Clients

variable {ι : Type} [DecidableEq ι]

/-- Clients that are about to make their calls. -/
def start (store : RuleStore) (calls : ι → RuleCall) (m : Memory) : Clients ι :=
  ⟨m, fun i => store.task (calls i)⟩

/-- It is the turn of a client. -/
def step (s : Clients ι) (i : ι) : Clients ι :=
  let (script, memory) := (s.pending i).step Memory.backend s.memory
  ⟨memory, fun j => if j = i then script else s.pending j⟩

/-- What happens when it is the turn of a client: nothing if its call is done. -/
def event? (s : Clients ι) (i : ι) : Option (Event ι) :=
  (s.pending i).command?.map fun command =>
    ⟨i, command, s.memory, ((s.pending i).step Memory.backend s.memory).1.result?⟩

/-- The clients after a schedule. -/
def after (schedule : List ι) (s : Clients ι) : Clients ι := schedule.foldl step s

/-- The commands that are served in a schedule, in order. -/
def history (s : Clients ι) : List ι → List (Event ι)
  | [] => []
  | i :: rest => (s.event? i).toList ++ (s.step i).history rest

variable {s : Clients ι} {i j : ι} {command : EntryCall}

@[simp] theorem pending_step_self (s : Clients ι) (i : ι) :
    (s.step i).pending i = ((s.pending i).step Memory.backend s.memory).1 := if_pos rfl

theorem pending_step_of_ne (h : j ≠ i) : (s.step i).pending j = s.pending j := if_neg h

theorem memory_step_of_command (h : (s.pending i).command? = some command) :
    (s.step i).memory = command.leave s.memory := Script.step_snd h s.memory

/-- The turn of a client whose call is done changes nothing. -/
theorem step_of_done (h : (s.pending i).command? = none) : s.step i = s := by
  cases hscript : s.pending i with
  | done r =>
    have hpending : (s.step i).pending = s.pending := by
      funext j
      by_cases hj : j = i
      · rw [hj, pending_step_self, hscript]
        rfl
      · exact pending_step_of_ne hj
    have hmemory : (s.step i).memory = s.memory := by
      show ((s.pending i).step Memory.backend s.memory).2 = s.memory
      rw [hscript]
      rfl
    show (⟨(s.step i).memory, (s.step i).pending⟩ : Clients ι) = s
    rw [hpending, hmemory]
  | get key next | put key value next | delete key next | keys stem next =>
    rw [hscript] at h
    cases h

theorem after_cons (i : ι) (rest : List ι) (s : Clients ι) :
    s.after (i :: rest) = (s.step i).after rest := rfl

theorem history_cons_of_done (h : (s.pending i).command? = none) (rest : List ι) :
    s.history (i :: rest) = s.history rest := by
  rw [history, event?, h, step_of_done h]
  rfl

theorem history_cons_of_command {command : EntryCall} (h : (s.pending i).command? = some command)
    (rest : List ι) :
    s.history (i :: rest) = ⟨i, command, s.memory, ((s.step i).pending i).result?⟩ ::
      (s.step i).history rest := by
  rw [history, event?, h, pending_step_self]
  rfl

/-- A client whose turn it never is goes on as it was. -/
theorem pending_after_of_not_mem {schedule : List ι} (h : i ∉ schedule) :
    (s.after schedule).pending i = s.pending i := by
  induction schedule generalizing s with
  | nil => rfl
  | cons j rest ih =>
    obtain ⟨hij, hrest⟩ := List.ne_and_not_mem_of_not_mem_cons h
    rw [after_cons, ih hrest, pending_step_of_ne hij]

/-- **Turns without interruption run the call.** -/
theorem exists_after_replicate (s : Clients ι) (i : ι) :
    ∃ n, let run := (s.pending i).run Memory.backend s.memory
      (s.after (List.replicate n i)).pending i = .done run.1 ∧
        (s.after (List.replicate n i)).memory = run.2 := by
  -- on what is left of the call: a turn takes its first command
  induction hscript : s.pending i generalizing s with
  | done r => exact ⟨0, hscript, rfl⟩
  | get key next ih | keys stem next ih =>
    have hpending := pending_step_self s i
    have hmemory : (s.step i).memory = ((s.pending i).step Memory.backend s.memory).2 := rfl
    rw [hscript] at hpending hmemory
    obtain ⟨n, hdone, hleft⟩ := ih _ (s.step i) hpending
    rw [hmemory] at hdone hleft
    exact ⟨n + 1, hdone, hleft⟩
  | put key value next ih | delete key next ih =>
    have hpending := pending_step_self s i
    have hmemory : (s.step i).memory = ((s.pending i).step Memory.backend s.memory).2 := rfl
    rw [hscript] at hpending hmemory
    obtain ⟨n, hdone, hleft⟩ := ih (s.step i) hpending
    rw [hmemory] at hdone hleft
    exact ⟨n + 1, hdone, hleft⟩

/-! ## What holds at every moment -/

/-- The calls tell of the changes that they make, and the memory represents a catalog. -/
structure Sound (store : RuleStore) (s : Clients ι) : Prop where
  faithful : ∀ i, (s.pending i).Faithful store
  represents : ∃ v : View, store.Represents s.memory v

variable {store : RuleStore}

omit [DecidableEq ι] in
/-- Clients that are about to make their calls are sound. -/
theorem Sound.of_start {m : Memory} {v : View} (h : store.Represents m v) (calls : ι → RuleCall) :
    (start store calls m).Sound store where
  faithful i := store.faithful_task (calls i)
  represents := ⟨v, h⟩

/-- **A turn keeps the memory representing a catalog.** -/
theorem Sound.step (h : s.Sound store) (i : ι) : (s.step i).Sound store where
  faithful j := by
    by_cases hj : j = i
    · rw [hj, pending_step_self]
      exact (h.faithful i).step s.memory
    · rw [pending_step_of_ne hj]
      exact h.faithful j
  represents := by
    cases hcommand : (s.pending i).command? with
    | none =>
      rw [step_of_done hcommand]
      exact h.represents
    | some command =>
      obtain ⟨v, hv⟩ := h.represents
      rw [memory_step_of_command hcommand]
      exact hv.leave ((h.faithful i).told_step hcommand s.memory)

theorem Sound.after (h : s.Sound store) (schedule : List ι) : (s.after schedule).Sound store := by
  induction schedule generalizing s with
  | nil => exact h
  | cons i rest ih => exact ih (h.step i)

/-- Every command of a schedule is served by sound clients. -/
theorem Sound.exists_event? (h : s.Sound store) {schedule : List ι} {e : Event ι}
    (he : e ∈ s.history schedule) :
    ∃ (t : Clients ι) (i : ι), t.Sound store ∧ t.event? i = some e := by
  induction schedule generalizing s with
  | nil => exact absurd he List.not_mem_nil
  | cons i rest ih =>
    rw [history] at he
    rcases List.mem_append.mp he with he | he
    · exact ⟨s, i, h, Option.mem_toList.mp he⟩
    · exact ih (h.step i) he

end Clients
end WebhookRelay
