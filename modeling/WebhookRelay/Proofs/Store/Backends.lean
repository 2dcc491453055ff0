import WebhookRelay.Proofs.Store.Refinement
import WebhookRelay.Store.Table

/-! # A table in the place of a memory

A table and a memory with the same entries serve the same answers to the same commands and
are left with the same entries again (`Table.simulates`).  What holds of one command holds of
any script, as a script depends on nothing but the answers (`Backend.Simulates.run`).  So a
client does not notice which of the two it uses (`Table.serves_as_memory`).

What the database sees of it is one connection and one statement for each command.  The text
of the statement is fixed by the kind of the command, and what the command is about is only
among the arguments.
-/

namespace WebhookRelay

universe u v w

/-! ## Backends that answer alike -/

/-- Related states of two backends give the same answers, and commands keep them related. -/
structure Backend.Simulates {σ : Type v} {τ : Type w} (R : σ → τ → Prop) (a : Backend σ)
    (b : Backend τ) : Prop where
  get : ∀ {s t}, R s t → ∀ key,
    (a.get key s).1 = (b.get key t).1 ∧ R (a.get key s).2 (b.get key t).2
  put : ∀ {s t}, R s t → ∀ key value, R (a.put key value s) (b.put key value t)
  delete : ∀ {s t}, R s t → ∀ key, R (a.delete key s) (b.delete key t)
  keys : ∀ {s t}, R s t → ∀ stem,
    (a.keys stem s).1 = (b.keys stem t).1 ∧ R (a.keys stem s).2 (b.keys stem t).2

/-- The commands that a script gives when it is run. -/
def Script.commands {α : Type u} {σ : Type v} (backend : Backend σ) :
    Script α → σ → List EntryCall
  | done _, _ => []
  | get key next, s =>
    let (value, s) := backend.get key s
    .get key :: (next value).commands backend s
  | put key value next, s => .put key value :: next.commands backend (backend.put key value s)
  | delete key next, s => .delete key :: next.commands backend (backend.delete key s)
  | keys stem next, s =>
    let (found, s) := backend.keys stem s
    .keys stem :: (next found).commands backend s

/-- **A script has the same result on backends that answer alike**, and gives the same
commands. -/
theorem Backend.Simulates.run {α : Type u} {σ : Type v} {τ : Type w} {R : σ → τ → Prop}
    {a : Backend σ} {b : Backend τ} (h : a.Simulates R b) (script : Script α) {s : σ} {t : τ}
    (hst : R s t) :
    (script.run a s).1 = (script.run b t).1 ∧ R (script.run a s).2 (script.run b t).2 ∧
      script.commands a s = script.commands b t := by
  induction script generalizing s t with
  | done result => exact ⟨rfl, hst, rfl⟩
  | get key next ih =>
    obtain ⟨hvalue, hnext⟩ := h.get hst key
    obtain ⟨hresult, hleft, hcommands⟩ := ih (a.get key s).1 hnext
    simp only [Script.run, Script.commands]
    rw [← hvalue]
    exact ⟨hresult, hleft, congrArg _ hcommands⟩
  | put key value next ih =>
    obtain ⟨hresult, hleft, hcommands⟩ := ih (h.put hst key value)
    exact ⟨hresult, hleft, congrArg (EntryCall.put key value :: ·) hcommands⟩
  | delete key next ih =>
    obtain ⟨hresult, hleft, hcommands⟩ := ih (h.delete hst key)
    exact ⟨hresult, hleft, congrArg (EntryCall.delete key :: ·) hcommands⟩
  | keys stem next ih =>
    obtain ⟨hfound, hnext⟩ := h.keys hst stem
    obtain ⟨hresult, hleft, hcommands⟩ := ih (a.keys stem s).1 hnext
    simp only [Script.run, Script.commands]
    rw [← hfound]
    exact ⟨hresult, hleft, congrArg _ hcommands⟩

/-! ## Tables -/

namespace Table

/-- A table has a row for each entry of a memory, and one row only. -/
structure Holds (t : Table) (m : Memory) : Prop where
  nodup : (t.rows.map Prod.fst).Nodup
  values : ∀ key, t.rows.lookup key = m.get? key

variable {t : Table} {m : Memory}

theorem holds_empty : (⟨[]⟩ : Table).Holds .empty := ⟨.nil, fun _ => rfl⟩

theorem head?_values (rows : List (String × String)) (key : String) :
    ((rows.filter (·.1 = key)).map Prod.snd).head? = rows.lookup key := by
  induction rows with
  | nil => rfl
  | cons row rest ih =>
    obtain ⟨k, value⟩ := row
    rw [Entries.lookup_cons_eq_ite]
    by_cases hk : k = key
    · rw [List.filter_cons_of_pos (by simpa using hk), if_pos hk.symm]
      rfl
    · rw [List.filter_cons_of_neg (by simpa using hk), if_neg (Ne.symm hk), ih]

theorem lookup_map_update (key value other : String) (rows : List (String × String)) :
    (rows.map fun row => if row.1 = key then (key, value) else row).lookup other =
      if other = key then (rows.lookup key).map fun _ => value else rows.lookup other := by
  induction rows with
  | nil => simp
  | cons row rest ih =>
    obtain ⟨k, old⟩ := row
    rw [List.map_cons]
    by_cases hk : k = key
    · subst hk
      by_cases hother : other = k <;> simp [Entries.lookup_cons_eq_ite, ih, hother]
    · rw [if_neg hk]
      by_cases hother : other = k
      · subst hother
        simp [hk]
      · simp [Entries.lookup_cons_eq_ite, ih, hother, Ne.symm hk]

/-- A row is inserted at the end, unless there is one with its key. -/
theorem keys_upsert (t : Table) (key value : String) :
    (t.upsert key value).rows.map Prod.fst =
      if key ∈ t.rows.map Prod.fst then t.rows.map Prod.fst else t.rows.map Prod.fst ++ [key] := by
  have hany : (t.rows.any (·.1 = key) = true) ↔ key ∈ t.rows.map Prod.fst := by simp
  rw [upsert]
  by_cases hmem : key ∈ t.rows.map Prod.fst
  · rw [if_pos (hany.mpr hmem), if_pos hmem, List.map_map]
    refine List.map_congr_left fun row _ => ?_
    by_cases hrow : row.1 = key <;> simp [hrow]
  · rw [if_neg (mt hany.mp hmem), if_neg hmem, List.map_append]
    rfl

theorem lookup_upsert (t : Table) (key value other : String) :
    (t.upsert key value).rows.lookup other =
      if other = key then some value else t.rows.lookup other := by
  rw [upsert]
  split
  · rename_i hany
    have hsome : (t.rows.lookup key).isSome = true :=
      (Memory.mem_keys_iff_isSome_lookup key t.rows).mp (by simpa using hany)
    obtain ⟨old, hold⟩ := Option.isSome_iff_exists.mp hsome
    rw [lookup_map_update, hold]
    rfl
  · rename_i hany
    have hnone : t.rows.lookup key = none := by
      rw [← Option.not_isSome_iff_eq_none, ← Memory.mem_keys_iff_isSome_lookup]
      simpa using hany
    rw [List.lookup_append, Entries.lookup_cons_eq_ite]
    by_cases hother : other = key
    · simp [hother, hnone]
    · simp [hother]

theorem Holds.upsert (h : t.Holds m) (key value : String) :
    (t.upsert key value).Holds (m.put key value) where
  nodup := by
    rw [keys_upsert]
    split
    · exact h.nodup
    · rename_i hnot
      rw [List.nodup_append]
      refine ⟨h.nodup, by simp, ?_⟩
      rintro a ha b hb rfl
      exact hnot (List.mem_singleton.mp hb ▸ ha)
  values other := by rw [lookup_upsert, Memory.get?_put, h.values]

theorem Holds.deleteRow (h : t.Holds m) (key : String) :
    (⟨t.rows.filter (·.1 ≠ key)⟩ : Table).Holds (m.erase key) where
  nodup := h.nodup.sublist (List.filter_sublist.map Prod.fst)
  values other := by rw [Memory.lookup_filter_ne, Memory.get?_erase, h.values]

/-- The selected keys are the listed ones, in the same order. -/
theorem Holds.selectKeys (h : t.Holds m) (stem : String) :
    ((t.rows.map Prod.fst).filter (startsWith stem)).mergeSort (fun a b => decide (a ≤ b)) =
      m.keys stem := by
  have hnodup : (m.keys stem).Nodup := by
    refine (Memory.pairwise_keys m stem).imp ?_
    rintro key _ hlt rfl
    exact String.lt_irrefl key hlt
  have hperm : ((t.rows.map Prod.fst).filter (startsWith stem)).Perm (m.keys stem) := by
    refine (List.perm_ext_iff_of_nodup (h.nodup.filter _) hnodup).mpr fun key => ?_
    rw [List.mem_filter, Memory.mem_keys_iff_isSome_lookup, h.values, Memory.mem_keys, and_comm]
  have hsorted : (((t.rows.map Prod.fst).filter (startsWith stem)).mergeSort
      fun a b => decide (a ≤ b)).Pairwise (· ≤ ·) := by
    refine (List.pairwise_mergeSort ?_ ?_ _).imp of_decide_eq_true
    · intro a b c hab hbc
      exact decide_eq_true (String.le_trans (of_decide_eq_true hab) (of_decide_eq_true hbc))
    · intro a b
      simpa using String.le_total a b
  refine ((List.mergeSort_perm _ _).trans hperm).eq_of_pairwise
    (fun a b _ _ hab hba => String.le_antisymm hab hba) hsorted ?_
  exact (Memory.pairwise_keys m stem).imp fun hlt => String.not_lt.mp (String.lt_asymm hlt)

/-- **A table and a memory with the same entries answer alike.** -/
theorem simulates (url : String) :
    (database.backend url).Simulates (fun session m => session.state.Holds m)
      Memory.backend where
  get h key := ⟨(head?_values _ key).trans (h.values key), h⟩
  put h key value := h.upsert key value
  delete h key := h.deleteRow key
  keys h stem := ⟨h.selectKeys stem, h⟩

end Table

/-! ## What a database is asked -/

namespace EntryCall

/-- The statement of a command. -/
def statement : EntryCall → Statement
  | .get key => .selectValue key
  | .put key value => .upsert key value
  | .delete key => .deleteRow key
  | .keys stem => .selectKeys stem

/-- The kinds of commands. -/
inductive Kind where
  | get
  | put
  | delete
  | keys

/-- The kind of a command. -/
def kind : EntryCall → Kind
  | .get _ => .get
  | .put _ _ => .put
  | .delete _ => .delete
  | .keys _ => .keys

/-- The texts that a command is about. -/
def texts : EntryCall → List String
  | .get key => [key]
  | .put key value => [key, value]
  | .delete key => [key]
  | .keys stem => [stem]

/-- What a database sees of a command. -/
def exchange (url : String) (command : EntryCall) : List Database.Call :=
  [.connect url, .execute command.statement]

end EntryCall

namespace Database

variable {σ : Type}

/-- **Each command of a script is one connection and one statement.** -/
theorem calls_run {α : Type u} (db : Database σ) (url : String) (script : Script α)
    (s : Session σ) :
    (script.run (db.backend url) s).2.calls =
      s.calls ++ (script.commands (db.backend url) s).flatMap (EntryCall.exchange url) := by
  induction script generalizing s with
  | done result => exact (List.append_nil _).symm
  | get key next ih | put key value next ih | delete key next ih | keys stem next ih =>
    simp only [Script.run, Script.commands, List.flatMap_cons]
    rw [ih, ← List.append_assoc]
    rfl

end Database

/-! ## Calls with their answers -/

namespace EntryCall

/-- What a command answers. -/
abbrev Reply : EntryCall → Type
  | .get _ => Option String
  | .put _ _ | .delete _ => Unit
  | .keys _ => List String

/-- Gives a command and returns what it answers. -/
def ask : (command : EntryCall) → Script command.Reply
  | .get key => .get key .done
  | .put key value => .put key value (.done ())
  | .delete key => .delete key (.done ())
  | .keys stem => .keys stem .done

end EntryCall

namespace Call

/-- What comes back to who calls. -/
abbrev Reply : Call → Type
  | .rule call => call.Reply
  | .entry call => call.Reply

/-- What is done for a call of a client of a rule store and of its backend. -/
def ask (store : RuleStore) : (call : Call) → Script call.Reply
  | .rule call => call.script store
  | .entry call => call.ask

end Call

namespace RuleStore

/-- Serves calls one after the other: each of them with what came back. -/
def serve (store : RuleStore) : List Call → Script (List ((call : Call) × call.Reply))
  | [] => .done []
  | call :: rest => (call.ask store).bind fun reply => (store.serve rest).map (⟨call, reply⟩ :: ·)

/-- Serving calls leaves the memory that they leave one after the other. -/
theorem run_serve_snd (store : RuleStore) (calls : List Call) (m : Memory) :
    ((store.serve calls).run Memory.backend m).2 = store.after calls m := by
  induction calls generalizing m with
  | nil => rfl
  | cons call rest ih =>
    have hcall : ((call.ask store).run Memory.backend m).2 = store.step m call := by
      cases call with
      | rule call => rfl
      | entry call => cases call <;> rfl
    rw [serve, Script.run_bind, Script.run_map, hcall]
    exact ih (store.step m call)

end RuleStore

namespace Table

/-- **A table serves as a memory does.**  When they hold the same entries, whatever these
are, a client of a rule store and of its backend gets the same from both, be it rules, texts
or errors, and leaves them with the same entries, which are those that the calls leave one
after the other.

* The database sees a connection and a statement for each command that the client gives, be
  it by itself or within a call of the store.
* Commands of a kind have one statement text, and the texts that they are about are its
  arguments. -/
theorem serves_as_memory (url : String) (store : RuleStore) {t : Table} {m : Memory}
    (h : t.Holds m) (calls : List Call) :
    let onTable := (store.serve calls).run (database.backend url) ⟨t, []⟩
    let onMemory := (store.serve calls).run Memory.backend m
    onTable.1 = onMemory.1 ∧
    onTable.2.state.Holds onMemory.2 ∧ onMemory.2 = store.after calls m ∧
    onTable.2.calls =
      ((store.serve calls).commands Memory.backend m).flatMap (EntryCall.exchange url) ∧
    (∀ (command : EntryCall) (session : Database.Session Table),
      (command.ask.run (database.backend url) session).2.calls =
        session.calls ++ [.connect url, .execute command.statement]) ∧
    (∀ command other : EntryCall, command.kind = other.kind →
      command.statement.sql = other.statement.sql) ∧
    ∀ command : EntryCall, command.statement.arguments = some command.texts := by
  intro onTable onMemory
  obtain ⟨hanswers, hleft, hcommands⟩ :=
    (simulates url).run (store.serve calls) (s := ⟨t, []⟩) (t := m) h
  refine ⟨hanswers, hleft, store.run_serve_snd calls m, ?_, ?_, ?_, ?_⟩
  · exact (database.calls_run url (store.serve calls) ⟨t, []⟩).trans (by rw [hcommands]; rfl)
  · intro command session
    cases command <;> rfl
  · intro command other hkind
    cases command <;> cases other <;> first | rfl | cases hkind
  · intro command
    cases command <;> rfl

/-- The stem has a wildcard, and the only text under it is no rule.  A list fails, the rule
is deleted, and then there are none. -/
theorem serves_as_memory_strays :
    let store : RuleStore := ⟨"r%:"⟩
    let t := ((⟨[]⟩ : Table).upsert "rule:" "").upsert "r%:b" "\x7b"
    let m := (Memory.empty.put "rule:" "").put "r%:b" "\x7b"
    let calls : List Call := [.rule .list, .rule (.delete "b"), .entry (.keys "r%:")]
    let onTable := (store.serve calls).run (database.backend "db") ⟨t, []⟩
    let onMemory := (store.serve calls).run Memory.backend m
    t.Holds m ∧ onTable.1 = onMemory.1 ∧ onTable.2.state.Holds onMemory.2 ∧
      onTable.2.calls =
        [.connect "db", .execute (.selectKeys "r%:"),
          .connect "db", .execute (.selectValue "r%:b"),
          .connect "db", .execute (.selectValue "r%:b"),
          .connect "db", .execute (.deleteRow "r%:b"),
          .connect "db", .execute (.selectKeys "r%:")] := by
  intro store t m calls onTable onMemory
  have hholds : t.Holds m := (holds_empty.upsert _ _).upsert _ _
  have hcommands : ((store.serve calls).commands Memory.backend m).flatMap
      (EntryCall.exchange "db") =
        [.connect "db", .execute (.selectKeys "r%:"),
          .connect "db", .execute (.selectValue "r%:b"),
          .connect "db", .execute (.selectValue "r%:b"),
          .connect "db", .execute (.deleteRow "r%:b"),
          .connect "db", .execute (.selectKeys "r%:")] := by decide +kernel
  obtain ⟨hanswers, hleft, -, hcalls, -⟩ := serves_as_memory "db" store hholds calls
  exact ⟨hholds, hanswers, hleft, hcalls.trans hcommands⟩

end Table
end WebhookRelay
