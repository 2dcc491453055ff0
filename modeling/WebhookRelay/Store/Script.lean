/-! # Scripts for key-value backends

A backend holds texts under keys and offers four commands: get, put, delete, and
the list of the keys that start with a stem.  A script is what a client of a
backend does: it gives one command after the other, each of which may depend on
the answers to those before, and ends with a result.

A backend over states of some kind says what each command answers and what state it
leaves; running a script on it does the commands in order.
-/

namespace WebhookRelay

universe u v

/-- Does a key start with a stem? -/
def startsWith (stem key : String) : Bool := stem.toList.isPrefixOf key.toList

/-- A client of a key-value backend that ends with a result. -/
inductive Script (α : Type u) where
  | done (result : α)
  | get (key : String) (next : Option String → Script α)
  | put (key value : String) (next : Script α)
  | delete (key : String) (next : Script α)
  | keys (stem : String) (next : List String → Script α)

namespace Script

variable {α : Type u} {β : Type v}

/-- Goes on with what the result of a script calls for. -/
def bind : Script α → (α → Script β) → Script β
  | done a, f => f a
  | get key next, f => get key fun value => (next value).bind f
  | put key value next, f => put key value (next.bind f)
  | delete key next, f => delete key (next.bind f)
  | keys stem next, f => keys stem fun found => (next found).bind f

/-- Changes the result of a script. -/
def map (f : α → β) (script : Script α) : Script β := script.bind fun a => done (f a)

theorem bind_done (script : Script α) : script.bind done = script := by
  induction script with
  | done a => rfl
  | get key next ih => simp [bind, ih]
  | put key value next ih => simp [bind, ih]
  | delete key next ih => simp [bind, ih]
  | keys stem next ih => simp [bind, ih]

end Script

/-- A key-value backend over states of a kind. -/
structure Backend (σ : Type v) where
  get : String → σ → Option String × σ
  put : String → String → σ → σ
  delete : String → σ → σ
  keys : String → σ → List String × σ

namespace Script

variable {α : Type u} {β : Type u} {σ : Type v}

/-- Runs a script: its result and the state it leaves. -/
def run (backend : Backend σ) : Script α → σ → α × σ
  | done a, s => (a, s)
  | get key next, s =>
    let (value, s) := backend.get key s
    (next value).run backend s
  | put key value next, s => next.run backend (backend.put key value s)
  | delete key next, s => next.run backend (backend.delete key s)
  | keys stem next, s =>
    let (found, s) := backend.keys stem s
    (next found).run backend s

/-- A script that goes on runs as its parts do one after the other. -/
theorem run_bind (backend : Backend σ) (script : Script α) (f : α → Script β) (s : σ) :
    (script.bind f).run backend s =
      (f (script.run backend s).1).run backend (script.run backend s).2 := by
  induction script generalizing s with
  | done a => rfl
  | get key next ih => simp [bind, run, ih]
  | put key value next ih => simp [bind, run, ih]
  | delete key next ih => simp [bind, run, ih]
  | keys stem next ih => simp [bind, run, ih]

/-- Changing the result of a script has no part in what it leaves. -/
theorem run_map (backend : Backend σ) (f : α → β) (script : Script α) (s : σ) :
    (script.map f).run backend s = (f (script.run backend s).1, (script.run backend s).2) := by
  rw [map, run_bind]
  rfl

end Script
end WebhookRelay
