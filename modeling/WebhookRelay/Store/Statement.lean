import WebhookRelay.Store.Script

/-! # Entries in a table

A database keeps the entries in a table with a row per key.  Each command of a
backend is one statement, given on a connection of its own.  The text of a
statement is fixed; keys and values are only ever among its arguments.
-/

namespace WebhookRelay

/-- The statements that are given to the database. -/
inductive Statement where
  | createTable
  | selectValue (key : String)
  /-- Inserts a row, or gives the row of the key a new value. -/
  | upsert (key value : String)
  | deleteRow (key : String)
  | selectKeys (stem : String)
  deriving DecidableEq, Repr

namespace Statement

/-- The text of a statement. -/
def sql : Statement → String
  | createTable =>
    "CREATE TABLE IF NOT EXISTS kv_store ( key TEXT PRIMARY KEY, value TEXT NOT NULL, "
      ++ "updated_at TIMESTAMPTZ NOT NULL DEFAULT now() )"
  | selectValue _ => "SELECT value FROM kv_store WHERE key=%s"
  | upsert _ _ =>
    "INSERT INTO kv_store(key, value, updated_at) VALUES (%s,%s,now()) "
      ++ "ON CONFLICT (key) DO UPDATE SET value=EXCLUDED.value, updated_at=now()"
  | deleteRow _ => "DELETE FROM kv_store WHERE key=%s"
  | selectKeys _ => "SELECT key FROM kv_store WHERE starts_with(key, %s) ORDER BY key"

/-- The arguments of a statement, if it takes any. -/
def arguments : Statement → Option (List String)
  | createTable => none
  | selectValue key => some [key]
  | upsert key value => some [key, value]
  | deleteRow key => some [key]
  | selectKeys stem => some [stem]

end Statement

/-- A database over states of a kind: the single column of the rows that a statement
selects, and the state it leaves. -/
abbrev Database (σ : Type) := Statement → σ → List String × σ

namespace Database

/-- What a client does with a database. -/
inductive Call where
  | connect (url : String)
  | execute (statement : Statement)
  deriving DecidableEq, Repr

/-- The state of a database together with the calls made so far, oldest first. -/
structure Session (σ : Type) where
  state : σ
  calls : List Call

variable {σ : Type}

/-- Connects and executes a statement. -/
def execute (db : Database σ) (url : String) (statement : Statement) (s : Session σ) :
    List String × Session σ :=
  let (rows, state) := db statement s.state
  (rows, ⟨state, s.calls ++ [.connect url, .execute statement]⟩)

/-- Makes sure that the table exists. -/
def ensureTable (db : Database σ) (url : String) (s : Session σ) : Session σ :=
  (db.execute url .createTable s).2

/-- The table of a database as a backend. -/
def backend (db : Database σ) (url : String) : Backend (Session σ) where
  get key s :=
    let (rows, s) := db.execute url (.selectValue key) s
    (rows.head?, s)
  put key value s := (db.execute url (.upsert key value) s).2
  delete key s := (db.execute url (.deleteRow key) s).2
  keys stem s := db.execute url (.selectKeys stem) s

/-- A database that always finds the same: a value under every key, or none, and
the same keys for every stem. -/
def canned (value : Option String) (keys : List String) : Database Unit := fun statement _ =>
  match statement with
  | .selectValue _ => (value.toList, ())
  | .selectKeys _ => (keys, ())
  | .createTable | .upsert _ _ | .deleteRow _ => ([], ())

end Database
end WebhookRelay
