import WebhookRelay.Store.Statement

/-! # What the statements do

The statements of the rule store, executed on a table: rows of a key and a value,
one row per key, in no particular order.  Selected keys come in ascending order.
-/

namespace WebhookRelay

/-- A table with the rows of a key and a value. -/
structure Table where
  rows : List (String × String)
  deriving DecidableEq, Repr

namespace Table

/-- Inserts a row; on a conflict the row of the key gets the new value. -/
def upsert (t : Table) (key value : String) : Table :=
  if t.rows.any (·.1 = key) then
    ⟨t.rows.map fun row => if row.1 = key then (key, value) else row⟩
  else ⟨t.rows ++ [(key, value)]⟩

/-- A table as a database. -/
def database : Database Table := fun statement t =>
  match statement with
  | .createTable => ([], t)
  | .selectValue key => ((t.rows.filter (·.1 = key)).map Prod.snd, t)
  | .upsert key value => ([], t.upsert key value)
  | .deleteRow key => ([], ⟨t.rows.filter (·.1 ≠ key)⟩)
  | .selectKeys stem =>
    (((t.rows.map Prod.fst).filter (startsWith stem)).mergeSort fun a b => decide (a ≤ b), t)

end Table
end WebhookRelay
