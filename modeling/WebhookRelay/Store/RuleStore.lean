import WebhookRelay.Rule.Codec
import WebhookRelay.Store.Script

/-! # The rule store

Rules are kept in a key-value backend as JSON text.  The key of a rule is the stem
of the store followed by the id of the rule; entries under other keys do not matter
to the store.
-/

namespace WebhookRelay

/-- A rule store, given by the stem of its keys. -/
structure RuleStore where
  stem : String := "rule:"
  deriving DecidableEq, Repr

namespace RuleStore

/-- The key of the rule with an id. -/
def key (store : RuleStore) (id : String) : String := store.stem ++ id

/-- Stores a rule in place of one with the same id. -/
def put (store : RuleStore) (rule : Rule) : Script Unit :=
  .put (store.key rule.id.val) rule.toJson (.done ())

/-- The rule with an id, if there is one. -/
def get (store : RuleStore) (id : String) : Script (Except RuleError (Option Rule)) :=
  .get (store.key id) fun
    | none => .done (.ok none)
    | some text => .done ((Rule.ofJson text).map some)

/-- Deletes the rule with an id: was there one? -/
def delete (store : RuleStore) (id : String) : Script Bool :=
  .get (store.key id) fun
    | none => .done false
    | some _ => .delete (store.key id) (.done true)

/-- The rules under some keys.  An entry that is gone is left out; the first one that
is no rule ends the reading. -/
def read : List String → Script (Except RuleError (List Rule))
  | [] => .done (.ok [])
  | key :: rest =>
    .get key fun
      | none => read rest
      | some text =>
        match Rule.ofJson text with
        | .error e => .done (.error e)
        | .ok rule => (read rest).map fun rules => rules.map (rule :: ·)

/-- All rules, in the order of their keys. -/
def list (store : RuleStore) : Script (Except RuleError (List Rule)) :=
  .keys store.stem read

end RuleStore
end WebhookRelay
