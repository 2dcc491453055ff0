import WebhookRelay.Proofs.Store.Interleaving

/-! # Lists among other clients

A list asks for the keys of a store and then for one entry after the other.  In between
other clients put rules and delete them, so no memory of the whole time need hold what the
list returns.  Still the list returns (`Clients.list_returns`), and what it returns is fixed
by its own commands: it goes through the keys that there were when it asked for them, and
at each of them it takes the rule that is there when its turn comes (`Clients.Sound.reading`).
-/

namespace WebhookRelay

namespace Memory

/-- The rule that is stored under a key. -/
def rule? (m : Memory) (key : String) : Option Rule :=
  (m.get? key).bind fun text => (Rule.ofJson text).toOption

end Memory

/-- The rule that a command found. -/
def Event.found? {ι : Type} (e : Event ι) : Option Rule :=
  match e.command with
  | .get key => e.before.rule? key
  | .put _ _ | .delete _ | .keys _ => none

namespace RuleStore

variable {store : RuleStore} {m : Memory} {v : View}

/-- What is found under a key of the store is the rule of that key. -/
theorem Represents.rule?_eq_some_iff (h : store.Represents m v) {key : String}
    (hkey : startsWith store.stem key = true) {rule : Rule} :
    m.rule? key = some rule ↔
      key = store.key rule.id.val ∧ m.get? key = some rule.toJson := by
  obtain ⟨id, rfl⟩ := exists_eq_append_of_startsWith hkey
  have hvalue : m.get? (store.stem ++ id) = (v.rules id).map Rule.toJson := h.rules id
  rw [Memory.rule?, hvalue]
  cases hrule : v.rules id with
  | none => simp
  | some other =>
    have hid := h.ids id other hrule
    simp only [Option.map_some, Option.bind_some, Rule.ofJson_toJson, Except.toOption,
      Option.some.injEq]
    constructor
    · rintro rfl
      exact ⟨congrArg store.key hid.symm, rfl⟩
    · rintro ⟨-, hjson⟩
      have hread := Rule.ofJson_toJson other
      rw [hjson, Rule.ofJson_toJson] at hread
      exact (Except.ok.inj hread).symm

/-- A rule is found wherever there is an entry of the store. -/
theorem Represents.exists_rule? (h : store.Represents m v) {id : String}
    (hsome : (m.get? (store.key id)).isSome = true) :
    ∃ rule, m.rule? (store.key id) = some rule ∧ rule.id.val = id := by
  rw [h.rules, Option.isSome_map] at hsome
  obtain ⟨rule, hrule⟩ := Option.isSome_iff_exists.mp hsome
  refine ⟨rule, ?_, h.ids id rule hrule⟩
  rw [Memory.rule?, h.rules, hrule]
  simp [Rule.ofJson_toJson, Except.toOption]

/-! ## Reading -/

/-- A list that has found some rules and has some keys left. -/
def reading (found : List Rule) (keys : List String) : Script Report :=
  (read keys).map fun rules => ⟨.list, rules.map (found ++ ·)⟩

theorem reading_nil (found : List Rule) : reading found [] = .done ⟨.list, .ok found⟩ := by
  show Script.done (⟨.list, .ok (found ++ [])⟩ : Report) = _
  rw [List.append_nil]

/-- A list asks for the keys of its store first. -/
theorem task_list (store : RuleStore) : store.task .list = .keys store.stem (reading []) := by
  have hself : (fun rules : Except RuleError (List Rule) => (⟨.list, rules⟩ : Report)) =
      fun rules => ⟨.list, rules.map ([] ++ ·)⟩ := by
    funext rules
    cases rules <;> rfl
  rw [task, RuleCall.script, hself]
  rfl

/-- Then it asks for the entries one by one.  It leaves out one that is gone. -/
theorem step_reading_of_none {key : String} (h : m.get? key = none) (found : List Rule)
    (keys : List String) :
    ((reading found (key :: keys)).step Memory.backend m).1 = reading found keys := by
  simp only [reading, read, Script.map, Script.bind, Script.step, Memory.backend, h]

theorem step_reading_of_some {key : String} {rule : Rule} (h : m.get? key = some rule.toJson)
    (found : List Rule) (keys : List String) :
    ((reading found (key :: keys)).step Memory.backend m).1 = reading (found ++ [rule]) keys := by
  have hstep : ((reading found (key :: keys)).step Memory.backend m).1 =
      ((read keys).map fun rules => rules.map (rule :: ·)).map
        fun rules => (⟨.list, rules.map (found ++ ·)⟩ : Report) := by
    simp only [reading, read, Script.map, Script.bind, Script.step, Memory.backend, h,
      Rule.ofJson_toJson]
  rw [hstep, Script.map_map, reading]
  congr 1
  funext rules
  cases rules <;> simp [Except.map]

/-- Whatever is found under the next key, the list takes it. -/
theorem Represents.step_reading (h : store.Represents m v) {key : String}
    (hkey : startsWith store.stem key = true) (found : List Rule) (keys : List String) :
    ((reading found (key :: keys)).step Memory.backend m).1 =
      reading (found ++ (m.rule? key).toList) keys := by
  obtain ⟨id, rfl⟩ := exists_eq_append_of_startsWith hkey
  have hvalue : m.get? (store.stem ++ id) = (v.rules id).map Rule.toJson := h.rules id
  cases hrule : v.rules id with
  | none =>
    rw [hrule] at hvalue
    rw [step_reading_of_none hvalue, Memory.rule?, hvalue]
    simp
  | some rule =>
    rw [hrule] at hvalue
    rw [step_reading_of_some hvalue, Memory.rule?, hvalue]
    simp [Rule.ofJson_toJson, Except.toOption]

end RuleStore

namespace Clients
open RuleStore

variable {ι : Type} [DecidableEq ι] {s : Clients ι} {store : RuleStore} {i : ι}

/-- Every command is given to a memory that represents a catalog. -/
theorem Sound.represents_before (h : s.Sound store) {schedule : List ι} {e : Event ι}
    (he : e ∈ s.history schedule) : ∃ v : View, store.Represents e.before v := by
  obtain ⟨t, j, ht, hevent⟩ := h.exists_event? he
  obtain ⟨command, -, rfl⟩ := Option.map_eq_some_iff.mp hevent
  exact ht.represents

/-- The commands of a client among those of a schedule. -/
def own (i : ι) (history : List (Event ι)) : List (Event ι) :=
  history.filter fun e => e.client = i

omit [DecidableEq ι] in
/-- What is found by commands, beginning with the first one. -/
theorem filterMap_found?_cons (e : Event ι) (rest : List (Event ι)) :
    (e :: rest).filterMap Event.found? = e.found?.toList ++ rest.filterMap Event.found? := by
  rw [List.filterMap_cons]
  cases e.found? <;> rfl

/-- **A list goes through its keys in order**, a turn for each of them, and collects what it
finds there. -/
theorem Sound.reading (h : s.Sound store) {found : List Rule} {keys : List String}
    (hpending : s.pending i = RuleStore.reading found keys)
    (hkeys : ∀ key ∈ keys, startsWith store.stem key = true) (schedule : List ι) :
    (own i (s.history schedule)).map Event.command =
        (keys.take (schedule.count i)).map EntryCall.get ∧
      (s.after schedule).pending i = RuleStore.reading
        (found ++ (own i (s.history schedule)).filterMap Event.found?)
        (keys.drop (schedule.count i)) := by
  induction schedule generalizing s found keys with
  | nil =>
    refine ⟨rfl, hpending.trans ?_⟩
    show _ = RuleStore.reading (found ++ []) keys
    rw [List.append_nil]
  | cons j rest ih =>
    by_cases hj : j = i
    · subst hj
      rw [List.count_cons_self]
      cases keys with
      | nil =>
        -- there is nothing left to read
        have hdone : (s.pending j).command? = none := by rw [hpending, reading_nil]; rfl
        rw [history_cons_of_done hdone, after_cons, step_of_done hdone]
        simpa using ih h hpending hkeys
      | cons key keys =>
        have hcommand : (s.pending j).command? = some (.get key) := by rw [hpending]; rfl
        obtain ⟨v, hv⟩ := h.represents
        have hnext : (s.step j).pending j =
            RuleStore.reading (found ++ (s.memory.rule? key).toList) keys := by
          rw [pending_step_self, hpending]
          exact hv.step_reading (hkeys key List.mem_cons_self) found keys
        obtain ⟨hcommands, hlast⟩ := ih (h.step j) hnext fun k hk =>
          hkeys k (List.mem_cons_of_mem _ hk)
        have hown : own j (s.history (j :: rest)) =
            ⟨j, .get key, s.memory, ((s.step j).pending j).result?⟩ ::
              own j ((s.step j).history rest) := by
          rw [history_cons_of_command hcommand]
          exact List.filter_cons_of_pos (by simp)
        rw [hown, filterMap_found?_cons, ← List.append_assoc, after_cons, hlast]
        exact ⟨congrArg (EntryCall.get key :: ·) hcommands, rfl⟩
    · -- the turn of another client
      have hown : own i (s.history (j :: rest)) = own i ((s.step j).history rest) := by
        cases hcommand : (s.pending j).command? with
        | none => rw [history_cons_of_done hcommand, step_of_done hcommand]
        | some command =>
          rw [history_cons_of_command hcommand]
          exact List.filter_cons_of_neg (by simpa using hj)
      rw [hown, List.count_cons_of_ne hj]
      exact ih (h.step j) ((pending_step_of_ne (Ne.symm hj)).trans hpending) hkeys

/-! ## What a list returns -/

/-- What a list may return that asked a memory for the keys of a store, when these commands
were served afterwards. -/
structure Collects (store : RuleStore) (i : ι) (m : Memory) (later : List (Event ι))
    (rules : List Rule) : Prop where
  ascending : rules.Pairwise fun a b => a.id.val < b.id.val
  /-- Each key that there was is read once, in their order. -/
  commands : (own i later).map Event.command = (m.keys store.stem).map EntryCall.get
  /-- What is returned was stored when its key was read. -/
  current : ∀ rule ∈ rules, ∃ e ∈ own i later, e.command = .get (store.key rule.id.val) ∧
    e.before.get? (store.key rule.id.val) = some rule.toJson
  /-- What was not there at first is not returned. -/
  listed : ∀ rule ∈ rules, (m.get? (store.key rule.id.val)).isSome = true
  /-- What was there at first is returned if it is there when its key is read. -/
  complete : ∀ id, (m.get? (store.key id)).isSome = true →
    (∀ e ∈ own i later, e.command = .get (store.key id) →
      (e.before.get? (store.key id)).isSome = true) →
    ∃ rule ∈ rules, rule.id.val = id

/-- What a list found was stored under a key that it had asked for. -/
theorem Sound.found?_eq_some (h : s.Sound store) {m : Memory} {schedule : List ι}
    (hcommands : (own i (s.history schedule)).map Event.command =
      (m.keys store.stem).map EntryCall.get)
    {e : Event ι} (he : e ∈ own i (s.history schedule)) {rule : Rule}
    (hrule : e.found? = some rule) :
    e.command = .get (store.key rule.id.val) ∧
      e.before.get? (store.key rule.id.val) = some rule.toJson ∧
      store.key rule.id.val ∈ m.keys store.stem := by
  obtain ⟨v, hv⟩ := h.represents_before (List.mem_filter.mp he).1
  have hcommand : e.command ∈ (m.keys store.stem).map EntryCall.get :=
    hcommands ▸ List.mem_map_of_mem he
  obtain ⟨key, hkey, hget⟩ := List.mem_map.mp hcommand
  have hrule : e.before.rule? key = some rule := by
    rw [Event.found?, ← hget] at hrule
    exact hrule
  obtain ⟨rfl, hstored⟩ := (hv.rule?_eq_some_iff ((Memory.mem_keys m _ _).mp hkey).1).mp hrule
  exact ⟨hget.symm, hstored, hkey⟩

/-- What a list found at its keys is what it may return. -/
theorem Sound.collects (h : s.Sound store) {m : Memory} {schedule : List ι}
    (hcommands : (own i (s.history schedule)).map Event.command =
      (m.keys store.stem).map EntryCall.get) :
    Collects store i m (s.history schedule)
      ((own i (s.history schedule)).filterMap Event.found?) := by
  refine ⟨?_, hcommands, ?_, ?_, ?_⟩
  · -- the keys are ascending, and a rule is found under its own key
    have hascending : ((own i (s.history schedule)).map Event.command).Pairwise
        fun a b => ∀ k l, a = .get k → b = .get l → k < l := by
      rw [hcommands, List.pairwise_map]
      refine (Memory.pairwise_keys m store.stem).imp ?_
      rintro a b hlt k l ⟨⟩ ⟨⟩
      exact hlt
    refine List.pairwise_filterMap.mpr ((List.pairwise_map.mp hascending).imp_of_mem ?_)
    intro e f he hf hlt a ha b hb
    obtain ⟨hgetA, -, -⟩ := h.found?_eq_some hcommands he ha
    obtain ⟨hgetB, -, -⟩ := h.found?_eq_some hcommands hf hb
    exact (append_lt_append_iff store.stem).mp (hlt _ _ hgetA hgetB)
  · intro rule hrule
    obtain ⟨e, he, hrule⟩ := List.mem_filterMap.mp hrule
    obtain ⟨hget, hstored, -⟩ := h.found?_eq_some hcommands he hrule
    exact ⟨e, he, hget, hstored⟩
  · intro rule hrule
    obtain ⟨e, he, hrule⟩ := List.mem_filterMap.mp hrule
    obtain ⟨-, -, hkey⟩ := h.found?_eq_some hcommands he hrule
    exact ((Memory.mem_keys m _ _).mp hkey).2
  · intro id hid hpresent
    have hkey : store.key id ∈ m.keys store.stem :=
      (Memory.mem_keys m _ _).mpr ⟨startsWith_append _ _, hid⟩
    obtain ⟨e, he, hget⟩ : ∃ e ∈ own i (s.history schedule), e.command = .get (store.key id) :=
      List.mem_map.mp (hcommands ▸ List.mem_map_of_mem hkey)
    obtain ⟨v, hv⟩ := h.represents_before (List.mem_filter.mp he).1
    obtain ⟨rule, hrule, hruleId⟩ := hv.exists_rule? (hpresent e he hget)
    refine ⟨rule, List.mem_filterMap.mpr ⟨e, he, ?_⟩, hruleId⟩
    rw [Event.found?, hget]
    exact hrule

/-- **What a list returns among other clients.**  Some calls were made on an empty memory.
Then clients make a call each, one of them a list, and are served in turns.

* At its first turn the list asks for the keys of its store.
* Then it needs one turn for each key there was, and as long as it has had fewer it has not
  returned.
* After that it has returned, and not with an error: it has read each key once, and the
  rules are those that were stored when their keys were read, ascending by id. -/
theorem list_returns (store : RuleStore) (before : List RuleCall) (calls : ι → RuleCall) (i : ι)
    (hlist : calls i = .list) (first rest : List ι) (hfirst : i ∉ first) :
    let s := (start store calls (store.after (before.map .rule) .empty)).after first
    let listed := s.memory.keys store.stem
    let script := ((s.step i).after rest).pending i
    (s.pending i).command? = some (.keys store.stem) ∧
    (rest.count i < listed.length → script.result? = none) ∧
    (listed.length ≤ rest.count i → ∃ rules, script = .done ⟨.list, .ok rules⟩ ∧
      Collects store i s.memory ((s.step i).history rest) rules) := by
  intro s listed script
  have hfresh : store.Represents .empty ⟨.empty, Memory.empty.get?⟩ :=
    represents_of_fresh fun _ _ => rfl
  have hs : s.Sound store :=
    (Sound.of_start (hfresh.after (before.map .rule) (by simp)) calls).after first
  have hpending : s.pending i = .keys store.stem (RuleStore.reading []) := by
    show ((start store calls _).after first).pending i = _
    rw [pending_after_of_not_mem hfirst]
    show store.task (calls i) = _
    rw [hlist, task_list]
  have hstep : (s.step i).pending i = RuleStore.reading [] listed := by
    rw [pending_step_self, hpending]
    rfl
  obtain ⟨hcommands, hscript⟩ := (hs.step i).reading hstep
    (fun key hkey => ((Memory.mem_keys s.memory _ _).mp hkey).1) rest
  refine ⟨by rw [hpending]; rfl, ?_, ?_⟩
  · intro hcount
    show (((s.step i).after rest).pending i).result? = none
    rw [hscript, List.drop_eq_getElem_cons hcount]
    rfl
  · intro hcount
    rw [List.take_of_length_le hcount] at hcommands
    refine ⟨_, ?_, (hs.step i).collects hcommands⟩
    show ((s.step i).after rest).pending i = _
    rw [hscript, List.drop_of_length_le hcount, reading_nil]
    rfl

/-- While a list has its three turns, the first rule that it was told of is deleted, the
second one is replaced, and another one is put.  Still it returns. -/
theorem list_returns_overtaken :
    let rule (id name : Filled) : Rule := ⟨id, name,
      ⟨⟨"t", by decide⟩, ⟨"b", by decide⟩, none, none, none, none⟩, ⟨"u", by decide⟩⟩
    let first : Rule := rule ⟨"a", by decide⟩ ⟨"n", by decide⟩
    let second : Rule := rule ⟨"b", by decide⟩ ⟨"n", by decide⟩
    let calls : Nat → RuleCall := fun
      | 0 => .list
      | 1 => .delete "a"
      | 2 => .put (rule ⟨"c", by decide⟩ ⟨"n", by decide⟩)
      | _ => .put (rule ⟨"b", by decide⟩ ⟨"m", by decide⟩)
    let s := (start {} calls (RuleStore.after {}
      ([RuleCall.put first, .put second].map .rule) .empty)).after [1]
    let turns := [1, 2, 0, 3, 0]
    s.memory.keys "rule:" = ["rule:a", "rule:b"] ∧
      ∃ rules, ((s.step 0).after turns).pending 0 = .done ⟨.list, .ok rules⟩ ∧
        Collects {} 0 s.memory ((s.step 0).history turns) rules := by
  intro rule first second calls s turns
  have hkeys : s.memory.keys "rule:" = ["rule:a", "rule:b"] := by decide +kernel
  obtain ⟨-, -, hreturns⟩ :=
    list_returns {} [.put first, .put second] calls 0 rfl [1] turns (by decide)
  have hs : (start {} calls (RuleStore.after {}
    ([RuleCall.put first, .put second].map .rule) .empty)).after [1] = s := rfl
  rw [hs, hkeys] at hreturns
  exact ⟨hkeys, hreturns (by decide)⟩

end Clients
end WebhookRelay
