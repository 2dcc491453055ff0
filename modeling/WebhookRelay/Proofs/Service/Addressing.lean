import Mathlib.Data.List.DropRight
import WebhookRelay.Proofs.Service.Runs
import WebhookRelay.Proofs.Text.Percent
import WebhookRelay.Proofs.Text.Scanning
import WebhookRelay.Url.Escape

/-! # Addresses of rules

A rule is read and deleted under a path that ends with its id.  Whatever could be taken for
something else is percent encoded in it, and the id is read back from the path
(`Request.path_atRule`).  But a path is decoded as a whole before it is routed: an encoded
slash is a slash again, and no resource has one in its id (`Resource.ofPath?_rulePath_append`).
At best the request is sent to the path without the slashes at its end, which is that of another
rule or that of all rules (`Resource.elsewhere_rulePath_append`).  So a rule that stands is shown
and deleted under its id if and only if there is no slash in its id (`Service.rule_addressed`).
-/

namespace WebhookRelay

/-! ## Escapes -/

namespace Percent

/-- A text without percent signs is read as its own bytes. -/
theorem decodeBytes_append {front : List Char} (h : '%' ∉ front) (rest : List Char) :
    decodeBytes (front ++ rest) = Utf8.encode front ++ decodeBytes rest := by
  induction front with
  | nil => rfl
  | cons c front ih =>
    obtain ⟨hc, hfront⟩ := List.ne_and_not_mem_of_not_mem_cons h
    rw [List.cons_append, decodeBytes_cons hc.symm, ih hfront, ← List.append_assoc]
    rfl

end Percent

namespace Url

variable {isPlain : Char → Bool}

/-- An escaped text is read as the bytes of the text, if percent signs are escaped. -/
theorem decodeBytes_escape (h : isPlain '%' = false) (s : List Char) :
    Percent.decodeBytes (escape isPlain s) = Utf8.encode s := by
  induction s with
  | nil => rfl
  | cons c s ih =>
    rw [escape, List.flatMap_cons, ← escape]
    show _ = String.utf8EncodeChar c ++ Utf8.encode s
    split
    · rename_i hc
      have hpercent : c ≠ '%' := by
        rintro rfl
        exact absurd hc (by rw [h]; decide)
      rw [List.singleton_append, Percent.decodeBytes_cons hpercent, ih]
    · rw [Percent.encodeChar, Percent.decodeBytes_encodeBytes, ih]

/-- A reserved character that is escaped does not occur. -/
theorem not_mem_escape {c : Char} (h : isPlain c = false) (hpercent : c ≠ '%')
    (halphanum : c.isAlphanum = false) (s : List Char) : c ∉ escape isPlain s := by
  intro hmem
  obtain ⟨d, -, hd⟩ := List.mem_flatMap.mp hmem
  split at hd
  · rename_i hplain
    rw [List.mem_singleton.mp hd, hplain] at h
    cases h
  · rcases Percent.mem_encodeChar hd with heq | hdigit
    · exact hpercent heq
    · rw [halphanum] at hdigit
      cases hdigit

end Url

/-! ## Paths -/

namespace Resource

/-- A path is none of the fixed ones if it is longer. -/
theorem isFixed_of_length_lt {fixed : String} {path : List Char}
    (h : fixed.toList.length + 1 < path.length) : isFixed fixed path = false := by
  rw [isFixed, Bool.or_eq_false_iff]
  refine ⟨decide_eq_false ?_, decide_eq_false ?_⟩
  · rintro rfl
    omega
  · rintro rfl
    rw [List.length_append, List.length_singleton] at h
    omega

/-- A path of a single rule leads to the rule, or nowhere if there is a slash in the id. -/
theorem ofPath?_rulePath_append {id : String} (h : id ≠ "") :
    ofPath? (rulePath ++ id.toList) = if '/' ∈ id.toList then none else some (.rule id) := by
  have hempty : id.toList.isEmpty = false :=
    List.isEmpty_eq_false_iff.mpr fun hnil => h (String.toList_inj.mp hnil)
  have hlength : 7 < (rulePath ++ id.toList).length := by
    rw [List.length_append]
    exact Nat.lt_add_of_pos_right (List.length_pos_iff.mpr (List.isEmpty_eq_false_iff.mp hempty))
  have hfixed : ∀ fixed : String, fixed.toList.length < 7 →
      isFixed fixed (rulePath ++ id.toList) = false :=
    fun fixed hfits => isFixed_of_length_lt (by omega)
  have hrule : ruleId? (rulePath ++ id.toList) = if '/' ∈ id.toList then none else some id := by
    rw [ruleId?, if_pos (List.isPrefixOf_iff_prefix.mpr (List.prefix_append _ _)),
      List.drop_left]
    simp only [String.ofList_toList, hempty, Bool.false_or, List.contains_iff_mem]
  rw [ofPath?, hfixed "/" (by decide), hfixed "/rules" (by decide), hfixed "/push" (by decide),
    hrule]
  by_cases hslash : '/' ∈ id.toList
  · rw [if_pos hslash, if_pos hslash]
    rfl
  · rw [if_neg hslash, if_neg hslash]
    rfl

/-- The path that ends with this, or that of all rules if this is empty. -/
def pathUnder (last : List Char) : List Char :=
  if last = [] then "/rules".toList else rulePath ++ last

/-- Slashes at the end of the path of a rule are those of the id and, if there is nothing else in
the id, the one before it. -/
theorem rdropWhile_rulePath_append (id : List Char) :
    (rulePath ++ id).rdropWhile (· = '/') = pathUnder (id.rdropWhile (· = '/')) := by
  unfold pathUnder List.rdropWhile
  rw [List.reverse_append, List.dropWhile_append]
  by_cases hslashes : id.reverse.dropWhile (· = '/') = []
  · rw [hslashes]
    rfl
  · rw [if_neg (by rwa [List.isEmpty_iff]), if_neg (by rwa [List.reverse_eq_nil_iff]),
      List.reverse_append, List.reverse_reverse]

/-- Whether the path of a rule leads anywhere is decided by a slash in the id. -/
theorem isSome_ofPath?_rulePath_append {id : List Char} (h : id ≠ []) :
    (ofPath? (rulePath ++ id)).isSome = !id.contains '/' := by
  have hpath := @ofPath?_rulePath_append (String.ofList id) fun hempty =>
    h (by rw [← String.toList_ofList (l := id), hempty]; rfl)
  rw [String.toList_ofList] at hpath
  rw [hpath]
  by_cases hslash : '/' ∈ id <;> simp [hslash]

theorem isSome_ofPath?_pathUnder (last : List Char) :
    (ofPath? (pathUnder last)).isSome = !last.contains '/' := by
  rw [pathUnder]
  split
  · rename_i hnil
    rw [hnil]
    decide
  · rename_i hne
    exact isSome_ofPath?_rulePath_append hne

/-- **Where a slash in an id leads.**  If there are slashes at the end of the id only, the request
is sent to the path without them; otherwise it leads nowhere. -/
theorem elsewhere_rulePath_append {id : List Char} (hslash : '/' ∈ id) :
    elsewhere (rulePath ++ id) =
      if '/' ∈ id.rdropWhile (· = '/') then .notFound
      else .moved (pathUnder (id.rdropWhile (· = '/'))) := by
  have hne : id ≠ [] := List.ne_nil_of_mem hslash
  have hlast : (rulePath ++ id).getLast? = some (id.getLast hne) := by
    rw [List.getLast?_append, List.getLast?_eq_some_getLast hne, Option.some_or]
  by_cases hend : id.getLast hne = '/'
  · have hrespell : respell (rulePath ++ id) = (rulePath ++ id).rdropWhile (· = '/') :=
      if_pos (hlast.trans (congrArg some hend))
    rw [elsewhere, hrespell, rdropWhile_rulePath_append, isSome_ofPath?_pathUnder]
    by_cases hmore : '/' ∈ id.rdropWhile (· = '/') <;> simp [hmore]
  · -- a slash more does not help
    have hrespell : respell (rulePath ++ id) = rulePath ++ id ++ ['/'] :=
      if_neg fun h => hend (Option.some.inj (hlast.symm.trans h))
    have hself : id.rdropWhile (· = '/') = id :=
      List.rdropWhile_eq_self_iff.mpr fun _ => by simpa using hend
    rw [elsewhere, hrespell, hself, if_pos hslash, List.append_assoc,
      isSome_ofPath?_rulePath_append (List.append_ne_nil_of_left_ne_nil hne _)]
    simp

end Resource

namespace Request

/-- A request at the path that ends with an id, of which the plain characters are not
escaped. -/
def atRule (method : String) (isPlain : Char → Bool) (id : String) (body : Body) : Request :=
  ⟨method, "/rules/" ++ String.ofList (Url.escape isPlain id.toList), body⟩

variable {isPlain : Char → Bool} (hpercent : isPlain '%' = false) (hquestion : isPlain '?' = false)
include hpercent hquestion

/-- The id is read back from the path. -/
theorem path_atRule (method id : String) (body : Body) :
    (atRule method isPlain id body).path = Resource.rulePath ++ id.toList := by
  have hfree : '?' ∉ Resource.rulePath ++ Url.escape isPlain id.toList := by
    intro hmem
    rcases List.mem_append.mp hmem with hmem | hmem
    · exact absurd hmem (by decide)
    · exact Url.not_mem_escape hquestion (by decide) (by decide) _ hmem
  have htarget : (atRule method isPlain id body).target.toList =
      Resource.rulePath ++ Url.escape isPlain id.toList :=
    String.toList_append.trans (congrArg (Resource.rulePath ++ ·) String.toList_ofList)
  have hbytes : Percent.decodeBytes (Resource.rulePath ++ Url.escape isPlain id.toList) =
      Utf8.encode (Resource.rulePath ++ id.toList) := by
    rw [Percent.decodeBytes_append (by decide), Url.decodeBytes_escape hpercent]
    exact List.flatMap_append.symm
  rw [path, htarget, Text.cutChar_of_not_mem hfree, Percent.decode, hbytes, Utf8.decode_encode]

/-- Without a slash in its id a rule is shown and deleted at its path. -/
theorem action_atRule_of_not_mem {id : String} (hid : id ≠ "") (hslash : '/' ∉ id.toList)
    (body : Body) :
    (atRule "GET" isPlain id body).action = .ok (.showRule id) ∧
      (atRule "DELETE" isPlain id body).action = .ok (.deleteRule id) := by
  rw [action, action, path_atRule hpercent hquestion, path_atRule hpercent hquestion,
    Resource.ofPath?_rulePath_append hid, if_neg hslash]
  exact ⟨rfl, rfl⟩

/-- With a slash in the id the path leads nowhere, or elsewhere. -/
theorem action_atRule_of_mem {id : String} (hslash : '/' ∈ id.toList) (method : String)
    (body : Body) :
    (atRule method isPlain id body).action =
      .error (Resource.elsewhere (Resource.rulePath ++ id.toList)) := by
  have hid : id ≠ "" := by
    rintro rfl
    exact absurd hslash (by decide)
  rw [action, path_atRule hpercent hquestion, Resource.ofPath?_rulePath_append hid, if_pos hslash]

end Request

/-! ## Showing and deleting -/

namespace Service

variable {service : Service} {s : State} {r : Request} (net : Network)

/-- A request that leads nowhere changes nothing. -/
theorem step_of_routeError {e : RouteError} (h : r.action = .error e) :
    (service.step net s r).1.answer = .ofRouteError e ∧
      (service.step net s r).2.memory = s.memory := by
  rw [step_outcome_eq, step_memory_eq, handle, h]
  exact ⟨rfl, rfl⟩

/-- A rule of the catalog is shown. -/
theorem step_showRule {v : View} (h : service.store.Represents s.memory v) {rule : Rule}
    (hrule : v.rules rule.id.val = some rule) (hshow : r.action = .ok (.showRule rule.id.val)) :
    (service.step net s r).1.answer = .ok rule.toValue ∧
      (service.step net s r).2.memory = s.memory := by
  rw [step_outcome_eq, step_memory_eq, handle, hshow]
  simp only [showRule, Script.run_map, h.run_get, hrule]
  exact ⟨rfl, trivial⟩

/-- A rule of the catalog is deleted, and only this one. -/
theorem step_deleteRule_of_mem {v : View} (h : service.store.Represents s.memory v) {rule : Rule}
    (hrule : v.rules rule.id.val = some rule) (hdelete : r.action = .ok (.deleteRule rule.id.val)) :
    (service.step net s r).1.answer = .done "Rule deleted successfully" ∧
      (service.step net s r).2.memory = s.memory.erase (service.store.key rule.id.val) := by
  rw [step_outcome_eq, step_memory_eq, handle, hdelete]
  simp only [deleteRule, Script.run_map, h.run_delete, hrule]
  exact ⟨rfl, rfl⟩

/-- **Which rules can be addressed.**  A fresh service has answered any requests, and a rule
stands: it was saved with success, and was not replaced or deleted since.  It is asked for at
the path that ends with its id, in which at least percent signs and question marks are
escaped.

* Without a slash in the id the rule is shown, and when it is deleted its entry goes and
  nothing else does.
* With a slash in the id, although the slash is escaped, the path is not found, unless there are
  slashes at the end of the id only.  Then the request is sent to the path without them.  In
  both cases the entry stays. -/
theorem rule_addressed (service : Service) (net : Network) (requests : List Request) (rule : Rule)
    (hstands : Stands (effects (service.exchanges net initial requests)) rule)
    (isPlain : Char → Bool) (hpercent : isPlain '%' = false) (hquestion : isPlain '?' = false)
    (body : Body) :
    let s := service.after net requests initial
    s.memory.get? (service.store.key rule.id.val) = some rule.toJson ∧
    ('/' ∉ rule.id.val.toList →
      ((service.step net s (.atRule "GET" isPlain rule.id.val body)).1.answer = .ok rule.toValue ∧
        (service.step net s (.atRule "GET" isPlain rule.id.val body)).2.memory = s.memory) ∧
      (service.step net s (.atRule "DELETE" isPlain rule.id.val body)).1.answer =
          .done "Rule deleted successfully" ∧
        (service.step net s (.atRule "DELETE" isPlain rule.id.val body)).2.memory =
          s.memory.erase (service.store.key rule.id.val)) ∧
    ('/' ∈ rule.id.val.toList → ∀ method,
      (service.step net s (.atRule method isPlain rule.id.val body)).1.answer =
          .ofRouteError (if '/' ∈ rule.id.val.toList.rdropWhile (· = '/') then .notFound
            else .moved (Resource.pathUnder (rule.id.val.toList.rdropWhile (· = '/')))) ∧
        (service.step net s (.atRule method isPlain rule.id.val body)).2.memory = s.memory) := by
  intro s
  have hs : service.store.Represents s.memory _ := service.after_represents net requests
  have hrule : (View.after (effects (service.exchanges net initial requests))
      ⟨.empty, fun _ => none⟩).rules rule.id.val = some rule :=
    (View.rules_after_empty_eq_some_iff _ rule).mpr hstands
  refine ⟨?_, fun hslash => ?_, fun hslash method => ?_⟩
  · rw [hs.rules, hrule]
    rfl
  · obtain ⟨hshow, hdelete⟩ :=
      Request.action_atRule_of_not_mem hpercent hquestion rule.id.property hslash body
    exact ⟨step_showRule net hs hrule hshow, step_deleteRule_of_mem net hs hrule hdelete⟩
  · rw [← Resource.elsewhere_rulePath_append hslash]
    exact step_of_routeError net
      (Request.action_atRule_of_mem hpercent hquestion hslash method body)

/-- A rule whose id needs escapes of three kinds is shown and deleted. -/
theorem rule_addressed_escaped :
    let service : Service :=
      ⟨{}, ⟨.zero false, 1, .zero false, Nat.le_refl 1⟩, Clock.standard⟩
    let net := Network.ofReplies []
    let rule : Rule := ⟨⟨"é?%", by decide⟩, ⟨"n", by decide⟩,
      ⟨⟨"t", by decide⟩, ⟨"b", by decide⟩, none, none, none, none⟩, ⟨"u", by decide⟩⟩
    let save : Request := ⟨"POST", "/rules", rule.toJson⟩
    let s := service.after net [save] initial
    effects (service.exchanges net initial [save]) = [.rule (.put rule)] ∧
      Form.isPlain '%' = false ∧ Form.isPlain '?' = false ∧
      (Request.atRule "GET" Form.isPlain rule.id.val "").target = "/rules/%C3%A9%3F%25" ∧
      (service.step net s (.atRule "GET" Form.isPlain rule.id.val "")).1.answer =
        .ok rule.toValue ∧
      (service.step net s (.atRule "DELETE" Form.isPlain rule.id.val "")).1.answer =
        .done "Rule deleted successfully" := by
  intro service net rule save s
  have heffects : effects (service.exchanges net initial [save]) = [.rule (.put rule)] := by
    decide +kernel
  have hstands : Stands (effects (service.exchanges net initial [save])) rule := by
    rw [heffects]
    exact stands_singleton rule
  have hs : service.after net [save] initial = s := rfl
  obtain ⟨-, haddressed, -⟩ :=
    rule_addressed service net [save] rule hstands Form.isPlain (by decide) (by decide) ""
  rw [hs] at haddressed
  obtain ⟨⟨hshown, -⟩, hdeleted, -⟩ := haddressed (by decide)
  exact ⟨heffects, by decide, by decide, by decide +kernel, hshown, hdeleted⟩

/-- A rule is saved with a slash in its id, and is neither shown nor deleted. -/
theorem rule_addressed_slash :
    let service : Service :=
      ⟨{}, ⟨.zero false, 1, .zero false, Nat.le_refl 1⟩, Clock.standard⟩
    let net := Network.ofReplies []
    let rule : Rule := ⟨⟨"a/b", by decide⟩, ⟨"n", by decide⟩,
      ⟨⟨"t", by decide⟩, ⟨"b", by decide⟩, none, none, none, none⟩, ⟨"u", by decide⟩⟩
    let save : Request := ⟨"POST", "/rules", rule.toJson⟩
    let s := service.after net [save] initial
    effects (service.exchanges net initial [save]) = [.rule (.put rule)] ∧
      (Request.atRule "GET" Form.isPlain rule.id.val "").target = "/rules/a%2Fb" ∧
      ¬ (service.step net s (.atRule "GET" Form.isPlain rule.id.val "")).1.answer.status = 200 ∧
      ¬ (service.step net s (.atRule "DELETE" Form.isPlain rule.id.val "")).1.answer.status =
        200 := by
  decide +kernel

end Service
end WebhookRelay
