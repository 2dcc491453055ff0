import WebhookRelay.Proofs.Form.RoundTrip
import WebhookRelay.Proofs.Json.Locality
import WebhookRelay.Proofs.Service.Addressing
import WebhookRelay.Proofs.Service.Saving
import WebhookRelay.Proofs.Value.Shown

/-! # Two ways to name the rule of a push

A push names its rule in its body, beside the payload, or in its query, and then its body is the
payload.  Both ways lead to the same (`Service.addressees_agree`): the same answer, the same
requests to the network, and the payload as it was sent, also where it is zero, false or empty.

The body of the first way is JSON in which the text of the payload stands as it is.  What is
read of it is the payload that is read of that text alone (`Json.read_addressedText`), so the two
ways agree on what cannot be read as well.  Garbled texts in the payload make no difference.

The payload may not be null, since a null beside an id is no payload, and it may not itself name
a rule or hold another payload (`Value.StandsAlone`).
-/

namespace WebhookRelay

/-! ## Bodies -/

/-- An object that names a rule and holds a payload. -/
def Value.addressed (id : String) (p : Value) : Value :=
  .object [("ruleId", .text id), ("payload", p)]

namespace Json

/-- The text of an object that names a rule and holds a payload, given the text of the
payload. -/
def addressedText (id : String) (text : Wide) : Wide :=
  .ofPoints (.char '{' :: (quote "ruleId" ++ .char ':' :: (quote id ++
    .char ',' :: (quote "payload" ++ .char ':' :: (text.points ++ [.char '}'])))))

/-- **The payload is read from where it stands.** -/
theorem read_addressedText (id : String) {text : Wide}
    (hjson : Json.read text.points ≠ .error .malformed) :
    Json.read (addressedText id text).points =
      (Json.read text.points).map (Value.addressed id) := by
  let entry := quote "payload" ++ .char ':' :: (text.points ++ [.char '}'])
  let entries := quote "ruleId" ++ .char ':' :: (quote id ++ .char ',' :: entry)
  have hlist : (addressedText id text).points = .char '{' :: entries := Wide.points_ofPoints _
  have hread : Json.read (.char '{' :: entries) =
      (readValue {} 0 (entries.length + 1 + 1) (.char '{' :: entries)).bind whole :=
    read_eq_bind _
  have hlength : entries.length = (quote id).length + text.points.length + 20 + 1 := by
    have hkeys : (quote "ruleId").length = 8 ∧ (quote "payload").length = 9 := by decide
    simp only [entries, entry, List.length_append, List.length_cons, List.length_nil]
    omega
  generalize hfuel : (quote id).length + text.points.length + 20 = fuel at hlength
  -- the entries from the last one to the first one
  have hlast : readEntries {} 1 (fuel + 1) [("ruleId", .text id)] entry =
      (Json.read text.points).map fun p =>
        (Entries.enter ("payload" : Wide) p [("ruleId", .text id)], []) :=
    readEntries_text _ "payload" (by omega) hjson
  have hid : readValue {} 1 (fuel + 1) (skip (quote id ++ .char ',' :: entry)) =
      .ok (.text id, .char ',' :: entry) := readValue_quote rfl _
  have hfirst : readEntries {} 1 (fuel + 1 + 1) [] entries =
      readEntries {} 1 (fuel + 1) [("ruleId", .text id)] entry := readEntries_more [] rfl hid
  have hopen : ∀ rest, skip entries ≠ .char '}' :: rest := fun rest => nofun
  have hskip : skip entries = entries := rfl
  rw [hlist, hread, readValue_open_object hopen, hskip, hlength, hfirst, hlast]
  cases Json.read text.points <;> rfl

end Json

/-! ## Requests -/

namespace Request

/-- A push that names its rule in the body. -/
def pushByBody (body : Body) : Request := ⟨"POST", "/push", body⟩

/-- A push that names its rule in the query, where the plain characters of the id are not
escaped. -/
def pushByQuery (isPlain : Char → Bool) (id : String) (body : Body) : Request :=
  ⟨"POST", "/push?ruleId=" ++ String.ofList (Url.escape isPlain id.toList), body⟩

/-- A byte order mark is no JSON, so JSON is read from the start of a body. -/
theorem content_of_json {r : Request} {s : Wide} (hbody : r.body = .text s)
    (h : Json.read s.points ≠ .error .malformed) :
    r.content = ((Json.read s.points).map some).mapError .unreadable := by
  cases hpoints : s.points with
  | nil =>
    rw [hpoints] at h
    exact absurd rfl h
  | cons p rest =>
    rw [← hpoints]
    refine content_of_text hbody hpoints ?_
    rintro rfl
    rw [hpoints] at h
    exact absurd rfl h

/-- The text of a payload behind an id makes a body that holds the payload. -/
theorem content_addressedText (id : String) {text : Wide}
    (hjson : Json.read text.points ≠ .error .malformed) :
    (pushByBody (.text (Json.addressedText id text))).content =
      ((Json.read text.points).map fun p => some (p.addressed id)).mapError .unreadable := by
  have hread := Json.read_addressedText id hjson
  have hgood : Json.read (Json.addressedText id text).points ≠ .error .malformed := by
    rw [hread]
    cases hpayload : Json.read text.points with
    | ok p => exact nofun
    | error e =>
      rintro ⟨⟩
      exact hjson hpayload
  rw [content_of_json rfl hgood, hread]
  cases Json.read text.points <;> rfl

theorem action_pushByBody (body : Body) : (pushByBody body).action = .ok .push := by
  have hpath : (pushByBody body).path = "/push".toList := by
    show Percent.decode (Text.cutChar '?' "/push".toList).1 = _
    decide
  rw [action, hpath]
  rfl

variable {isPlain : Char → Bool} (id : String) (body : Body)

/-- The target of a push is cut at the mark before the query. -/
theorem cutChar_pushByQuery : Text.cutChar '?' (pushByQuery isPlain id body).target.toList =
    ("/push".toList, "ruleId=".toList ++ Url.escape isPlain id.toList) := by
  have htarget : (pushByQuery isPlain id body).target.toList =
      "/push".toList ++ '?' :: ("ruleId=".toList ++ Url.escape isPlain id.toList) :=
    String.toList_append.trans (congrArg (_ ++ ·) String.toList_ofList)
  rw [htarget, Text.cutChar_append (by decide)]

theorem action_pushByQuery : (pushByQuery isPlain id body).action = .ok .push := by
  have hpath : (pushByQuery isPlain id body).path = "/push".toList := by
    rw [path, cutChar_pushByQuery]
    show Percent.decode "/push".toList = _
    decide
  rw [action, hpath]
  rfl

/-- The id is read back from the query. -/
theorem last?_pushByQuery (hplain : ∀ c ∈ ['%', '&', '+'], isPlain c = false) :
    (pushByQuery isPlain id body).query.last? "ruleId" = some id := by
  have hpercent : isPlain '%' = false := hplain '%' (by decide)
  have hand : '&' ∉ Url.escape isPlain id.toList :=
    Url.not_mem_escape (hplain '&' (by decide)) (by decide) (by decide) _
  have hplus : '+' ∉ Url.escape isPlain id.toList :=
    Url.not_mem_escape (hplain '+' (by decide)) (by decide) (by decide) _
  have hpiece : Text.splitOn '&' ("ruleId=".toList ++ Url.escape isPlain id.toList) =
      ["ruleId".toList ++ '=' :: Url.escape isPlain id.toList] := by
    refine Text.splitOn_of_not_mem fun hmem => ?_
    rcases List.mem_append.mp hmem with hkey | hvalue
    · exact absurd hkey (by decide)
    · exact hand hvalue
  have htext : Form.decodeText (Url.escape isPlain id.toList) = id := by
    rw [Form.decodeText, ← Form.unplus, Form.unplus_eq_self hplus, Percent.decode,
      Url.decodeBytes_escape hpercent, Utf8.decode_encode, String.ofList_toList]
  have hkey : Form.decodeText "ruleId".toList = "ruleId" := by decide
  have hquery : (pushByQuery isPlain id body).query = [("ruleId", id)] := by
    rw [query, cutChar_pushByQuery, Form.decode, hpiece]
    show [Form.decodePair ("ruleId".toList ++ '=' :: Url.escape isPlain id.toList)] = _
    rw [Form.decodePair, Text.cutChar_append (by decide)]
    simp only [htext, hkey]
  rw [hquery]
  rfl

end Request

/-! ## Pushing -/

/-- A payload that a push may have for its body, with the id in the query: it is not null, and
neither names a rule nor holds another payload itself. -/
structure Value.StandsAlone (p : Value) : Prop where
  notNull : p ≠ .null
  noRule : ∀ v, p.field? "ruleId" = some v → v.isGiven = false
  noPayload : ∀ v, p.field? "payload" = some v → v = .null

namespace Service

variable {service : Service} {net : Network} {sent : Nat} {id : String} {p : Value}

/-- The id beside a payload is the one that is named. -/
theorem pushedId?_addressed (hid : id ≠ "") (query : Form) :
    pushedId? query (some (p.addressed id)) = some (.text id) := by
  have hfield : (p.addressed id).field? "ruleId" = some (.text id) := rfl
  have hgiven : (Value.text id).isGiven = true := decide_eq_true hid
  rw [pushedId?, Option.bind_some, hfield]
  simp only [hgiven, if_true]
  rfl

/-- The payload beside an id is the one that is pushed, unless it is null. -/
theorem payload_addressed (hp : p ≠ .null) : payload (some (p.addressed id)) = p := by
  have hfield : (p.addressed id).field? "payload" = some p := rfl
  rw [payload, Option.bind_some, hfield]
  cases p with
  | null => exact absurd rfl hp
  | _ => rfl

/-- A payload that stands alone leaves it to the query to name the rule. -/
theorem pushedId?_standsAlone (hid : id ≠ "") (hp : p.StandsAlone) {query : Form}
    (hquery : query.last? "ruleId" = some id) : pushedId? query (some p) = some (.text id) := by
  have hname : pushedId?.fromQuery query = some (.text id) := by
    rw [pushedId?.fromQuery, hquery]
    simp [hid]
  rw [pushedId?, Option.bind_some]
  cases hfield : p.field? "ruleId" with
  | none => exact hname
  | some v =>
    simp only [hp.noRule v hfield]
    exact hname

/-- A payload that stands alone is what is pushed. -/
theorem payload_standsAlone (hp : p.StandsAlone) : payload (some p) = p := by
  rw [payload, Option.bind_some]
  cases hfield : p.field? "payload" with
  | none => rfl
  | some v =>
    obtain rfl := hp.noPayload v hfield
    rfl

/-- What becomes of a push when the store has been asked for the rule that it names. -/
def answerPush (service : Service) (net : Network) (sent : Nat) (id : String) (p : Value) :
    Except RuleError (Option Rule) → Outcome
  | .ok (some rule) => service.deliver net sent rule p
  | .ok none => .quiet (.refusalText 404 ("Rule not found with ID: " ++ id))
  | .error _ => .quiet .broken

/-- A push is handled by what it names and what it holds. -/
theorem handle_push {r : Request} {v : Value} (hpush : r.action = .ok .push)
    (hbody : r.content = .ok (some v)) (hid : pushedId? r.query (some v) = some (.text id))
    (hp : payload (some v) = p) :
    service.handle net sent r =
      (service.store.get id).map (service.answerPush net sent id p) := by
  rw [handle, hpush]
  simp only [withBody, hbody, push, hid, hp]
  rfl

/-- A push whose body cannot be read is handled alike, whatever it names. -/
theorem handle_push_of_error {r : Request} {e : BodyError} (hpush : r.action = .ok .push)
    (hbody : r.content = .error e) :
    service.handle net sent r = .done (.quiet (.ofBodyError e)) := by
  rw [handle, hpush]
  simp only [withBody, hbody]

/-- **The two ways to name the rule of a push agree.**  Let the text of a payload be JSON, and
let the payload stand alone if it can be read.  In any state of the service and with any
network, a push of a body that names the rule and holds the payload is handled by the same script
as the push of the payload with the id in the query.  So it has the same outcome and leaves the
same state, whatever the store.  The memory stays as it is, and if there is such a rule then it
is this payload that is delivered.

Putting the text of the payload behind the id makes such a body. -/
theorem addressees_agree (service : Service) (net : Network) (s : State) {id : String}
    (hid : id ≠ "") {isPlain : Char → Bool} (hplain : ∀ c ∈ ['%', '&', '+'], isPlain c = false)
    {text : Wide} (hjson : Json.read text.points ≠ .error .malformed)
    (hp : ∀ p, Json.read text.points = .ok p → p.StandsAlone) :
    let holds (body : Body) : Prop := (Request.pushByBody body).content =
      ((Json.read text.points).map fun p => some (p.addressed id)).mapError .unreadable
    let query := Request.pushByQuery isPlain id (.text text)
    holds (.text (Json.addressedText id text)) ∧ ∀ body, holds body →
      (∀ sent, service.handle net sent (.pushByBody body) = service.handle net sent query) ∧
      service.step net s (.pushByBody body) = service.step net s query ∧
      (service.step net s query).2.memory = s.memory ∧
      ∀ p rule, Json.read text.points = .ok p →
        ((service.store.get id).run Memory.backend s.memory).1 = .ok (some rule) →
          (service.step net s query).1 = service.deliver net s.sent rule p := by
  intro holds query
  have haction : query.action = .ok .push := Request.action_pushByQuery id (.text text)
  have hname : query.query.last? "ruleId" = some id :=
    Request.last?_pushByQuery id (.text text) hplain
  have hcontent : query.content = ((Json.read text.points).map some).mapError .unreadable :=
    Request.content_of_json rfl hjson
  have hquery : ∀ p sent, Json.read text.points = .ok p → service.handle net sent query =
      (service.store.get id).map (service.answerPush net sent id p) := by
    intro p sent hread
    rw [hread] at hcontent
    exact handle_push haction hcontent (pushedId?_standsAlone hid (hp p hread) hname)
      (payload_standsAlone (hp p hread))
  refine ⟨Request.content_addressedText id hjson, fun body hbody => ?_⟩
  have hhandle : ∀ sent, service.handle net sent (.pushByBody body) =
      service.handle net sent query := by
    intro sent
    cases hread : Json.read text.points with
    | error e =>
      rw [hread] at hcontent
      have hrefused : (Request.pushByBody body).content = .error (.unreadable e) := by
        rw [hbody, hread]
        rfl
      rw [handle_push_of_error haction hcontent,
        handle_push_of_error (Request.action_pushByBody body) hrefused]
    | ok p =>
      have hheld : (Request.pushByBody body).content = .ok (some (p.addressed id)) := by
        rw [hbody, hread]
        rfl
      rw [hquery p sent hread, handle_push (Request.action_pushByBody body) hheld
        (pushedId?_addressed hid _) (payload_addressed (hp p hread).notNull)]
  refine ⟨hhandle, ?_, ?_, fun p rule hread hrule => ?_⟩
  · rw [step, step, hhandle]
  · exact step_memory_of_action_ne (by rw [haction]; exact nofun) fun id => by
      rw [haction]
      exact nofun
  · rw [step_outcome_eq, hquery p s.sent hread, Script.run_map, hrule]
    rfl

/-- A payload with an empty id and without another payload in it, and an id that needs escapes. -/
theorem addressees_agree_empty :
    let service : Service :=
      ⟨{}, ⟨.zero false, 1, .zero false, Nat.le_refl 1⟩, Clock.standard⟩
    let net := Network.ofReplies []
    let id := "a b&é"
    let rule : Rule := ⟨⟨id, by decide⟩, ⟨"n", by decide⟩,
      ⟨⟨"$\x7bt\x7d", by decide⟩, ⟨"b", by decide⟩, none, none, none, none⟩,
      ⟨"https://x/y", by decide⟩⟩
    let s := service.after net [⟨"POST", "/rules", rule.toJson⟩] initial
    let p : Value := .object [("ruleId", .text ""), ("payload", .null), ("t", .int 0)]
    let text : Wide := .text (Json.text p)
    let query := Request.pushByQuery Form.isPlain id (.text text)
    query.target = "/push?ruleId=a%20b%26%C3%A9" ∧ Json.read text.points = .ok p ∧
      p.StandsAlone ∧
      service.step net s (.pushByBody (.text (Json.addressedText id text))) =
        service.step net s query ∧
      (service.step net s query).1 = service.deliver net s.sent rule p := by
  intro service net id rule s p text query
  have hproper : p.Proper := by
    simp only [p, Value.Proper, Value.ProperEntries, and_true, true_and]
    decide
  have hread : Json.read text.points = .ok p := by
    have hlist : text.points = Json.write p := Json.points_text_of_hasGarbled_eq_false rfl
    rw [hlist]
    exact Json.readWithin_write (Value.Proper.legible p 0 hproper)
  have halone : p.StandsAlone := by
    refine ⟨nofun, fun v hv => ?_, fun v hv => ?_⟩
    · obtain rfl := Option.some.inj hv
      rfl
    · obtain rfl := Option.some.inj hv
      rfl
  have hjson : Json.read text.points ≠ .error .malformed := by
    rw [hread]
    exact nofun
  have hp : ∀ q, Json.read text.points = .ok q → q.StandsAlone := by
    intro q hq
    rw [hread] at hq
    obtain rfl := Except.ok.inj hq
    exact halone
  have hsaved : s.memory.get? (service.store.key id) = some rule.toJson := by decide +kernel
  have hrule : ((service.store.get id).run Memory.backend s.memory).1 = .ok (some rule) :=
    congrArg Prod.fst (run_get_of_get? service.store hsaved)
  have hid : id ≠ "" := by decide
  have hplain : ∀ c ∈ ['%', '&', '+'], Form.isPlain c = false := by
    simp only [List.mem_cons, List.not_mem_nil, or_false]
    rintro c (rfl | rfl | rfl) <;> rfl
  obtain ⟨hholds, hagree⟩ := addressees_agree service net s hid hplain hjson hp
  obtain ⟨-, hsame, -, hdelivered⟩ := hagree _ hholds
  exact ⟨by decide +kernel, hread, halone, hsame, hdelivered p rule hread hrule⟩

end Service

end WebhookRelay
