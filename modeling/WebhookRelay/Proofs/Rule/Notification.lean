import WebhookRelay.Json.Reader
import WebhookRelay.Proofs.Form.RoundTrip
import WebhookRelay.Proofs.Json.Unicode
import WebhookRelay.Proofs.Rule.RoundTrip
import WebhookRelay.Proofs.Value.Parts
import WebhookRelay.Rule.Notification

/-! # The parameters of a notification

The parameters of a notification are what the templates of its rule render to, under the
keys of the templates and in their order (`Rule.parameters_eq_ok_iff`); if one of them
cannot be rendered there are none, and the first such template decides why
(`Rule.parameters_eq_error_iff`).

They are appended to the endpoint of the rule as a query, and a query carries any form.
So a payload has no way to alter, add or hide a parameter, whatever texts the templates
render to.  Only a garbled text has no form, and a template renders to one only over a
payload that holds one (`Rule.query_carries_parameters`).
-/

namespace WebhookRelay

/-! ## Garbled texts -/

namespace Template

variable {data : Value}

/-- A value without garbled texts is not shown as one. -/
theorem isGarbled_of_shown {v : Value} {text : Wide} (hv : v.hasGarbled = false)
    (h : v.shown = .ok text) : text.isGarbled = false := by
  have hcontainer : v.isContainer = true → text.isGarbled = false := by
    intro hcontainer
    rw [Value.shown_of_isContainer hcontainer] at h
    split at h
    · cases h
    · obtain rfl := Except.ok.inj h
      rw [Wide.isGarbled_eq_any, Wide.points_ofPoints, Json.any_isSurrogate_write, hv]
  cases v with
  | garbled g => cases hv
  | int n =>
    rw [Value.shown] at h
    cases hdigits : Numeral.ofInt? n with
    | error fault =>
      rw [hdigits] at h
      cases h
    | ok digits =>
      rw [hdigits] at h
      obtain rfl := Except.ok.inj h
      rfl
  | list items => exact hcontainer rfl
  | object entries => exact hcontainer rfl
  | bool b =>
    obtain rfl := Except.ok.inj h
    cases b <;> rfl
  | _ =>
    obtain rfl := Except.ok.inj h
    rfl

theorem Segment.RendersTo.isGarbled_eq_false {seg : Segment} {text : Wide}
    (h : seg.RendersTo data text) (hdata : data.hasGarbled = false) : text.isGarbled = false := by
  cases h with
  | path _ hfound hshown =>
    exact isGarbled_of_shown (Path.anyPart_of_resolve hdata rfl hfound) hshown
  | truthy _ _ hshown =>
    exact isGarbled_of_shown (Expression.anyPart_evaluate hdata rfl (fun _ => rfl) _) hshown
  | _ => rfl

/-- **Over a payload without garbled texts** no template renders to one. -/
theorem isGarbled_of_render {template : String} {text : Wide} (hdata : data.hasGarbled = false)
    (h : render template data = .ok text) : text.isGarbled = false := by
  obtain ⟨texts, htexts, rfl⟩ := render_eq_ok_iff.mp h
  clear h
  generalize segments template.toList = segs at htexts
  induction htexts with
  | nil => rfl
  | cons hseg _ ih =>
    rw [Wide.join_cons, Wide.isGarbled_append, hseg.isGarbled_eq_false hdata, ih]
    rfl

end Template

namespace Parameters

/-- A form as parameters. -/
def ofForm (form : Form) : Parameters := form.map fun (key, s) => (key, .text s)

theorem ofForm_cons (key s : String) (form : Form) :
    ofForm ((key, s) :: form) = (key, .text s) :: ofForm form := rfl

/-- The form of parameters is the one that they are. -/
theorem toForm_eq_ok_iff {parameters : Parameters} {form : Form} :
    parameters.toForm = .ok form ↔ parameters = ofForm form := by
  induction parameters generalizing form with
  | nil => cases form <;> simp [toForm, ofForm]
  | cons parameter rest ih =>
    obtain ⟨key, text⟩ := parameter
    cases text with
    | garbled g => cases form <;> simp [toForm, ofForm]
    | text s =>
      rw [toForm]
      cases form with
      | nil => cases toForm rest <;> simp [ofForm, Except.map]
      | cons pair form =>
        obtain ⟨other, t⟩ := pair
        rw [ofForm_cons, List.cons.injEq, ← ih]
        cases toForm rest <;> simp [Except.map]

theorem keys_ofForm (form : Form) : (ofForm form).map Prod.fst = form.map Prod.fst := by
  rw [ofForm, List.map_map]
  rfl

theorem mem_ofForm {key s : String} {form : Form} :
    (key, .text s) ∈ ofForm form ↔ (key, s) ∈ form := by
  simp [ofForm]

/-- Parameters have a form if and only if none of them is garbled. -/
theorem exists_toForm_eq_ok_iff {parameters : Parameters} :
    (∃ form, parameters.toForm = .ok form) ↔ ∀ p ∈ parameters, p.2.isGarbled = false := by
  induction parameters with
  | nil => simp [toForm]
  | cons parameter rest ih =>
    obtain ⟨key, text⟩ := parameter
    rw [List.forall_mem_cons, ← ih]
    cases text with
    | garbled g => simp [toForm, Wide.isGarbled]
    | text s => cases h : toForm rest <;> simp [toForm, h, Except.map, Wide.isGarbled]

end Parameters

theorem Url.withParameters_eq_ok_iff {url built : String} {parameters : Parameters} :
    withParameters url parameters = .ok built ↔
      ∃ form, parameters = Parameters.ofForm form ∧ built = withQuery url form := by
  simp only [withParameters, ← Parameters.toForm_eq_ok_iff]
  cases parameters.toForm <;> simp [Except.map, eq_comm]

theorem Url.exists_withParameters_eq_ok_iff (url : String) (parameters : Parameters) :
    (∃ built, withParameters url parameters = .ok built) ↔
      ∀ p ∈ parameters, p.2.isGarbled = false := by
  rw [← Parameters.exists_toForm_eq_ok_iff, withParameters]
  cases parameters.toForm <;> simp [Except.map]

/-! ## Parameters -/

namespace Rule

variable {rule : Rule} {payload : Value}

/-- A parameter stands for what its template renders to, under the same key. -/
def Renders (payload : Value) (entry : String × String) (parameter : String × Wide) : Prop :=
  parameter.1 = entry.1 ∧ Template.render entry.2 payload = .ok parameter.2

/-- **The parameters are what the templates render to**, in the order of the templates. -/
theorem parameters_eq_ok_iff {rendered : Parameters} :
    rule.parameters payload = .ok rendered ↔
      List.Forall₂ (Renders payload) rule.mapping.templates rendered := by
  rw [parameters, mapM_eq_ok_iff]
  refine iff_of_eq (congrArg (List.Forall₂ · rule.mapping.templates rendered) ?_)
  funext entry parameter
  obtain ⟨key, template⟩ := entry
  obtain ⟨other, text⟩ := parameter
  cases hrender : Template.render template payload with
  | error fault => simp [Renders, hrender, Except.map]
  | ok out => simp [Renders, hrender, Except.map, eq_comm]

/-- **The first template that cannot be rendered** decides why there are no parameters. -/
theorem parameters_eq_error_iff {fault : Fault} :
    rule.parameters payload = .error fault ↔ ∃ before key template after,
      rule.mapping.templates = before ++ (key, template) :: after ∧
      (∀ entry ∈ before, ∃ text, Template.render entry.2 payload = .ok text) ∧
      Template.render template payload = .error fault := by
  rw [parameters, mapM_eq_error_iff]
  constructor
  · rintro ⟨before, ⟨key, template⟩, after, htemplates, hbefore, hfault⟩
    refine ⟨before, key, template, after, htemplates, fun entry hentry => ?_,
      map_eq_error_iff.mp hfault⟩
    obtain ⟨parameter, hparameter⟩ := hbefore entry hentry
    cases hrender : Template.render entry.2 payload with
    | error other => simp [hrender, Except.map] at hparameter
    | ok text => exact ⟨text, rfl⟩
  · rintro ⟨before, key, template, after, htemplates, hbefore, hfault⟩
    refine ⟨before, (key, template), after, htemplates, fun entry hentry => ?_,
      map_eq_error_iff.mpr hfault⟩
    obtain ⟨text, htext⟩ := hbefore entry hentry
    exact ⟨(entry.1, text), by simp [htext, Except.map]⟩

/-- A template of the rule has a placeholder that cannot be filled over a payload. -/
def IsUnfillable (rule : Rule) (payload : Value) : Prop :=
  ∃ key template body fault, (key, template) ∈ rule.mapping.templates ∧
    .placeholder body ∈ Template.segments template.toList ∧
    Template.Unfillable payload body fault

/-- There are no parameters if and only if some placeholder cannot be filled. -/
theorem exists_parameters_eq_error_iff :
    (∃ fault, rule.parameters payload = .error fault) ↔ rule.IsUnfillable payload := by
  rw [parameters, exists_mapM_eq_error_iff]
  simp only [map_eq_error_iff, Template.exists_render_eq_error_iff]
  constructor
  · rintro ⟨⟨key, template⟩, hmem, body, fault, hbody, hfault⟩
    exact ⟨key, template, body, fault, hmem, hbody, hfault⟩
  · rintro ⟨key, template, body, fault, hmem, hbody, hfault⟩
    exact ⟨(key, template), hmem, body, fault, hbody, hfault⟩

/-- The optional parameters are those whose templates the rule defines. -/
theorem mem_of_forall₂_defined {options : List (String × Option String)} {others : Parameters}
    (h : List.Forall₂ (Renders payload) (Mapping.defined options) others) (key : String)
    (text : Wide) :
    (key, text) ∈ others ↔ ∃ template, (key, some template) ∈ options ∧
      Template.render template payload = .ok text := by
  induction options generalizing others with
  | nil =>
    cases h
    simp
  | cons option options ih =>
    obtain ⟨k, template⟩ := option
    cases template with
    | none =>
      rw [ih h]
      simp
    | some t =>
      obtain ⟨⟨other, out⟩, later, ⟨hkey, hout⟩, hlater, rfl⟩ := List.forall₂_cons_left_iff.mp h
      obtain rfl : other = k := hkey
      simp only [List.mem_cons, Prod.mk.injEq, Option.some.injEq, ih hlater]
      constructor
      · rintro (⟨rfl, rfl⟩ | ⟨u, hmem, hu⟩)
        · exact ⟨t, Or.inl ⟨rfl, rfl⟩, hout⟩
        · exact ⟨u, Or.inr hmem, hu⟩
      · rintro ⟨u, ⟨rfl, rfl⟩ | hmem, hu⟩
        · exact Or.inl ⟨rfl, Except.ok.inj (hu.symm.trans hout)⟩
        · exact Or.inr ⟨u, hmem, hu⟩

theorem keys_of_forall₂ {entries : List (String × String)} {rendered : Parameters}
    (h : List.Forall₂ (Renders payload) entries rendered) :
    rendered.map Prod.fst = entries.map Prod.fst := by
  induction h with
  | nil => rfl
  | cons hhead _ ih => rw [List.map_cons, List.map_cons, hhead.1, ih]

/-- Over a payload without garbled texts no parameter is one. -/
theorem isGarbled_of_forall₂ {entries : List (String × String)} {rendered : Parameters}
    (hpayload : payload.hasGarbled = false) (h : List.Forall₂ (Renders payload) entries rendered) :
    ∀ p ∈ rendered, p.2.isGarbled = false := by
  induction h with
  | nil => exact nofun
  | cons hhead _ ih =>
    exact List.forall_mem_cons.mpr ⟨Template.isGarbled_of_render hpayload hhead.2, ih⟩

/-- The parameters of a notification with a query: its title, its body, and the others with
what their own templates render to. -/
theorem exists_form_of_parameters {form : Form}
    (h : rule.parameters payload = .ok (Parameters.ofForm form)) :
    ∃ (title body : String) (others : Form),
      form = ("title", title) :: ("body", body) :: others ∧
      Template.render rule.mapping.title.val payload = .ok title ∧
      Template.render rule.mapping.body.val payload = .ok body ∧
      (others.map Prod.fst).Sublist ["group", "icon", "url", "sound"] ∧
      ∀ key text, (key, text) ∈ others ↔ ∃ template,
        (key, some template) ∈ rule.mapping.options ∧
        Template.render template payload = .ok (.text text) := by
  have hall := parameters_eq_ok_iff.mp h
  match form, hall with
  | (titleKey, title) :: (bodyKey, body) :: others, .cons htitle (.cons hbody hothers) =>
    obtain ⟨rfl, htitle⟩ : titleKey = "title" ∧ _ := htitle
    obtain ⟨rfl, hbody⟩ : bodyKey = "body" ∧ _ := hbody
    have hothers : List.Forall₂ (Renders payload) (Mapping.defined rule.mapping.options)
      (Parameters.ofForm others) := hothers
    refine ⟨title, body, others, rfl, htitle, hbody, ?_, fun key text => ?_⟩
    · rw [← Parameters.keys_ofForm, keys_of_forall₂ hothers]
      exact Mapping.keys_defined_sublist rule.mapping.options
    · rw [← mem_of_forall₂_defined hothers, Parameters.mem_ofForm]

/-- **No payload can alter the parameters of a notification.**  Behind any URL a query
carries any form: one separator, then basic characters that are read as the pairs of the
form in their order.  Parameters have such a query if and only if none of them is garbled.
So the query of a notification, if it has one, is read as the title, the body and those of
the optional parameters whose templates the rule defines, in their order, each with the
text that its own template renders to, whatever these texts are.  It has one over every
payload without garbled texts. -/
theorem query_carries_parameters :
    (∀ (url : String) (form : Form), form ≠ [] → ∃ built,
      Url.withParameters url (Parameters.ofForm form) = .ok built ∧
      Url.Carries built url form) ∧
    (∀ (url : String) (parameters : Parameters),
      (∃ built, Url.withParameters url parameters = .ok built) ↔
        ∀ p ∈ parameters, p.2.isGarbled = false) ∧
    ∀ (rule : Rule) (payload : Value) (parameters : Parameters),
      rule.parameters payload = .ok parameters →
      (payload.hasGarbled = false →
        ∃ built, Url.withParameters rule.endpoint.val parameters = .ok built) ∧
      ∀ built, Url.withParameters rule.endpoint.val parameters = .ok built →
        ∃ (title body : String) (others : Form),
          Url.Carries built rule.endpoint.val (("title", title) :: ("body", body) :: others) ∧
          Template.render rule.mapping.title.val payload = .ok title ∧
          Template.render rule.mapping.body.val payload = .ok body ∧
          (others.map Prod.fst).Sublist ["group", "icon", "url", "sound"] ∧
          ∀ key text, (key, text) ∈ others ↔ ∃ template,
            (key, some template) ∈ rule.mapping.options ∧
            Template.render template payload = .ok (.text text) := by
  refine ⟨fun url form hform => ⟨_, Url.withParameters_eq_ok_iff.mpr ⟨form, rfl, rfl⟩,
    Url.carries_withQuery url hform⟩, Url.exists_withParameters_eq_ok_iff,
    fun rule payload parameters h => ⟨fun hpayload => ?_, fun built hbuilt => ?_⟩⟩
  · exact (Url.exists_withParameters_eq_ok_iff _ _).mpr
      (isGarbled_of_forall₂ hpayload (parameters_eq_ok_iff.mp h))
  · obtain ⟨form, rfl, rfl⟩ := Url.withParameters_eq_ok_iff.mp hbuilt
    obtain ⟨title, body, others, rfl, hparts⟩ := exists_form_of_parameters h
    exact ⟨title, body, others, Url.carries_withQuery _ (List.cons_ne_nil _ _), hparts⟩

/-- A payload that holds separators and a placeholder of its own. -/
theorem query_carries_parameters_hostile :
    let rule : Rule := ⟨⟨"r", by decide⟩, ⟨"n", by decide⟩,
      ⟨⟨"$\x7bt\x7d", by decide⟩, ⟨"b", by decide⟩, none, none, none, some "é"⟩,
      ⟨"https://x/y?z", by decide⟩⟩
    let payload : Value := .object [("t", .text "&body=1 +%26$\x7bt\x7d#?")]
    let form : Form := [("title", "&body=1 +%26$\x7bt\x7d#?"), ("body", "b"), ("sound", "é")]
    form ≠ [] ∧ rule.parameters payload = .ok (Parameters.ofForm form) ∧
      payload.hasGarbled = false ∧
      ∃ built, Url.withParameters "https://x/y?z" (Parameters.ofForm form) = .ok built ∧
        Url.Carries built "https://x/y?z" form ∧
        ∃ title body others,
          Url.Carries built "https://x/y?z" (("title", title) :: ("body", body) :: others) := by
  intro rule payload form
  have hparameters : rule.parameters payload = .ok (Parameters.ofForm form) := by decide +kernel
  have hplain : payload.hasGarbled = false := by decide +kernel
  obtain ⟨hcarries, -, hrule⟩ := query_carries_parameters
  obtain ⟨hbuilds, hreads⟩ := hrule rule payload _ hparameters
  obtain ⟨built, hbuilt, hform⟩ := hcarries "https://x/y?z" form (List.cons_ne_nil _ _)
  obtain ⟨title, body, others, hothers, -⟩ := hreads built hbuilt
  exact ⟨List.cons_ne_nil _ _, hparameters, hplain, built, hbuilt, hform,
    title, body, others, hothers⟩

/-- Half of a surrogate pair, which a payload may hold as an escape, leaves a notification
without a query although its templates are rendered. -/
theorem no_query_of_surrogate :
    let rule : Rule := ⟨⟨"r", by decide⟩, ⟨"n", by decide⟩,
      ⟨⟨"$\x7bn\x7d", by decide⟩, ⟨"b", by decide⟩, none, none, none, none⟩,
      ⟨"https://x/y", by decide⟩⟩
    let half : Garbled := ⟨[.surrogate ⟨0xD800, by decide⟩], by decide⟩
    let parameters : Parameters := [("title", .garbled half), ("body", "b")]
    (∃ payload, Json.read ("\x7b\"n\":\"\\ud800\"\x7d".toList.map .char) = .ok payload ∧
      rule.parameters payload = .ok parameters) ∧
      ¬ ∃ built, Url.withParameters rule.endpoint.val parameters = .ok built := by
  intro rule half parameters
  refine ⟨?_, ?_⟩
  · have hread : (Json.read ("\x7b\"n\":\"\\ud800\"\x7d".toList.map .char)).map
        rule.parameters = .ok (.ok parameters) := by
      decide +kernel
    generalize Json.read ("\x7b\"n\":\"\\ud800\"\x7d".toList.map .char) = read at hread ⊢
    cases read with
    | error e => cases hread
    | ok payload => exact ⟨payload, rfl, Except.ok.inj hread⟩
  · rintro ⟨built, hbuilt⟩
    have herror : Url.withParameters rule.endpoint.val parameters = .error half := rfl
    rw [herror] at hbuilt
    cases hbuilt

end Rule
end WebhookRelay
