import Mathlib.Data.List.Forall2
import RequestLine.Proofs.Service.Boundary

set_option autoImplicit false

namespace RequestLine

namespace Http

def values (name : String) (headers : Headers) : List Text :=
  (headers.filter fun h => h.1.lower == (Text.ofString name).lower).map (·.2)

theorem values_append (name : String) (hs ks : Headers) :
    values name (hs ++ ks) = values name hs ++ values name ks := by
  rw [values, List.filter_append, List.map_append]
  rfl

theorem values_own {name : String} {called : Text}
    (own : (called.lower == (Text.ofString name).lower) = true) (value : Text) :
    values name [(called, value)] = [value] := by
  simp [values, own]

theorem values_other {name : String} {called : Text}
    (other : (called.lower == (Text.ofString name).lower) = false) (value : Text) :
    values name [(called, value)] = [] := by
  simp [values, other]

def Answer.admitted (a : Answer) : List Text := values "Access-Control-Allow-Origin" a.headers

def Answer.bare (a : Answer) : Nat × Option Text := (a.status, a.body)

theorem admitted_json (status : Nat) (body : Text) : (Answer.json status body).admitted = [] :=
  values_other (by decide +kernel) _

theorem admitted_plain (status : Nat) (body : Text) : (Answer.plain status body).admitted = [] :=
  values_other (by decide +kernel) _

structure Request.Handled (r : Request) (resource : Service.Resource) : Prop where
  path : r.path? = some (Text.ofString resource.path)
  method : r.method.upper ∈ resource.methods.map Text.ofString

/-- The requests differ at most in what they call their origin. -/
structure Request.Alike (r r' : Request) : Prop where
  method : r.method = r'.method
  target : r.target = r'.target
  body : r.body = r'.body
  headers : r.headers.filter (·.1.lower != (Text.ofString "Origin").lower) =
    r'.headers.filter (·.1.lower != (Text.ofString "Origin").lower)

theorem Request.Alike.header? {r r' : Request} (alike : r.Alike r') {name : String}
    (other : (Text.ofString name).lower ≠ (Text.ofString "Origin").lower) :
    r.header? name = r'.header? name := by
  have found (headers : Headers) :
      headers.find? (fun h => h.1.lower == (Text.ofString name).lower) =
        (headers.filter (·.1.lower != (Text.ofString "Origin").lower)).find?
          (fun h => h.1.lower == (Text.ofString name).lower) := by
    rw [List.find?_filter]
    congr 1
    funext h
    by_cases same : h.1.lower = (Text.ofString name).lower
    · simp [same, other]
    · simp [same]
  rw [Request.header?, Request.header?, Http.header?, Http.header?, found, found r'.headers,
    alike.headers]

end Http

namespace Cors

theorem allows_iff {configured origin : Text} :
    allows configured origin = true ↔ configured = Text.ofString "*" ∨ configured = origin := by
  simp [allows]

theorem values_grant (origin : Text) :
    Http.values "Access-Control-Allow-Origin" (grant origin) = [origin] :=
  Http.values_own (by decide +kernel) origin

theorem values_credentials : Http.values "Access-Control-Allow-Origin" credentials = [] :=
  Http.values_other (by decide +kernel) _

theorem values_exposed : Http.values "Access-Control-Allow-Origin" exposed = [] :=
  Http.values_other (by decide +kernel) _

theorem values_allowedMethod (method : Text) :
    Http.values "Access-Control-Allow-Origin" (allowedMethod method) = [] :=
  Http.values_other (by decide +kernel) method

theorem values_allowedHeaders (r : Http.Request) :
    Http.values "Access-Control-Allow-Origin" (allowedHeaders r) = [] := by
  unfold allowedHeaders
  split
  · rfl
  · exact Http.values_other (by decide +kernel) _

theorem admitted_permit (origin method : Text) (r : Http.Request) :
    (permit origin method r).admitted = [origin] := by
  simp only [Http.Answer.admitted, permit, Http.values_append, values_credentials,
    values_allowedHeaders, values_allowedMethod, values_grant, List.nil_append]

theorem headers_of_allows {configured origin : Text} {r : Http.Request}
    (asking : r.header? "Origin" = some origin) (allowed : allows configured origin = true) :
    headers configured r = credentials ++ grant origin ++ exposed := by
  rw [headers, asking]
  exact if_pos allowed

theorem headers_cases (configured : Text) (r : Http.Request) :
    headers configured r = [] ∨ ∃ origin, r.header? "Origin" = some origin ∧
      allows configured origin = true ∧
      headers configured r = credentials ++ grant origin ++ exposed := by
  cases asking : r.header? "Origin" with
  | none => exact .inl (by rw [headers, asking])
  | some origin =>
    by_cases allowed : allows configured origin
    · exact .inr ⟨origin, rfl, allowed, headers_of_allows asking allowed⟩
    · exact .inl (by rw [headers, asking]; exact if_neg allowed)

theorem preflight_eq_ok {configured : Text} {methods : List Text} {r : Http.Request}
    {a : Http.Answer} (h : preflight configured methods r = .ok a) :
    ∃ origin method, r.header? "Origin" = some origin ∧ allows configured origin = true ∧
      a = permit origin method r := by
  unfold preflight at h
  split at h
  · cases h
  · cases h
  next origin method asking asked =>
    split at h
    · cases h
    · split at h
      · cases h
      next allowed =>
        cases h
        exact ⟨origin, method, asking, by simpa using allowed, rfl⟩

end Cors

namespace Service

variable {ω : Type} {s s' : Service ω} {r r' : Http.Request}

def Welcomes (s : Service ω) (origin : Text) : Prop :=
  s.origin = Text.ofString "*" ∨ s.origin = origin

/-- What an answer says to the origin of its request. -/
structure Access (s : Service ω) (r : Http.Request) (a : Http.Answer) : Prop where
  only : ∀ origin ∈ a.admitted, r.header? "Origin" = some origin ∧ s.Welcomes origin
  once : a.admitted.length ≤ 1
  handled : ∀ resource, r.Handled resource → ∀ origin, r.header? "Origin" = some origin →
    s.Welcomes origin →
      (Text.ofString "Access-Control-Allow-Origin", origin) ∈ a.headers ∧
      (Text.ofString "Access-Control-Allow-Credentials", Text.ofString "true") ∈ a.headers

theorem Resource.ofPath?_path (resource : Resource) :
    Resource.ofPath? (Text.ofString resource.path) = some resource := by
  cases resource <;> decide

theorem not_options_of_handled {resource : Resource} (handled : r.Handled resource) :
    r.method.upper ≠ Text.ofString "OPTIONS" := by
  intro options
  have listed := options ▸ handled.method
  revert listed
  cases resource <;> decide

theorem found_of_handled {resource : Resource} {path : Text} (handled : r.Handled resource)
    (target : r.path? = some path) : Resource.ofPath? path = some resource := by
  cases target.symm.trans handled.path
  exact Resource.ofPath?_path resource

inductive Route (r : Http.Request) : Prop where
  | unreadable (path : r.path? = none)
  | unknown {path : Text} (target : r.path? = some path) (unknown : Resource.ofPath? path = none)
  | preflight {path : Text} {resource : Resource} (target : r.path? = some path)
      (found : Resource.ofPath? path = some resource)
      (options : r.method.upper = Text.ofString "OPTIONS")
  | foreign {path : Text} {resource : Resource} (target : r.path? = some path)
      (found : Resource.ofPath? path = some resource)
      (other : r.method.upper ≠ Text.ofString "OPTIONS")
      (foreign : r.method.upper ∉ resource.methods.map Text.ofString)
  | handled {resource : Resource} (handled : r.Handled resource)

theorem exists_route (r : Http.Request) : Route r := by
  cases target : r.path? with
  | none => exact .unreadable target
  | some path =>
    cases found : Resource.ofPath? path with
    | none => exact .unknown target found
    | some resource =>
      by_cases options : r.method.upper = Text.ofString "OPTIONS"
      · exact .preflight target found options
      · by_cases own : r.method.upper ∈ resource.methods.map Text.ofString
        · have same : Text.ofString resource.path = path := by
            simpa using List.find?_some found
          exact .handled ⟨same ▸ target, own⟩
        · exact .foreign target found options own

theorem admits_of_allows {a : Http.Answer} {origin : Text} (alone : a.admitted = [origin])
    (asking : r.header? "Origin" = some origin) (allowed : Cors.allows s.origin origin = true) :
    ∀ other ∈ a.admitted, r.header? "Origin" = some other ∧ s.Welcomes other := by
  intro other h
  rw [alone] at h
  cases List.mem_singleton.mp h
  exact ⟨asking, Cors.allows_iff.mp allowed⟩

theorem access_granted (status : Nat) (body : Text) :
    Access s r (s.granted r (.json status body)) := by
  have admitted : (s.granted r (.json status body)).admitted =
      Http.values "Access-Control-Allow-Origin" (Cors.headers s.origin r) ++
        (Http.Answer.json status body).admitted := Http.values_append _ _ _
  rw [Http.admitted_json, List.append_nil] at admitted
  rcases Cors.headers_cases s.origin r with silent | ⟨origin, asking, allowed, spoken⟩
  · have nobody : (s.granted r (.json status body)).admitted = [] := by
      rw [admitted, silent]
      rfl
    refine ⟨by simp [nobody], by simp [nobody], ?_⟩
    intro resource _ origin asking welcome
    rw [Cors.headers_of_allows asking (Cors.allows_iff.mpr welcome)] at silent
    cases silent
  · have alone : (s.granted r (.json status body)).admitted = [origin] := by
      simp only [admitted, spoken, Http.values_append, Cors.values_credentials, Cors.values_grant,
        Cors.values_exposed, List.nil_append, List.append_nil]
    refine ⟨admits_of_allows alone asking allowed, by simp [alone], ?_⟩
    intro resource _ other same _
    cases asking.symm.trans same
    simp [granted, spoken, Cors.credentials, Cors.grant]

theorem access_of_silent {a : Http.Answer} (silent : a.admitted = [])
    (unhandled : ∀ resource, ¬ r.Handled resource) : Access s r a :=
  ⟨by simp [silent], by simp [silent],
    fun resource handled => absurd handled (unhandled resource)⟩

section

variable [Runtime]

theorem exists_json_of_answerLine {a : Http.Answer} {w left : World ω}
    (h : (s.answerLine r).run w = (.ok a, left)) : ∃ status body, a = .json status body := by
  have handled := handled_answerLine s r w
  rw [h] at handled
  cases handled with
  | reported performed written => exact ⟨200, _, rfl⟩
  | refused performed stays =>
    rcases refusal_cases _ with ⟨m, same⟩ | same
    · exact ⟨_, _, same⟩
    · exact ⟨_, _, same⟩

def respond (s : Service ω) (r : Http.Request) : Resource → Action ω Http.Answer
  | .line => s.answerLine r
  | .status => pure status

theorem answer_unknown {path : Text} (target : r.path? = some path)
    (unknown : Resource.ofPath? path = none) : s.answer r = pure notFound := by
  simp only [answer, target, unknown]

section

variable {path : Text} {resource : Resource} (target : r.path? = some path)
  (found : Resource.ofPath? path = some resource)

include target found

theorem answer_preflight (options : r.method.upper = Text.ofString "OPTIONS") :
    ∃ a, s.answer r = pure a ∧ ((∃ refusal : Cors.Refusal, a = refusal.answer) ∨
      Cors.preflight s.origin (resource.methods.map Text.ofString) r = .ok a) := by
  simp only [answer, target, found, answerAt, if_pos options]
  cases Cors.preflight s.origin (resource.methods.map Text.ofString) r with
  | error refusal => exact ⟨_, rfl, .inl ⟨refusal, rfl⟩⟩
  | ok a => exact ⟨a, rfl, .inr rfl⟩

theorem answer_foreign (other : r.method.upper ≠ Text.ofString "OPTIONS")
    (foreign : r.method.upper ∉ resource.methods.map Text.ofString) :
    s.answer r = pure (methodNotAllowed resource) := by
  have unlisted : (!(resource.methods.map Text.ofString).contains r.method.upper) = true := by
    simpa using foreign
  simp only [answer, target, found, answerAt, if_neg other, if_pos unlisted]

end

theorem answer_handled {resource : Resource} (handled : r.Handled resource) :
    s.answer r = s.granted r <$> s.respond r resource := by
  have found := Resource.ofPath?_path resource
  have other := not_options_of_handled handled
  have listed : ¬ (!(resource.methods.map Text.ofString).contains r.method.upper) = true := by
    simpa using handled.method
  simp only [answer, handled.path, found, answerAt, if_neg other, if_neg listed]
  cases resource <;> rfl

theorem exists_json_of_respond {resource : Resource} {a : Http.Answer} {w left : World ω}
    (h : (s.respond r resource).run w = (.ok a, left)) : ∃ status body, a = .json status body := by
  cases resource with
  | line => exact exists_json_of_answerLine h
  | status =>
    cases h
    exact ⟨_, _, rfl⟩

theorem access_of_answer {a : Http.Answer} {w left : World ω}
    (h : (s.answer r).run w = (.ok a, left)) : Access s r a := by
  cases exists_route r with
  | unreadable path =>
    rw [answer, path] at h
    cases h
  | unknown target unknown =>
    rw [answer_unknown target unknown] at h
    cases h
    refine access_of_silent (Http.admitted_plain _ _) fun resource handled => ?_
    cases (found_of_handled handled target).symm.trans unknown
  | preflight target found options =>
    have unhandled (resource : Resource) : ¬ r.Handled resource :=
      fun handled => not_options_of_handled handled options
    obtain ⟨b, same, answered⟩ := answer_preflight target found options
    rw [same] at h
    cases h
    rcases answered with ⟨refusal, rfl⟩ | permitted
    · exact access_of_silent (Http.admitted_plain _ _) unhandled
    · obtain ⟨origin, method, asking, allowed, rfl⟩ := Cors.preflight_eq_ok permitted
      have alone := Cors.admitted_permit origin method r
      exact ⟨admits_of_allows alone asking allowed, by simp [alone],
        fun resource handled => absurd handled (unhandled resource)⟩
  | foreign target found other foreign =>
    rw [answer_foreign target found other foreign] at h
    cases h
    refine access_of_silent rfl fun resource handled => ?_
    cases (found_of_handled handled target).symm.trans found
    exact foreign handled.method
  | handled handled =>
    rw [answer_handled handled, Action.run_map] at h
    rcases ran : (s.respond r _).run w with ⟨failure | b, mid⟩
    · rw [ran] at h
      cases h
    · rw [ran] at h
      cases h
      obtain ⟨status, body, rfl⟩ := exists_json_of_respond ran
      exact access_granted status body

theorem line_alike (alike : r.Alike r') : line r = line r' := by
  have charset : charsetName? r = charsetName? r' := by
    rw [charsetName?, charsetName?, alike.header? (by decide)]
  have text : bodyText? r = bodyText? r' := by
    rw [bodyText?, bodyText?, charset, alike.body]
  rw [line, line, payload, payload, text]

theorem respond_alike (alike : r.Alike r') (same : s.transport = s'.transport)
    (resource : Resource) : s.respond r resource = s'.respond r' resource := by
  cases resource with
  | status => rfl
  | line => simp only [respond, answerLine, perform, line_alike alike, same]

theorem run_alike (alike : r.Alike r') (same : s.transport = s'.transport) (w : World ω) :
    ((s.answer r).run w).2 = ((s'.answer r').run w).2 ∧
      (r.method.upper ≠ Text.ofString "OPTIONS" →
        ((s.answer r).run w).1.map Http.Answer.bare =
          ((s'.answer r').run w).1.map Http.Answer.bare) := by
  have path : r.path? = r'.path? := by rw [Http.Request.path?, alike.target, Http.Request.path?]
  cases exists_route r with
  | unreadable unreadable =>
    rw [answer, answer, ← path, unreadable]
    exact ⟨rfl, fun _ => rfl⟩
  | unknown target unknown =>
    rw [answer_unknown target unknown, answer_unknown (path ▸ target) unknown]
    exact ⟨rfl, fun _ => rfl⟩
  | preflight target found options =>
    obtain ⟨a, told, -⟩ := answer_preflight (s := s) target found options
    obtain ⟨b, told', -⟩ :=
      answer_preflight (s := s') (path ▸ target) found (alike.method ▸ options)
    rw [told, told']
    exact ⟨rfl, fun other => absurd options other⟩
  | foreign target found other foreign =>
    rw [answer_foreign target found other foreign,
      answer_foreign (path ▸ target) found (alike.method ▸ other) (alike.method ▸ foreign)]
    exact ⟨rfl, fun _ => rfl⟩
  | handled handled =>
    rw [answer_handled handled,
      answer_handled (r := r') ⟨path ▸ handled.path, alike.method ▸ handled.method⟩,
      respond_alike alike same, Action.run_map, Action.run_map]
    refine ⟨rfl, fun _ => ?_⟩
    dsimp only
    rcases ((s'.respond r' _).run w).1 with failure | a <;> rfl

structure AnsweredAlike (r : Http.Request) (step step' : Step Http.Answer) : Prop where
  calls : step.calls = step'.calls
  log : step.log = step'.log
  bare : r.method.upper ≠ Text.ofString "OPTIONS" →
    step.result.map Http.Answer.bare = step'.result.map Http.Answer.bare

theorem serve_alike (same : s.transport = s'.transport) {requests requests' : List Http.Request}
    (alike : List.Forall₂ Http.Request.Alike requests requests') {i : Nat}
    (place : requests[i]? = some r) (w : World ω) :
    ∃ step step', (s.serve w requests)[i]? = some step ∧
      (s'.serve w requests')[i]? = some step' ∧ AnsweredAlike r step step' := by
  induction alike generalizing i w with
  | nil => cases place
  | @cons first first' rest rest' head tail ih =>
    obtain ⟨left, bare⟩ := run_alike head same { w with calls := [], log := [] }
    cases i with
    | zero =>
      cases place
      exact ⟨_, _, rfl, rfl, congrArg World.calls left, congrArg World.log left, bare⟩
    | succ i =>
      have world : (w.step (s'.answer first')).2 = (w.step (s.answer first)).2 := left.symm
      rw [serve, serve, List.map_cons, List.map_cons, World.steps, World.steps, world]
      exact ih place (w.step (s.answer first)).2

theorem access_of_serve {requests : List Http.Request} {i : Nat} (place : requests[i]? = some r)
    {w : World ω} {step : Step Http.Answer} (there : (s.serve w requests)[i]? = some step)
    {a : Http.Answer} (answered : step.result = .ok a) : Access s r a := by
  obtain ⟨x, v, same, rfl⟩ := World.exists_step there
  rw [List.getElem?_map, place] at same
  cases same
  exact access_of_answer (Prod.ext answered rfl)

/-- An answer admits the origin of its request if this is the configured one, and nobody else; and
but for preflights neither of the two origins has a part in what is done and answered. -/
theorem origins_decide_access_only (s : Service ω) (w : World ω) (requests : List Http.Request) :
    (∀ (i : Nat) (r : Http.Request) (step : Step Http.Answer) (a : Http.Answer),
      requests[i]? = some r → (s.serve w requests)[i]? = some step → step.result = .ok a →
      Access s r a) ∧
    ∀ (s' : Service ω) (requests' : List Http.Request), s.transport = s'.transport →
      List.Forall₂ Http.Request.Alike requests requests' →
      ∀ (i : Nat) (r : Http.Request), requests[i]? = some r →
        ∃ step step', (s.serve w requests)[i]? = some step ∧
          (s'.serve w requests')[i]? = some step' ∧ AnsweredAlike r step step' :=
  ⟨fun _ _ _ _ place there answered => access_of_serve place there answered,
    fun _ _ same alike _ _ place => serve_alike same alike place w⟩

theorem serve_status (handled : r.Handled .status) (w : World ω) :
    s.serve w [r] = [⟨.ok (s.granted r status), [], []⟩] := by
  rw [serve, List.map_singleton, World.steps, World.step, answer_handled handled]
  rfl

end

theorem other_origin_not_admitted :
    let s : Service Outcome := ⟨Text.ofString "http://a.test", some Transport.direct⟩
    let ask (origin : String) : Http.Request := ⟨Text.ofString "GET", Text.ofString "/status",
      [(Text.ofString "Origin", Text.ofString origin)], .empty⟩
    let w : World Outcome := ⟨.ofList (.reply 200 .null) [], .ofList (.zero false) [],
      .ofList (.zero false) [], [], []⟩
    (Text.ofString "Access-Control-Allow-Origin", Text.ofString "http://a.test") ∈
        (s.granted (ask "http://a.test") status).headers ∧
      (s.granted (ask "http://b.test") status).admitted = [] ∧
      ∃ step step', (s.serve w [ask "http://a.test"])[0]? = some step ∧
        (s.serve w [ask "http://b.test"])[0]? = some step' ∧
        step.result.map Http.Answer.bare = step'.result.map Http.Answer.bare := by
  intro s ask w
  have path : Http.Target.path? (Text.ofString "/status") = some (Text.ofString "/status") := by
    decide
  have get : (Text.ofString "GET").upper ∈ Resource.status.methods.map Text.ofString := by decide
  have handled (origin : String) : (ask origin).Handled .status := ⟨path, get⟩
  have answered (origin : String) :
      (s.serve w [ask origin])[0]? = some ⟨.ok (s.granted (ask origin) status), [], []⟩ := by
    rw [serve_status (handled origin)]
    rfl
  obtain ⟨access, alike⟩ := origins_decide_access_only s w [ask "http://a.test"]
  obtain ⟨foreign, -⟩ := origins_decide_access_only s w [ask "http://b.test"]
  refine ⟨?_, ?_, ?_⟩
  · have own := access 0 _ _ _ rfl (answered "http://a.test") rfl
    exact (own.handled .status (handled _) _ rfl (.inr rfl)).1
  · have other := foreign 0 _ _ _ rfl (answered "http://b.test") rfl
    refine List.eq_nil_iff_forall_not_mem.mpr fun origin admitted => ?_
    obtain ⟨asking, any | same⟩ := other.only origin admitted
    · revert any
      decide
    · cases asking
      revert same
      decide
  · have same : List.Forall₂ Http.Request.Alike [ask "http://a.test"] [ask "http://b.test"] :=
      .cons ⟨rfl, rfl, rfl, by decide⟩ .nil
    obtain ⟨step, step', there, there', told⟩ := alike s _ rfl same 0 (ask "http://a.test") rfl
    exact ⟨step, step', there, there', told.bare (by decide)⟩

end Service

end RequestLine
