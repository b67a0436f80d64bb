import RequestLine.Proofs.Envelope.Report
import RequestLine.Proofs.Json.RoundTrip
import RequestLine.Proofs.Query.Encodable

set_option autoImplicit false

namespace RequestLine

namespace Json

def distinct : Rule where
  keys ks := ks.Nodup

end Json

namespace Envelope

open Json (Obeys)

theorem readable_eq_self_iff {t : Text} : readable t = t ↔ t.isEncodable = true := by
  constructor
  · intro same
    rw [← same]
    exact isEncodable_readable t
  · intro encodable
    induction t with
    | nil => rfl
    | cons s t ih =>
      cases s with
      | char c => exact congrArg (.char c :: ·) (ih encodable)
      | lone half => contradiction

theorem shown_eq_self_iff {members : Json.Members} (differ : (Json.keys members).Nodup) :
    shown members = members ↔ ∀ key ∈ Json.keys members, key.isEncodable = true := by
  constructor
  · intro same key member
    rw [← same] at member
    exact isEncodable_of_mem_shown member
  · intro encodable
    have kept : members.map (fun m => (readable m.1, m.2)) = members := by
      refine (List.map_congr_left fun m member => ?_).trans (List.map_id members)
      rw [readable_eq_self_iff.mpr (encodable m.1 (List.mem_map_of_mem member))]
      rfl
    rw [shown, kept, Json.collect_eq_self differ]

theorem reportOf_inj {call : Call} {a b : Json} {query : Json.Members} {body : Json}
    {reply : Reply} {timing : Timing} :
    reportOf call a query body reply timing = reportOf call b query body reply timing ↔ a = b := by
  simp [reportOf, Json.record]

theorem shownHeaders_eq_iff {headers : Option Json.Members}
    (differ : ∀ members, headers = some members → (Json.keys members).Nodup) :
    shownHeaders headers = handedHeaders headers ↔
      ∀ members, headers = some members → ∀ key ∈ Json.keys members, key.isEncodable = true := by
  cases headers with
  | none => simp [shownHeaders]
  | some members => simp [shownHeaders, handedHeaders, shown_eq_self_iff (differ members rfl)]

theorem obeys_shownHeaders {headers : Option Json.Members}
    (sound : ∀ members, headers = some members →
      Obeys (Json.distinct.and Json.plain) (.obj members)) :
    Obeys (Json.distinct.and Json.plain) (shownHeaders headers) := by
  cases headers with
  | none => trivial
  | some members =>
    have values := ((Json.obeys_obj members).mp (sound members rfl)).2
    refine (Json.obeys_obj _).mpr
      ⟨⟨Json.nodup_keys_collect _, fun key member => ?_⟩, fun m member => ?_⟩
    · exact .of_isEncodable (isEncodable_of_mem_shown member)
    · obtain ⟨original, inside, rfl⟩ := mem_of_mem_shown member
      exact values original inside

structure Values (rule : Json.Rule) (d : Descriptor) (reply : Reply) : Prop where
  headers : ∀ members, d.headers = some members → Obeys rule (.obj members)
  query : Obeys rule (.obj d.query)
  body : Obeys rule d.body
  data : Obeys rule reply.data

section

variable {call : Call} {headers : Json} {query : Json.Members} {body : Json} {reply : Reply}
  {timing : Timing}

theorem depth_reportOf_le {n : Nat} (underHeaders : headers.depth ≤ n + 1)
    (underQuery : (Json.obj query).depth ≤ n + 1) (underBody : body.depth ≤ n + 1)
    (underData : reply.data.depth ≤ n + 1) :
    (reportOf call headers query body reply timing).depth ≤ n + 3 := by
  have leaf (v : Json) (one : v.depth = 1) : v.depth ≤ n + 1 := by omega
  rw [reportOf, Json.depth_record_le, List.forall_mem_cons, List.forall_mem_singleton]
  constructor
  · rw [Json.depth_record_le]
    simp only [List.forall_mem_cons, List.not_mem_nil, false_imp_iff, implies_true, and_true]
    exact ⟨underQuery, underBody, underHeaders, leaf _ rfl⟩
  · rw [Json.depth_record_le]
    simp only [List.forall_mem_cons, List.not_mem_nil, false_imp_iff, implies_true, and_true]
    exact ⟨leaf _ rfl, leaf _ rfl, leaf _ rfl, leaf _ rfl, underData⟩

theorem obeys_reportOf (url : Json.Unpaired call.url)
    (ofHeaders : Obeys (Json.distinct.and Json.plain) headers)
    (ofQuery : Obeys (Json.distinct.and Json.plain) (.obj query))
    (ofBody : Obeys (Json.distinct.and Json.plain) body)
    (ofData : Obeys (Json.distinct.and Json.plain) reply.data) :
    Obeys (Json.distinct.and Json.plain) (reportOf call headers query body reply timing) := by
  -- The names of the fields are fixed, they are checked once for each record.
  have keys (names : List String) (sound : (names.map Text.ofString).Nodup ∧
      ∀ key ∈ names.map Text.ofString, Json.Unpaired key) :
      (Json.distinct.and Json.plain).keys (names.map Text.ofString) := sound
  have leaf (n : Int) : Obeys (Json.distinct.and Json.plain) (.int n) := ⟨trivial, trivial⟩
  rw [reportOf, Json.obeys_record, List.forall_mem_cons, List.forall_mem_singleton]
  refine ⟨keys ["request", "response"] (by decide), ?_, ?_⟩
  · rw [Json.obeys_record]
    simp only [List.forall_mem_cons, List.not_mem_nil, false_imp_iff, implies_true, and_true]
    exact ⟨keys ["query", "body", "headers", "full_url"] (by decide), ofQuery, ofBody, ofHeaders,
      trivial, url⟩
  · rw [Json.obeys_record]
    simp only [List.forall_mem_cons, List.not_mem_nil, false_imp_iff, implies_true, and_true]
    exact ⟨keys ["http_status", "duration", "request_start_timestamp", "request_stop_timestamp",
      "response_data"] (by decide), leaf _, leaf _, leaf _, leaf _, ofData⟩

end

theorem depth_shownHeaders_le {headers : Option Json.Members} {n : Nat}
    (shallow : ∀ members, headers = some members → ∀ m ∈ members, m.2.depth ≤ n) :
    (shownHeaders headers).depth ≤ n + 1 := by
  cases headers with
  | none => exact Nat.le_add_left 1 n
  | some members =>
    refine Json.depth_obj_le.mpr fun m member => ?_
    obtain ⟨original, inside, rfl⟩ := mem_of_mem_shown member
    exact shallow members rfl original inside

theorem build_finite [Runtime] {d : Descriptor} {e : Execution} {u : Json}
    (finite : Values Json.finite d e.reply)
    (encodable : ∀ key ∈ Json.keys d.query, key.isEncodable = true)
    (differ : (Json.keys d.query).Nodup) (h : build d e = .ok u) :
    u = reportOf d.call (shownHeaders d.call.headers) d.query d.body e.reply e.timing ∧
      u.depth ≤ Runtime.nesting := by
  obtain ⟨reportable, rfl⟩ := build_eq_ok.mp h
  have headers : d.headers.map Json.mendedMembers = d.call.headers := by
    rw [d.call_headers]
    cases held : d.headers with
    | none => rfl
    | some members => exact congrArg some (Json.mendedMembers_eq_self (finite.headers members held))
  have query : shown (Json.mendedMembers d.query) = d.query := by
    rw [Json.mendedMembers_eq_self finite.query, (shown_eq_self_iff differ).mpr encodable]
  have reply : e.reply.mended = e.reply := by
    unfold Reply.mended
    rw [Json.mended_eq_self finite.data]
  rw [headers, query, reply, Json.mended_eq_self finite.body]
  refine ⟨rfl, ?_⟩
  -- The report itself nests two records around the values, less than a reader allows beyond the
  -- depth to which values are written.
  have spare : Json.maxWrittenDepth + 3 ≤ Runtime.nesting :=
    Nat.le_trans (by decide) (Nat.le_of_lt Runtime.enough)
  have underHeaders := depth_shownHeaders_le fun members held m member =>
    (reportable.headers members (d.call_headers ▸ held) m member).shallow
  have underQuery : (Json.obj d.query).depth ≤ Json.maxWrittenDepth + 1 :=
    Json.depth_obj_le.mpr fun m member => (reportable.query m member).shallow
  exact Nat.le_trans (depth_reportOf_le underHeaders underQuery
    (Nat.le_succ_of_le reportable.body.shallow) (Nat.le_succ_of_le reportable.data.shallow)) spare

theorem tidy_of_short {v : Json} (differ : Obeys Json.distinct v) (short : Obeys Json.short v) :
    Obeys Json.tidy v :=
  (Json.obeys_and.mpr ⟨differ, short⟩).mono (fun _ h => h.2) (fun _ _ => trivial)
    (fun _ _ => trivial) (fun _ h => h.1)

theorem read_write [Runtime] {d : Descriptor} {e : Execution} {t : Text}
    (sound : Values (Json.distinct.and Json.plain) d e.reply)
    (encodable : Query.isEncodable d.query = true) (url : d.fullUrl.isEncodable = true)
    (h : write d e = .ok t) (dialect : Json.Dialect) :
    Json.read dialect t =
      .ok (reportOf d.call (shownHeaders d.call.headers) d.query d.body e.reply e.timing) := by
  have toFinite {v : Json} (h : Obeys (Json.distinct.and Json.plain) v) : Obeys Json.finite v := by
    have plain : Obeys Json.plain v := (Json.obeys_and.mp h).2
    exact plain.mono (fun _ _ => trivial) (fun _ h => h.1) (fun _ _ => trivial) (fun _ _ => trivial)
  have finite : Values Json.finite d e.reply :=
    ⟨fun members same => toFinite (sound.headers members same), toFinite sound.query,
      toFinite sound.body, toFinite sound.data⟩
  have keys : ∀ key ∈ Json.keys d.query, key.isEncodable = true := by
    rw [Json.keys, List.forall_mem_map]
    intro m member
    have both := List.all_eq_true.mp encodable m member
    exact (Bool.and_eq_true_iff.mp both).1
  have differ := ((Json.obeys_obj d.query).mp sound.query).1.1
  obtain ⟨v, built, short, rfl⟩ := write_eq_ok.mp h
  obtain ⟨rfl, shallow⟩ := build_finite finite keys differ built
  -- Integers are short because the writer looked at them; everything else is up to the values.
  have obeys : Obeys (Json.distinct.and Json.plain)
      (reportOf d.call (shownHeaders d.call.headers) d.query d.body e.reply e.timing) :=
    obeys_reportOf (.of_isEncodable (d.call_url ▸ url))
      (obeys_shownHeaders (d.call_headers ▸ sound.headers)) sound.query sound.body sound.data
  obtain ⟨distinct, plain⟩ := Json.obeys_and.mp obeys
  exact Json.read_write dialect (Json.obeys_and.mpr ⟨tidy_of_short distinct short, plain⟩) shallow

end Envelope

end RequestLine
