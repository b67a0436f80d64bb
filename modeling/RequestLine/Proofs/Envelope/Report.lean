import RequestLine.Proofs.Envelope.Reportable
import RequestLine.Proofs.Text.Encodable

set_option autoImplicit false

namespace RequestLine

structure Json.Reportable (v : Json) : Prop where
  shallow : v.depth ≤ maxWrittenDepth
  keyed : Obeys encodable v

def Json.mendedMembers (members : Members) : Members := members.map fun m => (m.1, m.2.mended)

theorem Json.mendedMembers_eq_self {members : Json.Members} (digits : Obeys finite (.obj members)) :
    mendedMembers members = members := by
  have same := mended_eq_self digits
  rw [mended_obj] at same
  exact obj.inj same

def Reply.mended (reply : Reply) : Reply := { reply with data := reply.data.mended }

namespace Envelope

open Json (Obeys)

/-- Members as they are shown: their names are readable, and where two names have become one the
later value holds. -/
def shown (members : Json.Members) : Json.Members :=
  Json.collect (members.map fun m => (readable m.1, m.2))

def handedHeaders : Option Json.Members → Json
  | none => .null
  | some members => .obj members

def shownHeaders (headers : Option Json.Members) : Json := handedHeaders (headers.map shown)

def reportOf (call : Call) (headers : Json) (query : Json.Members) (body : Json) (reply : Reply)
    (timing : Timing) : Json :=
  Json.record [
    ("request", Json.record [
      ("query", .obj query), ("body", body), ("headers", headers), ("full_url", .str call.url)]),
    ("response", Json.record [
      ("http_status", .int reply.status),
      ("duration", .int timing.duration),
      ("request_start_timestamp", .int timing.start),
      ("request_stop_timestamp", .int timing.stop),
      ("response_data", reply.data)])]

theorem mem_of_mem_shown {members : Json.Members} {m : Text × Json} (h : m ∈ shown members) :
    ∃ original ∈ members, m = (readable original.1, original.2) := by
  obtain ⟨original, inside, rfl⟩ := List.mem_map.mp (Json.mem_of_mem_collect h)
  exact ⟨original, inside, rfl⟩

theorem isEncodable_readable (t : Text) : (readable t).isEncodable = true := by
  refine Text.isEncodable_flatMap t fun s _ => ?_
  cases s <;> simp [Symbol.isLone, Text.isEncodable]

theorem isEncodable_of_mem_shown {members : Json.Members} {key : Text}
    (h : key ∈ Json.keys (shown members)) : key.isEncodable = true := by
  obtain ⟨m, inside, rfl⟩ := List.mem_map.mp h
  obtain ⟨original, -, rfl⟩ := mem_of_mem_shown inside
  exact isEncodable_readable original.1

theorem report_eq_ok {v u : Json} : report v = .ok u ↔ v.Reportable ∧ u = v.mended := by
  rw [report, reported_eq_ok, Nat.add_comm, Nat.add_le_add_iff_right]
  exact and_congr_left' ⟨fun h => ⟨h.1, h.2⟩, fun h => ⟨h.shallow, h.keyed⟩⟩

theorem reportMembers_eq_ok {members : Json.Members} {u : Json} :
    reportMembers members = .ok u ↔ (∀ m ∈ members, m.2.Reportable) ∧
      u = .obj (shown (Json.mendedMembers members)) := by
  have each (m : Text × Json) (_ : m ∈ members) (w : Text × Json) :
      (report m.2).map (fun v => (readable m.1, v)) = .ok w ↔
        m.2.Reportable ∧ w = (readable m.1, m.2.mended) := by
    rw [map_eq_ok]
    simp only [report_eq_ok]
    constructor
    · rintro ⟨v, ⟨reportable, rfl⟩, rfl⟩
      exact ⟨reportable, rfl⟩
    · rintro ⟨reportable, rfl⟩
      exact ⟨_, ⟨reportable, rfl⟩, rfl⟩
  rw [reportMembers, bind_eq_ok]
  simp only [mapM_eq_ok each, shown, Json.mendedMembers, List.map_map]
  constructor
  · rintro ⟨written, ⟨reportable, rfl⟩, h⟩
    cases h
    exact ⟨reportable, rfl⟩
  · rintro ⟨reportable, rfl⟩
    exact ⟨_, ⟨reportable, rfl⟩, rfl⟩

theorem reportHeaders_eq_ok {headers : Option Json.Members} {u : Json} :
    reportHeaders headers = .ok u ↔
      (∀ members, headers = some members → ∀ m ∈ members, m.2.Reportable) ∧
        u = shownHeaders (headers.map Json.mendedMembers) := by
  cases headers with
  | none =>
    rw [reportHeaders, Except.ok.injEq]
    exact ⟨fun h => ⟨nofun, h.symm⟩, fun h => h.2.symm⟩
  | some members =>
    rw [reportHeaders, reportMembers_eq_ok]
    simp only [Option.some.injEq, forall_eq']
    exact Iff.rfl

structure Reportable (d : Descriptor) (reply : Reply) : Prop where
  query : ∀ m ∈ d.query, m.2.Reportable
  body : d.body.Reportable
  headers : ∀ members, d.headers = some members → ∀ m ∈ members, m.2.Reportable
  data : reply.data.Reportable

theorem build_eq_ok {d : Descriptor} {e : Execution} {u : Json} :
    build d e = .ok u ↔ Reportable d e.reply ∧
      u = reportOf d.call (shownHeaders (d.headers.map Json.mendedMembers))
        (shown (Json.mendedMembers d.query)) d.body.mended e.reply.mended e.timing := by
  simp only [build, bind_eq_ok, reportMembers_eq_ok, report_eq_ok, reportHeaders_eq_ok]
  rw [reportOf, d.call_url]
  constructor
  · rintro ⟨_, ⟨query, rfl⟩, _, ⟨body, rfl⟩, _, ⟨headers, rfl⟩, _, ⟨data, rfl⟩, h⟩
    cases h
    exact ⟨⟨query, body, headers, data⟩, rfl⟩
  · rintro ⟨⟨query, body, headers, data⟩, rfl⟩
    exact ⟨_, ⟨query, rfl⟩, _, ⟨body, rfl⟩, _, ⟨headers, rfl⟩, _, ⟨data, rfl⟩, rfl⟩

structure Short (d : Descriptor) (timing : Timing) : Prop where
  query : Obeys Json.short (.obj d.query)
  body : Obeys Json.short d.body
  headers : ∀ members, d.headers = some members → Obeys Json.short (.obj members)
  duration : Obeys Json.short (.int timing.duration)
  start : Obeys Json.short (.int timing.start)
  stop : Obeys Json.short (.int timing.stop)

theorem short_mended {v : Json} : Obeys Json.short v.mended ↔ Obeys Json.short v :=
  Json.obeys_mended (fun _ => trivial) v

theorem short_shown {members : Json.Members} (h : Obeys Json.short (.obj members)) :
    Obeys Json.short (.obj (shown (Json.mendedMembers members))) := by
  rw [Json.short_obj] at h ⊢
  intro m member
  obtain ⟨mended, within, rfl⟩ := mem_of_mem_shown member
  obtain ⟨original, inside, rfl⟩ := List.mem_map.mp within
  exact short_mended.mpr (h original inside)

theorem short_status (reply : Reply) : Obeys Json.short (.int reply.status) := by
  have three : reply.status.natAbs < 10 ^ 3 := by
    have := reply.inRange
    omega
  have enough : 10 ^ 3 ≤ 10 ^ Text.maxDigits := Nat.pow_le_pow_right (by decide) (by decide)
  rw [Json.obeys_int, Json.short, Numeral.pow_ten]
  exact Nat.lt_of_lt_of_le three enough

theorem short_reportOf {d : Descriptor} {e : Execution} (h : Short d e.timing) :
    Obeys Json.short (reportOf d.call (shownHeaders (d.headers.map Json.mendedMembers))
      (shown (Json.mendedMembers d.query)) d.body.mended e.reply.mended e.timing) ↔
        Obeys Json.short e.reply.data := by
  have headers : Obeys Json.short (shownHeaders (d.headers.map Json.mendedMembers)) := by
    cases held : d.headers with
    | none => trivial
    | some members => exact short_shown (h.headers members held)
  have query := short_shown h.query
  have body := short_mended.mpr h.body
  have data : Obeys Json.short e.reply.mended.data ↔ Obeys Json.short e.reply.data := short_mended
  have status := short_status e.reply.mended
  rw [reportOf, Json.obeys_record]
  simp only [List.forall_mem_cons, List.not_mem_nil, false_imp_iff, implies_true, and_true,
    Json.obeys_record]
  constructor
  · rintro ⟨-, -, -, -, -, -, -, held⟩
    exact data.mp held
  · intro held
    exact ⟨trivial, ⟨trivial, query, body, headers, trivial⟩, trivial, status, h.duration, h.start,
      h.stop, data.mpr held⟩

theorem write_eq_ok {d : Descriptor} {e : Execution} {t : Text} :
    write d e = .ok t ↔ ∃ v, build d e = .ok v ∧ Obeys Json.short v ∧ v.write = t := by
  rw [write, bind_eq_ok]
  refine exists_congr fun v => and_congr_right' ?_
  rw [← short_eq_true]
  by_cases fits : v.fold short
  · rw [if_pos fits]
    constructor
    · intro h
      cases h
      exact ⟨fits, rfl⟩
    · rintro ⟨-, rfl⟩
      rfl
  · rw [if_neg fits]
    exact ⟨nofun, fun h => absurd h.1 fits⟩

theorem exists_write_iff {d : Descriptor} {e : Execution} (h : Short d e.timing) :
    (∃ t, write d e = .ok t) ↔ Reportable d e.reply ∧ Obeys Json.short e.reply.data := by
  simp only [write_eq_ok, build_eq_ok]
  constructor
  · rintro ⟨t, v, ⟨reportable, rfl⟩, short, -⟩
    exact ⟨reportable, (short_reportOf h).mp short⟩
  · rintro ⟨reportable, short⟩
    exact ⟨_, _, ⟨reportable, rfl⟩, (short_reportOf h).mpr short, rfl⟩

end Envelope

end RequestLine
