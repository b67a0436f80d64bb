import RequestLine.Proofs.Json.RoundTrip
import RequestLine.Transport

set_option autoImplicit false

namespace RequestLine

namespace Json

open Grammar

theorem read_eq_ok [Runtime] {dialect : Dialect} {t : Text} {v : Json} :
    read dialect t = .ok v ↔ Document dialect Runtime.nesting t v :=
  ⟨document_of_read, read_document⟩

theorem read_eq_tooDeep [Runtime] {dialect : Dialect} {t : Text} :
    read dialect t = .error .tooDeep ↔ Overruns dialect Runtime.nesting t :=
  ⟨overruns_of_read, read_overruns⟩

@[simp] theorem read_nil [Runtime] (dialect : Dialect) : read dialect [] = .error .malformed := by
  unfold read
  cases dialect <;> cases Runtime.nesting <;> rfl

def legible : Rule := tidy.and
  { float := fun x => x.isFinite = true → x.ReadsBack
    str := Unpaired
    keys := fun ks => ∀ key ∈ ks, Unpaired key }

theorem legible_obj {members : Members} :
    Obeys legible (.obj members) ↔
      ((keys members).Nodup ∧ ∀ key ∈ keys members, Unpaired key) ∧
        ∀ m ∈ members, Obeys legible m.2 :=
  obeys_obj members

theorem scalar_float {x : Double} (back : x.isFinite = true → x.ReadsBack) :
    Scalar .lenient (x.text Writer.doubleNames) (.float x) := by
  have known : ∀ w ∈ Reader.constants .lenient, Scalar .lenient (Text.ofString w.1) w.2 :=
    fun w constant => .word (List.mem_append_right _ constant)
  cases x with
  | finite negative m p valid =>
    exact .of_number (Reader.number_double rfl (back rfl) Reader.ends_nil)
  | infinite negative =>
    cases negative with
    | true => exact known ("-Infinity", .float (.infinite true)) (by simp [Reader.constants])
    | false => exact known ("Infinity", .float (.infinite false)) (by simp [Reader.constants])
  | nan => exact known ("NaN", .float .nan) (by simp [Reader.constants])

theorem legible_expressible : legible.Expressible .lenient where
  int _ h := h.1
  float _ h := scalar_float h.2
  str _ h := h.2
  keys _ h := h

/-- The value, written with any blanks around it and behind its commas and colons. -/
inductive Transcript (v : Json) : Text → Prop where
  | mk {before t after : Text} (front : Blanks before) (spaced : Spaced Writer.symbol v t)
      (back : Blanks after) : Transcript v (before ++ (t ++ after))

theorem Transcript.document [Runtime] {v : Json} {t : Text} (transcript : Transcript v t)
    (legible : v.Obeys legible) (shallow : v.depth ≤ Runtime.nesting) :
    Document .lenient Runtime.nesting t v := by
  obtain ⟨front, spaced, back⟩ := transcript
  exact .mk front (value_spaced legible_expressible faithful_symbol legible shallow spaced) back

theorem transcript_write (v : Json) : Transcript v v.write := by
  have whole : Transcript v _ := .mk blanks_nil (spaced_spelled v) blanks_nil
  rwa [List.nil_append, List.append_nil, ← write_eq] at whole

end Json

namespace Body

open Json Grammar

theorem decode_of_lenient [Runtime] {t : Text} {v : Json} (h : Json.read .lenient t = .ok v) :
    decode t = .ok v := by
  cases t with
  | nil => simp at h
  | cons s t => simp only [decode, h, List.isEmpty_cons, Bool.false_eq_true, if_false]

theorem decode_of_malformed [Runtime] {t : Text} (h : Json.read .lenient t = .error .malformed) :
    decode t = .ok (.str t) := by
  cases t with
  | nil => rfl
  | cons s t => simp only [decode, h, List.isEmpty_cons, Bool.false_eq_true, if_false]

theorem decode_tooDeep [Runtime] {t : Text} (h : Json.read .lenient t = .error .tooDeep) :
    decode t = .error .nestedTooDeep := by
  cases t with
  | nil => simp at h
  | cons s t =>
    simp only [decode, h]
    rfl

theorem decode_ok [Runtime] {t : Text} (shallow : Json.read .lenient t ≠ .error .tooDeep) :
    ∃ data, decode t = .ok data := by
  cases found : Json.read .lenient t with
  | ok v => exact ⟨v, decode_of_lenient found⟩
  | error fault =>
    cases fault with
    | malformed => exact ⟨.str t, decode_of_malformed found⟩
    | tooDeep => contradiction

/-- The grammar says which texts are JSON, and what they stand for; the rest come back verbatim,
unless they open more levels than can be read. -/
theorem decode_recovers [Runtime] (t : Text) :
    (∀ v, Transcript v v.write) ∧
    (∀ v, v.Obeys legible → v.depth ≤ Runtime.nesting → Transcript v t → decode t = .ok v) ∧
    (∀ v, Document .lenient Runtime.nesting t v → decode t = .ok v) ∧
    ((∀ v, ¬ Document .lenient Runtime.nesting t v) → ¬ Overruns .lenient Runtime.nesting t →
      decode t = .ok (.str t)) := by
  have grammatical (v : Json) (document : Document .lenient Runtime.nesting t v) :
      decode t = .ok v :=
    decode_of_lenient (read_eq_ok.mpr document)
  refine ⟨transcript_write, fun v legible shallow transcript => ?_, grammatical,
    fun outside within => ?_⟩
  · exact grammatical v (transcript.document legible shallow)
  · apply decode_of_malformed
    cases found : Json.read .lenient t with
    | ok v => exact absurd (read_eq_ok.mp found) (outside v)
    | error fault =>
      cases fault with
      | malformed => rfl
      | tooDeep => exact absurd (read_eq_tooDeep.mp found) within

theorem blanks_around_reply_recovered :
    let list : Json := .arr [.float .nan, .float (.infinite true), .int (-3)]
    let v : Json := .obj [(Text.ofString "b", list), (Text.ofString "a", .str [.lone 0, .char '/'])]
    let t := Text.ofString "\n\x7b\"b\":[NaN,\t-Infinity, -3],\r\n\"a\": \"\\ud800/\"\x7d "
    let marked := Text.ofString "\uFEFF[]"
    decode t = .ok v ∧ decode marked = .ok (.str marked) := by
  intro list v t marked
  have space : Blanks [.char ' '] := by decide
  have tab : Blanks [.char '\t'] := by decide
  have newline : Blanks [.char '\r', .char '\n'] := by decide
  have feed : Blanks [.char '\n'] := by decide
  have inner : Spaced Writer.symbol list (Text.ofString "[NaN,\t-Infinity, -3]") :=
    spaced_arr.mpr ⟨_, .more rfl tab (.more rfl space (.last rfl)), rfl⟩
  have spaced : Spaced Writer.symbol v _ :=
    spaced_obj.mpr ⟨_, .more (.mk blanks_nil inner) newline (.last (.mk space rfl)), rfl⟩
  have transcript : Transcript v t := .mk feed spaced space
  have malformed : Json.read .lenient marked = .error .malformed := by rfl
  have short : (-3 : Int).natAbs < Nat.pow 10 Text.maxDigits := by decide +kernel
  have elements : list.Obeys legible := (obeys_arr _).mpr <| List.forall_mem_cons.mpr
    ⟨⟨trivial, nofun⟩, List.forall_mem_cons.mpr
      ⟨⟨trivial, nofun⟩, List.forall_mem_singleton.mpr ⟨short, trivial⟩⟩⟩
  have legible : v.Obeys legible := legible_obj.mpr ⟨by decide, List.forall_mem_cons.mpr
    ⟨elements, List.forall_mem_singleton.mpr ⟨trivial, by decide⟩⟩⟩
  refine ⟨(decode_recovers t).2.1 v legible (by decide) transcript,
    (decode_recovers marked).2.2.2 (fun v document => ?_) fun overruns => ?_⟩
  · exact absurd (read_eq_ok.mpr document) (malformed ▸ nofun)
  · exact absurd (read_eq_tooDeep.mpr overruns) (malformed ▸ nofun)

end Body

end RequestLine
