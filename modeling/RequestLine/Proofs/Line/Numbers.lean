import RequestLine.Json.Writer
import RequestLine.Proofs.Double.Overflow
import RequestLine.Proofs.Json.Origin
import RequestLine.Proofs.Json.Reading
import RequestLine.Proofs.Line.Language

set_option autoImplicit false

namespace RequestLine

def Descriptor.values (d : Descriptor) : List Json :=
  (d.headers.map .obj).toList ++ [.obj d.query, d.body]

theorem Descriptor.Carries.of_mem_values {d : Descriptor} {sections : List Line.Section}
    (carries : d.Carries sections) {v : Json} (member : v ∈ d.values) :
    v = .obj [] ∨ ∃ k, Line.last? k sections = some v := by
  have defaulted (k : Keyword) : (Line.last? k sections).getD (.obj []) = .obj [] ∨
      ∃ l, Line.last? l sections = some ((Line.last? k sections).getD (.obj [])) := by
    cases found : Line.last? k sections with
    | none => exact .inl rfl
    | some v => exact .inr ⟨k, found⟩
  simp only [Descriptor.values, List.mem_append, Option.mem_toList, List.mem_cons,
    List.not_mem_nil, or_false] at member
  rcases member with headers | rfl | rfl
  · exact .inr ⟨.headers, carries.headers.symm.trans headers⟩
  · rw [carries.query]
    exact defaulted .query
  · rw [carries.body]
    exact defaulted .body

namespace Json

def roundedFrom (text : Text) : Rule where
  float x := ∃ (n : Numeral) (written : Text), n.Written written ∧ written <:+: text ∧
    x = n.double ∧ x ≠ .nan ∧ (x.isFinite = false ↔ n.Overflows)

theorem roundedFrom_of_read [Runtime] {t text : Text} {v : Json} (h : read .strict t = .ok v)
    (inside : t <:+: text) : Obeys (roundedFrom text) v := by
  refine (numbersOf_read h).1.mono (fun _ => id) ?_ (fun _ => id) (fun _ => id)
  rintro _ ⟨n, written, isWritten, within, rfl⟩
  exact ⟨n, written, isWritten, within.trans inside, rfl, n.double_ne_nan, n.isFinite_double⟩

end Json

namespace Line

open Text (IsSplit separator halfSeparator)

section

variable [Runtime]

theorem IsSection.exists_read {part : Text} {s : Section} (h : IsSection part s) :
    ∃ t, t <:+: part ∧ Json.read .strict t = .ok s.value := by
  obtain ⟨written, rfl, decoded, -⟩ := h
  obtain ⟨before, after, same, -⟩ := Text.exists_strip written
  refine ⟨written.strip, ?_, decoded⟩
  have inside : written.strip <:+: written := ⟨before, after, (same.trans (by simp)).symm⟩
  exact inside.trans ((List.suffix_cons _ _).trans (List.suffix_append _ _)).isInfix

theorem roundedFrom_of_parse {t : Text} {d : Descriptor} (h : parse (.str t) = .ok d) :
    ∀ v ∈ d.values, v.Obeys (Json.roundedFrom t) := by
  intro v member
  obtain ⟨parts, sections, split, line, carries⟩ := parse_eq_ok.mp h
  obtain ⟨r, q, rest, rfl, -, -, each⟩ := line.parts
  rcases carries.of_mem_values member with rfl | ⟨k, found⟩
  · simp [Json.roundedFrom]
  · obtain ⟨part, inRest, holds⟩ := exists_isSection each (mem_of_last? found)
    obtain ⟨written, inside, decoded⟩ := holds.exists_read
    have within : part <:+: t := by
      rw [← split.joined]
      exact Text.isInfix_join " | " (List.mem_cons_of_mem _ (List.mem_cons_of_mem _ inRest))
    exact Json.roundedFrom_of_read decoded (inside.trans within)

theorem parse_concat_body {t part : Text} {d : Descriptor} {v : Json}
    (parsed : parse (.str t) = .ok d) (closed : ¬ halfSeparator <:+ t)
    (holds : IsSection part ⟨.body, v⟩) (whole : ¬ separator <:+: part) :
    parse (.str (t ++ separator ++ part)) = .ok { d with body := v } := by
  obtain ⟨parts, sections, split, line, carries⟩ := parse_eq_ok.mp parsed
  obtain ⟨r, q, rest, rfl, method, url, each⟩ := line.parts
  have last (k : Keyword) : last? k (sections ++ [⟨.body, v⟩]) =
      if k = .body then some v else last? k sections := by
    rw [last?_append]
    cases k <;> rfl
  refine parse_eq_ok.mpr ⟨_, sections ++ [⟨.body, v⟩], split.concat (by simp) closed whole, ?_, ?_⟩
  · exact {
      parts := ⟨r, q, rest ++ [part], rfl, method, url, List.rel_append each (.cons holds .nil)⟩
      present := line.present
      readable := line.readable
      encodable := fun params found => line.encodable params ((last .query).symm.trans found) }
  · exact {
      headers := carries.headers.trans (last .headers).symm
      query := by
        rw [last .query]
        exact carries.query
      body := by
        rw [last .body]
        rfl
      fullUrl := carries.fullUrl }

theorem isSection_written {n : Numeral} {written : Text} (h : n.Written written) :
    IsSection (Text.ofString "BODY " ++ written) ⟨.body, .float n.double⟩ :=
  ⟨written, by simp [Text.ofString, Keyword.name], by rw [h.strip_eq, h.read_eq], .inl rfl⟩

theorem infinite_not_json (negative : Bool) :
    Json.read .strict (Json.write (.float (.infinite negative))) = .error .malformed := by
  unfold Json.read
  cases negative <;> cases Runtime.nesting <;> rfl

theorem readable_double (n : Numeral) :
    (∃ v, Json.read .strict (Json.write (.float n.double)) = .ok v) ↔ ¬ n.Overflows := by
  rcases n.double_cases with ⟨overflows, same⟩ | ⟨within, m, p, valid, same⟩
  · rw [same, infinite_not_json]
    simp [overflows]
  · have finite : n.double.isFinite = true := by rw [same]; rfl
    obtain ⟨f, sound, fractional, text⟩ :=
      Double.exists_form Json.Writer.doubleNames finite
    have written : Json.write (.float n.double) = f.text := text.symm
    rw [written, (sound.written fractional).read_eq .strict]
    simp [within]

theorem parse_concat_numeral {t written : Text} {d : Descriptor} {n : Numeral}
    (parsed : parse (.str t) = .ok d) (closed : ¬ halfSeparator <:+ t) (h : n.Written written) :
    parse (.str (t ++ Text.ofString " | BODY " ++ written)) =
      .ok { d with body := .float n.double } := by
  have whole : ¬ separator <:+: Text.ofString "BODY " ++ written := by
    refine (Text.not_separator_of_notMem ?_).1
    rw [List.mem_append, not_or]
    exact ⟨by decide, h.bar_notMem⟩
  rw [← parse_concat_body parsed closed (isSection_written h) whole]
  simp [separator, Text.ofString]

/-- No double of a descriptor is a NaN, and those that are infinite come from numerals beyond the
doubles. Any numeral is accepted as the body of any line, so that an infinite body is one numeral
away; only with a numeral within the doubles is the body still JSON when it is written. -/
theorem infinite_iff_overflows {t : Text} {d : Descriptor} (parsed : parse (.str t) = .ok d) :
    (∀ v ∈ d.values, v.Obeys (Json.roundedFrom t)) ∧
    ∀ (n : Numeral) (written : Text), ¬ halfSeparator <:+ t → n.Written written →
      parse (.str (t ++ Text.ofString " | BODY " ++ written)) =
          .ok { d with body := .float n.double } ∧
        ((∃ v, Json.read .strict (Json.write (.float n.double)) = .ok v) ↔ ¬ n.Overflows) :=
  ⟨roundedFrom_of_parse parsed, fun n _ closed isWritten =>
    ⟨parse_concat_numeral parsed closed isWritten, readable_double n⟩⟩

end

theorem great_body_is_infinite :
    ∃ d, parse (.str (Text.ofString "HTTP POST | URL x | BODY 1e999")) = .ok d ∧
      d.body = .float (.infinite false) ∧
        ¬ ∃ v, Json.read .strict d.body.write = .ok v := by
  have exponent : Numeral.IsExponent (Text.ofString "e999") 999 :=
    @Numeral.IsExponent.mk 'e' false [] ['9', '9', '9'] (.inl rfl) (by decide)
      (by simp [AreDigits, Char.isDigit]) (by decide)
  have written : Numeral.Written ⟨false, ['1'], [], 999⟩ (Text.ofString "1e999") := {
    whole := by simp [AreDigits, Char.isDigit]
    present := by decide
    leading := .inr (by decide)
    fraction := by simp [AreDigits]
    text := ⟨Text.ofString "e999", .present exponent, rfl⟩ }
  have overflows : Numeral.Overflows ⟨false, ['1'], [], 999⟩ := by
    unfold Numeral.Overflows
    decide +kernel
  have infinite : Numeral.double ⟨false, ['1'], [], 999⟩ = .infinite false := by
    rcases Numeral.double_cases ⟨false, ['1'], [], 999⟩ with ⟨-, same⟩ | ⟨within, -⟩
    · exact same
    · exact absurd overflows within
  have parsed : parse (.str (Text.ofString "HTTP POST | URL x")) =
      .ok ⟨.post, Text.ofString "x", none, [], .obj [], Text.ofString "x"⟩ := by rfl
  obtain ⟨accepted, readable⟩ := (infinite_iff_overflows parsed).2 _ _ (by decide) written
  exact ⟨_, accepted, congrArg Json.float infinite, fun json => readable.mp json overflows⟩

end Line

end RequestLine
