import RequestLine.Proofs.Json.Kept
import RequestLine.Proofs.Json.Reading

set_option autoImplicit false

namespace RequestLine.Json

open Grammar

def numbersOf (text : Text) : Rule where
  float x := ∃ (n : Numeral) (written : Text), n.Written written ∧ written <:+: text ∧ x = n.double

theorem numbersOf_kept (text : Text) : (numbersOf text).Kept .strict text where
  number t v inside number := by
    cases number with
    | int => trivial
    | float written => exact ⟨_, t, written, inside, rfl⟩
  constant := nofun
  string _ := trivial
  collected _ := trivial

namespace Grammar

variable {t : Text} {v : Json}

def Shut (t : Text) : Prop := ∃ s ∈ t.getLast?, s ≠ .char '|'

theorem shut_concat (t : Text) {s : Symbol} (other : s ≠ .char '|') : Shut (t ++ [s]) :=
  ⟨s, List.getLast?_concat, other⟩

theorem Shut.append (shut : Shut t) (front : Text) : Shut (front ++ t) := by
  obtain ⟨s, last, other⟩ := shut
  exact ⟨s, List.mem_getLast?_append_of_mem_getLast? last, other⟩

theorem shut_of_forall (some : t ≠ []) (each : ∀ s ∈ t, s ≠ .char '|') : Shut t :=
  ⟨t.getLast some, List.getLast?_eq_some_getLast some, each _ (List.getLast_mem some)⟩

theorem IsNumber.shut (number : IsNumber t v) : Shut t := by
  cases number with
  | @int negative whole each present =>
    have digits : Shut (whole.map .char) := by
      refine shut_of_forall (by simpa using present) ?_
      refine List.forall_mem_map.mpr fun c member same => ?_
      have digit := each c member
      rw [Symbol.char.inj same] at digit
      contradiction
    cases negative with
    | true => exact digits.append [.char '-']
    | false => exact digits
  | float written =>
    refine shut_of_forall ?_ fun s member same => written.bar_notMem (same ▸ member)
    rintro rfl
    obtain ⟨c, after, -, front⟩ := written.exists_digit
    have same := front []
    generalize Numeral.negative _ = negative at same
    cases negative <;> contradiction

theorem Scalar.shut (scalar : Scalar .strict t v) : Shut t := by
  cases scalar with
  | word known =>
    simp only [Reader.words, Reader.constants, List.append_nil, List.mem_cons, List.not_mem_nil,
      or_false] at known
    rcases known with rfl | rfl | rfl <;> exact ⟨_, rfl, by decide⟩
  | string string =>
    obtain ⟨content⟩ := string
    exact (shut_concat _ (by decide)).append [.char '"']
  | number number => exact number.shut

theorem Enclosed.shut {α : Type} {item : Text → α → Prop} {close : Char} {xs : List α}
    (other : close ≠ '|') (enclosed : Enclosed item close t xs) : Shut t := by
  have last : Symbol.char close ≠ .char '|' := fun same => other (Symbol.char.inj same)
  cases enclosed with
  | empty => exact shut_concat _ last
  | items => exact (((shut_concat _ last).append _).append _)

theorem Value.shut {depth : Nat} (value : Value .strict depth t v) : Shut t := by
  cases depth with
  | zero => exact Scalar.shut value
  | succ depth =>
    cases value with
    | scalar scalar => exact scalar.shut
    | arr inner => exact (inner.shut (by decide)).append [_]
    | obj inner => exact (inner.shut (by decide)).append [_]

end Grammar

theorem numbersOf_read [Runtime] {t : Text} {v : Json} (h : read .strict t = .ok v) :
    Obeys (numbersOf t) v ∧ ∃ s ∈ t.getLast?, s ≠ .char '|' := by
  refine ⟨obeys_read (numbersOf_kept t) h, ?_⟩
  obtain @⟨before, u, after, _, -, value, back⟩ := document_of_read h
  rcases List.eq_nil_or_concat' after with rfl | ⟨blanks, last, rfl⟩
  · rw [List.append_nil]
    exact value.shut.append before
  · have other : last ≠ .char '|' := by
      rintro rfl
      exact absurd (back (.char '|') (by simp)) (by decide)
    exact (((shut_concat blanks other).append u).append before)

end RequestLine.Json
