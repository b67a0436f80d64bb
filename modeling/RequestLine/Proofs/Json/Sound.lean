import Mathlib.Data.List.TakeWhile
import RequestLine.Proofs.Json.Grammar
import RequestLine.Proofs.Json.Numbers
import RequestLine.Proofs.Result

set_option autoImplicit false

namespace RequestLine

theorem Text.digits_afterDigits (t : Text) : t.digits.map .char ++ t.afterDigits = t := by
  induction t with
  | nil => rfl
  | cons s t ih =>
    unfold Text.digits Text.afterDigits at ih ⊢
    by_cases digit : s.isDigit
    · cases s with
      | char c => simpa [digit, Symbol.char?] using ih
      | lone half => contradiction
    · simp [digit]

namespace Json.Reader

open Grammar
open Numeral (Form IsExponent IsPower)

theorem wholePart_eq {t rest : Text} {whole : List Char} (h : wholePart t = (whole, rest)) :
    t = whole.map .char ++ rest ∧ AreDigits whole ∧ (whole = ['0'] ∨ whole.head? ≠ some '0') := by
  unfold wholePart at h
  split at h
  next =>
    cases h
    exact ⟨rfl, by simp [AreDigits, Char.isDigit], .inl rfl⟩
  next other =>
    cases h
    refine ⟨(Text.digits_afterDigits t).symm, Text.areDigits_digits t, .inr fun zero => ?_⟩
    obtain ⟨cs, run⟩ := List.head?_eq_some_iff.mp zero
    have whole := Text.digits_afterDigits t
    rw [run] at whole
    exact other _ whole.symm

theorem fractionPart_eq_some {t rest : Text} {fraction : List Char}
    (h : fractionPart t = some (fraction, rest)) :
    t = Form.fractionText fraction ++ rest ∧ AreDigits fraction ∧ fraction ≠ [] := by
  unfold fractionPart at h
  split at h
  next after =>
    split at h
    next => contradiction
    next some =>
      cases h
      rw [List.isEmpty_iff] at some
      refine ⟨?_, Text.areDigits_digits after, some⟩
      rw [Form.fractionText, if_neg some, List.cons_append, Text.digits_afterDigits]
  next => contradiction

theorem exponentPart_eq_some {t rest : Text} {e : Int} (h : exponentPart t = some (e, rest)) :
    ∃ power, t = power ++ rest ∧ IsExponent power e := by
  unfold exponentPart at h
  split at h
  next c after =>
    obtain ⟨mark, sign, same⟩ := Text.exists_mark after
    dsimp only at h
    generalize (Text.sign after).1 = negative at *
    generalize (Text.sign after).2 = amount at *
    split at h
    next letter =>
      cases h
      refine ⟨_, ?_, .mk letter.1 sign (Text.areDigits_digits amount) letter.2⟩
      rw [same, List.cons_append, List.append_assoc, Text.digits_afterDigits]
    next => contradiction
  next => contradiction

variable {α β : Type}

inductive Takes (item : Text → α → Prop) (deep : Text → Prop) (t : Text) : Read α → Prop where
  | ok {u rest : Text} {x : α} (front : t = u ++ rest) (found : item u x) :
      Takes item deep t (.ok (x, rest))
  | malformed : Takes item deep t (.error .malformed)
  | tooDeep (reached : deep t) : Takes item deep t (.error .tooDeep)

def Never (_ : Text) : Prop := False

namespace Takes

variable {item : Text → α → Prop} {other : Text → β → Prop} {deep below : Text → Prop} {t : Text}
  {r : Read α}

theorem of_ok {x : α} {rest : Text} (h : Takes item deep t (.ok (x, rest))) :
    ∃ u, t = u ++ rest ∧ item u x := by
  cases h with
  | ok front found => exact ⟨_, front, found⟩

theorem suffix {x : α} {rest : Text} (h : Takes item deep t (.ok (x, rest))) : rest <:+ t := by
  obtain ⟨u, rfl, -⟩ := h.of_ok
  exact List.suffix_append u rest

theorem map (h : Takes item deep t r) (front : Text) {f : α → β}
    (each : ∀ u x, item u x → other (front ++ u) (f x)) (reached : deep t → below (front ++ t)) :
    Takes other below (front ++ t) (r.map fun (x, rest) => (f x, rest)) := by
  cases h with
  | ok same found => exact .ok (by rw [same, List.append_assoc]) (each _ _ found)
  | malformed => exact .malformed
  | tooDeep deep => exact .tooDeep (reached deep)

theorem behind {item' : Text → α → Prop} (h : Takes item deep t r) (front : Text)
    (each : ∀ u x, item u x → item' (front ++ u) x) (reached : deep t → below (front ++ t)) :
    Takes item' below (front ++ t) r := by
  have same : r.map (fun (x, rest) => (x, rest)) = r := by cases r <;> rfl
  exact same ▸ h.map front each reached

theorem mono {item' : Text → α → Prop} (h : Takes item Never t r)
    (each : ∀ u x, item u x → item' u x) : Takes item' deep t r :=
  h.behind [] each False.elim

end Takes

theorem takes_float {negative : Bool} {whole fraction : List Char} {e : Int} {power rest : Text}
    (each : AreDigits whole) (present : whole ≠ [])
    (leading : whole = ['0'] ∨ whole.head? ≠ some '0') (digits : AreDigits fraction)
    (isPower : IsPower ⟨negative, whole, fraction, e⟩ power) :
    Takes IsNumber Never
      (Double.withSign negative
        (whole.map .char ++ (Form.fractionText fraction ++ (power ++ rest))))
      (.ok (.float (Numeral.double ⟨negative, whole, fraction, e⟩), rest)) := by
  refine .ok ?_ (.float ⟨each, present, leading, digits, power, isPower, rfl⟩)
  cases negative <;> simp [Double.withSign]

theorem takes_magnitude (negative : Bool) (t : Text) :
    Takes IsNumber Never (Double.withSign negative t) (magnitude negative t) := by
  unfold magnitude
  rcases front : wholePart t with ⟨whole, after⟩
  obtain ⟨rfl, each, leading⟩ := wholePart_eq front
  dsimp only
  split
  next => exact .malformed
  next some =>
    have present : whole ≠ [] := fun none => some (List.isEmpty_iff.mpr none)
    split
    next fraction tail found =>
      obtain ⟨rfl, digits, some⟩ := fractionPart_eq_some found
      cases power : exponentPart tail with
      | none =>
        have point : IsPower ⟨negative, whole, fraction, 0⟩ [] := .absent some rfl
        exact takes_float each present leading digits point
      | some read =>
        obtain ⟨written, rfl, exponent⟩ := exponentPart_eq_some power
        exact takes_float each present leading digits (.present exponent)
    next =>
      split
      next e tail power =>
        obtain ⟨written, rfl, exponent⟩ := exponentPart_eq_some power
        have none : AreDigits [] := by simp [AreDigits]
        exact takes_float each present leading none (.present exponent)
      next =>
        split
        next => exact .malformed
        next short =>
          refine .ok ?_ (.int each present leading (Nat.le_of_not_lt short))
          cases negative <;> rfl

theorem takes_number (t : Text) : Takes IsNumber Never t (number t) := by
  have sign : ∃ negative u, t = Double.withSign negative u ∧ number t = magnitude negative u := by
    by_cases minus : ∃ u, t = .char '-' :: u
    · obtain ⟨u, rfl⟩ := minus
      exact ⟨true, u, rfl, rfl⟩
    · refine ⟨false, t, rfl, ?_⟩
      unfold number
      split
      next negative u found =>
        split at found
        next u => exact absurd ⟨u, rfl⟩ minus
        next =>
          cases found
          rfl
  obtain ⟨negative, u, rfl, read⟩ := sign
  exact read ▸ takes_magnitude negative u

theorem takes_pieces (done : List Piece) (t : Text) :
    Takes (fun u ps => ∃ w qs, u = w ++ [.char '"'] ∧ ps = done.reverse ++ qs ∧ Content w qs)
      Never t (pieces done t) := by
  fun_induction pieces done t with
  | case1 => exact .malformed
  | case2 done after => exact .ok rfl ⟨[], [], rfl, (List.append_nil _).symm, .nil⟩
  | case3 done a b c d after n escape ih =>
    refine ih.behind [_, _, a, b, c, d] ?_ id
    rintro _ _ ⟨w, qs, rfl, rfl, content⟩
    exact ⟨_, .ofUnit n :: qs, rfl, by simp, .unit escape content⟩
  | case4 => exact .malformed
  | case5 done s after _ c escape ih =>
    refine ih.behind [_, s] ?_ id
    rintro _ _ ⟨w, qs, rfl, rfl, content⟩
    exact ⟨_, .whole (.char c) :: qs, rfl, by simp, .escape escape content⟩
  | case6 => exact .malformed
  | case7 => exact .malformed
  | case8 done s after quote _ _ plain ih =>
    obtain ⟨shown, backslash⟩ := not_or.mp plain
    refine ih.behind [s] ?_ id
    rintro _ _ ⟨w, qs, rfl, rfl, content⟩
    exact ⟨_, .whole s :: qs, rfl, by simp,
      .plain (Nat.le_of_not_lt shown) quote backslash content⟩

theorem takes_string (t : Text) :
    Takes (fun u key => IsString (.char '"' :: u) key) Never t (string t) := by
  refine (takes_pieces [] t).map [] ?_ id
  rintro _ _ ⟨w, qs, rfl, rfl, content⟩
  exact .mk content

theorem takes_word {dialect : Dialect} {t rest : Text} {v : Json}
    (h : word? dialect t = some (v, rest)) : Takes (Scalar dialect) Never t (.ok (v, rest)) := by
  obtain ⟨w, known, found⟩ := List.exists_of_findSome?_eq_some h
  obtain ⟨after, front, same⟩ := Option.map_eq_some_iff.mp found
  cases same
  rw [List.isPrefixOf?_eq_some_iff_append_eq] at front
  exact .ok front.symm (.word known)

theorem takes_scalar (dialect : Dialect) (t : Text) :
    Takes (Scalar dialect) Never t (scalar dialect t) := by
  unfold scalar
  split
  next quoted =>
    exact (takes_string quoted).map [.char '"'] (fun _ _ => .string) id
  next =>
    split
    next found => exact takes_word found
    next => exact (takes_number t).mono fun _ _ => .number

theorem skip_suffix (t : Text) : skip t <:+ t := List.dropWhile_suffix _

theorem exists_blanks (t : Text) : ∃ before, t = before ++ skip t ∧ Blanks before :=
  ⟨t.takeWhile isBlank, List.takeWhile_append_dropWhile.symm,
    fun _ member => List.all_eq_true.mp List.all_takeWhile _ member⟩

variable {read : Text → Read α} {item : Text → α → Prop} {deep : Text → Prop}

theorem takes_items (takes : ∀ t, Takes item deep t (read t)) (close : Char) (fuel : Nat)
    (done : List α) (t : Text) :
    Takes (fun u xs => ∃ w ys after, u = w ++ (after ++ [.char close]) ∧ xs = done.reverse ++ ys ∧
        Items item w ys ∧ Blanks after)
      (Reaches item deep) t (items read close fuel done t) := by
  -- What has been read stands in `done` back to front.
  induction fuel generalizing done t with
  | zero => exact .malformed
  | succ fuel ih =>
    have first := takes t
    rw [items]
    generalize read t = r at first
    cases first with
    | malformed => exact .malformed
    | tooDeep reached => exact .tooDeep (.here reached)
    | @ok u rest x front found =>
      obtain ⟨before, same, blank⟩ := exists_blanks rest
      dsimp only
      split
      next c more skipped =>
        by_cases comma : c = ','
        · obtain ⟨after, back, blankAfter⟩ := exists_blanks more
          have whole : t = (u ++ before ++ .char ',' :: after) ++ skip more := by
            rw [front, same, skipped, comma]
            nth_rewrite 1 [back]
            simp only [List.append_assoc, List.cons_append]
          rw [if_pos comma, whole]
          refine (ih (x :: done) (skip more)).behind _ ?_ fun reached => ?_
          · rintro _ _ ⟨w, ys, last, rfl, rfl, others, blankLast⟩
            refine ⟨_, x :: ys, last, ?_, by simp, .more found blank blankAfter others, blankLast⟩
            simp only [List.append_assoc, List.cons_append]
          · simpa only [List.append_assoc, List.cons_append] using
              Reaches.later found blank blankAfter reached
        · rw [if_neg comma]
          split
          next closed =>
            refine .ok ?_ ⟨u, [x], before, rfl, by simp, .last found, blank⟩
            rw [front, same, skipped, closed]
            simp
          next => exact .malformed
      next => exact .malformed

theorem takes_enclosed (takes : ∀ t, Takes item deep t (read t)) (close : Char) (fuel : Nat)
    (t : Text) :
    Takes (Enclosed item close)
      (fun t => ∃ before u, t = before ++ u ∧ Blanks before ∧ Reaches item deep u) t
      (enclosed read close fuel t) := by
  obtain ⟨before, front, blank⟩ := exists_blanks t
  unfold enclosed
  split
  next c more skipped =>
    rw [skipped] at front
    split
    next closed => exact .ok (by rw [front, closed]; simp) (.empty blank)
    next =>
      rw [front]
      refine (takes_items takes close fuel [] (.char c :: more)).behind before ?_ fun reached => ?_
      · rintro _ _ ⟨w, ys, after, rfl, rfl, inner, blankAfter⟩
        exact .items blank inner blankAfter
      · exact ⟨before, _, rfl, blank, reached⟩
  next => exact .malformed

theorem takes_member {read : Text → Read Json} {value : Text → Json → Prop}
    (takes : ∀ t, Takes value deep t (read t)) (t : Text) :
    Takes (Member value) (MemberReaches deep) t (member read t) := by
  unfold member
  split
  next quoted =>
    have name := takes_string quoted
    generalize string quoted = r at name
    cases name with
    | malformed => exact .malformed
    | tooDeep reached => exact reached.elim
    | @ok u rest key front isString =>
      obtain ⟨before, same, blank⟩ := exists_blanks rest
      dsimp only
      split
      next more colon =>
        obtain ⟨after, back, blankAfter⟩ := exists_blanks more
        have whole : .char '"' :: quoted =
            (.char '"' :: u ++ before ++ .char ':' :: after) ++ skip more := by
          rw [front, same, colon]
          nth_rewrite 1 [back]
          simp only [List.append_assoc, List.cons_append]
        rw [whole]
        refine (takes (skip more)).map _ (fun u v isValue => ?_) fun reached => ?_
        · simpa using Member.mk isString blank blankAfter isValue
        · simpa using MemberReaches.mk isString blank blankAfter reached
      next => exact .malformed
  next => exact .malformed

theorem takes_value (dialect : Dialect) (fuel depth : Nat) (t : Text) :
    Takes (Value dialect depth) (Exceeds dialect depth) t (value dialect fuel depth t) := by
  -- Only the depth goes down with the recursion; the fuel is spent on the items.
  induction depth generalizing t with
  | zero =>
    unfold value
    split
    next rest => exact .tooDeep ⟨_, rest, .inl rfl, rfl⟩
    next rest => exact .tooDeep ⟨_, rest, .inr rfl, rfl⟩
    next => exact (takes_scalar dialect t).mono fun _ _ isScalar => isScalar
  | succ depth ih =>
    unfold value
    split
    next inner =>
      refine (takes_enclosed ih ']' fuel inner).map [.char '['] (fun _ _ => Level.arr) ?_
      rintro ⟨before, u, rfl, blank, reached⟩
      have descends := Descends.arr blank reached
      exact descends
    next inner =>
      have members := takes_enclosed (takes_member ih) '\x7d' fuel inner
      have each (u : Text) (ms : Members)
          (inner : Enclosed (Member (Value dialect depth)) '\x7d' u ms) :
          Value dialect (depth + 1) (.char '\x7b' :: u) (.obj (collect ms)) := .obj inner
      refine members.map [.char '\x7b'] each ?_
      rintro ⟨before, u, rfl, blank, reached⟩
      have descends := Descends.obj blank reached
      exact descends
    next => exact (takes_scalar dialect t).mono fun _ _ => .scalar

end Json.Reader

namespace Json

open Grammar

theorem document_of_read [Runtime] {dialect : Dialect} {t : Text} {v : Json}
    (h : read dialect t = .ok v) :
    Document dialect Runtime.nesting t v := by
  obtain ⟨before, front, blank⟩ := Reader.exists_blanks t
  have taken := Reader.takes_value dialect t.length Runtime.nesting (Reader.skip t)
  unfold read at h
  split at h
  next => contradiction
  next found =>
    obtain ⟨u, same, isValue⟩ := (found ▸ taken).of_ok
    split at h
    next ended =>
      cases h
      rw [front, same]
      exact .mk blank isValue (List.dropWhile_eq_nil_iff.mp ended)
    next => contradiction

theorem overruns_of_read [Runtime] {dialect : Dialect} {t : Text}
    (h : read dialect t = .error .tooDeep) :
    Overruns dialect Runtime.nesting t := by
  obtain ⟨before, front, blank⟩ := Reader.exists_blanks t
  have taken := Reader.takes_value dialect t.length Runtime.nesting (Reader.skip t)
  unfold read at h
  split at h
  next fault found =>
    cases h
    rw [found] at taken
    cases taken with
    | tooDeep reached => exact front ▸ .mk blank reached
  next => split at h <;> cases h

end Json

end RequestLine
