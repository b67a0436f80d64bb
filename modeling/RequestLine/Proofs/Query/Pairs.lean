import RequestLine.Proofs.Query.Encodable
import RequestLine.Proofs.Result

set_option autoImplicit false

namespace RequestLine

namespace Double

def whole? (x : Double) : Option Int :=
  x.units?.bind fun n => if (unit : Int) ∣ n then some (n / unit) else none

theorem dvd_signed (negative : Bool) (d n : Nat) : (d : Int) ∣ signed negative n ↔ d ∣ n := by
  cases negative with
  | true => exact Int.dvd_neg.trans Int.natCast_dvd_natCast
  | false => exact Int.natCast_dvd_natCast

theorem signed_ediv {d n : Nat} (divides : d ∣ n) (negative : Bool) :
    signed negative n / d = signed negative (n / d) := by
  cases negative with
  | true => exact Int.neg_ediv_of_dvd (Int.natCast_dvd_natCast.mpr divides)
  | false => rfl

theorem whole?_finite (negative : Bool) (m p : Nat)
    (valid : m < 1 <<< 53 ∧ (1 <<< 52 ≤ m ∨ p = 0) ∧ p ≤ 2045) :
    (finite negative m p valid).whole? =
      if unit ∣ m <<< p then some (signed negative (m <<< p / unit)) else none := by
  simp only [whole?, units?, Option.bind_some, dvd_signed]
  split
  next divides => rw [signed_ediv divides]
  next => rfl

end Double

namespace Query

def doubleText (x : Double) : Text := x.whole?.elim (x.text Double.plainNames) Text.ofInt

def valueText : Json → Text
  | .null | .arr _ | .obj _ => []
  | .bool b => Text.ofString (if b then "true" else "false")
  | .int n => Text.ofInt n
  | .float x => doubleText x
  | .str t => t

def memberPairs (m : Text × Json) : List (Text × Text) :=
  (values m.2).map fun v => (m.1, valueText v)

def pairsOf (params : Json.Members) : List (Text × Text) := params.flatMap memberPairs

def escaped (t : Text) : Text := (t.utf8?.getD .empty).data.toList.flatMap escapeByte

def pairText (p : Text × Text) : Text := escaped p.1 ++ Symbol.char '=' :: escaped p.2

theorem double_eq (x : Double) : double x = .ok (doubleText x) := by
  cases x with
  | finite negative m p valid =>
    rw [double, doubleText, Double.whole?_finite]
    by_cases whole : Double.unit ∣ m <<< p
    · have integer : (Double.finite negative m p valid).isInteger = true :=
        beq_iff_eq.mpr (Nat.mod_eq_zero_of_dvd whole)
      rw [if_pos integer, if_pos whole]
      exact if_pos (natAbs_truncate (x := .finite negative m p valid) rfl)
    · have fraction : (Double.finite negative m p valid).isInteger ≠ true := fun h =>
        whole (Nat.dvd_of_mod_eq_zero (beq_iff_eq.mp h))
      rw [if_neg fraction, if_neg whole]
      rfl
  | infinite negative => rfl
  | nan => rfl

example : doubleText (Double.ofInt (-2)) = Text.ofString "-2" := by decide +kernel

example : doubleText (Double.ofDecimal true 15 (-1)) = Text.ofString "-1.5" := by decide +kernel

theorem scalar_iff {v : Json} {t : Text} : scalar v = .ok t ↔ IsShort v ∧ t = valueText v := by
  have free (other : ∀ n, v ≠ .int n) : IsShort v := fun n same => absurd same (other n)
  cases v with
  | int n =>
    rw [scalar, decimal, valueText]
    split
    next short =>
      have fits : IsShort (.int n) := fun k same => by cases same; exact short
      simp [fits, eq_comm]
    next long =>
      have overflows : ¬ IsShort (.int n) := fun fits => long (fits n rfl)
      simp [overflows]
  | float x => rw [scalar, double_eq]; simp [free, valueText, eq_comm]
  | null | bool b | str t | arr elements | obj members => simp [free, scalar, valueText, eq_comm]

theorem isEncodable_valueText (v : Json) : (valueText v).isEncodable = isEncodableItem v := by
  cases v with
  | float x =>
    rw [valueText, doubleText]
    cases x.whole? with
    | none => exact Double.isEncodable_text _ x
    | some n => exact Text.isEncodable_ofInt n
  | int n => exact Text.isEncodable_ofInt n
  | bool b => exact Text.isEncodable_ofString _
  | null | str t | arr elements | obj members => rfl

theorem escape_iff {t e : Text} : escape t = .ok e ↔ t.isEncodable = true ∧ e = escaped t := by
  rw [← Text.utf8?_isSome, escape, escaped]
  cases t.utf8? <;> simp [eq_comm]

theorem pair_iff {key : Text} {v : Json} {part : Text} :
    pair key v = .ok part ↔ (IsShort v ∧ isEncodableItem v = true) ∧
      part = key ++ Symbol.char '=' :: escaped (valueText v) := by
  rw [pair, bind_eq_ok]
  simp only [scalar_iff, bind_eq_ok, escape_iff]
  constructor
  · rintro ⟨t, ⟨short, rfl⟩, e, ⟨encodable, rfl⟩, same⟩
    cases same
    exact ⟨⟨short, isEncodable_valueText v ▸ encodable⟩, rfl⟩
  · rintro ⟨⟨short, encodable⟩, rfl⟩
    exact ⟨_, ⟨short, rfl⟩, _, ⟨isEncodable_valueText v ▸ encodable, rfl⟩, rfl⟩

structure Fits (m : Text × Json) : Prop where
  key : m.1.isEncodable = true
  short : ∀ v ∈ values m.2, IsShort v
  readable : ∀ v ∈ values m.2, isEncodableItem v = true

theorem pairs_iff {m : Text × Json} {parts : List Text} :
    pairs m = .ok parts ↔ Fits m ∧ parts = (memberPairs m).map pairText := by
  obtain ⟨name, v⟩ := m
  -- One value is written just as a list of one would be.
  have uniform : pairs (name, v) = escape name >>= fun key => (values v).mapM (pair key) := by
    cases v <;> simp [pairs, values]
  rw [uniform, bind_eq_ok]
  have each (key : Text) (parts : List Text) : (values v).mapM (pair key) = .ok parts ↔
      (∀ x ∈ values v, IsShort x ∧ isEncodableItem x = true) ∧
        parts = (values v).map fun x => key ++ Symbol.char '=' :: escaped (valueText x) :=
    mapM_eq_ok (f := pair key) (fun _ _ _ => pair_iff) parts
  simp only [escape_iff, each, memberPairs, List.map_map]
  constructor
  · rintro ⟨key, ⟨encodable, rfl⟩, fits, rfl⟩
    exact ⟨⟨encodable, fun x h => (fits x h).1, fun x h => (fits x h).2⟩, rfl⟩
  · rintro ⟨fits, rfl⟩
    exact ⟨_, ⟨fits.key, rfl⟩, fun x h => ⟨fits.short x h, fits.readable x h⟩, rfl⟩

theorem encode_iff {params : Json.Members} {q : Text} :
    encode params = .ok q ↔
      (∀ m ∈ params, Fits m) ∧ q = Text.join "&" ((pairsOf params).map pairText) := by
  have each (written : List (List Text)) : params.mapM pairs = .ok written ↔
      (∀ m ∈ params, Fits m) ∧ written = params.map fun m => (memberPairs m).map pairText :=
    mapM_eq_ok (f := pairs) (fun _ _ _ => pairs_iff) written
  rw [encode, bind_eq_ok]
  simp only [each, pairsOf, List.map_flatMap]
  constructor
  · rintro ⟨written, ⟨fits, rfl⟩, same⟩
    cases same
    exact ⟨fits, rfl⟩
  · rintro ⟨fits, rfl⟩
    exact ⟨_, ⟨fits, rfl⟩, rfl⟩

end Query

end RequestLine
