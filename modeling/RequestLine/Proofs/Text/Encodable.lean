import RequestLine.Double.Shortest

set_option autoImplicit false

namespace RequestLine

namespace Text

@[simp] theorem isEncodable_nil : isEncodable [] = true := rfl

@[simp] theorem isEncodable_char (c : Char) (t : Text) :
    isEncodable (.char c :: t) = t.isEncodable := rfl

@[simp] theorem isEncodable_lone (half : Fin 2048) (t : Text) :
    isEncodable (.lone half :: t) = false := rfl

@[simp] theorem isEncodable_append (a b : Text) :
    isEncodable (a ++ b) = (a.isEncodable && b.isEncodable) := List.all_append

@[simp] theorem isEncodable_map_char (cs : List Char) : isEncodable (cs.map .char) = true := by
  simp [isEncodable, Symbol.isLone]

@[simp] theorem isEncodable_ofString (s : String) : (ofString s).isEncodable = true :=
  isEncodable_map_char _

@[simp] theorem isEncodable_ofNat (n : Nat) : (ofNat n).isEncodable = true :=
  isEncodable_map_char _

@[simp] theorem isEncodable_ofInt (n : Int) : (ofInt n).isEncodable = true := by
  unfold ofInt
  split <;> simp

@[simp] theorem isEncodable_replicate (n : Nat) (c : Char) :
    isEncodable (List.replicate n (.char c)) = true := by
  simp [isEncodable, Symbol.isLone]

theorem isEncodable_of_subset {a b : Text} (within : a ⊆ b) (h : b.isEncodable = true) :
    a.isEncodable = true := by
  rw [isEncodable, List.all_eq_true] at h ⊢
  exact fun s member => h s (within member)

theorem isEncodable_flatMap {α : Type} {f : α → Text} (items : List α)
    (each : ∀ a ∈ items, (f a).isEncodable = true) : isEncodable (items.flatMap f) = true := by
  induction items with
  | nil => rfl
  | cons a items ih =>
    rw [List.flatMap_cons, isEncodable_append, each a (by simp), Bool.true_and]
    exact ih fun b member => each b (by simp [member])

theorem isEncodable_join {parts : List Text} (separator : String)
    (each : ∀ part ∈ parts, part.isEncodable = true) :
    (join separator parts).isEncodable = true := by
  induction parts with
  | nil => rfl
  | cons part parts ih =>
    rw [List.forall_mem_cons] at each
    cases parts with
    | nil => simpa [join] using each.1
    | cons next parts =>
      have more := ih each.2
      unfold join at more ⊢
      simp [List.intercalate_cons_cons, each.1, more]

theorem mapM_char? (t : Text) : (t.mapM Symbol.char?).isSome = t.isEncodable := by
  induction t with
  | nil => rfl
  | cons s t ih =>
    cases s with
    | char c => cases h : t.mapM Symbol.char? <;> simp_all [Symbol.char?]
    | lone half => simp [Symbol.char?]

theorem utf8?_isSome (t : Text) : t.utf8?.isSome = t.isEncodable := by
  simp [utf8?, toString?, mapM_char?]

theorem ofUtf8?_toUTF8 (s : String) : ofUtf8? s.toUTF8 = some (ofString s) :=
  congrArg (Option.map ofString) (dif_pos s.isValidUTF8)

end Text

namespace Double

open Text

theorem isEncodable_layout (d : Decimal) : (layout d).isEncodable = true := by
  have front (n : Nat) : isEncodable ((Text.ofNat d.digits).take n) = true :=
    isEncodable_of_subset (List.take_subset n _) (isEncodable_ofNat _)
  have back (n : Nat) : isEncodable ((Text.ofNat d.digits).drop n) = true :=
    isEncodable_of_subset (List.drop_subset n _) (isEncodable_ofNat _)
  have tail : isEncodable (List.tail (Text.ofNat d.digits)) = true :=
    isEncodable_of_subset (fun _ member => List.mem_of_mem_tail member) (isEncodable_ofNat _)
  simp only [layout]
  split
  next =>
    split
    · simp
    split <;> simp [front, back]
  next => split <;> split <;> simp [front, tail]

@[simp] theorem isEncodable_text (names : Names) (x : Double) :
    (x.text names).isEncodable = true := by
  have magnitude (m p : Nat) : (magnitudeText m p).isEncodable = true := by
    unfold magnitudeText
    split
    · rfl
    · exact isEncodable_layout _
  cases x with
  | finite negative m p valid => cases negative <;> simp [text, withSign, magnitude]
  | infinite negative => cases negative <;> simp [text, withSign]
  | nan => simp [text]

end Double

end RequestLine
