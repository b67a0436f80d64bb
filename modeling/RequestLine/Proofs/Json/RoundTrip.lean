import RequestLine.Proofs.Json.Complete
import RequestLine.Proofs.Json.Kept
import RequestLine.Proofs.Json.Spaced

set_option autoImplicit false

namespace RequestLine

namespace Json

def plain : Rule where
  float x := x.isFinite = true ∧ x.ReadsBack
  str := Unpaired
  keys ks := ∀ key ∈ ks, Unpaired key

def recoverable : Rule := tidy.and plain

theorem recoverable_str {t : Text} : Obeys recoverable (.str t) ↔ Unpaired t :=
  and_iff_right trivial

theorem recoverable_float {x : Double} :
    Obeys recoverable (.float x) ↔ x.isFinite = true ∧ x.ReadsBack :=
  and_iff_right trivial

theorem recoverable_expressible (dialect : Dialect) : recoverable.Expressible dialect where
  int _ h := h.1
  float _ h := .of_number (Reader.number_double h.2.1 h.2.2 Reader.ends_nil)
  str _ h := h.2
  keys _ h := h

theorem recoverable_obj {members : Members} :
    Obeys recoverable (.obj members) ↔
      ((keys members).Nodup ∧ ∀ key ∈ keys members, Unpaired key) ∧
        ∀ m ∈ members, Obeys recoverable m.2 :=
  obeys_obj members

def spelledAlgebra (spell : Symbol → Text) : Algebra Text where
  null := Writer.algebra.null
  bool := Writer.algebra.bool
  int := Writer.algebra.int
  float := Writer.algebra.float
  str := quoted spell
  arr := Writer.algebra.arr
  obj parts :=
    let members := parts.map fun m => quoted spell m.1 ++ Text.ofString ": " ++ m.2
    .char '\x7b' :: (Text.join ", " members ++ [.char '\x7d'])

def spelled (spell : Symbol → Text) (v : Json) : Text := v.fold (spelledAlgebra spell)

theorem write_eq (v : Json) : v.write = v.spelled Writer.symbol := rfl

section

variable {spell : Symbol → Text}

theorem spelled_arr (elements : List Json) :
    spelled spell (.arr elements) =
      .char '[' :: (Text.join ", " (elements.map (spelled spell)) ++ [.char ']']) := by
  rw [spelled, fold_arr]
  rfl

theorem spelled_obj (members : Members) :
    spelled spell (.obj members) = .char '\x7b' ::
      (Text.join ", " (members.map fun m =>
        quoted spell m.1 ++ Text.ofString ": " ++ spelled spell m.2) ++ [.char '\x7d']) := by
  rw [spelled, fold_obj]
  simp only [spelledAlgebra, List.map_map]
  rfl

theorem opens_spelled {v : Json} (h : v.Obeys recoverable) : Reader.Opens (v.spelled spell) := by
  have char {c : Char} (rest : Text)
      (start : Reader.Visible c ∧ ¬ Reader.Closes c) : Reader.Opens (.char c :: rest) :=
    ⟨c, rest, rfl, start⟩
  cases v with
  | null => exact char (Text.ofString "ull") (by decide)
  | bool b =>
    cases b with
    | false => exact char (Text.ofString "alse") (by decide)
    | true => exact char (Text.ofString "rue") (by decide)
  | int n =>
    have opens := Reader.opens_number (Reader.sound_formOfInt n)
    rwa [Reader.text_formOfInt] at opens
  | float x =>
    obtain ⟨f, sound, -, written⟩ := Double.exists_form Writer.doubleNames h.2.1
    have opens := Reader.opens_number sound
    rwa [written] at opens
  | str t => exact char _ (by decide)
  | arr elements => exact spelled_arr elements ▸ char _ (by decide)
  | obj members => exact spelled_obj members ▸ char _ (by decide)

theorem spaced_spelled (v : Json) : Spaced spell v (v.spelled spell) := by
  have blank : Grammar.Blanks [.char ' '] := by decide
  induction v using Json.induction with
  | null | bool b | int n | float x | str t => rfl
  | arr elements ih => exact spaced_arr.mpr ⟨_, separated_join ih, spelled_arr elements⟩
  | obj members ih =>
    have each (m : Text × Json) (member : m ∈ members) :
        SpacedMember spell m.1 (Spaced spell m.2)
          (quoted spell m.1 ++ Text.ofString ": " ++ spelled spell m.2) := by
      have one : SpacedMember spell m.1 (Spaced spell m.2) _ := .mk blank (ih m member)
      simpa [Text.ofString] using one
    exact spaced_obj.mpr ⟨_, separated_join each, spelled_obj members⟩

theorem read_spelled [Runtime] (faithful : Faithful spell) (dialect : Dialect) {v : Json}
    (h : v.Obeys recoverable) (shallow : v.depth ≤ Runtime.nesting) :
    read dialect (v.spelled spell) = .ok v := by
  have value := value_spaced (recoverable_expressible dialect) faithful h shallow (spaced_spelled v)
  have document := Grammar.Document.mk Grammar.blanks_nil value Grammar.blanks_nil
  rw [List.nil_append, List.append_nil] at document
  exact read_document document

theorem back_spelled {v : Json} (h : v.Obeys recoverable) :
    ∃ c, (v.spelled spell).getLast? = some (.char c) ∧ Reader.Visible c := by
  have number {f : Numeral.Form} (sound : f.Sound) :
      ∃ c, f.text.getLast? = some (.char c) ∧ Reader.Visible c := by
    obtain ⟨c, rest, front, -⟩ := Reader.front_text sound []
    rw [List.append_nil] at front
    have some : f.text ≠ [] := by simp [front]
    obtain ⟨c, same, numeric⟩ := sound.isNumeric _ (List.getLast_mem some)
    exact ⟨c, by rw [List.getLast?_eq_some_getLast some, same], (Reader.visible_numeric numeric).1⟩
  have enclosed (c d : Symbol) (t : Text) : (c :: (t ++ [d])).getLast? = some d := by
    rw [← List.cons_append, List.getLast?_concat]
  cases v with
  | null => exact ⟨'l', rfl, by decide⟩
  | bool b => cases b <;> exact ⟨'e', rfl, by decide⟩
  | int n =>
    have back := number (Reader.sound_formOfInt n)
    rwa [Reader.text_formOfInt] at back
  | float x =>
    obtain ⟨f, sound, -, written⟩ := Double.exists_form Writer.doubleNames h.2.1
    have back := number sound
    rwa [written] at back
  | str t => exact ⟨'"', enclosed _ _ _, by decide⟩
  | arr elements => exact ⟨']', spelled_arr elements ▸ enclosed _ _ _, by decide⟩
  | obj members => exact ⟨'\x7d', spelled_obj members ▸ enclosed _ _ _, by decide⟩

theorem strip_spelled {v : Json} (h : v.Obeys recoverable) :
    Text.strip (v.spelled spell) = v.spelled spell := by
  obtain ⟨c, rest, front, visible, -⟩ := (opens_spelled h : Reader.Opens (v.spelled spell))
  obtain ⟨d, back, visibleBack⟩ := (back_spelled h : ∃ d, (v.spelled spell).getLast? = _ ∧ _)
  refine Text.strip_eq_self (fun s first => ?_) (fun s last => ?_)
  · rw [front] at first
    cases first
    exact visible.notBlank
  · rw [back] at last
    cases last
    exact visibleBack.notBlank

end

theorem read_write [Runtime] (dialect : Dialect) {v : Json} (h : v.Obeys recoverable)
    (shallow : v.depth ≤ Runtime.nesting) : read dialect v.write = .ok v :=
  write_eq v ▸ read_spelled faithful_symbol dialect h shallow

end Json

end RequestLine
