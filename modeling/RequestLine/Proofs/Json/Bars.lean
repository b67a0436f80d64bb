import RequestLine.Proofs.Json.RoundTrip

set_option autoImplicit false

namespace RequestLine

def escapeBar (s : Symbol) : Text := if s = .char '|' then Text.ofString "\\u007c" else [s]

namespace Text

def escapeBars (t : Text) : Text := t.flatMap escapeBar

theorem escapeBars_eq_self {t : Text} (absent : .char '|' ∉ t) : escapeBars t = t := by
  induction t with
  | nil => rfl
  | cons s t ih =>
    rw [List.mem_cons, not_or] at absent
    have first : escapeBar s = [s] := if_neg (Ne.symm absent.1)
    rw [escapeBars, List.flatMap_cons, first]
    exact congrArg (s :: ·) (ih absent.2)

theorem bar_notMem_escapeBars (t : Text) : .char '|' ∉ escapeBars t := by
  rw [escapeBars, List.mem_flatMap]
  rintro ⟨s, -, member⟩
  unfold escapeBar at member
  split at member
  next => exact absurd member (by decide)
  next other => exact other (List.mem_singleton.mp member).symm

end Text

open Text (escapeBars)

namespace Hex

theorem bar_notMem_lower (width n : Nat) : Symbol.char '|' ∉ lower width n := by
  have digit : ∀ d < 16, lowerDigit d ≠ '|' := by decide
  have member (c : Char) (h : c ∈ digits lowerDigit width n) : ∃ d < 16, c = lowerDigit d := by
    induction width generalizing n with
    | zero => contradiction
    | succ width ih =>
      rcases List.mem_append.mp h with front | last
      · exact ih (n / 16) front
      · exact ⟨n % 16, Nat.mod_lt n (by decide), List.mem_singleton.mp last⟩
  simp only [lower, List.mem_map, Symbol.char.injEq, exists_eq_right]
  intro found
  obtain ⟨d, bound, same⟩ := member '|' found
  exact digit d bound same.symm

end Hex

namespace Json

theorem bar_notMem_symbol {s : Symbol} (other : s ≠ .char '|') : .char '|' ∉ Writer.symbol s := by
  have unit (n : Nat) : Symbol.char '|' ∉ Writer.unitEscape n := by
    simp [Writer.unitEscape, Hex.bar_notMem_lower]
  unfold Writer.symbol
  split
  next c escape =>
    unfold Writer.shortEscape? at escape
    split at escape <;> cases escape <;> decide
  next =>
    split
    next => simpa using Ne.symm other
    next =>
      split
      next => exact unit _
      next => simp [unit]

theorem faithful_escapeBars : Faithful fun s => escapeBars (Writer.symbol s) := by
  intro s
  by_cases bar : s = .char '|'
  · subst bar
    exact Spells.unit (n := 0x7C) (by decide)
  · have kept := Text.escapeBars_eq_self (bar_notMem_symbol bar)
    exact (congrArg (Spells · (units s)) kept).mpr (faithful_symbol s)

theorem escapeBars_number {f : Numeral.Form} (sound : f.Sound) : escapeBars f.text = f.text := by
  refine Text.escapeBars_eq_self fun member => ?_
  obtain ⟨c, same, numeric⟩ := sound.isNumeric _ member
  cases same
  exact (Reader.visible_numeric numeric).2.2 rfl

theorem escapeBars_write {v : Json} (h : v.Obeys recoverable) :
    escapeBars v.write = v.spelled fun s => escapeBars (Writer.symbol s) := by
  generalize same : (fun s => escapeBars (Writer.symbol s)) = spell
  have enclosed (c d : Char) (t : Text) (bars : c ≠ '|' ∧ d ≠ '|') :
      escapeBars (.char c :: (t ++ [.char d])) = .char c :: (escapeBars t ++ [.char d]) := by
    simp [escapeBars, escapeBar, bars]
  have quoted (t : Text) : escapeBars (quoted Writer.symbol t) = Json.quoted spell t := by
    rw [Json.quoted, enclosed _ _ _ (by decide), escapeBars, List.flatMap_assoc, ← same]
    rfl
  have joined : escapeBars (Text.ofString ", ") = Text.ofString ", " := by decide
  -- Outside strings a written value has no bars, so only the spelling of symbols changes.
  rw [write_eq]
  induction v using Json.induction with
  | null => rfl
  | bool b => cases b <;> rfl
  | int n =>
    have kept := escapeBars_number (Reader.sound_formOfInt n)
    rwa [Reader.text_formOfInt] at kept
  | float x =>
    obtain ⟨f, sound, -, written⟩ := Double.exists_form Writer.doubleNames h.2.1
    have kept := escapeBars_number sound
    rwa [written] at kept
  | str t => exact quoted t
  | arr elements ih =>
    rw [obeys_arr] at h
    rw [spelled_arr, spelled_arr, enclosed _ _ _ (by decide), escapeBars,
      Text.flatMap_join escapeBar joined, List.map_map]
    have each : elements.map ((·.flatMap escapeBar) ∘ spelled Writer.symbol) =
        elements.map (spelled spell) :=
      List.map_congr_left fun v member => ih v member (h v member)
    rw [each]
  | obj members ih =>
    rw [obeys_obj] at h
    rw [spelled_obj, spelled_obj, enclosed _ _ _ (by decide), escapeBars,
      Text.flatMap_join escapeBar joined, List.map_map]
    have each : members.map ((·.flatMap escapeBar) ∘ fun m : Text × Json =>
          Json.quoted Writer.symbol m.1 ++ Text.ofString ": " ++ spelled Writer.symbol m.2) =
        members.map fun m => Json.quoted spell m.1 ++ Text.ofString ": " ++ spelled spell m.2 := by
      refine List.map_congr_left fun m member => ?_
      have key := quoted m.1
      have value := ih m member (h.2 m member)
      rw [escapeBars] at key value
      simp only [Function.comp, List.flatMap_append, key, value]
      rfl
    rw [each]

theorem read_escapeBars_write [Runtime] (dialect : Dialect) {v : Json} (h : v.Obeys recoverable)
    (shallow : v.depth ≤ Runtime.nesting) : read dialect (escapeBars v.write) = .ok v :=
  escapeBars_write h ▸ read_spelled faithful_escapeBars dialect h shallow

theorem strip_escapeBars_write {v : Json} (h : v.Obeys recoverable) :
    Text.strip (escapeBars v.write) = escapeBars v.write :=
  escapeBars_write h ▸ strip_spelled h

end Json

end RequestLine
