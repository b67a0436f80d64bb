import RequestLine.Proofs.Envelope.Reportable
import RequestLine.Proofs.Execution.Detour
import RequestLine.Proofs.Json.Nesting
import RequestLine.Proofs.Json.Reading
import RequestLine.Proofs.Line.Language
import RequestLine.Proofs.Text.Quoted

set_option autoImplicit false

namespace RequestLine

theorem Numeral.Form.Sound.onOneLine {f : Form} (sound : f.Sound) : f.text.OnOneLine := by
  intro s member
  obtain ⟨c, rfl, numeric⟩ := sound.isNumeric s member
  obtain ⟨low, high⟩ := (Json.Reader.visible_numeric numeric).1
  exact Symbol.onLine_char (Nat.le_of_lt low) high

namespace Header

theorem onOneLine_ofInt (n : Int) : (Text.ofInt n).OnOneLine :=
  Json.Reader.text_formOfInt n ▸ (Json.Reader.sound_formOfInt n).onOneLine

theorem onOneLine_double (x : Double) : (x.text Double.plainNames).OnOneLine := by
  cases x with
  | finite negative m p valid =>
    have finite : (Double.finite negative m p valid).isFinite = true := rfl
    obtain ⟨f, sound, -, written⟩ := Double.exists_form Double.plainNames finite
    exact written ▸ sound.onOneLine
  | infinite negative => cases negative <;> decide
  | nan => decide

theorem onOneLine_enclosed {opening closing : Symbol} {between : Text} (first : opening.OnLine)
    (last : closing.OnLine) (inner : between.OnOneLine) :
    Text.OnOneLine (opening :: (between ++ [closing])) :=
  Text.onOneLine_cons.mpr
    ⟨first, Text.onOneLine_append.mpr ⟨inner, List.forall_mem_singleton.mpr last⟩⟩

theorem onOneLine_display (v : Json) : (v.fold display).OnOneLine := by
  induction v using Json.induction with
  | null => decide
  | bool b => cases b <;> decide
  | int n => exact onOneLine_ofInt n
  | float x => exact onOneLine_double x
  | str t => exact Text.onOneLine_quoted t
  | arr elements ih =>
    rw [Json.fold_arr]
    refine onOneLine_enclosed (by decide) (by decide) (Text.onOneLine_join (by decide) ?_)
    exact List.forall_mem_map.mpr ih
  | obj members ih =>
    rw [Json.fold_obj]
    refine onOneLine_enclosed (by decide) (by decide) (Text.onOneLine_join (by decide) ?_)
    rw [List.map_map, List.forall_mem_map]
    intro m member
    have colon : (Text.ofString ": ").OnOneLine := by decide
    exact Text.onOneLine_append.mpr
      ⟨Text.onOneLine_append.mpr ⟨Text.onOneLine_quoted m.1, colon⟩, ih m member⟩

/-- What a header's text has to do with its value. -/
def Carries : Json → Text → Prop
  | .str t, line => line = t
  | _, line => line.OnOneLine

theorem carries_text (v : Json) : Carries v (text v) := by
  have displayed := onOneLine_display v
  cases v with
  | str t => rfl
  | _ => exact displayed

theorem Carries.eq_str {v : Json} {line : Text} (carries : Carries v line)
    (broken : ¬ line.OnOneLine) : v = .str line := by
  cases v with
  | str t => exact congrArg Json.str carries.symm
  | _ => exact absurd carries broken

structure Prepared (members : Json.Members) (sent : List (Text × Text)) : Prop where
  names : Json.keys sent = Json.keys members
  once : (Json.keys members).Nodup → (Json.keys sent).Nodup
  values : List.Forall₂ (fun m h => m.1 = h.1 ∧ Carries m.2 h.2) members sent
  broken : ∀ h ∈ sent, ¬ h.2.OnOneLine → (h.1, .str h.2) ∈ members

theorem prepared_map (members : Json.Members) :
    Prepared members (members.map fun m => (m.1, text m.2)) := by
  have names : Json.keys (members.map fun m => (m.1, text m.2)) = Json.keys members := by
    simp [Json.keys]
  constructor
  case names => exact names
  case once => exact fun distinct => names ▸ distinct
  case values =>
    refine List.forall₂_map_right_iff.mpr (List.forall₂_same.mpr fun m _ => ?_)
    exact ⟨rfl, carries_text m.2⟩
  case broken =>
    refine List.forall_mem_map.mpr fun m member broken => ?_
    have same : m.2 = .str (text m.2) := (carries_text m.2).eq_str broken
    exact same ▸ member

theorem ite_eq_ok {p : Prop} [Decidable p] {fault : Fault} :
    (if p then .ok () else .error fault : Except Fault Unit) = .ok () ↔ p := by
  by_cases h : p <;> simp [h]

section

variable [Runtime]

/-- There is room to show the value, and all its integers are short enough for it. -/
def Displayable : Json → Prop
  | .str _ => True
  | v => v.depth ≤ Runtime.display ∧ v.Obeys Json.short

theorem within_eq_ok {check : Nat → Except Fault Unit} {depth : Nat} :
    within check depth = .ok () ↔ depth ≤ Runtime.display ∧ check depth = .ok () := by
  unfold within
  by_cases deep : Runtime.display < depth
  · rw [if_pos deep]
    exact ⟨nofun, fun h => absurd h.1 (Nat.not_le.mpr deep)⟩
  · rw [if_neg deep]
    exact ⟨fun h => ⟨Nat.not_lt.mp deep, h⟩, And.right⟩

theorem obstacle_eq_ok {v : Json} {n : Nat} :
    v.fold obstacle n = .ok () ↔ n + v.depth ≤ Runtime.display + 1 ∧ v.Obeys Json.short := by
  have leaf {n : Nat} : within (fun _ => .ok ()) n = .ok () ↔
      n + 1 ≤ Runtime.display + 1 ∧ True := by
    rw [within_eq_ok, Nat.add_le_add_iff_right]
    exact and_congr_right' (iff_true_intro rfl)
  -- A value `n` levels down may nest as deep as there is room below it, and its parts are one level
  -- further down.
  induction v using Json.induction generalizing n with
  | null => exact leaf
  | bool b => exact leaf
  | int k =>
    simp only [Json.fold, obstacle, within_eq_ok, ite_eq_ok, Json.obeys_int, Json.short]
    exact and_congr_left' Nat.add_le_add_iff_right.symm
  | float x => exact leaf
  | str t => exact leaf
  | arr elements ih =>
    rw [Json.fold_arr, Json.depth_arr_add_le, Json.obeys_arr, and_assoc, ← forall₂_and]
    change within (fun depth => (elements.map (Json.fold obstacle)).forM fun part =>
      part (depth + 1)) n = .ok () ↔ _
    simp only [within_eq_ok, forM_eq_ok, List.forall_mem_map]
    exact and_congr_right' (forall₂_congr fun v member => ih v member)
  | obj members ih =>
    rw [Json.fold_obj, Json.depth_obj_add_le, Json.short_obj, and_assoc, ← forall₂_and]
    change within (fun depth => (members.map fun m => (m.1, Json.fold obstacle m.2)).forM fun m =>
      m.2 (depth + 1)) n = .ok () ↔ _
    simp only [within_eq_ok, forM_eq_ok, List.forall_mem_map]
    exact and_congr_right' (forall₂_congr fun m member => ih m member)

theorem check_eq_ok {v : Json} : check v = .ok () ↔ Displayable v := by
  cases v with
  | str t => exact iff_of_true rfl trivial
  | _ =>
    refine obstacle_eq_ok.trans (and_congr_left' ?_)
    rw [Nat.add_comm, Nat.add_le_add_iff_right]

theorem tryPrepare_eq_ok {headers : Option Json.Members} {sent : Option (List (Text × Text))} :
    tryPrepare headers = .ok sent ↔
      (∀ m ∈ headers.getD [], Displayable m.2) ∧ sent = prepare headers := by
  rw [tryPrepare, bind_eq_ok]
  simp only [← check_eq_ok]
  constructor
  · rintro ⟨_, checked, h⟩
    cases h
    exact ⟨forM_eq_ok.mp checked, rfl⟩
  · rintro ⟨checked, rfl⟩
    exact ⟨⟨⟩, forM_eq_ok.mpr checked, rfl⟩

theorem displayable_of_shallow {v : Json} (shallow : v.depth ≤ Runtime.display)
    (short : v.Obeys Json.short) : Displayable v := by
  cases v with
  | str t => trivial
  | _ => exact ⟨shallow, short⟩

theorem displayable_of_read {dialect : Json.Dialect} {t : Text} {members : Json.Members}
    (decoded : Json.read dialect t = .ok (.obj members))
    (room : Runtime.nesting ≤ Runtime.display) : ∀ m ∈ members, Displayable m.2 := by
  intro m member
  have shallow := Json.depth_obj_le.mp (Json.depth_le_of_read decoded) m member
  have short := Json.short_obj.mp (Json.short_of_tidy (Json.tidy_of_read decoded)) m member
  exact displayable_of_shallow (Nat.le_trans shallow room) short

theorem displayable_of_parse {v : Json} {d : Descriptor} (parsed : Line.parse v = .ok d)
    (room : Runtime.nesting ≤ Runtime.display) : ∀ m ∈ d.headers.getD [], Displayable m.2 := by
  cases held : d.headers with
  | none => exact nofun
  | some members =>
    obtain ⟨parts, sections, line, carries⟩ := Line.isLine_of_parse parsed
    obtain ⟨r, q, rest, -, -, -, each⟩ := line.parts
    have found := carries.headers
    rw [held] at found
    obtain ⟨⟨t, decoded⟩, -⟩ := Line.read_of_last? each found.symm
    exact displayable_of_read decoded room

/-- The headers are prepared exactly if each value can be shown, and these and no others are sent.
The headers of a line can always be shown where there is as much room to show a value as to read
one. -/
theorem tryPrepare_prepared (members : Json.Members) :
    ((∃ sent, tryPrepare (some members) = .ok sent) ↔ ∀ m ∈ members, Displayable m.2) ∧
    (∀ sent, tryPrepare (some members) = .ok sent → ∃ lines, sent = some lines ∧
      Prepared members lines ∧ ∀ timeout method url body (w : World Exchange),
        ((Transport.session timeout ⟨method, url, body, some members⟩).run w).2.calls = w.calls ++
          [⟨method, url, body, some (lines.map fun h => (h.1, .str h.2))⟩]) ∧
    (∀ fault, tryPrepare (some members) = .error fault →
      ∀ timeout method url body (w : World Exchange),
        (Transport.session timeout ⟨method, url, body, some members⟩).run w =
          (.error (.unsendable fault), w)) ∧
    ∀ v d, Line.parse v = .ok d → Runtime.nesting ≤ Runtime.display →
      ∃ sent, tryPrepare d.headers = .ok sent := by
  refine ⟨?_, ?_, ?_, ?_⟩
  · simp only [tryPrepare_eq_ok, Option.getD_some, exists_and_left, exists_eq, and_true]
  · intro sent ready
    obtain ⟨-, rfl⟩ := tryPrepare_eq_ok.mp ready
    refine ⟨_, rfl, prepared_map members, fun timeout method url body w => ?_⟩
    let call : Call := ⟨method, url, body, some members⟩
    have prepared : Transport.prepared call = .ok _ := Transport.prepared_eq_ok ready
    obtain ⟨entries, ran⟩ := Transport.run_session_ok timeout prepared w
    rw [ran]
    rfl
  · intro fault unshown timeout method url body w
    exact Transport.run_session_error timeout
      (Transport.prepared_eq_error.mpr ⟨fault, unshown, rfl⟩) w
  · intro v d parsed room
    exact ⟨_, tryPrepare_eq_ok.mpr ⟨displayable_of_parse parsed room, rfl⟩⟩

end

theorem deep_break_escaped :
    let members : Json.Members :=
      [(Text.ofString "X", .arr [.obj [(Text.ofString "a\r\n", .str [.lone 0])]])]
    let line := Text.ofString "[\x7b'a\\r\\n': '\\ud800'\x7d]"
    tryPrepare (some members) = .ok (some [(Text.ofString "X", line)]) ∧
      Prepared members [(Text.ofString "X", line)] := by
  intro members line
  have shown : prepare (some members) = some [(Text.ofString "X", line)] := by decide +kernel
  have displayable : ∀ m ∈ members, Displayable m.2 :=
    List.forall_mem_singleton.mpr ⟨by decide, by simp [Json.short]⟩
  have ready : tryPrepare (some members) = .ok (some [(Text.ofString "X", line)]) :=
    tryPrepare_eq_ok.mpr ⟨displayable, shown.symm⟩
  obtain ⟨lines, same, prepared, -⟩ := (tryPrepare_prepared members).2.1 _ ready
  cases same
  exact ⟨ready, prepared⟩

def nested : Nat → Json
  | 0 => .arr []
  | n + 1 => .arr [nested n]

theorem obstacle_nested [Runtime] {k n : Nat} (deep : Runtime.display < n + k) :
    (nested k).fold obstacle n = .error .tooDeep := by
  induction k generalizing n with
  | zero => exact if_pos deep
  | succ k ih =>
    rw [nested, Json.fold_arr]
    change within (fun depth => (nested k).fold obstacle (depth + 1) >>= fun _ => .ok ()) n = _
    unfold within
    by_cases here : Runtime.display < n
    · exact if_pos here
    · rw [if_neg here]
      change Json.fold obstacle (nested k) (n + 1) >>= _ = _
      rw [ih (by omega)]
      rfl

theorem tryPrepare_nested [Runtime] (name : Text) {n : Nat} (deep : Runtime.display ≤ n) :
    tryPrepare (some [(name, nested n)]) = .error .tooDeep := by
  have failed : check (nested n) = .error .tooDeep := by
    cases n <;> exact obstacle_nested (by omega)
  rw [tryPrepare]
  change (check (nested n) >>= fun _ => .ok ()) >>= _ = _
  rw [failed]
  rfl

theorem not_displayable_of_long [Runtime] {n : Nat} (long : Nat.pow 10 Text.maxDigits ≤ n) :
    ¬ Displayable (.int n) := by
  rintro ⟨-, short⟩
  simp only [Json.obeys_int, Json.short, Int.natAbs_natCast] at short
  exact absurd long (Nat.not_le.mpr short)

theorem deep_value_unprepared :
    tryPrepare (some [(Text.ofString "X", nested 5000)]) = .error .tooDeep ∧
      ∀ sent,
        tryPrepare (some [(Text.ofString "X", .int (Nat.pow 10 Text.maxDigits))]) ≠ .ok sent :=
  ⟨tryPrepare_nested _ (by decide), fun _ ready =>
    not_displayable_of_long (Nat.le_refl _)
      ((tryPrepare_eq_ok.mp ready).1 _ (List.mem_singleton_self _))⟩

end Header

end RequestLine
