import RequestLine.Envelope
import RequestLine.Proofs.Json.Depth
import RequestLine.Proofs.Json.Kept

set_option autoImplicit false

namespace RequestLine

namespace Json

def encodable : Rule where
  keys ks := ∀ key ∈ ks, key.isEncodable = true

theorem encodable_obj (members : Members) :
    Obeys encodable (.obj members) ↔
      (∀ m ∈ members, m.1.isEncodable = true) ∧ ∀ m ∈ members, Obeys encodable m.2 := by
  rw [obeys_obj]
  exact and_congr_left' List.forall_mem_map

def short : Rule where
  int n := n.natAbs < Nat.pow 10 Text.maxDigits

theorem short_obj {members : Members} :
    Obeys short (.obj members) ↔ ∀ m ∈ members, Obeys short m.2 := by
  rw [obeys_obj]
  exact ⟨And.right, fun h => ⟨trivial, h⟩⟩

theorem short_of_tidy {v : Json} (h : Obeys tidy v) : Obeys short v :=
  h.mono (fun _ short => short) (fun _ _ => trivial) (fun _ _ => trivial) (fun _ _ => trivial)

def finite : Rule where
  float x := x.isFinite = true

def mending : Algebra Json where
  null := .null
  bool := .bool
  int := .int
  float x := if x.isFinite then .float x else .null
  str := .str
  arr := .arr
  obj := .obj

def mended (v : Json) : Json := v.fold mending

theorem mended_float (x : Double) :
    mended (.float x) = if x.isFinite then .float x else .null := rfl

theorem mended_arr (elements : List Json) :
    mended (.arr elements) = .arr (elements.map mended) := fold_arr mending elements

theorem mended_obj (members : Members) :
    mended (.obj members) = .obj (members.map fun m => (m.1, mended m.2)) :=
  fold_obj mending members

theorem mended_eq_self {v : Json} (digits : Obeys finite v) : v.mended = v := by
  induction v using Json.induction with
  | float x => exact if_pos digits
  | arr elements ih =>
    rw [obeys_arr] at digits
    rw [mended_arr, List.map_congr_left fun v member => ih v member (digits v member),
      List.map_id']
  | obj members ih =>
    rw [obeys_obj] at digits
    rw [mended_obj, List.map_congr_left fun m member =>
      congrArg (Prod.mk m.1) (ih m member (digits.2 m member)), List.map_id']
  | _ => rfl

theorem obeys_mended {rule : Rule} (floats : ∀ x, rule.float x) (v : Json) :
    Obeys rule v.mended ↔ Obeys rule v := by
  induction v using Json.induction with
  | float x =>
    rw [mended_float]
    by_cases digits : x.isFinite
    · rw [if_pos digits]
    · rw [if_neg digits]
      exact ⟨fun _ => floats x, fun _ => trivial⟩
  | arr elements ih =>
    rw [mended_arr, obeys_arr, obeys_arr, List.forall_mem_map]
    exact forall_congr' fun v => forall_congr' fun member => ih v member
  | obj members ih =>
    rw [mended_obj, obeys_obj, obeys_obj, List.forall_mem_map, keys, List.map_map]
    exact and_congr Iff.rfl (forall_congr' fun m => forall_congr' fun member => ih m member)
  | _ => exact Iff.rfl

end Json

namespace Envelope

open Json (Obeys)

theorem short_eq_true (v : Json) : v.fold short = true ↔ Obeys Json.short v := by
  induction v using Json.induction with
  | int n => simp [Json.fold, short, Json.short]
  | arr elements ih =>
    rw [Json.fold_arr, Json.obeys_arr]
    refine List.all_eq_true.trans (List.forall_mem_map.trans ?_)
    exact forall_congr' fun v => forall_congr' fun member => ih v member
  | obj members ih =>
    rw [Json.fold_obj, Json.obeys_obj]
    refine List.all_eq_true.trans (List.forall_mem_map.trans ?_)
    rw [Json.short, true_and]
    exact forall_congr' fun m => forall_congr' fun member => ih m member
  | _ => exact ⟨fun _ => trivial, fun _ => rfl⟩

theorem guarded_eq_ok {f : Nat → Except Unwritable Json} {n : Nat} {u : Json} :
    guarded f n = .ok u ↔ n ≤ Json.maxWrittenDepth ∧ f n = .ok u := by
  unfold guarded
  by_cases deep : Json.maxWrittenDepth < n
  · rw [if_pos deep]
    exact ⟨nofun, fun h => absurd h.1 (Nat.not_le.mpr deep)⟩
  · rw [if_neg deep]
    exact ⟨fun h => ⟨Nat.not_lt.mp deep, h⟩, And.right⟩

theorem reported_arr (elements : List Json) (n : Nat) :
    (Json.arr elements).fold reported n = guarded (fun depth =>
      (elements.mapM fun v => Json.fold reported v (depth + 1)).map .arr) n := by
  rw [Json.fold_arr]
  change guarded (fun depth => ((elements.map (Json.fold reported)).mapM
    fun (part : Reported) => part (depth + 1)).map .arr) n = _
  simp only [List.mapM_map, Function.comp_def]

theorem reported_obj (members : Json.Members) (n : Nat) :
    (Json.obj members).fold reported n = guarded (fun depth =>
      (members.mapM fun m =>
        reportMember (depth + 1) (m.1, m.2.fold reported)).map .obj) n := by
  rw [Json.fold_obj]
  change guarded (fun depth => ((members.map fun m => (m.1, m.2.fold reported)).mapM
    (reportMember (depth + 1))).map .obj) n = _
  simp only [List.mapM_map, Function.comp_def]

theorem reportMember_eq_ok {n : Nat} {m u : Text × Json} {good : Prop}
    (inside : ∀ v, m.2.fold reported n = .ok v ↔ good ∧ v = m.2.mended) :
    reportMember n (m.1, m.2.fold reported) = .ok u ↔
      (m.1.isEncodable = true ∧ good) ∧ u = (m.1, m.2.mended) := by
  unfold reportMember
  by_cases readable : m.1.isEncodable
  · rw [if_pos readable, map_eq_ok]
    simp only [inside]
    constructor
    · rintro ⟨v, ⟨h, rfl⟩, rfl⟩
      exact ⟨⟨readable, h⟩, rfl⟩
    · rintro ⟨⟨-, h⟩, rfl⟩
      exact ⟨_, ⟨h, rfl⟩, rfl⟩
  · rw [if_neg readable]
    exact ⟨nofun, fun h => absurd h.1.1 readable⟩

theorem reported_eq_ok {v : Json} {n : Nat} {u : Json} :
    v.fold reported n = .ok u ↔ (n + v.depth ≤ Json.maxWrittenDepth + 1 ∧
      Obeys Json.encodable v) ∧ u = v.mended := by
  have leaf {w u : Json} {n : Nat} : guarded (fun _ => .ok w) n = .ok u ↔
      (n + 1 ≤ Json.maxWrittenDepth + 1 ∧ True) ∧ u = w := by
    rw [guarded_eq_ok, Nat.add_le_add_iff_right, and_true, Except.ok.injEq]
    exact and_congr_right' eq_comm
  -- A value `n` levels down may nest as deep as is left below the limit, and its parts are `n + 1`
  -- levels down.
  induction v using Json.induction generalizing n u with
  | null => exact leaf
  | bool b => exact leaf
  | int k => exact leaf
  | float x => exact leaf
  | str t => exact leaf
  | arr elements ih =>
    have parts := mapM_eq_ok fun v (member : v ∈ elements) u => ih v member (n := n + 1) (u := u)
    rw [reported_arr, guarded_eq_ok, map_eq_ok, Json.mended_arr, Json.obeys_arr,
      Json.depth_arr_add_le]
    simp only [parts, imp_and, forall_and]
    constructor
    · rintro ⟨here, us, ⟨⟨shallow, keyed⟩, rfl⟩, rfl⟩
      exact ⟨⟨⟨here, shallow⟩, keyed⟩, rfl⟩
    · rintro ⟨⟨⟨here, shallow⟩, keyed⟩, rfl⟩
      exact ⟨here, _, ⟨⟨shallow, keyed⟩, rfl⟩, rfl⟩
  | obj members ih =>
    have parts := mapM_eq_ok fun m (member : m ∈ members) u =>
      reportMember_eq_ok (u := u) fun v => ih m member (n := n + 1) (u := v)
    rw [reported_obj, guarded_eq_ok, map_eq_ok, Json.mended_obj, Json.encodable_obj,
      Json.depth_obj_add_le]
    simp only [parts, imp_and, forall_and]
    constructor
    · rintro ⟨here, us, ⟨⟨readable, shallow, keyed⟩, rfl⟩, rfl⟩
      exact ⟨⟨⟨here, shallow⟩, readable, keyed⟩, rfl⟩
    · rintro ⟨⟨⟨here, shallow⟩, readable, keyed⟩, rfl⟩
      exact ⟨here, _, ⟨⟨readable, shallow, keyed⟩, rfl⟩, rfl⟩

end Envelope

end RequestLine
