import RequestLine.Execution
import RequestLine.Proofs.Double.Order
import RequestLine.Proofs.Double.Rounding
import RequestLine.Proofs.Query.Encodable

set_option autoImplicit false

namespace RequestLine

abbrev Double.Ordinary (x : Double) : Prop := x.Below 53

structure Feed.Steady (clock : Feed Double) : Prop where
  ordinary : ∀ n, (clock.value n).Ordinary
  ordered : ∀ m n, m ≤ n → (clock.value n).atLeast (clock.value m) = true

namespace Timing

theorem thousand_eq : thousand = .finite false (1000 <<< 43) 1031 (by decide) := by
  decide +kernel

theorem below_thousand : thousand.Below 10 := by
  rw [thousand_eq, Double.below_finite]
  decide +kernel

theorem nonneg_thousand : thousand.Nonneg := by
  rw [thousand_eq, Double.nonneg_finite]
  exact nofun

theorem stamp_ok {wall : Double} (ordinary : wall.Ordinary) : ∃ n, stamp wall = .ok n := by
  obtain ⟨n, whole⟩ := (Double.below_mul ordinary below_thousand (by omega)).truncate
  exact ⟨n, by rw [stamp, whole]; rfl⟩

theorem elapsed_ok {start stop : Double} (first : start.Ordinary) (last : stop.Ordinary)
    (ordered : stop.atLeast start = true) : ∃ n, elapsed start stop = .ok n ∧ 0 ≤ n := by
  have difference := Double.below_sub last first (by omega)
  have forward := Double.nonneg_sub last first (by omega) ordered
  have scaled := Double.nonneg_mul difference below_thousand (by omega) forward
    nonneg_thousand
  obtain ⟨n, nearest, nonneg⟩ := scaled.round
  exact ⟨n, by rw [elapsed, nearest]; rfl, nonneg⟩

theorem ofDuration_ok {duration : Int} (nonneg : 0 ≤ duration) (start stop : Int) :
    ofDuration duration start stop = .ok ⟨duration.toNat, start, stop⟩ :=
  if_neg (Int.not_lt.mpr nonneg)

open Double (unit nearest odd roundHalfEven)

theorem units?_thousand : thousand.units? = some ((1000 * unit : Nat) : Int) := by decide +kernel

def scaled (n : Nat) : Nat := nearest (n * (1000 * unit)) unit

theorem scaled_zero : scaled 0 = 0 := by rw [scaled, Nat.zero_mul, Double.nearest_zero]

theorem scaled_mono {m n : Nat} (h : m ≤ n) : scaled m ≤ scaled n :=
  Double.nearest_mono unit (Nat.mul_le_mul_right _ h)

theorem units?_scaled {x : Double} {a : Int} {k : Nat} (value : x.units? = some a)
    (small : a.natAbs < unit <<< k) (limit : k ≤ 900) :
    (x.mul thousand).units? = some (odd scaled a) :=
  Double.units?_mul value units?_thousand small (j := 10) (by decide +kernel) (by omega)

theorem stamp_eq {wall : Double} {a : Int} {k : Nat} (value : wall.units? = some a)
    (small : a.natAbs < unit <<< k) (limit : k ≤ 900) :
    stamp wall = .ok (odd (fun n => scaled n / unit) a) := by
  rw [stamp, Double.truncate_eq (units?_scaled value small limit),
    Double.odd_odd (Nat.zero_div unit)]
  rfl

theorem stamp_mono {first last : Double} (ordinary : first.Ordinary) (ordinaryLast : last.Ordinary)
    (ordered : last.atLeast first = true) {start stop : Int} (started : stamp first = .ok start)
    (stopped : stamp last = .ok stop) : start ≤ stop := by
  obtain ⟨a, valueA, smallA⟩ := ordinary
  obtain ⟨b, valueB, smallB⟩ := ordinaryLast
  rw [stamp_eq valueA smallA (by omega)] at started
  rw [stamp_eq valueB smallB (by omega)] at stopped
  cases started
  cases stopped
  exact Double.odd_mono (fun m n h => Nat.div_le_div_right (scaled_mono h))
    ((Double.atLeast_iff valueB valueA).mp ordered)

def milliseconds (n : Nat) : Nat := roundHalfEven (scaled (nearest n 1)) unit

theorem milliseconds_mono {m n : Nat} (h : m ≤ n) : milliseconds m ≤ milliseconds n :=
  Double.roundHalfEven_mono unit (scaled_mono (Double.nearest_mono 1 h))

theorem round_elapsed {start stop : Double} {a b : Int} (first : start.units? = some a)
    (last : stop.units? = some b) (smallFirst : a.natAbs < unit <<< 53)
    (smallLast : b.natAbs < unit <<< 53) :
    ((stop.sub start).mul thousand).round = .ok (odd milliseconds (b - a)) := by
  have small := Double.difference_lt smallLast smallFirst
  have difference : (stop.sub start).units? = some (odd (nearest · 1) (b - a)) := by
    rw [Double.sub_eq last first]
    exact Double.units?_ofUnits _ small (by omega)
  obtain ⟨c, value, within⟩ :=
    Double.below_sub ⟨b, last, smallLast⟩ ⟨a, first, smallFirst⟩ (by omega)
  rw [difference] at value
  obtain rfl := Option.some.inj value
  have zero : roundHalfEven (scaled 0) unit = 0 := by
    rw [scaled_zero, Double.roundHalfEven_zero]
  have round := Double.round_eq (units?_scaled difference within (by omega))
  rw [Double.odd_odd (Double.roundHalfEven_zero unit),
    Double.odd_odd (g := fun n => roundHalfEven (scaled n) unit) zero] at round
  exact round

theorem milliseconds_zero : milliseconds 0 = 0 := by
  rw [milliseconds, Double.nearest_zero, scaled_zero, Double.roundHalfEven_zero]

section

variable {start stop : Double} {n : Int}

theorem elapsed_eq (first : start.Ordinary) (last : stop.Ordinary)
    (rounded : ((stop.sub start).mul thousand).round = .ok n) :
    ∃ a b, start.units? = some a ∧ stop.units? = some b ∧ n = odd milliseconds (b - a) := by
  obtain ⟨a, valueA, smallA⟩ := first
  obtain ⟨b, valueB, smallB⟩ := last
  rw [round_elapsed valueA valueB smallA smallB] at rounded
  exact ⟨a, b, valueA, valueB, (Except.ok.inj rounded).symm⟩

theorem elapsed_nonneg (first : start.Ordinary) (last : stop.Ordinary)
    (later : stop.atLeast start = true)
    (rounded : ((stop.sub start).mul thousand).round = .ok n) : 0 ≤ n := by
  obtain ⟨a, b, valueA, valueB, rfl⟩ := elapsed_eq first last rounded
  have order := (Double.atLeast_iff valueB valueA).mp later
  exact Double.odd_nonneg (by omega)

theorem elapsed_nonpos (first : start.Ordinary) (last : stop.Ordinary)
    (earlier : stop.atLeast start = false)
    (rounded : ((stop.sub start).mul thousand).round = .ok n) : n ≤ 0 := by
  obtain ⟨a, b, valueA, valueB, rfl⟩ := elapsed_eq first last rounded
  rw [← Bool.not_eq_true, Double.atLeast_iff valueB valueA] at earlier
  exact Double.odd_nonpos milliseconds_zero (by omega)

theorem elapsed_zero (first : start.Ordinary) (last : stop.Ordinary) {a b : Int}
    (valueA : start.units? = some a) (valueB : stop.units? = some b) (order : b ≤ a)
    (half : 2000 * (a - b) ≤ unit)
    (rounded : ((stop.sub start).mul thousand).round = .ok n) : n = 0 := by
  obtain ⟨c, d, valueC, valueD, rfl⟩ := elapsed_eq first last rounded
  obtain rfl := Option.some.inj (valueA.symm.trans valueC)
  obtain rfl := Option.some.inj (valueB.symm.trans valueD)
  have whole : milliseconds (unit / 2000) = 0 := by decide +kernel
  have within : (b - a).natAbs ≤ unit / 2000 := by
    rw [Nat.le_div_iff_mul_le (by decide)]
    omega
  have none : milliseconds (b - a).natAbs = 0 :=
    Nat.le_zero.mp (whole ▸ milliseconds_mono within)
  rw [odd, none]
  cases decide (b - a < 0) <;> rfl

end

end Timing

end RequestLine
