import Mathlib.Data.String.Basic
import Mathlib.Data.Nat.Digits
import Mathlib.Logic.Function.Defs

/-!
# Go's `%d`: decimal rendering reads back

Two things the control plane names are built with `fmt.Sprintf("%d", …)`: the xDS snapshot
version token (`UpdateXDSServer`) and the index at the end of an RBAC policy name
(`RBACPolicyNameFormat`).  For a non-negative integer Go's `%d` prints the decimal digits, most
significant first, which is Lean's `toString` on `ℕ` (`Nat.repr`).

Everything said later about those names rests on two facts proved here:

* **`toNat?_toString`** — the rendering reads back: `(toString n).toNat? = some n`.  So a
  version token *read as an integer* is the counter value it was made from, and `toString` is
  injective (`toString_injective`).
* **`toString_ne_nil`, `isDigit_of_mem_toString`** — the rendering is a non-empty run of
  digits, so a name that ends in `%d` ends in a digit (`getLast?_append_toString`).

The proof follows `Nat.toDigitsCore`'s own recursion: each step emits the last digit and
recurses on `n / 10`, and folding `acc * 10 + digit` over the emitted digits undoes it.
-/

namespace AgenticNetworking.Go

/-- The value a digit character carries, as `String.toNat?` reads it. -/
def digitValue (n : ℕ) (c : Char) : ℕ := n * 10 + (c.toNat - '0'.toNat)

theorem digitChar_value {d : ℕ} (h : d < 10) : (Nat.digitChar d).toNat - '0'.toNat = d := by
  have : ∀ d, d < 10 → (Nat.digitChar d).toNat - '0'.toNat = d := by decide
  exact this d h

theorem isDigit_digitChar {d : ℕ} (h : d < 10) : (Nat.digitChar d).isDigit = true := by
  have : ∀ d, d < 10 → (Nat.digitChar d).isDigit = true := by decide
  exact this d h

/-- **Reading back one `toDigitsCore` run.**  With enough fuel, folding `digitValue` over the
digits of `n` followed by `ds` is folding over `ds` starting from `n`. -/
theorem foldl_toDigitsCore :
    ∀ (fuel n : ℕ) (ds : List Char), n < fuel →
      (Nat.toDigitsCore 10 fuel n ds).foldl digitValue 0 = ds.foldl digitValue n
  | 0, _, _, h => absurd h (Nat.not_lt_zero _)
  | fuel + 1, n, ds, h => by
      have hd := digitChar_value (Nat.mod_lt n (by decide : 10 > 0))
      by_cases h0 : n / 10 = 0
      · simp only [Nat.toDigitsCore, h0, if_true, List.foldl_cons, digitValue, hd]
        rw [show 0 * 10 + n % 10 = n by omega]
      · simp only [Nat.toDigitsCore, h0, if_false]
        rw [foldl_toDigitsCore fuel (n / 10) _ (by omega), List.foldl_cons, digitValue, hd,
          show n / 10 * 10 + n % 10 = n by omega]

theorem isDigit_of_mem_toDigitsCore :
    ∀ (fuel n : ℕ) (ds : List Char), (∀ c ∈ ds, c.isDigit = true) →
      ∀ c ∈ Nat.toDigitsCore 10 fuel n ds, c.isDigit = true
  | 0, _, _, hds => hds
  | fuel + 1, n, ds, hds => by
      have hd : ∀ c ∈ Nat.digitChar (n % 10) :: ds, c.isDigit = true := by
        simpa [isDigit_digitChar (Nat.mod_lt n (by decide : 10 > 0))] using hds
      simp only [Nat.toDigitsCore]
      split
      · exact hd
      · exact isDigit_of_mem_toDigitsCore fuel _ _ hd

theorem toDigitsCore_ne_nil (fuel n : ℕ) (ds : List Char) (h : 0 < fuel) :
    Nat.toDigitsCore 10 fuel n ds ≠ [] := by
  induction fuel generalizing n ds with
  | zero => omega
  | succ fuel ih =>
      simp only [Nat.toDigitsCore]
      split
      · simp
      · cases fuel with
        | zero => simp [Nat.toDigitsCore]
        | succ f => exact ih _ _ (by omega)

theorem toString_data (n : ℕ) : (toString n).data = Nat.toDigits 10 n := rfl

theorem toString_ne_nil (n : ℕ) : (toString n).data ≠ [] :=
  toDigitsCore_ne_nil _ _ _ (Nat.succ_pos n)

theorem isDigit_of_mem_toString {n : ℕ} {c : Char} (h : c ∈ (toString n).data) :
    c.isDigit = true :=
  isDigit_of_mem_toDigitsCore _ _ _ (by simp) c h

/-- **Decimal rendering reads back.** -/
theorem toNat?_toString (n : ℕ) : (toString n).toNat? = some n := by
  have hnat : (toString n).isNat = true := by
    simp only [String.isNat, Bool.and_eq_true, Bool.not_eq_true', String.all_eq,
      List.all_eq_true]
    refine ⟨?_, fun c hc => isDigit_of_mem_toString hc⟩
    cases h : (toString n).isEmpty
    · rfl
    · exact absurd (by simpa using congrArg String.data ((String.isEmpty_iff _).mp h))
        (toString_ne_nil n)
  rw [String.toNat?, if_pos hnat, String.foldl_eq, toString_data, Nat.toDigits]
  exact congrArg some (foldl_toDigitsCore (n + 1) n [] (Nat.lt_succ_self n))

theorem toString_injective : Function.Injective (toString : ℕ → String) := fun a b h => by
  simpa [toNat?_toString] using congrArg String.toNat? h

/-- **A name that ends in `%d` ends in a digit.** -/
theorem getLast?_append_toString (s : String) (n : ℕ) :
    ∃ c, (s ++ toString n).data.getLast? = some c ∧ c.isDigit = true := by
  obtain ⟨c, hc⟩ := Option.isSome_iff_exists.mp (List.getLast?_isSome.mpr (toString_ne_nil n))
  refine ⟨c, ?_, isDigit_of_mem_toString (List.mem_of_getLast?_eq_some hc)⟩
  rw [String.data_append, List.getLast?_append, hc]
  rfl

end AgenticNetworking.Go
