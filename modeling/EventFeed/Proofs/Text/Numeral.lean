import Mathlib.Data.List.Forall2
import Mathlib.Data.Nat.Digits.Defs
import Mathlib.Tactic.Lemma
import Mathlib.Tactic.SplitIfs
import EventFeed.Text.Numeral

/-!
# Numerals and their values

A numeral of a base is an optional plus sign and one or more digits (`Denotes`). It is read as its
value, unless that is above the limit (`numeral?_eq_some_iff`). The reader compares with the limit
at every digit and not at the end; since the value grows with every digit, it exceeds the limit on
the way only if it does so in the end.
-/

namespace EventFeed.Text

/-! ### Digits -/

/-- The character is written for the digit, a letter in either case. -/
def Shows (c : Char) (d : Nat) : Prop :=
  c = d.digitChar ∨ c = d.digitChar.toUpper

instance (c : Char) (d : Nat) : Decidable (Shows c d) :=
  inferInstanceAs (Decidable (_ ∨ _))

/-- The characters of the digits up to fifteen, by their numbers. -/
lemma shows_iff {c : Char} {d : Nat} (hd : d < 16) :
    Shows c d ↔
      (d < 10 ∧ c.toNat = d + 48) ∨ (10 ≤ d ∧ (c.toNat = d + 87 ∨ c.toNat = d + 55)) := by
  have hdecimal : ∀ d < 10, d.digitChar.toNat = d + 48 := by decide
  have hupper : ∀ d < 10, d.digitChar.toUpper.toNat = d + 48 := by decide
  have hletter : ∀ d < 16, 10 ≤ d → d.digitChar.toNat = d + 87 := by decide
  have hcapital : ∀ d < 16, 10 ≤ d → d.digitChar.toUpper.toNat = d + 55 := by decide
  rw [Shows, ← Char.toNat_inj, ← Char.toNat_inj]
  rcases Nat.lt_or_ge d 10 with hlt | hge
  · rw [hdecimal d hlt, hupper d hlt]
    omega
  · rw [hletter d hd hge, hcapital d hd hge]
    omega

/-- The digits of a base are read as what they are written for. -/
lemma digit?_eq_some_iff {base : Nat} (hbase : base ≤ 16) {c : Char} {d : Nat} :
    digit? base c = some d ↔ d < base ∧ Shows c d := by
  rw [and_congr_right fun hd => shows_iff (hd.trans_le hbase), digit?, Option.filter_eq_some_iff]
  simp only [decide_eq_true_eq, Bool.and_eq_true]
  split_ifs with hdecimal hletter hcapital
  · rw [Option.some.injEq]
    omega
  · rw [Option.some.injEq]
    omega
  · rw [Option.some.injEq]
    omega
  · simp only [false_and, false_iff]
    omega

/-! ### Values -/

/-- The characters are digits of the base with these values. -/
def AreDigits (base : Nat) : List Char → List Nat → Prop :=
  List.Forall₂ fun c d => d < base ∧ Shows c d

/-- The text is a numeral for the number: digits of the base, at least one of them, after an
optional plus sign. The first digit counts most. -/
def Denotes (base : Nat) (cs : List Char) (n : Nat) : Prop :=
  ∃ digits values, (cs = digits ∨ cs = '+' :: digits) ∧ digits ≠ [] ∧
    AreDigits base digits values ∧ n = Nat.ofDigits base values.reverse

/-- The value of digits behind those that have the value `n`. -/
def extend (base n : Nat) (values : List Nat) : Nat :=
  values.foldl (fun n d => n * base + d) n

lemma extend_zero (base : Nat) (values : List Nat) :
    extend base 0 values = Nat.ofDigits base values.reverse := by
  rw [Nat.ofDigits_eq_foldr, List.foldr_reverse, extend]
  simp only [Nat.cast_id, Nat.add_comm, Nat.mul_comm]

/-- Further digits do not make a value smaller. -/
lemma le_extend {base : Nat} (hbase : 0 < base) (n : Nat) (values : List Nat) :
    n ≤ extend base n values := by
  induction values generalizing n with
  | nil => exact Nat.le_refl n
  | cons d values ih =>
    calc n ≤ n * base := Nat.le_mul_of_pos_right n hbase
      _ ≤ n * base + d := Nat.le_add_right _ d
      _ ≤ extend base (n * base + d) values := ih _

section Base

variable {base limit : Nat} (hbase : base ≤ 16) (hpos : 0 < base) {cs : List Char} {n : Nat}

include hbase hpos

/-- Behind a value within the limit, digits are read as long as the value of all stays within it. -/
lemma digitsFrom?_eq_some_iff {value : Nat} (hvalue : value ≤ limit) :
    digitsFrom? base limit value cs = some n ↔
      ∃ values, AreDigits base cs values ∧ n = extend base value values ∧ n ≤ limit := by
  induction cs generalizing value with
  | nil =>
    constructor
    · intro h
      obtain rfl := Option.some.inj h
      exact ⟨[], .nil, rfl, hvalue⟩
    · rintro ⟨values, hvalues, rfl, -⟩
      obtain rfl := List.forall₂_nil_left_iff.1 hvalues
      rfl
  | cons c cs ih =>
    rw [digitsFrom?]
    constructor
    · intro h
      split at h
      · exact absurd h (by simp)
      · next d hd =>
        by_cases hnext : value * base + d ≤ limit
        · simp only [hnext, if_true] at h
          obtain ⟨values, hvalues, hn, hlimit⟩ := (ih hnext).1 h
          exact ⟨d :: values, .cons ((digit?_eq_some_iff hbase).1 hd) hvalues, hn, hlimit⟩
        · simp [hnext] at h
    · rintro ⟨values, hvalues, hn, hlimit⟩
      obtain ⟨d, values, hd, hrest, rfl⟩ := List.forall₂_cons_left_iff.1 hvalues
      have hnext : value * base + d ≤ limit :=
        (le_extend hpos _ values).trans (hn ▸ hlimit)
      simp only [(digit?_eq_some_iff hbase).2 hd, hnext, if_true]
      exact (ih hnext).2 ⟨values, hrest, hn, hlimit⟩

/-- One or more digits are read as their value, unless it is above the limit. -/
lemma digits?_eq_some_iff :
    digits? base limit cs = some n ↔ cs ≠ [] ∧
      ∃ values, AreDigits base cs values ∧ n = Nat.ofDigits base values.reverse ∧ n ≤ limit := by
  cases cs with
  | nil => simp [digits?]
  | cons c cs =>
    rw [digits?, List.isEmpty_cons, if_neg Bool.false_ne_true,
      digitsFrom?_eq_some_iff hbase hpos (Nat.zero_le limit)]
    simp [extend_zero]

/-- A numeral is read as its value, unless that is above the limit. -/
lemma numeral?_eq_some_iff :
    numeral? base limit cs = some n ↔ Denotes base cs n ∧ n ≤ limit := by
  have hplus {values : List Nat} {rest : List Char} : ¬ AreDigits base ('+' :: rest) values := by
    intro h
    obtain ⟨d, _, ⟨hd, hshows⟩, -, -⟩ := List.forall₂_cons_left_iff.1 h
    have hnumber : '+'.toNat = 43 := rfl
    have := (shows_iff (hd.trans_le hbase)).1 hshows
    omega
  unfold numeral?
  split
  · next digits =>
    rw [digits?_eq_some_iff hbase hpos]
    constructor
    · rintro ⟨hne, values, hvalues, hn, hlimit⟩
      exact ⟨⟨digits, values, .inr rfl, hne, hvalues, hn⟩, hlimit⟩
    · rintro ⟨⟨digits', values, hcs | hcs, hne, hvalues, hn⟩, hlimit⟩
      · exact absurd (hcs ▸ hvalues) hplus
      · obtain rfl := (List.cons.inj hcs).2
        exact ⟨hne, values, hvalues, hn, hlimit⟩
  · next hnot =>
    rw [digits?_eq_some_iff hbase hpos]
    constructor
    · rintro ⟨hne, values, hvalues, hn, hlimit⟩
      exact ⟨⟨cs, values, .inl rfl, hne, hvalues, hn⟩, hlimit⟩
    · rintro ⟨⟨digits, values, rfl | hcs, hne, hvalues, hn⟩, hlimit⟩
      · exact ⟨hne, values, hvalues, hn, hlimit⟩
      · exact absurd hcs (hnot digits)

end Base

end EventFeed.Text
