import Mathlib.Tactic.Lemma
import Mathlib.Tactic.Ring
import EventFeed.Base64
import EventFeed.Bytes

/-!
# Reading bytes that are written as text

A text over the alphabet is read in groups of four characters. Each character holds six bits, and a
group the bytes that its bits are enough for: three, or fewer in the last group, where `=` stands
for the characters that are left out. Bits that are left over belong to no byte and are zero.

What bytes are written as holds them (`decode?_encode`), so that different bytes are written
differently.
-/

namespace EventFeed

/-! ### Numbers in bytes -/

namespace Bytes

/-- The first byte of a number counts most. -/
lemma number_cons (b : UInt8) (bytes : List UInt8) :
    number (b :: bytes) = b.toNat * 256 ^ bytes.length + number bytes := by
  have hfrom : ∀ (bytes : List UInt8) (n : Nat), bytes.foldl (fun n b => n * 256 + b.toNat) n =
      n * 256 ^ bytes.length + bytes.foldl (fun n b => n * 256 + b.toNat) 0 := by
    intro bytes
    induction bytes with
    | nil => simp
    | cons b bytes ih =>
      intro n
      rw [List.foldl_cons, List.foldl_cons, ih, ih (0 * 256 + b.toNat), List.length_cons]
      ring
  rw [number, List.foldl_cons, hfrom, Nat.zero_mul, Nat.zero_add, number]

/-- No number in so many bytes is larger. -/
lemma number_lt (bytes : List UInt8) : number bytes < 256 ^ bytes.length := by
  induction bytes with
  | nil => simp [number]
  | cons b bytes ih =>
    have hle : b.toNat * 256 ^ bytes.length ≤ 255 * 256 ^ bytes.length :=
      Nat.mul_le_mul_right _ (Nat.le_of_lt_succ b.toNat_lt)
    rw [number_cons, List.length_cons, Nat.pow_succ']
    omega

/-- The bytes of the number that some bytes write are these bytes. -/
lemma ofNumber_number (bytes : List UInt8) : ofNumber bytes.length (number bytes) = bytes := by
  suffices h : ∀ n, ofNumber bytes.length (n * 256 ^ bytes.length + number bytes) = bytes by
    simpa using h 0
  induction bytes with
  | nil => simp [ofNumber]
  | cons b bytes ih =>
    intro n
    have hsplit : n * 256 ^ (bytes.length + 1) + number (b :: bytes) =
        (n * 256 + b.toNat) * 256 ^ bytes.length + number bytes := by
      rw [number_cons]
      ring
    have hdiv : ((n * 256 + b.toNat) * 256 ^ bytes.length + number bytes) / 256 ^ bytes.length =
        n * 256 + b.toNat := by
      rw [Nat.mul_comm, Nat.mul_add_div (Nat.pow_pos (by decide)),
        Nat.div_eq_of_lt (number_lt bytes), Nat.add_zero]
    rw [List.length_cons, hsplit, ofNumber, ih, Nat.pow_eq, hdiv]
    congr 1
    rw [← UInt8.toNat_inj, UInt8.toNat_ofNat']
    have hb := b.toNat_lt
    omega

end Bytes

namespace Base64

/-! ### Reading -/

/-- The value of a character. -/
def value? (c : Char) : Option Nat :=
  alphabet.idxOf? c

/-- The number that some values write. -/
def joined (values : List Nat) : Nat :=
  values.foldl (fun n v => n * 64 + v) 0

/-- The bytes that a group of characters holds, one fewer than there are characters. -/
def group? (cs : List Char) : Option (List UInt8) :=
  (cs.mapM value?).bind fun values =>
    let spare := 2 ^ (8 - 2 * values.length)
    if joined values % spare = 0 then
      some (Bytes.ofNumber (values.length - 1) (joined values / spare))
    else none

/-- The bytes that a text holds. Only its last group may be filled up. -/
def decode? : List Char → Option (List UInt8)
  | [] => some []
  | a :: b :: c :: d :: rest =>
    if d = '=' ∧ rest = [] then group? (if c = '=' then [a, b] else [a, b, c])
    else (group? [a, b, c, d]).bind fun bytes => (decode? rest).map (bytes ++ ·)
  | _ => none

/-- A text has whole groups of characters of the alphabet, the last one filled up with at most two
`=`. -/
def Padded (cs : List Char) : Prop :=
  ∃ (body : List Char) (fill : Nat), cs = body ++ List.replicate fill '=' ∧
    (∀ c ∈ body, c ∈ alphabet) ∧ fill ≤ 2 ∧ cs.length % 4 = 0

/-! ### Characters -/

/-- The filling is not in the alphabet. -/
lemma ne_fill_of_mem {c : Char} (h : c ∈ alphabet) : c ≠ '=' := by
  rintro rfl
  exact absurd h (by decide)

/-- The character of a value is in the alphabet. -/
lemma charOf_mem (n : Nat) : charOf n ∈ alphabet := by
  rw [charOf, List.getD_eq_getElem?_getD]
  rcases Nat.lt_or_ge n alphabet.length with h | h
  · rw [List.getElem?_eq_getElem h]
    exact List.getElem_mem h
  · rw [List.getElem?_eq_none h]
    decide

/-- The value of a character is the one that it is written for. -/
lemma value?_charOf {n : Nat} (h : n < 64) : value? (charOf n) = some n := by
  have hall : ∀ n < 64, value? (charOf n) = some n := by decide +kernel
  exact hall n h

/-! ### Groups -/

/-- Characters have the values that they are written for. -/
lemma mapM_value?_map {values : List Nat} (hlt : ∀ v ∈ values, v < 64) :
    (values.map charOf).mapM value? = some values := by
  induction values with
  | nil => rfl
  | cons v values ih =>
    have hv := value?_charOf (hlt v List.mem_cons_self)
    have hvalues := ih fun w hw => hlt w (List.mem_cons_of_mem _ hw)
    simp [List.mapM_cons, hv, hvalues]

/-- A group holds the bytes of the number that its values write, without the bits that are left
over. -/
lemma group?_map (values : List Nat) (n : Nat) (hlt : ∀ v ∈ values, v < 64)
    (hn : joined values = n * 2 ^ (8 - 2 * values.length)) :
    group? (values.map charOf) = some (Bytes.ofNumber (values.length - 1) n) := by
  rw [group?, mapM_value?_map hlt, Option.bind_some]
  dsimp only
  rw [hn, if_pos (Nat.mul_mod_left _ _), Nat.mul_div_cancel _ (Nat.pow_pos (by decide))]

/-! ### Texts -/

/-- What bytes are written as holds them. -/
lemma decode?_encode (bytes : List UInt8) : decode? (encode bytes) = some bytes := by
  fun_induction encode bytes with
  | case1 => rfl
  | case2 a n =>
    have ha := a.toNat_lt
    have hgroup : group? [charOf (n / 64), charOf (n % 64)] = some [a] :=
      (group?_map [n / 64, n % 64] (Bytes.number [a]) (by simp; omega)
        (by simp [joined, Bytes.number]; omega)).trans
        (congrArg some (Bytes.ofNumber_number [a]))
    simp [decode?, hgroup]
  | case3 a b n =>
    have ha := a.toNat_lt
    have hb := b.toNat_lt
    have hgroup : group? [charOf (n / 4096), charOf (n / 64 % 64), charOf (n % 64)] =
        some [a, b] :=
      (group?_map [n / 4096, n / 64 % 64, n % 64] (Bytes.number [a, b]) (by simp; omega)
        (by simp [joined, Bytes.number]; omega)).trans
        (congrArg some (Bytes.ofNumber_number [a, b]))
    simp [decode?, hgroup, ne_fill_of_mem (charOf_mem _)]
  | case4 a b c rest n ih =>
    have ha := a.toNat_lt
    have hb := b.toNat_lt
    have hc := c.toNat_lt
    have hgroup : group? [charOf (n / 262144), charOf (n / 4096 % 64), charOf (n / 64 % 64),
        charOf (n % 64)] = some [a, b, c] :=
      (group?_map [n / 262144, n / 4096 % 64, n / 64 % 64, n % 64] (Bytes.number [a, b, c])
        (by simp; omega) (by simp [joined, Bytes.number]; omega)).trans
        (congrArg some (Bytes.ofNumber_number [a, b, c]))
    simp [decode?, hgroup, ih, ne_fill_of_mem (charOf_mem _)]

/-- Bytes are written over the alphabet, in whole groups, and filled up at the end. -/
lemma padded_encode (bytes : List UInt8) : Padded (encode bytes) := by
  fun_induction encode bytes with
  | case1 => exact ⟨[], 0, rfl, by simp, by simp, rfl⟩
  | case2 a n =>
    exact ⟨[charOf (n / 64), charOf (n % 64)], 2, rfl, by simp [charOf_mem], by simp,
      by simp⟩
  | case3 a b n =>
    exact ⟨[charOf (n / 4096), charOf (n / 64 % 64), charOf (n % 64)], 1, rfl,
      by simp [charOf_mem], by simp, by simp⟩
  | case4 a b c rest n ih =>
    obtain ⟨body, fill, hrest, hbody, hfill, hlen⟩ := ih
    refine ⟨charOf (n / 262144) :: charOf (n / 4096 % 64) :: charOf (n / 64 % 64) ::
      charOf (n % 64) :: body, fill, by simp [hrest], by simpa [charOf_mem] using hbody, hfill, ?_⟩
    simp only [List.length_cons]
    omega

/-- Four letters, of which the last one stands alone in its group. -/
example : String.ofList (encode [102, 111, 111, 98]) = "Zm9vYg==" := by decide +kernel

end Base64

end EventFeed
