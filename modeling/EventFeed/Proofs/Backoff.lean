import EventFeed.Proofs.Settings
import EventFeed.Backoff

/-!
# How attempts and delays grow

With every failure the number of an attempt grows by one, up to the largest number that the settings
allow. The number that a caller begins with may be larger: it is held at the largest one with the
first failure. The delay depends on the number alone, and numbers are held at the end of the table,
so that in a table of settings that have been checked no delay is shorter than the one before
(`checked_delays`).
-/

namespace EventFeed

namespace Backoff

variable {backoff : Backoff}

/-- The delay for the number of an attempt that need not fit into a counter, if the table has one:
the number is held at the largest one and then at the end of the table. -/
def delayAt? (backoff : Backoff) (number : Nat) : Option Duration :=
  backoff.schedule[min (min number backoff.maxRetries.toNat) (backoff.schedule.length - 1)]?

/-- The delay after an attempt is the one for its number. -/
lemma delayAt?_toNat (h : backoff.schedule ≠ []) (attempt : UInt32) :
    backoff.delayAt? attempt.toNat = some (backoff.delayFor attempt) := by
  have hlt : backoff.index attempt < backoff.schedule.length := by
    have := List.length_pos_iff.2 h
    unfold index
    omega
  have hat : backoff.delayAt? attempt.toNat = backoff.schedule[backoff.index attempt]? := rfl
  rw [hat, delayFor, List.getD_eq_getElem?_getD, List.getElem?_eq_getElem hlt]
  rfl

/-- Numbers beyond the largest one make no difference. -/
lemma delayAt?_min (number : Nat) :
    backoff.delayAt? (min number backoff.maxRetries.toNat) = backoff.delayAt? number := by
  unfold delayAt?
  congr 2
  omega

/-- No delay is shorter than the one for a smaller number. -/
lemma delayAt?_mono (h : backoff.schedule.Pairwise fun a b => a ≤ b) {m n : Nat} (hmn : m ≤ n)
    {a b : Duration} (ha : backoff.delayAt? m = some a) (hb : backoff.delayAt? n = some b) :
    a ≤ b := by
  obtain ⟨hi, rfl⟩ := List.getElem?_eq_some_iff.1 ha
  obtain ⟨hj, rfl⟩ := List.getElem?_eq_some_iff.1 hb
  rcases Nat.lt_or_ge (min (min m backoff.maxRetries.toNat) (backoff.schedule.length - 1))
    (min (min n backoff.maxRetries.toNat) (backoff.schedule.length - 1)) with hlt | hge
  · exact List.pairwise_iff_getElem.1 h _ _ hi hj hlt
  · have heq : min (min m backoff.maxRetries.toNat) (backoff.schedule.length - 1) =
        min (min n backoff.maxRetries.toNat) (backoff.schedule.length - 1) := by omega
    exact Nat.le_of_eq (by simp only [heq])

/-- With a failure the number of an attempt grows by one, up to the largest number. -/
lemma toNat_nextAttempt (backoff : Backoff) (attempt : UInt32) :
    (backoff.nextAttempt attempt).toNat = min (attempt.toNat + 1) backoff.maxRetries.toNat := by
  have hmin : ∀ a b : UInt32, (min a b).toNat = min a.toNat b.toNat := by
    intro a b
    rw [Nat.min_def, ← apply_ite UInt32.toNat]
    rfl
  have hmax : backoff.maxRetries.toNat < 4294967296 := backoff.maxRetries.toNat_lt
  unfold nextAttempt
  rw [hmin]
  split
  · next h =>
    have hlast : attempt.toNat = 4294967295 := by rw [h]; rfl
    omega
  · next h =>
    have hne : attempt.toNat ≠ 4294967295 := fun he => h (UInt32.toNat_inj.1 he)
    have hlt : attempt.toNat < 4294967296 := attempt.toNat_lt
    have hadd : (attempt + 1).toNat = attempt.toNat + 1 := by
      rw [UInt32.toNat_add]
      exact Nat.mod_eq_of_lt (by simp; omega)
    rw [hadd]

/-- The number of an attempt after some failures in a row, given the number of the first one. -/
def attemptAfter (backoff : Backoff) (first : UInt32) : Nat → UInt32
  | 0 => first
  | failures + 1 => backoff.nextAttempt (backoff.attemptAfter first failures)

/-- After the first failure, the number of an attempt has grown by the number of failures, up to the
largest number. -/
lemma toNat_attemptAfter (backoff : Backoff) (first : UInt32) {failures : Nat}
    (h : 0 < failures) :
    (backoff.attemptAfter first failures).toNat =
      min (first.toNat + failures) backoff.maxRetries.toNat := by
  induction failures with
  | zero => exact absurd h (by simp)
  | succ n ih =>
    rw [attemptAfter, toNat_nextAttempt]
    cases n with
    | zero => rfl
    | succ n =>
      rw [ih (Nat.succ_pos n)]
      omega

/-- The delay after some failures in a row. -/
lemma delayAt?_attemptAfter (backoff : Backoff) (first : UInt32) (failures : Nat) :
    backoff.delayAt? (backoff.attemptAfter first failures).toNat =
      backoff.delayAt? (first.toNat + failures) := by
  cases failures with
  | zero => rfl
  | succ n => rw [toNat_attemptAfter backoff first (Nat.succ_pos n), delayAt?_min]

/-- From the place on at which attempts are held, they are held there. -/
lemma index_of_le {attempt : UInt32}
    (h : min backoff.maxRetries.toNat (backoff.schedule.length - 1) ≤ attempt.toNat) :
    backoff.index attempt = min backoff.maxRetries.toNat (backoff.schedule.length - 1) := by
  unfold index
  omega

/-- The delay after an attempt is the one at the place that the attempt is held at. -/
lemma getElem?_index (h : backoff.schedule ≠ []) (attempt : UInt32) :
    backoff.schedule[backoff.index attempt]? = some (backoff.delayFor attempt) :=
  delayAt?_toNat h attempt

/-- No delay is shorter than the one after a smaller number of failures. -/
lemma delayFor_mono (hne : backoff.schedule ≠ [])
    (hsorted : backoff.schedule.Pairwise fun a b => a ≤ b) {a b : UInt32} (hab : a ≤ b) :
    backoff.delayFor a ≤ backoff.delayFor b :=
  delayAt?_mono hsorted (UInt32.le_iff_toNat_le.1 hab) (delayAt?_toNat hne a)
    (delayAt?_toNat hne b)

/-- No delay is shorter than the one before a failure. -/
lemma delayFor_le_nextAttempt (hne : backoff.schedule ≠ [])
    (hsorted : backoff.schedule.Pairwise fun a b => a ≤ b) (attempt : UInt32) :
    backoff.delayFor attempt ≤ backoff.delayFor (backoff.nextAttempt attempt) := by
  have hnext : backoff.delayAt? (attempt.toNat + 1) =
      some (backoff.delayFor (backoff.nextAttempt attempt)) := by
    rw [← delayAt?_min, ← toNat_nextAttempt, delayAt?_toNat hne]
  exact delayAt?_mono hsorted (Nat.le_succ _) (delayAt?_toNat hne attempt) hnext

/-- However URLs are parsed, settings are accepted exactly when their URL can be read and has a
websocket scheme, the heartbeat interval and the time to connect are not empty, and the table of
delays has an entry and has them in order.

For accepted settings every attempt finds a delay in the table, and no delay is shorter than the one
for an attempt of a smaller number. From the place on at which attempts are held, all delays are the
same. The number of the next attempt is one more, and no more than the largest one; it does not wrap
around, and its delay is not shorter. -/
theorem checked_delays {α : Type} (parse : String → Except Url.UrlError α) (scheme : α → String)
    (settings : Settings) :
    (settings.validateBy parse scheme = .ok () ↔
      (∃ url, parse settings.url = .ok url ∧ (scheme url = "ws" ∨ scheme url = "wss")) ∧
        settings.heartbeatInterval ≠ .zero ∧ settings.connectTimeout ≠ .zero ∧
        settings.backoffSchedule ≠ [] ∧
        ∀ (i j : Nat) (hi : i < settings.backoffSchedule.length)
          (hj : j < settings.backoffSchedule.length), i ≤ j →
          settings.backoffSchedule[i] ≤ settings.backoffSchedule[j]) ∧
      (settings.validateBy parse scheme = .ok () →
        ∀ a b : UInt32, a ≤ b →
          let backoff := ofSettings settings
          let last := min settings.maxRetries.toNat (settings.backoffSchedule.length - 1)
          backoff.index a < settings.backoffSchedule.length ∧
            settings.backoffSchedule[backoff.index a]? = some (backoff.delayFor a) ∧
            backoff.delayFor a ≤ backoff.delayFor b ∧
            (last ≤ a.toNat →
              settings.backoffSchedule[last]? = some (backoff.delayFor a) ∧
                backoff.delayFor b = backoff.delayFor a) ∧
            (backoff.nextAttempt a).toNat = min (a.toNat + 1) settings.maxRetries.toNat ∧
            backoff.nextAttempt a ≤ settings.maxRetries ∧
            backoff.delayFor a ≤ backoff.delayFor (backoff.nextAttempt a)) := by
  refine ⟨?_, fun hv a b hab => ?_⟩
  · simp only [Settings.validateBy_eq_ok_iff, Settings.parsedUrlBy_eq_ok_iff,
      Settings.pairwise_iff_getElem_le]
  · obtain ⟨hne, hsorted⟩ := Settings.schedule_of_validateBy hv
    have hat := @getElem?_index (ofSettings settings) hne
    have hle : a.toNat ≤ b.toNat := UInt32.le_iff_toNat_le.1 hab
    have hnext := toNat_nextAttempt (ofSettings settings) a
    refine ⟨(List.getElem?_eq_some_iff.1 (hat a)).1, hat a, delayFor_mono hne hsorted hab,
      fun hlast => ?_, hnext, ?_, delayFor_le_nextAttempt hne hsorted a⟩
    · have hheld : ∀ c : UInt32, a.toNat ≤ c.toNat → (ofSettings settings).index c =
          min settings.maxRetries.toNat (settings.backoffSchedule.length - 1) :=
        fun c hac => index_of_le (Nat.le_trans hlast hac)
      have ha := hheld a (Nat.le_refl _)
      refine ⟨ha ▸ hat a, Option.some.inj ?_⟩
      rw [← hat a, ← hat b, ha, hheld b hle]
    · rw [UInt32.le_iff_toNat_le, hnext]
      exact Nat.min_le_right _ _

/-- Attempts may be held at the first one, or not before the last number of all: then too the next
attempt has a number and a delay. -/
theorem checked_delays_held :
    let held := { Settings.standard with maxRetries := 0 }
    let free := { Settings.standard with maxRetries := lastAttempt }
    held.validate = .ok () ∧ free.validate = .ok () ∧ (0 : UInt32) ≤ lastAttempt ∧
      (ofSettings held).delayFor lastAttempt = (ofSettings held).delayFor 0 ∧
      ((ofSettings held).nextAttempt 0).toNat = 0 ∧
      (ofSettings free).delayFor 0 ≤ (ofSettings free).delayFor lastAttempt ∧
      ((ofSettings free).nextAttempt lastAttempt).toNat = 4294967295 := by
  intro held free
  have hheld : held.validate = .ok () := eq_ok_of_toOption (by decide +kernel)
  have hfree : free.validate = .ok () := eq_ok_of_toOption (by decide +kernel)
  have hle : (0 : UInt32) ≤ lastAttempt := by decide
  obtain ⟨-, -, -, hsame, hnext, -, -⟩ :=
    (checked_delays Url.parse Url.Parsed.scheme held).2 hheld 0 lastAttempt hle
  obtain ⟨-, -, hmono, -⟩ :=
    (checked_delays Url.parse Url.Parsed.scheme free).2 hfree 0 lastAttempt hle
  obtain ⟨-, -, -, -, hlast, -⟩ :=
    (checked_delays Url.parse Url.Parsed.scheme free).2 hfree lastAttempt lastAttempt (by decide)
  exact ⟨hheld, hfree, hle, (hsame (by decide)).2, hnext, hmono, hlast⟩

end Backoff

end EventFeed
