import Mathlib.Tactic.Lemma
import EventFeed.Settings

/-!
# What checked settings are

Settings are accepted exactly when they name a websocket URL, both of their intervals are longer
than nothing, and their table of delays is neither empty nor out of order anywhere. Only
neighbouring delays are compared; that is enough for the order of any two.
-/

namespace EventFeed

/-! ### Results that may be errors -/

section

variable {ε α β : Type}

/-- What there is of a result that may be an error is the result. -/
lemma eq_ok_of_toOption {x : Except ε α} {a : α} (h : x.toOption = some a) :
    x = .ok a := by
  cases x with
  | ok b => exact congrArg Except.ok (Option.some.inj h)
  | error e => exact absurd h (by simp [Except.toOption])

/-- A result that has been changed comes of one to change. -/
lemma exists_of_map_eq_ok {x : Except ε α} {f : α → β} {b : β} (h : x.map f = .ok b) :
    ∃ a, f a = b := by
  cases x with
  | error e => simp [Except.map] at h
  | ok a => exact ⟨a, by simpa [Except.map] using h⟩

end

/-! ### The URL -/

namespace Url

/-- A URL of which only the scheme is kept is of no scheme that always has a host. -/
lemma lookup_of_parse_other {input scheme : String} (h : parse input = .ok (.other scheme)) :
    hostedSchemes.lookup scheme = none := by
  unfold parse at h
  split at h
  · simp at h
  next name rest _ =>
  dsimp only at h
  split at h
  · -- of a URL with a host everything is kept
    obtain ⟨authority, h⟩ := exists_of_map_eq_ok h
    exact absurd h (by simp)
  next hnone =>
  have hname : String.ofList name = scheme := by
    split at h
    · split at h
      · split at h
        · simpa using h
        · obtain ⟨host, h⟩ := exists_of_map_eq_ok h
          simpa using h
      · obtain ⟨authority, h⟩ := exists_of_map_eq_ok h
        simpa using h
    · simpa using h
  rw [← hname, hnone]

end Url

namespace Settings

variable {α : Type} {parse : String → Except Url.UrlError α} {scheme : α → String}
  {settings : Settings}

/-- The URL of settings is the one that is read, if it has a websocket scheme. -/
lemma parsedUrlBy_eq_ok_iff {url : α} :
    settings.parsedUrlBy parse scheme = .ok url ↔
      parse settings.url = .ok url ∧ (scheme url = "ws" ∨ scheme url = "wss") := by
  unfold parsedUrlBy
  split
  · next h => simp [h]
  · next read h =>
    rw [h, Except.ok.injEq]
    split
    · next hs => exact ⟨fun he => ⟨Except.ok.inj he, Except.ok.inj he ▸ hs⟩, fun he => he.1 ▸ rfl⟩
    · next hs => exact ⟨fun he => absurd he (by simp), fun he => absurd (he.1 ▸ he.2) hs⟩

/-- Settings that have a URL with a websocket scheme have one with a host. -/
lemma exists_parsedUrl {url : Url.Parsed}
    (h : settings.parsedUrlBy Url.parse Url.Parsed.scheme = .ok url) :
    ∃ hosted, settings.parsedUrl = .ok hosted := by
  unfold parsedUrl
  rw [h]
  cases url with
  | hosted url => exact ⟨url, rfl⟩
  | other scheme =>
    obtain ⟨hparse, hs⟩ := parsedUrlBy_eq_ok_iff.1 h
    have hlookup := Url.lookup_of_parse_other hparse
    rcases hs with rfl | rfl <;> exact absurd hlookup (by decide)

/-! ### The table of delays -/

/-- A table is in order if no delay is longer than the next one. -/
lemma isNonDecreasing_iff {delays : List Duration} :
    isNonDecreasing delays = true ↔ delays.Pairwise fun a b => a ≤ b := by
  induction delays with
  | nil => simp [isNonDecreasing]
  | cons a rest ih =>
    cases rest with
    | nil => simp [isNonDecreasing]
    | cons b rest =>
      rw [isNonDecreasing, Bool.and_eq_true, decide_eq_true_eq, ih]
      constructor
      · rintro ⟨hab, hrest⟩
        refine .cons (fun c hc => ?_) hrest
        rcases List.mem_cons.1 hc with rfl | hc
        · exact hab
        · exact Nat.le_trans hab (List.rel_of_pairwise_cons hrest hc)
      · intro h
        exact ⟨List.rel_of_pairwise_cons h (by simp), h.of_cons⟩

/-- A table is in order if no delay is longer than any that does not come before it. -/
lemma pairwise_iff_getElem_le {delays : List Duration} :
    (delays.Pairwise fun a b => a ≤ b) ↔
      ∀ (i j : Nat) (hi : i < delays.length) (hj : j < delays.length), i ≤ j →
        delays[i] ≤ delays[j] := by
  rw [List.pairwise_iff_getElem]
  constructor
  · intro h i j hi hj hij
    rcases Nat.eq_or_lt_of_le hij with rfl | hlt
    · exact Nat.le_refl _
    · exact h i j hi hj hlt
  · exact fun h i j hi hj hij => h i j hi hj (Nat.le_of_lt hij)

/-! ### The check -/

/-- What a check of settings finds in order, however URLs are parsed. -/
lemma validateBy_eq_ok_iff :
    settings.validateBy parse scheme = .ok () ↔
      (∃ url, settings.parsedUrlBy parse scheme = .ok url) ∧
        settings.heartbeatInterval ≠ .zero ∧ settings.connectTimeout ≠ .zero ∧
        settings.backoffSchedule ≠ [] ∧ settings.backoffSchedule.Pairwise fun a b => a ≤ b := by
  rw [← isNonDecreasing_iff]
  unfold validateBy
  cases hurl : settings.parsedUrlBy parse scheme with
  | error e => simp [bind, Except.bind]
  | ok url =>
    simp only [bind, Except.bind, pure, Except.pure, throw, throwThe, MonadExceptOf.throw]
    by_cases hheart : settings.heartbeatInterval = .zero
    · simp [hheart]
    by_cases hnone : settings.backoffSchedule = []
    · simp [hheart, hnone]
    by_cases horder : isNonDecreasing settings.backoffSchedule = true
    · by_cases hconnect : settings.connectTimeout = .zero
      · simp [hheart, hnone, horder, hconnect]
      · simp [hheart, hnone, horder, hconnect]
    · simp [hheart, hnone, horder]

/-- The table of settings that have been checked is not empty, and it is in order. -/
lemma schedule_of_validateBy (h : settings.validateBy parse scheme = .ok ()) :
    settings.backoffSchedule ≠ [] ∧ settings.backoffSchedule.Pairwise fun a b => a ≤ b :=
  (validateBy_eq_ok_iff.1 h).2.2.2

end Settings

end EventFeed
