/-!
# First occurrences

Finding a key in a text. A successful search splits the text: what it returns, with the key between
the two parts, is the text again.
-/

namespace EventFeed.Text

/-- What stands before and after the first occurrence of `key`. -/
def splitAt? (key : List Char) : List Char → Option (List Char × List Char)
  | [] => if key.isEmpty then some ([], []) else none
  | c :: cs =>
    if key.isPrefixOf (c :: cs) then some ([], (c :: cs).drop key.length)
    else (splitAt? key cs).map fun parts => (c :: parts.1, parts.2)

/-- What stands after the first occurrence of `key`. -/
def after? (key cs : List Char) : Option (List Char) :=
  (splitAt? key cs).map Prod.snd

/-- Whether `key` occurs in the text. -/
def occurs (key cs : List Char) : Bool :=
  (splitAt? key cs).isSome

/-- Putting the key back between the two parts of a split gives the text. -/
theorem eq_of_splitAt? {key cs before after : List Char}
    (h : splitAt? key cs = some (before, after)) : cs = before ++ key ++ after := by
  induction cs generalizing before after with
  | nil =>
    cases key with
    | nil => simp_all [splitAt?]
    | cons _ _ => simp [splitAt?] at h
  | cons c cs ih =>
    rw [splitAt?] at h
    split at h
    · next hp =>
      obtain ⟨t, ht⟩ := List.isPrefixOf_iff_prefix.1 hp
      have hs : (c :: cs).drop key.length = t := by rw [← ht]; simp
      simp_all
    · obtain ⟨⟨b, a⟩, hb, he⟩ := Option.map_eq_some_iff.1 h
      simp only [Prod.mk.injEq] at he
      obtain ⟨rfl, rfl⟩ := he
      simp [ih hb]

end EventFeed.Text
