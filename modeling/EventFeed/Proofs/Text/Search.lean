import Mathlib.Data.List.Infix
import Mathlib.Tactic.Lemma
import EventFeed.Text.Search

/-!
# Searching texts

A search divides a text at the first occurrence of a key: the text consists of what stands before
it, the key and what stands after it, and no other occurrence begins earlier (`SplitsFirst`).

A text that is put together from several parts is searched part by part. A part is passed over when
the key begins with a character that it does not hold (`splitAt?_append`), or when it does not hold
the key and ends with a character that the key does not hold either, so that no occurrence reaches
across its end (`splitAt?_append_cons`).
-/

namespace EventFeed.Text

variable {key cs before after : List Char}

/-! ### Occurrences -/

/-- A key occurs in a text when it is an infix of it. -/
lemma occurs_iff (key cs : List Char) : occurs key cs ↔ key <:+: cs := by
  induction cs with
  | nil => cases key <;> simp [occurs, splitAt?]
  | cons c cs ih =>
    rw [List.infix_cons_iff, ← ih, ← List.isPrefixOf_iff_prefix]
    by_cases h : key.isPrefixOf (c :: cs)
    · simp [occurs, splitAt?, h]
    · simp [occurs, splitAt?, h]

/-- A prefix without a character that the second part begins with ends in the first part. -/
lemma prefix_append_iff {k zs more : List Char} {c : Char} (hk : c ∉ k)
    (hmore : more = [] ∨ more.head? = some c) : k <+: zs ++ more ↔ k <+: zs := by
  refine ⟨fun h => ?_, fun h => h.trans (List.prefix_append zs more)⟩
  rcases List.prefix_or_prefix_of_prefix h (List.prefix_append zs more) with hzs | ⟨k', rfl⟩
  · exact hzs
  · have hk' : k' <+: more := (List.prefix_append_right_inj zs).1 h
    cases k' with
    | nil => simp
    | cons d k' =>
      obtain ⟨t, rfl⟩ := hk'
      rcases hmore with hnil | hhead
      · simp at hnil
      · simp_all

/-- The first occurrence of the key divides the text into `before` and `after`. -/
def SplitsFirst (key cs before after : List Char) : Prop :=
  cs = before ++ key ++ after ∧
    ∀ before' after', cs = before' ++ key ++ after' → before.length ≤ before'.length

/-- No occurrence begins before the one that is found. -/
lemma length_le_of_splitAt? (h : splitAt? key cs = some (before, after))
    {before' after' : List Char} (hcs : cs = before' ++ key ++ after') :
    before.length ≤ before'.length := by
  induction cs generalizing before before' with
  | nil =>
    have hbefore : before = [] := by
      have hnil := eq_of_splitAt? h
      simp_all
    simp [hbefore]
  | cons c cs ih =>
    rw [splitAt?] at h
    split at h
    · next hprefix =>
      have hbefore : [] = before := congrArg Prod.fst (Option.some.inj h)
      simp [← hbefore]
    · next hprefix =>
      obtain ⟨⟨rest, _⟩, hrest, heq⟩ := Option.map_eq_some_iff.1 h
      obtain ⟨rfl, rfl⟩ := Prod.mk.inj heq
      cases before' with
      | nil => exact absurd (List.isPrefixOf_iff_prefix.2 ⟨after', hcs.symm⟩) hprefix
      | cons d before' =>
        have hle := ih hrest (List.cons.inj hcs).2
        simpa using hle

/-- A search divides a text at the first occurrence of the key. -/
lemma splitAt?_eq_some_iff :
    splitAt? key cs = some (before, after) ↔ SplitsFirst key cs before after := by
  constructor
  · intro h
    exact ⟨eq_of_splitAt? h, fun _ _ hcs => length_le_of_splitAt? h hcs⟩
  · rintro ⟨hcs, hfirst⟩
    have hoccurs : occurs key cs := (occurs_iff key cs).2 ⟨before, after, hcs.symm⟩
    obtain ⟨⟨before', after'⟩, hsplit⟩ := Option.isSome_iff_exists.1 hoccurs
    have hcs' := eq_of_splitAt? hsplit
    have hlength : before'.length = before.length :=
      le_antisymm (length_le_of_splitAt? hsplit hcs) (hfirst _ _ hcs')
    rw [List.append_assoc] at hcs hcs'
    obtain ⟨rfl, hrest⟩ := List.append_inj (hcs'.symm.trans hcs) hlength
    obtain rfl := List.append_cancel_left hrest
    exact hsplit

/-- A single character divides a text where it stands first. -/
lemma splitAt?_singleton_eq_some_iff {c : Char} :
    splitAt? [c] cs = some (before, after) ↔ cs = before ++ c :: after ∧ c ∉ before := by
  rw [splitAt?_eq_some_iff, SplitsFirst, ← List.append_cons]
  refine and_congr_right fun hcs => ⟨fun hfirst hmem => ?_, fun hnot before' after' hcs' => ?_⟩
  · obtain ⟨pre, post, rfl⟩ := List.append_of_mem hmem
    have hle := hfirst pre (post ++ [c] ++ after) (by simpa using hcs)
    rw [List.length_append, List.length_cons] at hle
    omega
  · by_contra hlt
    -- The occurrence would begin inside `before`.
    have hwithin : before' ++ [c] <+: before := by
      refine List.prefix_of_prefix_length_le ⟨after', hcs'.symm⟩ ?_ ?_
      · exact ⟨c :: after, hcs.symm⟩
      · simp only [List.length_append, List.length_singleton]
        omega
    exact hnot (hwithin.subset (by simp))

/-- Up to the first occurrence of a single character the text does not hold it. Without one there is
nothing behind it. -/
lemma splitAt?_singleton_getD (c : Char) (cs : List Char) :
    (splitAt? [c] cs).getD (cs, []) =
      (cs.takeWhile (· != c), (cs.dropWhile (· != c)).tail) := by
  induction cs with
  | nil => rfl
  | cons d cs ih =>
    by_cases hd : c = d
    · simp [splitAt?, hd]
    · have hprefix : ¬ [c].isPrefixOf (d :: cs) := by simp [hd]
      have hbne : (d != c) = true := bne_iff_ne.2 (Ne.symm hd)
      rw [splitAt?, if_neg hprefix]
      simp only [List.takeWhile_cons, List.dropWhile_cons, hbne, if_true]
      have hmap := Option.getD_map (fun parts => (d :: parts.1, parts.2)) (cs, []) (splitAt? [c] cs)
      rwa [ih] at hmap

/-! ### Texts in parts -/

/-- A key at the beginning of a text is found there. -/
lemma splitAt?_self (key more : List Char) : splitAt? key (key ++ more) = some ([], more) :=
  splitAt?_eq_some_iff.2 ⟨by simp, by simp⟩

/-- A part is passed over that does not hold the first character of the key. -/
lemma splitAt?_append {k : Char} {zs : List Char} (hkey : key.head? = some k) (hk : k ∉ zs)
    (more : List Char) :
    splitAt? key (zs ++ more) =
      (splitAt? key more).map fun parts => (zs ++ parts.1, parts.2) := by
  induction zs with
  | nil => simp
  | cons z zs ih =>
    have hprefix : ¬ key.isPrefixOf (z :: (zs ++ more)) := by
      obtain ⟨rest, rfl⟩ := List.head?_eq_some_iff.1 hkey
      have hz : k ≠ z := fun h => hk (h ▸ List.mem_cons_self)
      simp [hz]
    have hzs : k ∉ zs := fun h => hk (List.mem_cons_of_mem z h)
    rw [List.cons_append, splitAt?, if_neg hprefix, ih hzs, Option.map_map]
    rfl

/-- A part is passed over that does not hold the key, with a character behind it that is none of the
key's. -/
lemma splitAt?_append_cons {w : List Char} {d : Char} (hne : key ≠ []) (hd : d ∉ key)
    (hw : ¬ key <:+: w) (more : List Char) :
    splitAt? key (w ++ d :: more) =
      (splitAt? key more).map fun parts => (w ++ d :: parts.1, parts.2) := by
  induction w with
  | nil =>
    obtain ⟨k, key, rfl⟩ := List.exists_cons_of_ne_nil hne
    have hk : k ∉ [d] := fun h => hd (List.mem_singleton.1 h ▸ List.mem_cons_self)
    exact splitAt?_append rfl hk more
  | cons z w ih =>
    have hprefix : ¬ key.isPrefixOf (z :: (w ++ d :: more)) := by
      rw [List.isPrefixOf_iff_prefix, ← List.cons_append, prefix_append_iff hd (.inr rfl)]
      exact fun h => hw h.isInfix
    have hinfix : ¬ key <:+: w := fun h => hw (h.trans (List.suffix_cons z w).isInfix)
    rw [List.cons_append, splitAt?, if_neg hprefix, ih hinfix,
      Option.map_map]
    rfl

/-! ### What stands behind a key -/

lemma after?_self (key more : List Char) : after? key (key ++ more) = some more := by
  rw [after?, splitAt?_self, Option.map_some]

lemma after?_append {k : Char} {zs : List Char} (hkey : key.head? = some k) (hk : k ∉ zs)
    (more : List Char) : after? key (zs ++ more) = after? key more := by
  rw [after?, splitAt?_append hkey hk, Option.map_map]
  rfl

lemma after?_append_cons {w : List Char} {d : Char} (hne : key ≠ []) (hd : d ∉ key)
    (hw : ¬ key <:+: w) (more : List Char) : after? key (w ++ d :: more) = after? key more := by
  rw [after?, splitAt?_append_cons hne hd hw, Option.map_map]
  rfl

/-- What a search finds behind the key is what stands behind its first occurrence. -/
lemma after?_eq_some_iff : after? key cs = some after ↔ ∃ before, SplitsFirst key cs before after := by
  simp only [after?, Option.map_eq_some_iff, ← splitAt?_eq_some_iff]
  constructor
  · rintro ⟨⟨before, _⟩, hsplit, rfl⟩
    exact ⟨before, hsplit⟩
  · rintro ⟨before, hsplit⟩
    exact ⟨_, hsplit, rfl⟩

end EventFeed.Text
