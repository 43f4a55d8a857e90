import Mathlib.Data.List.DropRight
import Mathlib.Tactic.Lemma
import EventFeed.Text.Blank

/-!
# Trimmed texts

Trimming cuts a text down to an infix of it that neither begins nor ends with a character of the
class, and leaves a text alone that does neither.
-/

namespace EventFeed.Text

variable {p : Char → Bool} {c : Char} {cs : List Char}

lemma dropRight_eq_rdropWhile (p : Char → Bool) (cs : List Char) :
    dropRight p cs = cs.rdropWhile p := rfl

/-- Trimming keeps characters that stand together. -/
lemma trimBy_infix (p : Char → Bool) (cs : List Char) : trimBy p cs <:+: cs := by
  rw [trimBy, dropRight_eq_rdropWhile]
  exact (List.rdropWhile_prefix p _).isInfix.trans (List.dropWhile_suffix p).isInfix

/-- A trimmed text does not begin with a character of the class. -/
lemma head?_trimBy (h : c ∈ (trimBy p cs).head?) : p c = false := by
  have hprefix : trimBy p cs <+: cs.dropWhile p := List.rdropWhile_prefix p _
  have hhead : c ∈ (cs.dropWhile p).head? := by
    obtain ⟨rest, hrest⟩ := List.head?_eq_some_iff.1 h
    obtain ⟨more, hmore⟩ := hprefix
    rw [← hmore, hrest]
    rfl
  have hnot := List.head?_dropWhile_not p cs
  rw [Option.mem_def.1 hhead] at hnot
  simpa using hnot

/-- A trimmed text does not end with a character of the class. -/
lemma getLast?_trimBy (h : c ∈ (trimBy p cs).getLast?) : p c = false := by
  have hne : trimBy p cs ≠ [] := by
    rintro hnil
    simp [hnil] at h
  have hlast := List.rdropWhile_last_not p (cs.dropWhile p) hne
  have hc : (trimBy p cs).getLast hne = c := by
    rw [List.getLast?_eq_some_getLast hne] at h
    exact Option.some.inj h
  rw [← Bool.not_eq_true, ← hc]
  exact hlast

/-- Trimming leaves a text alone that neither begins nor ends with a character of the class. -/
lemma trimBy_eq_self (hhead : ∀ c ∈ cs.head?, p c = false)
    (hlast : ∀ c ∈ cs.getLast?, p c = false) : trimBy p cs = cs := by
  cases cs with
  | nil => rfl
  | cons d cs =>
    have hdrop : (d :: cs).dropWhile p = d :: cs :=
      List.dropWhile_cons_of_neg (by simp [hhead d rfl])
    rw [trimBy, hdrop, dropRight_eq_rdropWhile, List.rdropWhile_eq_self_iff]
    intro hne
    simp [hlast _ (List.getLast?_eq_some_getLast hne)]

/-- A character of the class goes from the beginning. -/
lemma trimBy_cons (h : p c) (cs : List Char) : trimBy p (c :: cs) = trimBy p cs := by
  rw [trimBy, List.dropWhile_cons_of_pos h, trimBy]

end EventFeed.Text
