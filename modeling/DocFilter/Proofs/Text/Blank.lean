import DocFilter.Text.Blank
import Mathlib.Data.List.TakeWhile

/-!
# Texts without the blanks at their ends

What is taken away at the two ends is blank, and what is left neither starts nor ends with a blank.
-/

namespace DocFilter

variable {test : Char → Bool} {cs : List Char} {c : Char}

theorem head?_dropWhile_eq_false (h : c ∈ (cs.dropWhile test).head?) : test c = false := by
  have hhead := List.head?_dropWhile_not test cs
  rwa [h] at hhead

/-- Only what satisfies the test is taken away. -/
theorem exists_eq_append_trimWhere (test : Char → Bool) (cs : List Char) :
    ∃ lead trail, cs = lead ++ trimWhere test cs ++ trail ∧ (∀ c ∈ lead, test c = true) ∧
      ∀ c ∈ trail, test c = true := by
  let rest := (cs.dropWhile test).reverse
  have hrest : cs.dropWhile test = trimWhere test cs ++ (rest.takeWhile test).reverse := by
    rw [trimWhere, ← List.reverse_append, List.takeWhile_append_dropWhile, List.reverse_reverse]
  refine ⟨cs.takeWhile test, (rest.takeWhile test).reverse, ?_, fun c => List.mem_takeWhile_imp,
    fun c hc => List.mem_takeWhile_imp (List.mem_reverse.mp hc)⟩
  rw [List.append_assoc, ← hrest, List.takeWhile_append_dropWhile]

theorem getLast?_trimWhere (h : c ∈ (trimWhere test cs).getLast?) : test c = false := by
  rw [trimWhere, List.getLast?_reverse] at h
  exact head?_dropWhile_eq_false h

theorem head?_trimWhere (h : c ∈ (trimWhere test cs).head?) : test c = false := by
  have hprefix : trimWhere test cs <+: cs.dropWhile test := by
    rw [trimWhere, ← List.reverse_suffix, List.reverse_reverse]
    exact List.dropWhile_suffix test
  obtain ⟨rest, hrest⟩ := hprefix
  have hhead : c ∈ (cs.dropWhile test).head? := by
    rw [← hrest, List.head?_append, h]
    rfl
  exact head?_dropWhile_eq_false hhead

/-- What neither starts nor ends with something to be taken away is left as it is. -/
theorem trimWhere_eq_self (hhead : ∀ c ∈ cs.head?, test c = false)
    (hlast : ∀ c ∈ cs.getLast?, test c = false) : trimWhere test cs = cs := by
  have hdrop {ds : List Char} (h : ∀ c ∈ ds.head?, test c = false) : ds.dropWhile test = ds := by
    cases ds with
    | nil => rfl
    | cons d ds => exact List.dropWhile_cons_of_neg (by simp [h d rfl])
  rw [trimWhere, hdrop hhead, hdrop (by rwa [List.head?_reverse]), List.reverse_reverse]

theorem trimWhere_trimWhere (test : Char → Bool) (cs : List Char) :
    trimWhere test (trimWhere test cs) = trimWhere test cs :=
  trimWhere_eq_self (fun _ => head?_trimWhere) fun _ => getLast?_trimWhere

theorem trimWhere_concat (h : test c = false) :
    trimWhere test (cs ++ [c]) = cs.dropWhile test ++ [c] := by
  have hdrop : (cs ++ [c]).dropWhile test = cs.dropWhile test ++ [c] := by
    induction cs with
    | nil => simp [h]
    | cons d cs ih => cases hd : test d <;> simp [hd, ih]
  rw [trimWhere, hdrop, List.reverse_append, List.reverse_singleton, List.singleton_append,
    List.dropWhile_cons_of_neg (by simp [h]), List.reverse_cons, List.reverse_reverse]

end DocFilter
