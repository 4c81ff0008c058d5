import DocFilter.Proofs.Walk.Sweep

/-!
# What a sweep answers each node with

In a sweep that ends well, every node that is no block to rewrite is answered with itself, patched,
and the block that comes at some place among the blocks with what the rewriting at that place gave.
This takes no more than that the filter is handed blocks that look like those of the document.
-/

namespace DocFilter

/-- What comes of the item at a place stands after what comes of the items before it. -/
theorem getElem?_filterMap_take {α β : Type} {f : α → Option β} {l : List α} {i : Nat} {a : α}
    {b : β} (h : l[i]? = some a) (hf : f a = some b) :
    (l.filterMap f)[((l.take i).filterMap f).length]? = some b := by
  obtain ⟨hi, rfl⟩ := List.getElem?_eq_some_iff.mp h
  have hsplit : l.filterMap f = (l.take i).filterMap f ++ b :: (l.drop (i + 1)).filterMap f := by
    rw [← List.filterMap_cons_some hf, ← List.drop_eq_getElem_cons hi, ← List.filterMap_append,
      List.take_append_drop]
  rw [hsplit, List.getElem?_append_right (Nat.le_refl _), Nat.sub_self, List.getElem?_cons_zero]

namespace BlockFilter
variable {σ β : Type} {f : BlockFilter σ} {doc v : Json} {t u : σ × World}
variable {calls : List (Call Failure)} {g : CodeBlock → β}

/-- The number of blocks to rewrite that come before a place. -/
def rank (f : BlockFilter σ) (ns : List Json) (i : Nat) : Nat :=
  ((ns.take i).filterMap f.block?).length

namespace SweptBy

theorem getElem?_calls (h : f.SweptBy doc t calls (.ok v) u) {i : Nat} {n : Json}
    (hn : (nodes doc)[i]? = some n) :
    ∃ c a, calls[i]? = some c ∧ c.outcome = .ok a ∧ (answersOf calls)[i]? = some a := by
  obtain ⟨hlength, hreturned, -⟩ := h.ends
  have hi : i < calls.length := hlength ▸ (List.getElem?_eq_some_iff.mp hn).1
  have hc : calls[i]? = some calls[i] := List.getElem?_eq_getElem hi
  obtain ⟨a, ha⟩ := hreturned _ (List.getElem_mem hi)
  exact ⟨_, a, hc, ha, getElem?_answersOf hreturned hc ha⟩

/-- A node that is no block to rewrite is answered with itself, patched by the answers for the nodes
inside it. -/
theorem answer_of_no_block (h : f.SweptBy doc t calls (.ok v) u)
    (halike : f.SeesAlike g (nodes doc) calls) {i : Nat} {n : Json}
    (hn : (nodes doc)[i]? = some n) (hnone : f.block? n = none) :
    ∃ fields, n = .obj fields ∧ (nodesOfFields fields).length ≤ i ∧ (answersOf calls)[i]? =
      some (.obj (patchedFields ((answersOf calls).drop (i - (nodesOfFields fields).length))
        fields)) := by
  obtain ⟨c, a, hc, ha, hanswer⟩ := h.getElem?_calls hn
  obtain ⟨n', hn', hview⟩ := halike i c hc
  cases hn.symm.trans hn'
  rw [hnone, Option.map_none, Option.map_eq_none_iff] at hview
  have hleft := (rewrites_of_inTurn h.inTurn).2 c (List.mem_of_getElem? hc) hview
  obtain ⟨fields, hfields, hle, hreceived⟩ := h.handed i c hc
  cases hn.symm.trans hfields
  cases ha.symm.trans hleft
  exact ⟨fields, rfl, hle, hreceived ▸ hanswer⟩

theorem length_rewritings_take (h : f.SweptBy doc t calls (.ok v) u)
    (halike : f.SeesAlike g (nodes doc) calls) (i : Nat) :
    (f.rewritings (calls.take i)).length = f.rank (nodes doc) i := by
  have halike' : f.SeesAlike g (nodes doc) (calls.take i) := by
    intro j c hc
    rw [List.getElem?_take] at hc
    split at hc
    · exact halike j c hc
    · cases hc
  have hblocks := congrArg List.length (map_block_rewritings g halike')
  rw [List.length_map, ← List.map_filterMap, List.length_map, List.length_take, ← List.take_take,
    List.take_of_length_le (Nat.le_of_eq h.ends.1.symm)] at hblocks
  exact hblocks

/-- A block is answered with what the rewriting at its place among the blocks gave. -/
theorem answer_of_block (h : f.SweptBy doc t calls (.ok v) u)
    (halike : f.SeesAlike g (nodes doc) calls) {i : Nat} {n : Json} {b : CodeBlock}
    (hn : (nodes doc)[i]? = some n) (hb : f.block? n = some b) :
    ∃ r a, (f.rewritings calls)[f.rank (nodes doc) i]? = some r ∧ g r.block = g b ∧
      r.outcome = .ok a ∧ (answersOf calls)[i]? = some a := by
  obtain ⟨c, a, hc, ha, hanswer⟩ := h.getElem?_calls hn
  obtain ⟨n', hn', hview⟩ := halike i c hc
  cases hn.symm.trans hn'
  rw [hb, Option.map_some, Option.map_eq_some_iff] at hview
  obtain ⟨b', hb', hlook⟩ := hview
  refine ⟨⟨b', c.outcome⟩, a, ?_, hlook, ha, hanswer⟩
  rw [← h.length_rewritings_take halike]
  exact getElem?_filterMap_take hc (rewriting?_of_block hb')

end SweptBy

end BlockFilter

end DocFilter
