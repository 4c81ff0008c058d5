import DocFilter.Filter
import DocFilter.Proofs.Walk.Branches
import DocFilter.Proofs.Walk.Calls
import DocFilter.Proofs.Walk.Rules

/-!
# Sweeps

A walk changes the state by its calls alone, which take the state from where the walk starts to
where it ends. In a sweep with a block filter only the calls that rewrite a block count. If blocks
give way to nodes, and hold none themselves, then the blocks that are rewritten are those of the
document, in the order of its nodes.
-/

namespace DocFilter

section Walk
variable {ε σ : Type} {action : Json → ExceptT ε (StateM σ) Json} {s t : σ}

theorem mem_answersOf {calls : List (Call ε)} {a : Json} :
    a ∈ answersOf calls ↔ ∃ c ∈ calls, c.outcome = .ok a := by
  have hanswer (c : Call ε) : c.outcome.toOption = some a ↔ c.outcome = .ok a := by
    cases c.outcome <;> simp [Except.toOption]
  simp only [answersOf, List.mem_filterMap, hanswer]

/-- Calls of the action, one after the other, from a state to another. -/
inductive InTurn (action : Json → ExceptT ε (StateM σ) Json) (s : σ) :
    List (Call ε) → σ → Prop where
  | start : InTurn action s [] s
  | call {calls : List (Call ε)} {t : σ} (n : Json) : InTurn action s calls t →
      InTurn action s (calls ++ [⟨n, ((action n).run t).1⟩]) ((action n).run t).2

/-- Every call starts where the calls before it end. -/
theorem InTurn.outcome_eq {calls earlier : List (Call ε)} {call : Call ε}
    (h : InTurn action s calls t) (hcall : earlier ++ [call] <+: calls) :
    ∃ u, InTurn action s earlier u ∧ call.outcome = ((action call.received).run u).1 := by
  induction h with
  | start => simp at hcall
  | @call calls u n hcalls ih =>
    rcases List.prefix_concat_iff.mp hcall with heq | hcall
    · obtain ⟨hearlier, hlast⟩ := List.append_inj' heq rfl
      rw [hearlier, List.singleton_inj.mp hlast]
      exact ⟨u, hcalls, rfl⟩
    · exact ih hcall

theorem InTurn.keeps {inv : σ → Prop} {calls : List (Call ε)} (h : InTurn action s calls t)
    (hkeeps : ∀ n u, inv u → inv ((action n).run u).2) (hs : inv s) : inv t := by
  induction h with
  | start => exact hs
  | call n _ ih => exact hkeeps n _ ih

theorem inTurn_walk (action : Json → ExceptT ε (StateM σ) Json) (v : Json) (s : σ) :
    ∃ calls, Handed (nodes v) calls ∧
      EndsAs (nodes v) calls (fun as => patched as v) ((walk action v).run s).1 ∧
      InTurn action s calls ((walk action v).run s).2 := by
  obtain ⟨calls, hrun, hh, he⟩ := records_walk action v s []
  let inv (t : σ × List (Call ε)) : Prop := InTurn action s t.2 t.1
  have hcall (n : Json) : (keeping inv).Holds (recorded action n) fun _ => True :=
    fun t ht => ⟨.call n ht, fun _ _ => trivial⟩
  have hinv : inv ((walk (recorded action) v).run (s, [])).2 :=
    ((keeping inv).walk .trivial (fun _ gs _ _ => hcall (.obj gs)) v (s, []) .start).1
  rw [hrun] at hinv
  exact ⟨calls, hh, he, hinv⟩

/-- Without nodes there is nothing to patch. -/
theorem patchedFields_eq_self {fs : Fields} (h : nodesOfFields fs = []) (as : List Json) :
    patchedFields as fs = fs := by
  have hkeeps : KeepsNodes (ε := Unit) (σ := Unit) pure := fun _ _ => rfl
  obtain ⟨calls, hrun, -, he⟩ := records_walkFields (ε := Unit) (σ := Unit) pure fs () []
  obtain ⟨t, seen, hecho, hseen⟩ := echoes_walkFields hkeeps fs () []
  rw [h] at hseen
  rw [hecho, List.map_eq_nil_iff.mp hseen] at hrun
  obtain ⟨hout, hstate⟩ := Prod.mk.inj hrun
  have hcalls : calls = [] := by simpa using (Prod.mk.inj hstate).2.symm
  rw [← hout, hcalls] at he
  have hnone : patchedFields [] fs = fs := he.2.2.symm
  rw [← List.nil_append as, patchedFields_append fs [] as (by simp [h]), hnone]

mutual

/-- A value whose nodes are answered with objects keeps its outline. -/
theorem outline_patched {as : List Json} (h : ∀ a ∈ as, outline a = .obj []) (v : Json)
    (hlen : (nodes v).length ≤ as.length) : outline (patched as v) = outline v := by
  match v with
  | .arr items =>
    rw [patched, outline, outline, outlineItems_patchedItems h items (by simpa [nodes] using hlen)]
  | .obj fields =>
    rw [patched]
    split
    · rename_i hn
      rw [nodes_obj_of_isNode hn, List.length_append, List.length_singleton] at hlen
      rw [List.getElem?_eq_getElem (by omega)]
      exact h _ (List.getElem_mem _)
    · rfl
  | .null | .bool _ | .int _ | .float _ | .str _ | .pair _ _ | .table _ | .foreign _ =>
    simp only [patched]

theorem outlineItems_patchedItems {as : List Json} (h : ∀ a ∈ as, outline a = .obj [])
    (vs : List Json) (hlen : (nodesOfItems vs).length ≤ as.length) :
    outlineItems (patchedItems as vs) = outlineItems vs := by
  match vs with
  | [] => rfl
  | v :: vs =>
    rw [nodesOfItems, List.length_append] at hlen
    have hv := outline_patched h v (by omega)
    have hvs : outlineItems (patchedItems (as.drop (nodes v).length) vs) = outlineItems vs :=
      outlineItems_patchedItems (fun a ha => h a (List.mem_of_mem_drop ha)) vs
        (by rw [List.length_drop]; omega)
    rw [patchedItems, isNull_of_outline_eq hv, Bool.and_comm, isNull_and_isNode,
      if_neg Bool.false_ne_true, outlineItems, outlineItems, hv, hvs]

end

theorem outlineFields_patchedFields {as : List Json} (h : ∀ a ∈ as, outline a = .obj [])
    (fs : Fields) (hlen : (nodesOfFields fs).length ≤ as.length) :
    outlineFields (patchedFields as fs) = outlineFields fs := by
  induction fs generalizing as with
  | nil => rfl
  | cons f fs ih =>
    obtain ⟨k, v⟩ := f
    rw [nodesOfFields, List.length_append] at hlen
    rw [patchedFields, outlineFields_cons, outlineFields_cons, outline_patched h v (by omega),
      ih (fun a ha => h a (List.mem_of_mem_drop ha)) (by rw [List.length_drop]; omega)]

end Walk

namespace BlockFilter
variable {σ : Type}

/-- The code block that a node is, if the filter rewrites it. -/
def block? (f : BlockFilter σ) (node : Json) : Option CodeBlock :=
  (CodeBlock.ofNode? node).filter (·.attr.hasAnyClass f.classes)

theorem visit_of_block {f : BlockFilter σ} {node : Json} {b : CodeBlock}
    (h : f.block? node = some b) : f.visit node = f.rewrite b := by
  obtain ⟨hnode, hclass⟩ := Option.filter_eq_some_iff.mp h
  rw [visit, transform, accepts, hnode]
  exact if_pos hclass

theorem accepts_eq_isSome_block? (f : BlockFilter σ) (node : Json) :
    f.accepts node = (f.block? node).isSome := by
  rw [accepts, block?]
  cases CodeBlock.ofNode? node with
  | none => rfl
  | some b =>
    rw [Option.filter_some]
    dsimp only
    cases b.attr.hasAnyClass f.classes <;> rfl

theorem visit_of_no_block {f : BlockFilter σ} {node : Json} (h : f.block? node = none) :
    f.visit node = pure node := by
  rw [visit, accepts_eq_isSome_block?, h]
  rfl

/-- A block that was rewritten, and how that ended. -/
structure Rewriting where
  block : CodeBlock
  outcome : Except Failure Json

/-- The rewriting that a call of the filter is, if it is one. -/
def rewriting? (f : BlockFilter σ) (c : Call Failure) : Option Rewriting :=
  (f.block? c.received).map (⟨·, c.outcome⟩)

/-- Blocks rewritten, one after the other, from a state and a world to others. -/
inductive Rewrites (f : BlockFilter σ) (t : σ × World) : List Rewriting → σ × World → Prop
  | start : Rewrites f t [] t
  | block {done : List Rewriting} {u : σ × World} (b : CodeBlock) : Rewrites f t done u →
      Rewrites f t (done ++ [⟨b, ((merged (f.rewrite b)).run u).1⟩])
        ((merged (f.rewrite b)).run u).2

theorem rewriting?_of_block {f : BlockFilter σ} {c : Call Failure} {b : CodeBlock}
    (h : f.block? c.received = some b) : f.rewriting? c = some ⟨b, c.outcome⟩ := by
  rw [rewriting?, h, Option.map_some]

theorem rewriting?_of_no_block {f : BlockFilter σ} {c : Call Failure}
    (h : f.block? c.received = none) : f.rewriting? c = none := by
  rw [rewriting?, h, Option.map_none]

theorem rewrites_of_inTurn {f : BlockFilter σ} {t u : σ × World} {calls : List (Call Failure)}
    (h : InTurn (fun n => merged (f.visit n)) t calls u) :
    f.Rewrites t (calls.filterMap f.rewriting?) u ∧
      ∀ c ∈ calls, f.block? c.received = none → c.outcome = .ok c.received := by
  induction h with
  | start => exact ⟨.start, fun c hc => nomatch hc⟩
  | @call calls u n _ ih =>
    obtain ⟨hrewrites, hleft⟩ := ih
    rw [List.filterMap_append]
    cases hb : f.block? n with
    | none =>
      rw [visit_of_no_block hb, List.filterMap_cons_none (rewriting?_of_no_block hb),
        List.filterMap_nil, List.append_nil]
      refine ⟨hrewrites, fun c hc hnone => ?_⟩
      rcases List.mem_append.mp hc with hc | hc
      · exact hleft c hc hnone
      · rw [List.mem_singleton.mp hc]
        rfl
    | some b =>
      rw [visit_of_block hb, List.filterMap_cons_some (rewriting?_of_block hb), List.filterMap_nil]
      refine ⟨.block b hrewrites, fun c hc hnone => ?_⟩
      rcases List.mem_append.mp hc with hc | hc
      · exact hleft c hc hnone
      · rw [List.mem_singleton.mp hc, hb] at hnone
        cases hnone

/-- The blocks that calls of the filter rewrote. -/
def rewritings (f : BlockFilter σ) (calls : List (Call Failure)) : List Rewriting :=
  calls.filterMap f.rewriting?

/-- The calls of a sweep: which nodes they are handed, how the sweep ends, and what they do. -/
structure SweptBy (f : BlockFilter σ) (doc : Json) (t : σ × World) (calls : List (Call Failure))
    (outcome : Except Failure Json) (u : σ × World) : Prop where
  handed : Handed (nodes doc) calls
  ends : EndsAs (nodes doc) calls (fun as => patched as doc) outcome
  inTurn : InTurn (fun n => merged (f.visit n)) t calls u

theorem sweptBy_sweep (f : BlockFilter σ) (doc : Json) (t : σ × World) :
    ∃ calls, f.SweptBy doc t calls ((merged (f.sweep doc)).run t).1
      ((merged (f.sweep doc)).run t).2 := by
  have hwalk : merged (f.sweep doc) = walk (fun n => merged (f.visit n)) doc :=
    merging.walk (fun _ => rfl) doc
  obtain ⟨calls, hhanded, hends, hturn⟩ := inTurn_walk (fun n => merged (f.visit n)) doc t
  rw [← hwalk] at hends hturn
  exact ⟨calls, hhanded, hends, hturn⟩

namespace SweptBy
variable {f : BlockFilter σ} {doc : Json} {t u : σ × World} {calls : List (Call Failure)}
variable {outcome : Except Failure Json}

/-- A sweep does what the rewriting of blocks does. -/
theorem rewrites (h : f.SweptBy doc t calls outcome u) : f.Rewrites t (f.rewritings calls) u :=
  (rewrites_of_inTurn h.inTurn).1

/-- A failing sweep fails as the last of the blocks does, since every other node is left as it
is. -/
theorem last_of_error {failure : Failure} (h : f.SweptBy doc t calls (.error failure) u) :
    ∃ b, (f.rewritings calls).getLast? = some ⟨b, .error failure⟩ := by
  obtain ⟨earlier, form, rfl, -⟩ := h.ends
  cases hb : f.block? form with
  | none => cases (rewrites_of_inTurn h.inTurn).2 ⟨form, .error failure⟩ (by simp) hb
  | some b =>
    refine ⟨b, ?_⟩
    rw [rewritings, List.filterMap_append, List.filterMap_cons_some (rewriting?_of_block hb),
      List.filterMap_nil, List.getLast?_concat]

theorem error_iff (h : f.SweptBy doc t calls outcome u) (failure : Failure) :
    outcome = .error failure ↔
      ∃ b, (f.rewritings calls).getLast? = some ⟨b, .error failure⟩ := by
  constructor
  · rintro rfl
    exact h.last_of_error
  · rintro ⟨b, hb⟩
    cases outcome with
    | error failure' =>
      obtain ⟨b', hb'⟩ := h.last_of_error
      cases hb.symm.trans hb'
      rfl
    | ok w =>
      obtain ⟨c, hc, hcb⟩ := List.mem_filterMap.mp (List.mem_of_getLast? hb)
      obtain ⟨node, -, hrewriting⟩ := Option.map_eq_some_iff.mp hcb
      obtain ⟨a, ha⟩ := h.ends.2.1 c hc
      injection hrewriting with _ houtcome
      cases houtcome.symm.trans ha

end SweptBy

/-! ### The blocks of a document -/

/-- Whether a filter rewrites a node shows in the outlines under its keys, and so does all of the
block that shows in the outline of its attributes. -/
theorem map_block?_outlineFields {β : Type} (f : BlockFilter σ) {g : CodeBlock → β}
    (hg : ∀ text attr, g ⟨text, .ofJson (outline attr)⟩ = g ⟨text, .ofJson attr⟩) (fs : Fields) :
    (f.block? (.obj (outlineFields fs))).map g = (f.block? (.obj fs)).map g := by
  have hclass (attr : Json) : (Attr.ofJson (outline attr)).hasAnyClass f.classes =
      (Attr.ofJson attr).hasAnyClass f.classes := by
    rw [Attr.hasAnyClass, Attr.hasAnyClass]
    congr 1
    funext name
    exact hasClass_outline attr name
  rw [block?, block?, CodeBlock.ofNode?, CodeBlock.ofNode?, hasTag_outlineFields,
    content_outlineFields]
  cases Node.hasTag (.obj fs) "CodeBlock" with
  | false => rfl
  | true =>
    cases Node.content (.obj fs) with
    | arr items =>
      match items with
      | [] | [_] | _ :: _ :: _ :: _ => rfl
      | [attr, text] =>
        simp only [outline, outlineItems, if_true, Option.filter_some, hclass, text?_outline]
        split
        · exact congrArg some (hg _ attr)
        · rfl
    | _ => rfl

/-- What shows of a block to rewrite is the same after its nodes were answered. -/
theorem map_block?_patched {β : Type} (f : BlockFilter σ) {g : CodeBlock → β}
    (hg : ∀ text attr, g ⟨text, .ofJson (outline attr)⟩ = g ⟨text, .ofJson attr⟩) {fs : Fields}
    {as : List Json} (h : ∀ a ∈ as, outline a = .obj [])
    (hlen : (nodesOfFields fs).length ≤ as.length) :
    (f.block? (.obj (patchedFields as fs))).map g = (f.block? (.obj fs)).map g := by
  rw [← map_block?_outlineFields f hg (patchedFields as fs), outlineFields_patchedFields h fs hlen,
    map_block?_outlineFields f hg]

/-- A node that is no block to rewrite is none after its nodes were answered. -/
theorem block?_patched {f : BlockFilter σ} {fs : Fields} {as : List Json}
    (h : ∀ a ∈ as, outline a = .obj []) (hlen : (nodesOfFields fs).length ≤ as.length)
    (hnone : f.block? (.obj fs) = none) : f.block? (.obj (patchedFields as fs)) = none := by
  have htext := map_block?_patched f (g := (·.text)) (fun _ _ => rfl) h hlen
  rw [hnone, Option.map_none] at htext
  exact Option.map_eq_none_iff.mp htext

/-- The filter answers blocks with objects, if at all. -/
def GivesObjects (f : BlockFilter σ) : Prop :=
  ∀ b t a, ((merged (f.rewrite b)).run t).1 = .ok a → outline a = .obj []

/-- For each node, the filter is handed a block of the same look or, if the node is none to rewrite,
another such. -/
def SeesAlike {β : Type} (f : BlockFilter σ) (g : CodeBlock → β) (ns : List Json)
    (calls : List (Call Failure)) : Prop :=
  ∀ (i : Nat) (c : Call Failure), calls[i]? = some c →
    ∃ n, ns[i]? = some n ∧ (f.block? c.received).map g = (f.block? n).map g

/-- The code blocks of a document hold no nodes. -/
def FlatBlocks (doc : Json) : Prop :=
  ∀ n ∈ nodes doc, (CodeBlock.ofNode? n).isSome = true → nodes n = [n]

theorem Rewrites.exists_run {f : BlockFilter σ} {t u : σ × World} {rs : List Rewriting}
    (h : f.Rewrites t rs u) {r : Rewriting} (hr : r ∈ rs) :
    ∃ v, r.outcome = ((merged (f.rewrite r.block)).run v).1 := by
  induction h with
  | start => cases hr
  | @block done v b _ ih =>
    rcases List.mem_append.mp hr with hr | hr
    · exact ih hr
    · rw [List.mem_singleton.mp hr]
      exact ⟨v, rfl⟩

namespace SweptBy
variable {f : BlockFilter σ} {doc : Json} {t u : σ × World} {calls : List (Call Failure)}
variable {outcome : Except Failure Json}

theorem outline_answer (h : f.SweptBy doc t calls outcome u) (hobjects : f.GivesObjects) {a : Json}
    (ha : a ∈ answersOf calls) : outline a = .obj [] := by
  obtain ⟨c, hc, hok⟩ := mem_answersOf.mp ha
  cases hb : f.block? c.received with
  | none =>
    obtain ⟨i, hi⟩ := List.mem_iff_getElem?.mp hc
    obtain ⟨fields, -, -, hreceived⟩ := h.handed i c hi
    have hleft := (rewrites_of_inTurn h.inTurn).2 c hc hb
    rw [hok, hreceived] at hleft
    cases hleft
    rfl
  | some b =>
    obtain ⟨v, hv⟩ := h.rewrites.exists_run
      (List.mem_filterMap.mpr ⟨c, hc, rewriting?_of_block hb⟩)
    exact hobjects b v a (hv.symm.trans hok)

/-- Before every call all nodes have been answered. -/
theorem le_length_answers (h : f.SweptBy doc t calls outcome u) {i : Nat} (hi : i < calls.length) :
    i ≤ (answersOf calls).length := by
  cases outcome with
  | ok w =>
    rw [length_answersOf h.ends.2.1]
    omega
  | error failure =>
    obtain ⟨earlier, form, rfl, hok⟩ := h.ends
    rw [List.length_append, List.length_singleton] at hi
    rw [answersOf_append, List.length_append, length_answersOf hok]
    omega

/-- The filter is handed the blocks of the document and no others. -/
theorem block?_received (h : f.SweptBy doc t calls outcome u) (hobjects : f.GivesObjects)
    (hflat : FlatBlocks doc) {i : Nat} {c : Call Failure} (hc : calls[i]? = some c) :
    ∃ n, (nodes doc)[i]? = some n ∧ f.block? c.received = f.block? n := by
  obtain ⟨fields, hn, hle, hreceived⟩ := h.handed i c hc
  refine ⟨.obj fields, hn, ?_⟩
  rw [hreceived]
  cases hcode : (CodeBlock.ofNode? (.obj fields)).isSome with
  | true =>
    have hself := hflat _ (List.mem_of_getElem? hn) hcode
    have hnode : (Json.obj fields).isNode = true := by
      rw [CodeBlock.ofNode?] at hcode
      split at hcode
      · exact (Bool.and_eq_true_iff.mp ‹_›).1
      · cases hcode
    rw [nodes_obj_of_isNode hnode] at hself
    rw [patchedFields_eq_self (by simpa using hself)]
  | false =>
    have hlen := h.le_length_answers (List.getElem?_eq_some_iff.mp hc).1
    have hno : CodeBlock.ofNode? (.obj fields) = none := by simpa using hcode
    have hnone : f.block? (.obj fields) = none := by rw [block?, hno, Option.filter_none]
    rw [hnone]
    exact block?_patched (fun a ha => h.outline_answer hobjects (List.mem_of_mem_drop ha))
      (by rw [List.length_drop]; omega) hnone

/-- What a filter is handed, block by block, if it agrees with the nodes of the document. -/
theorem map_block_rewritings {β : Type} (g : CodeBlock → β) (h : f.SeesAlike g (nodes doc) calls) :
    (f.rewritings calls).map (fun r => g r.block) =
      ((nodes doc).take calls.length).filterMap fun n => (f.block? n).map g := by
  have hblocks : calls.map (fun c => (f.block? c.received).map g) =
      ((nodes doc).take calls.length).map fun n => (f.block? n).map g := by
    refine List.ext_getElem? fun i => ?_
    rw [List.getElem?_map, List.getElem?_map, List.getElem?_take]
    cases hc : calls[i]? with
    | none =>
      rw [if_neg (by simpa using hc)]
      rfl
    | some c =>
      obtain ⟨n, hn, hb⟩ := h i c hc
      rw [if_pos (List.getElem?_eq_some_iff.mp hc).1, hn, Option.map_some, Option.map_some, hb]
  have hmap (c : Call Failure) : (f.rewriting? c).map (fun r => g r.block) =
      (f.block? c.received).map g := by
    rw [rewriting?, Option.map_map]
    rfl
  calc (f.rewritings calls).map (fun r => g r.block)
      = (calls.map fun c => (f.block? c.received).map g).filterMap id := by
        rw [rewritings, List.map_filterMap, List.filterMap_map]
        simp only [hmap, Function.comp_def, id]
    _ = ((nodes doc).take calls.length).filterMap fun n => (f.block? n).map g := by
        rw [hblocks, List.filterMap_map, Function.id_comp]

/-- The blocks of the document are rewritten in the order of its nodes, as far as the sweep
comes. -/
theorem blocks_eq (h : f.SweptBy doc t calls outcome u) (hobjects : f.GivesObjects)
    (hflat : FlatBlocks doc) :
    (f.rewritings calls).map (·.block) = ((nodes doc).take calls.length).filterMap f.block? := by
  have hblocks := map_block_rewritings id fun i c hc => by
    obtain ⟨n, hn, hb⟩ := h.block?_received hobjects hflat hc
    exact ⟨n, hn, congrArg (Option.map id) hb⟩
  simpa only [Option.map_id_fun, id] using hblocks

/-- Whatever a document holds, what shows of its blocks shows of those that the filter is handed. -/
theorem seesAlike {β : Type} {g : CodeBlock → β} (h : f.SweptBy doc t calls outcome u)
    (hobjects : f.GivesObjects)
    (hg : ∀ text attr, g ⟨text, .ofJson (outline attr)⟩ = g ⟨text, .ofJson attr⟩) :
    f.SeesAlike g (nodes doc) calls := by
  intro i c hc
  obtain ⟨fields, hn, hle, hreceived⟩ := h.handed i c hc
  have hlen := h.le_length_answers (List.getElem?_eq_some_iff.mp hc).1
  refine ⟨.obj fields, hn, ?_⟩
  rw [hreceived]
  exact map_block?_patched f hg (fun a ha => h.outline_answer hobjects (List.mem_of_mem_drop ha))
    (by rw [List.length_drop]; omega)

/-- Whatever a document holds, the texts of the blocks that are rewritten are those of its
blocks. -/
theorem texts_eq (h : f.SweptBy doc t calls outcome u) (hobjects : f.GivesObjects) :
    (f.rewritings calls).map (·.block.text) =
      ((nodes doc).take calls.length).filterMap fun n => (f.block? n).map (·.text) :=
  map_block_rewritings (·.text) (h.seesAlike hobjects fun _ _ => rfl)

end SweptBy

end BlockFilter

end DocFilter
