import DocFilter.Filter
import DocFilter.Proofs.Walk.Calls
import DocFilter.Proofs.Walk.Rules

/-!
# Fixpoints of a walk

A walk whose action leaves every node of a value as it is returns the value. From this it follows
that a filter of nodes has nothing left to do after one pass, if what it makes of a node holds no
node that it would take up. The test is asked about a node after the nodes inside it were rewritten,
so it may turn out otherwise than before: what counts is that every node of the result either was
tested as it stands there, or was made by the transformation.
-/

namespace DocFilter

section Unchanged
variable {m : Type → Type} [Monad m] [LawfulMonad m] {action : Json → m Json}

mutual

theorem walk_eq_pure (v : Json) (h : ∀ n ∈ nodes v, action n = pure n) :
    walk action v = pure v := by
  match v with
  | .arr items =>
    rw [walk, walkItems_eq_pure items (by simpa only [nodes] using h), pure_bind]
  | .obj fields =>
    have hfs := walkFields_eq_pure fields fun n hn =>
      h n (by rw [nodes]; exact List.mem_append_left _ hn)
    rw [walk, hfs, pure_bind]
    split
    · next hn => exact h _ (by rw [nodes_obj_of_isNode hn]; simp)
    · rfl
  | .null | .bool _ | .int _ | .float _ | .str _ | .pair _ _ | .table _ | .foreign _ =>
    simp only [walk]

theorem walkItems_eq_pure (vs : List Json) (h : ∀ n ∈ nodesOfItems vs, action n = pure n) :
    walkItems action vs = pure vs := by
  match vs with
  | [] => simp only [walkItems]
  | v :: vs =>
    have hv := walk_eq_pure v fun n hn =>
      h n (by rw [nodesOfItems]; exact List.mem_append_left _ hn)
    have hvs := walkItems_eq_pure vs fun n hn =>
      h n (by rw [nodesOfItems]; exact List.mem_append_right _ hn)
    rw [walkItems, hv, pure_bind, hvs, pure_bind, isNull_and_isNode, if_neg Bool.false_ne_true]

theorem walkFields_eq_pure (fs : List (String × Json))
    (h : ∀ n ∈ nodesOfFields fs, action n = pure n) : walkFields action fs = pure fs := by
  match fs with
  | [] => simp only [walkFields]
  | (k, v) :: fs =>
    have hv := walk_eq_pure v fun n hn =>
      h n (by rw [nodesOfFields]; exact List.mem_append_left _ hn)
    have hfs := walkFields_eq_pure fs fun n hn =>
      h n (by rw [nodesOfFields]; exact List.mem_append_right _ hn)
    rw [walkFields, hv, pure_bind, hfs, pure_bind]

end

end Unchanged

/-- The nodes inside a value, the value itself left out. -/
def innerNodes : Json → List Json
  | .arr items => nodesOfItems items
  | .obj fields => nodesOfFields fields
  | _ => []

/-- What a transformation makes of a node that satisfies a test, while no node inside it does, holds
no node that satisfies the test. -/
def LeavesNone (test : Json → Bool) (transform : Json → Except Failure Json) : Prop :=
  ∀ n, n.isNode = true → test n = true → (∀ d ∈ innerNodes n, test d = false) →
    ∃ r, transform n = .ok r ∧ ∀ d ∈ nodes r, test d = false

/-- What a filter of nodes does to one node, if its test and its transformation have no effects. -/
def rewriteNode (test : Json → Bool) (transform : Json → Except Failure Json) (n : Json) :
    Run Json :=
  if test n then MonadExcept.ofExcept (transform n) else pure n

variable {test : Json → Bool} {transform : Json → Except Failure Json}

/-- The step of a pass: the nodes inside a node are settled, and then the node is. -/
theorem rewriteNode_settles (hleaves : LeavesNone test transform) {fields : Fields}
    (hn : (Json.obj fields).isNode = true) (hinner : ∀ d ∈ nodesOfFields fields, test d = false) :
    ∃ r, rewriteNode test transform (.obj fields) = pure r ∧ ∀ d ∈ nodes r, test d = false := by
  cases ht : test (.obj fields) with
  | true =>
    obtain ⟨r, hr, hd⟩ := hleaves _ hn ht hinner
    exact ⟨r, by rw [rewriteNode, if_pos ht, hr]; rfl, hd⟩
  | false =>
    refine ⟨.obj fields, by rw [rewriteNode, ht]; rfl, ?_⟩
    intro d hd
    rw [nodes_obj_of_isNode hn] at hd
    rcases List.mem_append.mp hd with hd | hd
    · exact hinner d hd
    · rw [List.mem_singleton.mp hd, ht]

/-- Put together from parts without nodes that satisfy the test, a value that is no node itself has
none either. -/
theorem rebuilding_settled (test : Json → Bool) :
    Rebuilding (fun _ w => ∀ n ∈ nodes w, test n = false)
      (fun _ ws => ∀ n ∈ nodesOfItems ws, test n = false)
      (fun _ fs => ∀ n ∈ nodesOfFields fs, test n = false) where
  leaf v harr hobj := by
    rw [nodes] <;> simp_all
  arr h := by rwa [nodes]
  obj h hn := by rwa [nodes_obj_of_not_isNode hn]
  items_nil := by simp [nodesOfItems]
  items_cons hw hws := by
    split
    · exact hws
    · intro n hn
      rw [nodesOfItems] at hn
      rcases List.mem_append.mp hn with hn | hn
      · exact hw n hn
      · exact hws n hn
  fields_nil := by simp [nodesOfFields]
  fields_cons hw hfs := by
    intro n hn
    rw [nodesOfFields] at hn
    rcases List.mem_append.mp hn with hn | hn
    · exact hw n hn
    · exact hfs n hn

theorem walk_settles (hleaves : LeavesNone test transform) (v : Json) :
    ∃ w, walk (rewriteNode test transform) v = pure w ∧ ∀ n ∈ nodes w, test n = false :=
  (effectless Run).walk (rebuilding_settled test)
    (fun _ _ hinner hn => rewriteNode_settles hleaves hn hinner) v

/-- A filter of nodes whose test and transformation have no effects. -/
def pureFilter (test : Json → Bool) (transform : Json → Except Failure Json)
    (name transformName : Option String) : Filter :=
  Filter.ofNodes (fun n => pure (test n)) (fun n => MonadExcept.ofExcept (transform n)) name
    transformName

theorem pureFilter_apply (name transformName : Option String) (v : Json) :
    (pureFilter test transform name transformName).apply v =
      walk (rewriteNode test transform) v := by
  have hvisit : (fun n => do if ← pure (test n) then MonadExcept.ofExcept (transform n) else pure n) =
      rewriteNode test transform := by
    funext n
    rw [pure_bind]
    rfl
  rw [← hvisit]
  rfl

/-- One pass reaches the fixpoint of a filter whose output it does not take up again: no node of the
result satisfies the test, and a second pass changes nothing, nor does either have an effect. -/
theorem pureFilter_fixpoint_after_one_pass (test : Json → Bool)
    (transform : Json → Except Failure Json)
    (hleaves : LeavesNone test transform) (name transformName : Option String) (v : Json) :
    ∃ w, (pureFilter test transform name transformName).apply v = pure w ∧
      (∀ n ∈ nodes w, test n = false) ∧
      (pureFilter test transform name transformName).apply w = pure w := by
  obtain ⟨w, hw, hd⟩ := walk_settles hleaves v
  refine ⟨w, ?_, hd, ?_⟩
  · rw [pureFilter_apply, hw]
  · rw [pureFilter_apply]
    exact walk_eq_pure w fun n hn => by rw [rewriteNode, hd n hn]; rfl

/-- Removing paragraphs leaves a null under a key, drops them from lists, and is done after one
pass. -/
theorem pureFilter_fixpoint_removing_paragraphs :
    LeavesNone (Node.hasTag · "Para") (fun _ => .ok .null) ∧
      ∃ w, w = .obj [("a", .null), ("b", .arr [.null])] ∧
        (pureFilter (Node.hasTag · "Para") (fun _ => .ok .null) none none).apply
          (.obj [("a", Node.para []), ("b", .arr [.null, Node.para [Node.para []]])]) = pure w ∧
        (∀ n ∈ nodes w, Node.hasTag n "Para" = false) ∧
        (pureFilter (Node.hasTag · "Para") (fun _ => .ok .null) none none).apply w = pure w := by
  have hleaves : LeavesNone (Node.hasTag · "Para") fun _ => .ok .null := by
    intro n _ _ _
    exact ⟨.null, rfl, by simp [nodes]⟩
  obtain ⟨w, hw, hnodes, hagain⟩ := pureFilter_fixpoint_after_one_pass _ _ hleaves none none
    (.obj [("a", Node.para []), ("b", .arr [.null, Node.para [Node.para []]])])
  have hresult : (pure w : Run Json) = pure (.obj [("a", .null), ("b", .arr [.null])]) := by
    rw [← hw]
    rfl
  have houtcome := congrArg (fun x => (x.run (.initial ⟨[]⟩ "/")).1) hresult
  exact ⟨hleaves, w, Except.ok.inj houtcome, hw, hnodes, hagain⟩

end DocFilter
