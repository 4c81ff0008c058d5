import DocFilter.Filter
import DocFilter.Json.Table
import Mathlib.Data.List.Permutation

/-!
# Views of attributes and code blocks

Reading a view drops what is malformed, and writing puts the view into the one form that reading
takes as it stands. So a value is normalized by the first reading, and whatever looks at a node
through its view sees the same node after it was written back. A node that has the written form
already, its two fields in any order, is given back.
-/

namespace DocFilter

namespace Json

theorem sameItems_self {vs : List Json} (h : ∀ v ∈ vs, same v v = true) :
    sameItems vs vs = true := by
  induction vs with
  | nil => rfl
  | cons v vs ih =>
    rw [sameItems, h v List.mem_cons_self, ih fun w hw => h w (List.mem_cons_of_mem v hw)]
    rfl

theorem same_arr_self {vs : List Json} (h : ∀ v ∈ vs, same v v = true) :
    same (.arr vs) (.arr vs) = true := by
  rw [same, sameItems_self h, beq_self_eq_true, Bool.and_self]

theorem same_str_self (s : String) : same (.str s) (.str s) = true := by
  simp [same, text?]

theorem same_texts_self (ss : List String) : same (.arr (ss.map .str)) (.arr (ss.map .str)) = true := by
  refine same_arr_self fun v hv => ?_
  obtain ⟨s, -, rfl⟩ := List.mem_map.mp hv
  exact same_str_self s

end Json

namespace Attr

/-- The attributes that an identifier, classes and pairs of texts make up. -/
def ofTexts (identifier : String) (classes : List String) (pairs : List (String × String)) : Attr :=
  ⟨identifier, classes.map .str, pairs⟩

/-- What is written is read as it was. -/
theorem ofJson_toJson (a : Attr) : ofJson a.toJson = a := by
  obtain ⟨identifier, classes, pairs⟩ := a
  have hpair : (fun p : String × String => pairOf? (.arr [.str p.1, .str p.2])) = some := by
    funext p
    rw [pairOf?, Json.shown_str, Json.shown_str]
  have hpairs : (pairs.map fun p => Json.arr [.str p.1, .str p.2]).filterMap pairOf? = pairs := by
    rw [List.filterMap_map]
    exact (congrArg (List.filterMap · pairs) hpair).trans List.filterMap_some
  simp only [toJson, ofJson, List.getElem?_cons_zero, List.getElem?_cons_succ, Option.getD_some,
    Json.text?, Json.items?, hpairs]

theorem same_toJson_self (identifier : String) (classes : List String)
    (pairs : List (String × String)) :
    (ofTexts identifier classes pairs).toJson.same (ofTexts identifier classes pairs).toJson =
      true := by
  have hpairs : ∀ v ∈ pairs.map fun p : String × String => Json.arr [.str p.1, .str p.2],
      v.same v = true := by
    intro v hv
    obtain ⟨p, -, rfl⟩ := List.mem_map.mp hv
    exact Json.same_texts_self [p.1, p.2]
  refine Json.same_arr_self fun v hv => ?_
  rcases List.mem_cons.mp hv with rfl | hv
  · exact Json.same_str_self identifier
  · rcases List.mem_cons.mp hv with rfl | hv
    · exact Json.same_texts_self classes
    · rw [List.mem_singleton.mp hv]
      exact Json.same_arr_self hpairs

end Attr

namespace CodeBlock

theorem ofNode?_toNode (b : CodeBlock) : ofNode? b.toNode = some b := by
  obtain ⟨text, attr⟩ := b
  have hcontent : Node.content (toNode ⟨text, attr⟩) = .arr [attr.toJson, .str text] := rfl
  have htag : Node.hasTag (toNode ⟨text, attr⟩) "CodeBlock" = true := rfl
  rw [ofNode?, if_pos htag, hcontent]
  simp only [Json.text?, Option.getD_some, Attr.ofJson_toJson]

def fields (b : CodeBlock) : Fields :=
  [("t", .str "CodeBlock"), ("c", .arr [b.attr.toJson, .str b.text])]

theorem toNode_eq (b : CodeBlock) : b.toNode = .obj b.fields := rfl

/-- In whatever order the fields of a written block stand, they are read as the block. -/
theorem ofNode?_of_perm {b : CodeBlock} {fs : Fields} (h : fs.Perm b.fields) :
    ofNode? (.obj fs) = some b := by
  have hread := ofNode?_toNode b
  rcases List.perm_pair.mp h with rfl | rfl
  · exact hread
  · exact hread

theorem same_of_perm {b : CodeBlock} {fs : Fields} (h : fs.Perm b.fields)
    (hattr : b.attr.toJson.same b.attr.toJson = true) : b.toNode.same (.obj fs) = true := by
  have hcontent : Json.same (.arr [b.attr.toJson, .str b.text]) (.arr [b.attr.toJson, .str b.text]) =
      true := by
    refine Json.same_arr_self fun v hv => ?_
    rcases List.mem_cons.mp hv with rfl | hv
    · exact hattr
    · rw [List.mem_singleton.mp hv]
      exact Json.same_str_self b.text
  have htag := Json.same_str_self "CodeBlock"
  have ht : Fields.get? b.fields "t" = some (.str "CodeBlock") := rfl
  have hc : Fields.get? b.fields "c" = some (.arr [b.attr.toJson, .str b.text]) := rfl
  rw [toNode_eq, Json.same, h.length_eq, beq_self_eq_true, Bool.true_and]
  rcases List.perm_pair.mp h with rfl | rfl
  · simp only [Json.sameFields, ht, hc, htag, hcontent, Bool.and_self]
  · simp only [Json.sameFields, ht, hc, htag, hcontent, Bool.and_self]

end CodeBlock

theorem BlockFilter.accepts_eq_of_view_eq {σ : Type} (f : BlockFilter σ) {v w : Json}
    (h : CodeBlock.ofNode? v = CodeBlock.ofNode? w) : f.accepts v = f.accepts w := by
  rw [accepts, accepts, h]

theorem BlockFilter.transform_of_view {σ : Type} (f : BlockFilter σ) {v : Json} {b : CodeBlock}
    (h : CodeBlock.ofNode? v = some b) : f.transform v = f.rewrite b := by
  rw [transform, h]

/-- Views lose nothing but what is malformed, and that at the first reading. Attributes and code
blocks are read as they were written; any value gives attributes that are read again as they are; a
node that is written back from its view shows the same view, so that every filter of blocks takes
it for what it was and makes the same of it; and a node with just a type and a content, made of
texts in the right places, is equal to what is written back. -/
theorem views_settle_at_first_reading :
    (∀ a : Attr, Attr.ofJson a.toJson = a) ∧
    (∀ b : CodeBlock, CodeBlock.ofNode? b.toNode = some b) ∧
    (∀ v, Attr.ofJson (Attr.ofJson v).toJson = Attr.ofJson v) ∧
    (∀ v b, CodeBlock.ofNode? v = some b → CodeBlock.ofNode? b.toNode = some b ∧
      (∀ names, (CodeBlock.ofNode? b.toNode).map (·.attr.hasAnyClass names) =
        (CodeBlock.ofNode? v).map (·.attr.hasAnyClass names)) ∧
      (∀ key, (CodeBlock.ofNode? b.toNode).map (·.attr.get? key) =
        (CodeBlock.ofNode? v).map (·.attr.get? key)) ∧
      ∀ (σ : Type) (f : BlockFilter σ), f.accepts b.toNode = f.accepts v ∧
        f.transform b.toNode = f.transform v) ∧
    ∀ (identifier text : String) (classes : List String) (pairs : List (String × String))
      (fs : Fields),
      fs.Perm [("t", .str "CodeBlock"), ("c", .arr [.arr [.str identifier,
        .arr (classes.map .str), .arr (pairs.map fun (k, v) => .arr [.str k, .str v])],
        .str text])] →
      ∃ b gs, CodeBlock.ofNode? (.obj fs) = some b ∧ b.toNode = .obj gs ∧ gs.Perm fs ∧
        b.toNode.same (.obj fs) = true := by
  refine ⟨Attr.ofJson_toJson, CodeBlock.ofNode?_toNode, fun v => Attr.ofJson_toJson _, ?_, ?_⟩
  · intro v b hview
    have hread := b.ofNode?_toNode
    refine ⟨hread, ?_, ?_, fun σ f => ⟨?_, ?_⟩⟩
    · rw [hread, hview]
      exact fun _ => rfl
    · rw [hread, hview]
      exact fun _ => rfl
    · exact f.accepts_eq_of_view_eq (hread.trans hview.symm)
    · rw [f.transform_of_view hread, f.transform_of_view hview]
  · intro identifier text classes pairs fs hfs
    let b : CodeBlock := ⟨text, Attr.ofTexts identifier classes pairs⟩
    have hperm : fs.Perm b.fields := hfs
    exact ⟨b, b.fields, CodeBlock.ofNode?_of_perm hperm, b.toNode_eq, hperm.symm,
      CodeBlock.same_of_perm hperm (Attr.same_toJson_self identifier classes pairs)⟩

/-- A block with a number for its text, a class that is a number and half a pair settles as an empty
one; a node that starts with its content is given back. -/
theorem views_settle_for_malformed_block :
    let v : Json := .obj [("c", .arr [.arr [.str "x", .arr [.str "a", .int 1],
        .arr [.arr [.str "k", .null], .arr [.str "l"]]], .int 3]), ("t", .str "CodeBlock"),
        ("u", .null)]
    let fs : Fields := [("c", .arr [.arr [.str "x", .arr [.str "a"],
        .arr [.arr [.str "k", .str "w"]]], .str "text"]), ("t", .str "CodeBlock")]
    ∃ b, CodeBlock.ofNode? v = some b ∧ b.text = "" ∧ b.attr.pairs = [("k", "None")] ∧
      CodeBlock.ofNode? b.toNode = some b ∧
      ∃ b' gs, CodeBlock.ofNode? (.obj fs) = some b' ∧ b'.toNode = .obj gs ∧ gs.Perm fs ∧
        b'.toNode.same (.obj fs) = true := by
  intro v fs
  obtain ⟨-, -, -, hblocks, hwritten⟩ := views_settle_at_first_reading
  obtain ⟨hread, -⟩ := hblocks v ⟨"", ⟨"x", [.str "a", .int 1], [("k", "None")]⟩⟩ rfl
  exact ⟨_, rfl, rfl, rfl, hread, hwritten "x" "text" ["a"] [("k", "w")] fs (.swap ..)⟩

end DocFilter
