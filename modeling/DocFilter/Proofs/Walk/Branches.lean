import DocFilter.Proofs.Walk.Calls

/-!
# Branches and outlines

The ways down from a value, each with the nodes met on it. The outline of a value is what is left of
it when the objects in it are emptied. An object with the same outlines under its keys is a node of
the same type, and its content shows the same classes.
-/

namespace DocFilter

/-! ### Branches -/

mutual

/-- The nodes on each way down from a value to a value inside it, outermost first. -/
def branches : Json → List (List Json)
  | .arr items => [] :: branchesOfItems items
  | .obj fields =>
    let here := if (Json.obj fields).isNode then [Json.obj fields] else []
    here :: (branchesOfFields fields).map (here ++ ·)
  | _ => [[]]

def branchesOfItems : List Json → List (List Json)
  | [] => []
  | v :: vs => branches v ++ branchesOfItems vs

def branchesOfFields : List (String × Json) → List (List Json)
  | [] => []
  | (_, v) :: fs => branches v ++ branchesOfFields fs

end

theorem branches_obj_of_isNode {fields : Fields} (h : (Json.obj fields).isNode = true) :
    branches (.obj fields) =
      [.obj fields] :: (branchesOfFields fields).map (Json.obj fields :: ·) := by
  rw [branches, h]
  rfl

theorem branches_obj_of_not_isNode {fields : Fields} (h : (Json.obj fields).isNode = false) :
    branches (.obj fields) = [] :: branchesOfFields fields := by
  rw [branches, h]
  simp

mutual

theorem mem_nodes_of_mem_branch {v n : Json} {branch : List Json} (hb : branch ∈ branches v)
    (hn : n ∈ branch) : n ∈ nodes v := by
  match v with
  | .arr items =>
    rw [branches] at hb
    rw [nodes]
    rcases List.mem_cons.mp hb with rfl | hb
    · simp at hn
    · exact mem_nodesOfItems_of_mem_branch hb hn
  | .obj fields =>
    rw [nodes, List.mem_append]
    cases hnode : (Json.obj fields).isNode with
    | true =>
      rw [branches_obj_of_isNode hnode] at hb
      rcases List.mem_cons.mp hb with rfl | hb
      · exact .inr (by simpa using hn)
      · obtain ⟨rest, hrest, rfl⟩ := List.mem_map.mp hb
        rcases List.mem_cons.mp hn with rfl | hn
        · exact .inr (by simp)
        · exact .inl (mem_nodesOfFields_of_mem_branch hrest hn)
    | false =>
      rw [branches_obj_of_not_isNode hnode] at hb
      rcases List.mem_cons.mp hb with rfl | hb
      · simp at hn
      · exact .inl (mem_nodesOfFields_of_mem_branch hb hn)
  | .null | .bool _ | .int _ | .float _ | .str _ | .pair _ _ | .table _ | .foreign _ =>
    simp only [branches, List.mem_singleton] at hb
    subst hb
    simp at hn

theorem mem_nodesOfItems_of_mem_branch {vs : List Json} {n : Json} {branch : List Json}
    (hb : branch ∈ branchesOfItems vs) (hn : n ∈ branch) : n ∈ nodesOfItems vs := by
  match vs with
  | [] => simp [branchesOfItems] at hb
  | v :: vs =>
    rw [branchesOfItems] at hb
    rw [nodesOfItems, List.mem_append]
    rcases List.mem_append.mp hb with hb | hb
    · exact .inl (mem_nodes_of_mem_branch hb hn)
    · exact .inr (mem_nodesOfItems_of_mem_branch hb hn)

theorem mem_nodesOfFields_of_mem_branch {fs : List (String × Json)} {n : Json}
    {branch : List Json} (hb : branch ∈ branchesOfFields fs) (hn : n ∈ branch) :
    n ∈ nodesOfFields fs := by
  match fs with
  | [] => simp [branchesOfFields] at hb
  | (k, v) :: fs =>
    rw [branchesOfFields] at hb
    rw [nodesOfFields, List.mem_append]
    rcases List.mem_append.mp hb with hb | hb
    · exact .inl (mem_nodes_of_mem_branch hb hn)
    · exact .inr (mem_nodesOfFields_of_mem_branch hb hn)

end

/-! ### Outlines -/

mutual

/-- A value with the objects in it emptied. -/
def outline : Json → Json
  | .arr items => .arr (outlineItems items)
  | .obj _ => .obj []
  | v => v

def outlineItems : List Json → List Json
  | [] => []
  | v :: vs => outline v :: outlineItems vs

end

def outlineFields (fs : List (String × Json)) : List (String × Json) :=
  fs.map fun (k, v) => (k, outline v)

theorem outlineFields_cons (k : String) (v : Json) (fs : Fields) :
    outlineFields ((k, v) :: fs) = (k, outline v) :: outlineFields fs := rfl

theorem outlineItems_eq_map (vs : List Json) : outlineItems vs = vs.map outline := by
  induction vs with
  | nil => rfl
  | cons v vs ih => rw [outlineItems, ih, List.map_cons]

theorem text?_outline (v : Json) : (outline v).text? = v.text? := by
  cases v <;> rfl

theorem items?_outline (v : Json) : (outline v).items? = v.items?.map (·.map outline) := by
  cases v with
  | arr items => simp only [outline, Json.items?, outlineItems_eq_map, Option.map_some]
  | _ => rfl

theorem lookup_outlineFields (fs : Fields) (key : String) :
    (outlineFields fs).lookup key = (fs.lookup key).map outline := by
  induction fs with
  | nil => rfl
  | cons f fs ih =>
    obtain ⟨k, v⟩ := f
    rw [outlineFields_cons, List.lookup_cons, List.lookup_cons]
    split
    · rfl
    · exact ih

theorem isNode_outlineFields (fs : Fields) :
    (Json.obj (outlineFields fs)).isNode = (Json.obj fs).isNode :=
  isNode_eq_of_keys_eq (by simp [outlineFields, Dictionary.keys, Function.comp_def])

theorem field?_outlineFields (fs : Fields) (key : String) :
    (Json.obj (outlineFields fs)).field? key = ((Json.obj fs).field? key).map outline :=
  lookup_outlineFields fs key

theorem hasTag_outlineFields (fs : Fields) (name : String) :
    Node.hasTag (.obj (outlineFields fs)) name = Node.hasTag (.obj fs) name := by
  have htag : (Node.tag (.obj (outlineFields fs))).text? = (Node.tag (.obj fs)).text? := by
    rw [Node.tag, Node.tag, field?_outlineFields]
    cases (Json.obj fs).field? "t" with
    | none => rfl
    | some v => exact text?_outline v
  rw [Node.hasTag, Node.hasTag, isNode_outlineFields, htag]

theorem content_outlineFields (fs : Fields) :
    Node.content (.obj (outlineFields fs)) = outline (Node.content (.obj fs)) := by
  rw [Node.content, Node.content, field?_outlineFields]
  cases (Json.obj fs).field? "c" <;> rfl

theorem isNull_of_outline_eq {v w : Json} (h : outline w = outline v) : w.isNull = v.isNull := by
  cases v <;> cases w <;> first | rfl | simp [outline] at h

/-- The classes that attributes show are those that their outline shows. -/
theorem hasClass_outline (attr : Json) (name : String) :
    (Attr.ofJson (outline attr)).hasClass name = (Attr.ofJson attr).hasClass name := by
  cases attr with
  | arr items =>
    have hpart : ((outlineItems items)[1]?).getD Json.null =
        outline ((items[1]?).getD Json.null) := by
      rw [outlineItems_eq_map, List.getElem?_map]
      cases items[1]? <;> rfl
    simp only [outline, Attr.ofJson, Attr.hasClass]
    rw [hpart, items?_outline]
    cases ((items[1]?).getD Json.null).items? with
    | none => rfl
    | some classes =>
      rw [Option.map_some, Option.getD_some, Option.getD_some, List.any_map]
      congr 1
      funext v
      exact congrArg (· == some name) (text?_outline v)
  | _ => rfl

end DocFilter
