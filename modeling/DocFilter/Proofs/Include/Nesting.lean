import DocFilter.Proofs.Include.Context
import DocFilter.Proofs.Walk.Branches
import DocFilter.Proofs.Walk.Calls

/-!
# Nested includes

What files become is marked in the result: a div with a class of its own, and with its file as its
source. If only expansion makes such divs, those on one branch are of different files, none of them
being included already, and there are no more of them than levels.
-/

namespace DocFilter.Include

/-! ### Included divs -/

def divAttr (v : Json) : Attr :=
  match Node.content v with
  | .arr (attr :: _) => Attr.ofJson attr
  | _ => Attr.empty

/-- Whether a value is a div that is marked as the content of a file. -/
def isIncluded (v : Json) : Bool := Node.hasTag v "Div" && (divAttr v).hasClass "included"

/-- No div in a value is marked as the content of a file. -/
def Unmarked (v : Json) : Prop := ∀ n ∈ nodes v, isIncluded n = false

theorem Unmarked.isIncluded_eq {fs : Fields} (h : Unmarked (.obj fs)) :
    isIncluded (.obj fs) = false := by
  cases hnode : (Json.obj fs).isNode with
  | true => exact h _ (by rw [nodes_obj_of_isNode hnode]; simp)
  | false => rw [isIncluded, Node.hasTag, hnode, Bool.false_and, Bool.false_and]

theorem Unmarked.ofFields {fs : Fields} (h : Unmarked (.obj fs)) :
    ∀ n ∈ nodesOfFields fs, isIncluded n = false := fun n hn =>
  h n (by rw [nodes]; exact List.mem_append_left _ hn)

/-- The sources of the included divs on a branch, outermost first. -/
def sources (branch : List Json) : List (Option String) :=
  (branch.filter isIncluded).map fun n => (divAttr n).get? "source"

/-- Whether an object is an included div shows in the outlines under its keys. -/
theorem isIncluded_outlineFields (fs : Fields) :
    isIncluded (.obj (outlineFields fs)) = isIncluded (.obj fs) := by
  have hclass : (divAttr (.obj (outlineFields fs))).hasClass "included" =
      (divAttr (.obj fs)).hasClass "included" := by
    rw [divAttr, divAttr, content_outlineFields]
    cases Node.content (.obj fs) with
    | arr items =>
      cases items with
      | nil => rfl
      | cons attr rest => exact hasClass_outline attr "included"
    | _ => rfl
  rw [isIncluded, isIncluded, hasTag_outlineFields, hclass]

/-! ### Nesting -/

/-- The included divs on a branch are of different files, none of them seen already, and there are
at most `room` of them. -/
structure Nests (seen : List String) (room : Nat) (branch : List Json) : Prop where
  nodup : (sources branch).Nodup
  fresh : ∀ source ∈ sources branch, ∃ path, source = some path ∧ path ∉ seen
  length_le : (sources branch).length ≤ room

namespace Nests
variable {seen : List String} {room : Nat} {branch : List Json} {n : Json}

theorem of_unmarked (h : ∀ n ∈ branch, isIncluded n = false) : Nests seen room branch := by
  have hnil : sources branch = [] := by
    rw [sources, List.map_eq_nil_iff, List.filter_eq_nil_iff]
    intro n hn
    simp [h n hn]
  constructor <;> simp [hnil]

theorem nil : Nests seen room [] := of_unmarked (by simp)

theorem cons_unmarked (hn : isIncluded n = false) (h : Nests seen room branch) :
    Nests seen room (n :: branch) := by
  have hsources : sources (n :: branch) = sources branch := by simp [sources, hn]
  constructor
  · rw [hsources]
    exact h.nodup
  · rw [hsources]
    exact h.fresh
  · rw [hsources]
    exact h.length_le

theorem cons_included {path : String} (hn : isIncluded n = true)
    (hsource : (divAttr n).get? "source" = some path) (hnew : path ∉ seen)
    (h : Nests (seen ++ [path]) room branch) : Nests seen (room + 1) (n :: branch) := by
  have hsources : sources (n :: branch) = some path :: sources branch := by
    simp [sources, hn, hsource]
  constructor
  · rw [hsources, List.nodup_cons]
    refine ⟨fun hmem => ?_, h.nodup⟩
    obtain ⟨p, hp, hfresh⟩ := h.fresh _ hmem
    cases hp
    exact hfresh (by simp)
  · rw [hsources]
    intro source hmem
    rcases List.mem_cons.mp hmem with rfl | hmem
    · exact ⟨path, rfl, hnew⟩
    · obtain ⟨p, hp, hfresh⟩ := h.fresh source hmem
      exact ⟨p, hp, fun hseen => hfresh (List.mem_append_left _ hseen)⟩
  · rw [hsources, List.length_cons]
    exact Nat.succ_le_succ h.length_le

end Nests

/-- Every branch of a value nests. -/
def NestsIn (seen : List String) (room : Nat) (v : Json) : Prop :=
  ∀ branch ∈ branches v, Nests seen room branch

theorem nestsIn_of_unmarked {v : Json} (h : Unmarked v) (seen : List String) (room : Nat) :
    NestsIn seen room v := fun _ hb =>
  .of_unmarked fun n hn => h n (mem_nodes_of_mem_branch hb hn)

/-- A node that is no included div nests as its fields do. -/
theorem nestsIn_node {fs gs : Fields} {seen : List String} {room : Nat} (h : Unmarked (.obj fs))
    (houtline : outlineFields gs = outlineFields fs) (hnode : (Json.obj gs).isNode = true)
    (hnests : ∀ b ∈ branchesOfFields gs, Nests seen room b) : NestsIn seen room (.obj gs) := by
  -- the action leaves the node alone, and the walk below it has kept all outlines
  have hmark : isIncluded (.obj gs) = false := by
    rw [← isIncluded_outlineFields, houtline, isIncluded_outlineFields, h.isIncluded_eq]
  intro b hb
  rw [branches_obj_of_isNode hnode] at hb
  rcases List.mem_cons.mp hb with rfl | hb
  · exact .cons_unmarked hmark .nil
  · obtain ⟨rest, hrest, rfl⟩ := List.mem_map.mp hb
    exact .cons_unmarked hmark (hnests rest hrest)

/-- A walk keeps outlines and nesting, if its action does. -/
theorem rebuilding_nests (seen : List String) (room : Nat) :
    Rebuilding (fun v w => Unmarked v → outline w = outline v ∧ NestsIn seen room w)
      (fun vs ws => (∀ n ∈ nodesOfItems vs, isIncluded n = false) →
        outlineItems ws = outlineItems vs ∧ ∀ b ∈ branchesOfItems ws, Nests seen room b)
      (fun fs gs => (∀ n ∈ nodesOfFields fs, isIncluded n = false) →
        outlineFields gs = outlineFields fs ∧ ∀ b ∈ branchesOfFields gs, Nests seen room b) where
  leaf v _ _ h := ⟨rfl, nestsIn_of_unmarked h seen room⟩
  arr := by
    intro vs ws hitems h
    obtain ⟨houtline, hnests⟩ := hitems (by simpa only [Unmarked, nodes] using h)
    refine ⟨by rw [outline, outline, houtline], fun b hb => ?_⟩
    rw [branches] at hb
    rcases List.mem_cons.mp hb with rfl | hb
    · exact .nil
    · exact hnests b hb
  obj := by
    intro fs gs hfields hnode h
    refine ⟨rfl, fun b hb => ?_⟩
    rw [branches_obj_of_not_isNode hnode] at hb
    rcases List.mem_cons.mp hb with rfl | hb
    · exact .nil
    · exact (hfields h.ofFields).2 b hb
  items_nil _ := ⟨rfl, by simp [branchesOfItems]⟩
  items_cons := by
    intro v w vs ws hv hvs h
    rw [nodesOfItems] at h
    obtain ⟨hw, hnests⟩ := hv fun n hn => h n (List.mem_append_left _ hn)
    obtain ⟨hws, hnests'⟩ := hvs fun n hn => h n (List.mem_append_right _ hn)
    -- a value with the outline of a node is not null, so no item is dropped
    rw [isNull_of_outline_eq hw, isNull_and_isNode, if_neg Bool.false_ne_true]
    refine ⟨by rw [outlineItems, outlineItems, hw, hws], fun b hb => ?_⟩
    rw [branchesOfItems] at hb
    rcases List.mem_append.mp hb with hb | hb
    · exact hnests b hb
    · exact hnests' b hb
  fields_nil _ := ⟨rfl, by simp [branchesOfFields]⟩
  fields_cons := by
    intro k v w fs gs hv hfs h
    rw [nodesOfFields] at h
    obtain ⟨hw, hnests⟩ := hv fun n hn => h n (List.mem_append_left _ hn)
    obtain ⟨hgs, hnests'⟩ := hfs fun n hn => h n (List.mem_append_right _ hn)
    refine ⟨?_, fun b hb => ?_⟩
    · rw [outlineFields_cons, outlineFields_cons, hw, hgs]
    · rw [branchesOfFields] at hb
      rcases List.mem_append.mp hb with hb | hb
      · exact hnests b hb
      · exact hnests' b hb

/-! ### Replacements -/

/-- What may take the place of a block: a node whose branches nest. -/
def Fits (seen : List String) (room : Nat) (w : Json) : Prop :=
  outline w = .obj [] ∧ NestsIn seen room w

theorem nodesOfItems_texts (ts : List String) : nodesOfItems (ts.map .str) = [] := by
  induction ts with
  | nil => rfl
  | cons t ts ih => simp only [List.map_cons, nodesOfItems, nodes, ih, List.append_nil]

theorem nodes_attr_ofClasses (names : List String) :
    nodes (Attr.ofClasses names).toJson = [] := by
  simp [Attr.ofClasses, Attr.toJson, nodes, nodesOfItems, nodesOfItems_texts]

/-- A node without nodes inside it is its only node. -/
theorem nodes_of_flat {tag : String} {content : Json} (h : nodes content = []) :
    nodes (Node.of tag content) = [Node.of tag content] := by
  have hfields : nodesOfFields [("t", .str tag), ("c", content)] = [] := by
    simp only [nodesOfFields, nodes, h, List.append_nil]
  unfold Node.of Node.make
  rw [nodes_obj_of_isNode rfl, hfields, List.nil_append]

theorem isIncluded_of_ne {tag : String} {content : Json} (htag : tag ≠ "Div") :
    isIncluded (Node.of tag content) = false := by
  have hne : (some tag == some "Div") = false := by simpa using htag
  rw [isIncluded, Bool.and_eq_false_imp]
  intro hdiv
  exact absurd (hne.symm.trans hdiv) Bool.false_ne_true

theorem fits_of_flat {tag : String} {content : Json} (h : nodes content = []) (htag : tag ≠ "Div")
    (seen : List String) (room : Nat) : Fits seen room (Node.of tag content) := by
  refine ⟨rfl, nestsIn_of_unmarked ?_ seen room⟩
  intro n hn
  rw [nodes_of_flat h, List.mem_singleton] at hn
  rw [hn, isIncluded_of_ne htag]

theorem fits_errorBlock (requested message : String) (seen : List String) (room : Nat) :
    Fits seen room (errorBlock requested message) := by
  refine fits_of_flat ?_ (by decide) seen room
  simp [nodes, nodesOfItems, nodes_attr_ofClasses]

theorem fits_codeOf (b : CodeBlock) (content : String) (seen : List String) (room : Nat) :
    Fits seen room (codeOf b content) := by
  refine fits_of_flat ?_ (by decide) seen room
  simp [nodes, nodesOfItems, nodes_attr_ofClasses]

theorem fits_rawOf (b : CodeBlock) (content : String) (seen : List String) (room : Nat) :
    Fits seen room (rawOf b content) := by
  refine fits_of_flat ?_ (by decide) seen room
  simp [nodes, nodesOfItems]

/-- The div for a file fits where the file is not being included, with room for one more level than
its content needs. -/
theorem fits_included {path : String} {items : List Json} {seen : List String} {room : Nat}
    (hnew : path ∉ seen) (h : NestsIn (seen ++ [path]) room (.arr items)) {w : Json}
    (hw : included path (.arr items) = .ok w) : Fits seen (room + 1) w := by
  cases hw
  refine ⟨rfl, fun b hb => ?_⟩
  unfold Node.div Node.of Node.make at hb
  rw [branches_obj_of_isNode rfl] at hb
  have hcons (rest : List Json) (hrest : Nests (seen ++ [path]) room rest) :
      Nests seen (room + 1) (Node.div items ⟨"", [.str "included"], [("source", path)]⟩ :: rest) :=
    .cons_included rfl rfl hnew hrest
  rcases List.mem_cons.mp hb with rfl | hb
  · exact hcons [] .nil
  · obtain ⟨rest, hrest, rfl⟩ := List.mem_map.mp hb
    refine hcons rest ?_
    have hinside : rest = [] ∨ rest ∈ branches (.arr items) := by
      simpa [branchesOfFields, branchesOfItems, branches, Attr.toJson] using hrest
    rcases hinside with rfl | hrest
    · exact .nil
    · exact h rest hrest

/-! ### Expansion -/

/-- A converter whose results are lists of blocks without included divs. -/
def ConvertsUnmarked (convert : Converter) : Prop :=
  ∀ text w v, ((convert text).run w).1 = .ok v → ∃ items, v = .arr items ∧ Unmarked v

theorem fileBlocks_unmarked {convert : Converter} (h : ConvertsUnmarked convert)
    (path content : String) :
    (keeping fun _ => True).Holds (fileBlocks convert path content)
      fun r => ∀ v, r = .ok v → ∃ items, v = .arr items ∧ Unmarked v := by
  intro w _
  rw [run_fileBlocks]
  refine ⟨trivial, fun r hr v hv => ?_⟩
  subst hv
  cases hout : ((convert content).run w).1 with
  | ok blocks =>
    rw [hout] at hr
    cases hr
    exact h content w v hout
  | error failure =>
    simp only [hout] at hr
    split at hr <;> cases hr

theorem report_fits (requested : String) (problem : Problem) (seen : List String) (room : Nat) :
    (keeping fun _ => True).Holds (Problem.report requested problem) (Fits seen room) := by
  intro w _
  rw [run_report]
  refine ⟨trivial, ?_⟩
  rintro a ⟨⟩
  exact fits_errorBlock requested problem.message seen room

theorem expandWithin_nests {convert : Converter} (hconvert : ConvertsUnmarked convert)
    (levels : Nat) (v : Json) (c : Context) (hv : Unmarked v) :
    (keeping fun _ => True).Holds (expandWithin convert levels v c)
      fun w => outline w = outline v ∧ NestsIn c.stack levels w := by
  let L := keeping (ε := Failure) (τ := World) fun _ => True
  induction levels generalizing v c with
  | zero =>
    exact L.bind (fun _ _ => ⟨trivial, fun _ _ => trivial⟩)
      fun _ _ => L.pure ⟨rfl, nestsIn_of_unmarked hv c.stack 0⟩
  | succ levels ih =>
    have hparts (b : CodeBlock) : PassParts L fileText convert (expandWithin convert levels) b c
        (fun _ => True)
        (fun v => ∃ items, v = .arr items ∧ Unmarked v)
        (fun path w => ∃ items, w = .arr items ∧ NestsIn (c.stack ++ [path]) levels w)
        (Fits c.stack (levels + 1)) :=
      { cwd := fun _ _ => ⟨trivial, fun _ _ => trivial⟩
        debug := fun _ _ _ => ⟨trivial, fun _ _ => trivial⟩
        report := fun requested problem => report_fits requested problem c.stack (levels + 1)
        load := fun _ _ _ _ => ⟨trivial, fun _ _ _ _ => trivial⟩
        blocks := fileBlocks_unmarked hconvert
        expand := by
          rintro path v ha - ⟨items, rfl, hitems⟩ w hw
          refine ⟨trivial, fun r hr => ?_⟩
          -- the blocks of the file are still a list after expansion, as their outline says
          obtain ⟨houtline, hnests⟩ := (ih (.arr items) (c.descend path) hitems w hw).2 r hr
          cases r with
          | arr rs => exact ⟨rs, rfl, hnests⟩
          | _ => cases houtline
        included := by
          rintro path w ha ⟨items, rfl, hnests⟩
          exact keeping_ofExcept fun r hr => fits_included ha.not_mem hnests hr
        code := fun content => fits_codeOf b content c.stack (levels + 1)
        raw := fun content => fits_rawOf b content c.stack (levels + 1) }
    have hwalk : L.Holds (pass fileText convert (expandWithin convert levels) v c)
        fun w => Unmarked v → outline w = outline v ∧ NestsIn c.stack (levels + 1) w := by
      refine L.walk (rebuilding_nests c.stack (levels + 1)) (fun fs gs hfields hnode => ?_) v
      split
      · intro w hw
        exact ⟨trivial, fun r hr _ => ((hparts _).replacement w hw).2 r hr⟩
      · refine L.pure fun h => ?_
        obtain ⟨houtline, hnests⟩ := hfields h.ofFields
        exact ⟨rfl, nestsIn_node h houtline hnode hnests⟩
    intro w hw
    exact ⟨trivial, fun r hr => (hwalk w hw).2 r hr hv⟩

/-- The invariant of an expansion, and what follows from it. In every context in which something is
expanded or opened, the files being included are different canonical paths, as many as levels above
and one more for a source. A file that is being included is never opened, and so neither is the
source. If neither the document nor what the converter returns holds an included div, the included
divs on each branch of the result are of different files, and no more than the limit allows. -/
theorem includes_are_acyclic (s : Settings) (doc : Json) (w : World)
    (hcwd : Path.isAbsolute w.cwd = true) (hlimit : 0 ≤ s.limit.levels) :
    (s.watched doc).run (w, []) =
        (((s.applyTo doc).run w).1, ((s.applyTo doc).run w).2, s.events doc w) ∧
      (∀ v c, .expands v c ∈ s.events doc w →
        ∃ source, s.sourcePath w.cwd = .ok source ∧ c.Sound s.limit source) ∧
      (∀ path c, .opens path c ∈ s.events doc w → path ∉ c.stack ∧
        ∃ source, s.sourcePath w.cwd = .ok source ∧ c.Sound s.limit source ∧
          source ≠ some path) ∧
      (OpensNothing s.convert → ∀ path ∈ ((s.applyTo doc).run w).2.opened,
        path ∈ w.opened ∨ ∃ c, .opens path c ∈ s.events doc w) ∧
      (Unmarked doc → ConvertsUnmarked s.convert →
        ∀ result, ((s.applyTo doc).run w).1 = .ok result → ∀ branch ∈ branches result,
          (sources branch).Nodup ∧ ((sources branch).length : Int) ≤ s.limit.levels) := by
  have hevents : ∀ e ∈ s.events doc w, e.Within fun c =>
      ∃ source, s.sourcePath w.cwd = .ok source ∧ c.Sound s.limit source := by
    have hpreserved : Preserved s.convert (fun _ => True) fun _ => True :=
      ⟨fun _ _ _ => trivial, fun _ _ _ => trivial, fun _ _ _ _ _ => trivial, fun _ _ _ => trivial⟩
    refine Settings.events_within doc hpreserved trivial ?_ ?_
    · intro c hc
      obtain ⟨source, base, hsource, -⟩ := Settings.contextIn_eq_ok hc
      exact ⟨source, hsource, .start hc hsource hcwd hlimit⟩
    · rintro c b path ⟨source, hsource, hc⟩ hroom ha -
      exact ⟨source, hsource,
        hc.descend hroom ha.not_mem (ha.isCanonical hc.baseDir_isAbsolute)⟩
  refine ⟨s.run_watched doc w, fun v c he => hevents _ he, ?_,
    fun hopens => Settings.opened_noted hopens doc w, ?_⟩
  · intro path c he
    obtain ⟨⟨source, hsource, hc⟩, b, ha⟩ := hevents _ he
    exact ⟨ha.not_mem, source, hsource, hc, fun hs => ha.not_mem (hc.source_mem hs)⟩
  · intro hdoc hconvert result hresult branch hbranch
    cases hc : s.contextIn w.cwd with
    | error failure =>
      rw [Settings.run_applyTo_of_error doc hc] at hresult
      cases hresult
    | ok c =>
      rw [Settings.run_applyTo_of_ok doc hc] at hresult
      obtain ⟨source, base, -, rfl⟩ := Settings.contextIn_eq_ok hc
      have hnests := (expandWithin_nests hconvert _ doc _ hdoc w trivial).2 result hresult
      have hbranch := hnests.2 branch hbranch
      have hlength := hbranch.length_le
      refine ⟨hbranch.nodup, ?_⟩
      unfold Context.remaining at hlength
      dsimp only at hlength
      omega

/-! ### Two files that include each other -/

def includeOf (path : String) : Json := CodeBlock.toNode ⟨path, Attr.ofClasses ["include"]⟩

/-- Settings for a source `/w/m`, with a converter that takes each text for the name of a file. -/
def namingSettings : Settings where
  baseDir := .null
  source := .str "/w/m"
  limit := ⟨3, "3"⟩
  convert := fun text => pure (.arr [includeOf text])

/-- A world with two files, each of which names the other. -/
def mutualWorld : World :=
  .initial ⟨[(["w"], .directory), (["w", "a"], .file [98]), (["w", "b"], .file [97])]⟩ "/w"

theorem convertsUnmarked_naming : ConvertsUnmarked namingSettings.convert := by
  intro text w v hv
  cases hv
  refine ⟨_, rfl, fun n hn => ?_⟩
  have hflat : nodes (.arr [(Attr.ofClasses ["include"]).toJson, .str text]) = [] := by
    simp [nodes, nodesOfItems, nodes_attr_ofClasses]
  have hn : n = includeOf text := by
    simpa [nodes, nodesOfItems, includeOf, CodeBlock.toNode, nodes_of_flat hflat] using hn
  rw [hn]
  exact isIncluded_of_ne (by decide)

theorem includes_are_acyclic_for_mutual_files :
    Path.isAbsolute mutualWorld.cwd = true ∧ 0 ≤ namingSettings.limit.levels ∧
      Unmarked (.arr [includeOf "a"]) ∧ ConvertsUnmarked namingSettings.convert ∧
      ∃ result, ((namingSettings.applyTo (.arr [includeOf "a"])).run mutualWorld).1 = .ok result ∧
        [some "/w/a", some "/w/b"] ∈ (branches result).map sources ∧
        ∀ branch ∈ branches result, (sources branch).Nodup ∧ ((sources branch).length : Int) ≤ 3 := by
  have hunmarked : Unmarked (.arr [includeOf "a"]) := by
    unfold Unmarked
    decide +kernel
  have hlimit : 0 ≤ namingSettings.limit.levels := by decide
  obtain ⟨-, -, -, -, hnests⟩ :=
    includes_are_acyclic namingSettings (.arr [includeOf "a"]) mutualWorld rfl hlimit
  have hsources : (((namingSettings.applyTo (.arr [includeOf "a"])).run mutualWorld).1.toOption.any
      fun result => (branches result).any fun b => sources b == [some "/w/a", some "/w/b"]) := by
    decide +kernel
  refine ⟨rfl, hlimit, hunmarked, convertsUnmarked_naming, ?_⟩
  cases hrun : ((namingSettings.applyTo (.arr [includeOf "a"])).run mutualWorld).1 with
  | error failure =>
    rw [hrun] at hsources
    cases hsources
  | ok result =>
    rw [hrun] at hsources
    obtain ⟨branch, hbranch, hb⟩ := List.any_eq_true.mp hsources
    refine ⟨result, rfl, List.mem_map.mpr ⟨branch, hbranch, beq_iff_eq.mp hb⟩, ?_⟩
    exact hnests hunmarked convertsUnmarked_naming result hrun

end DocFilter.Include
