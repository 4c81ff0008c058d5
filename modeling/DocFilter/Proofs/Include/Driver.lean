import DocFilter.Proofs.Filter.Builtin
import DocFilter.Proofs.Include.Failures
import DocFilter.Proofs.Include.Limit

/-!
# Two ways to run the filter

The filter of files expands a document in one context. It is also a block filter like any other,
which rewrites each block as if it stood at the top of a document; then the context is made anew for
every block. Both ways see the same contexts as long as nothing changes the working directory, but
only the first one asks whether the limit allows any level. So they give the same result, unless the
limit is nothing and there is a block to include.
-/

namespace DocFilter.Include

/-- The settings as a filter that sweeps a document block by block. -/
def Settings.driver (s : Settings) : Filter := .ofBlocks s.blockFilter

/-! ### The same context for every block -/

def KeepsDirectory (convert : Converter) : Prop :=
  ∀ text w, ((convert text).run w).2.cwd = w.cwd

/-- In a working directory, two computations go the same way and stay there. -/
def sweepingIn (cwd : String) : Simulation (Act Unit) Run where
  Rel x y := ∀ w, w.cwd = cwd →
    (merged x).run ((), w) = ((y.run w).1, ((), (y.run w).2)) ∧ (y.run w).2.cwd = cwd
  pure a := fun w hw => ⟨rfl, hw⟩
  bind := by
    intro α β x y f g hx hf w hw
    obtain ⟨hrun, hcwd⟩ := hx w hw
    rw [merged_bind, run_bind, run_bind, hrun]
    cases (y.run w).1 with
    | error failure => exact ⟨rfl, hcwd⟩
    | ok a => exact hf a _ hcwd

theorem regime_cwd (cwd : String) : Regime (·.cwd = cwd) fun _ => True where
  log r hw := (World.cwd_log _ r).trans hw
  same h hw := h.cwd_eq.trans hw
  held _ _ := trivial

theorem keepsDirectory_functional (f : String → Except Failure Json) :
    KeepsDirectory (functional f) := by
  intro text w
  rw [run_functional]

theorem keepsDirectory_pandoc (p : Pandoc) : KeepsDirectory p.blocks := fun text w =>
  (During.cases (Pandoc.during_blocks (regime_cwd w.cwd) p text) rfl).1

theorem cwd_replacement {convert : Converter} (h : KeepsDirectory convert) (b : CodeBlock)
    (c : Context) (w : World) :
    ((replacement fileText convert (expand convert) b c).run w).2.cwd = w.cwd := by
  have hconvert (content : String) :
      (during (·.cwd = w.cwd) fun _ => True).Holds (convert content) fun _ => True :=
    During.of_cases fun u hu => ⟨(h content u).trans hu, by simp, by simp⟩
  have hparts := during_passParts (regime_cwd w.cwd) hconvert
    (fun v c => during_expandWithin (regime_cwd w.cwd) hconvert c.remaining v c) b c
  exact (During.cases hparts.replacement rfl).1

/-- The filter that rewrites single blocks takes up the same nodes. -/
theorem block?_blockFilter (s : Settings) (n : Json) : s.blockFilter.block? n = accepts n := by
  unfold BlockFilter.block? accepts
  cases CodeBlock.ofNode? n with
  | none => rfl
  | some b => rw [Option.filter_some]; rfl

section Sweep
variable {s : Settings} {w : World} {c : Context}

theorem sweepingIn_visit (hconvert : KeepsDirectory s.convert) {cwd : String}
    (hc : s.contextIn cwd = .ok c) (n : Json) :
    (sweepingIn cwd).Rel (s.blockFilter.visit n) (visit s.convert c n) := by
  unfold visit
  cases hn : accepts n with
  | none =>
    rw [BlockFilter.visit_of_no_block (by rw [block?_blockFilter, hn])]
    exact (sweepingIn cwd).pure n
  | some b =>
    rw [BlockFilter.visit_of_block (by rw [block?_blockFilter, hn])]
    intro w hw
    have hroot : (merged (liftM s.rootContext : Act Unit Context)).run ((), w) =
        (.ok c, ((), w)) :=
      run_merged_lift (by rw [s.run_rootContext, hw, hc])
    refine ⟨?_, (cwd_replacement hconvert b c w).trans hw⟩
    change (merged (liftM s.rootContext >>= fun c =>
      liftM (replacement fileText s.convert (expand s.convert) b c))).run ((), w) = _
    rw [merged_bind, run_bind_of_ok hroot]
    exact run_merged_lift (Prod.eta _).symm

/-- The driver makes one pass with the context that a document starts in, whatever the limit is. -/
theorem run_driver (hconvert : KeepsDirectory s.convert) (hc : s.contextIn w.cwd = .ok c)
    (doc : Json) : (s.driver.apply doc).run w = (walk (visit s.convert c) doc).run w := by
  have hsweep := (sweepingIn w.cwd).walk (sweepingIn_visit hconvert hc) doc w rfl
  have hrun : (merged (s.blockFilter.sweep doc)).run ((), w) = _ := hsweep.1
  refine (run_ofExcept_startingAt (s.blockFilter.sweep doc) () w).trans ?_
  rw [hrun]
  rfl

theorem isExhausted_start (hc : s.contextIn w.cwd = .ok c) :
    c.isExhausted = decide (s.limit.levels ≤ 0) := by
  obtain ⟨source, base, -, rfl⟩ := Settings.contextIn_eq_ok hc
  rfl

/-- With a level to expand, the filter makes the same pass. -/
theorem run_applyTo_of_levels (hc : s.contextIn w.cwd = .ok c) (hlevels : 0 < s.limit.levels)
    (doc : Json) : (s.applyTo doc).run w = (walk (visit s.convert c) doc).run w := by
  have hroom : c.isExhausted = false := by
    rw [isExhausted_start hc, decide_eq_false_iff_not]
    omega
  have hexpand := expand_eq s.convert doc c
  rw [hroom, if_neg Bool.false_ne_true] at hexpand
  rw [Settings.run_applyTo_of_ok doc hc]
  exact congrArg (·.run w) hexpand

/-- Without a level to expand, the filter leaves the document alone. -/
theorem applyTo_of_no_levels (hc : s.contextIn w.cwd = .ok c) (hlevels : s.limit.levels ≤ 0)
    (doc : Json) : ((s.applyTo doc).run w).1 = .ok doc := by
  have hfull : c.isExhausted = true := by rw [isExhausted_start hc, decide_eq_true hlevels]
  rw [Settings.run_applyTo_of_ok doc hc, Context.remaining_eq_zero.mpr hfull]
  rfl

end Sweep

/-! ### What a pass leaves as it is -/

/-- What may take the place of a block: a node that does not ask for a file as the block does, if it
is a code block at all. -/
def Supplants (b : CodeBlock) (w : Json) : Prop :=
  ∃ tag content, w = Node.of tag content ∧
    (tag = "CodeBlock" → nodes content = [] ∧ accepts w ≠ some b)

theorem accepts_codeBlock (text : String) (names : List String) :
    accepts (Node.codeBlock (.str text) (Attr.ofClasses names)) =
      if (Attr.ofClasses names).hasAnyClass ["include"] then some ⟨text, Attr.ofClasses names⟩
      else none := rfl

theorem supplants_errorBlock (b : CodeBlock) (requested message : String) :
    Supplants b (errorBlock requested message) := by
  refine ⟨"CodeBlock", _, rfl, fun _ => ⟨?_, ?_⟩⟩
  · simp [nodes, nodesOfItems, nodes_attr_ofClasses]
  · have hnone : accepts (errorBlock requested message) = none := accepts_codeBlock _ _
    simp [hnone]

/-- A file shown as code may be marked as a block to include, but such a block names no language. -/
theorem supplants_codeOf (b : CodeBlock) (content : String) : Supplants b (codeOf b content) := by
  refine ⟨"CodeBlock", _, rfl, fun _ => ⟨?_, fun hagain => ?_⟩⟩
  · simp [nodes, nodesOfItems, nodes_attr_ofClasses]
  · have hb : b.attr.given? "lang" = none := by
      unfold codeOf at hagain
      rw [accepts_codeBlock, Option.ite_none_right_eq_some] at hagain
      rw [← Option.some.inj hagain.2]
      rfl
    rw [codeOf, hb, accepts_codeBlock] at hagain
    cases hagain

theorem accepts_of_ne {tag : String} (htag : tag ≠ "CodeBlock") (content : Json) :
    accepts (Node.of tag content) = none := by
  have hne : (some tag == some "CodeBlock") = false := by simpa using htag
  have hcode : CodeBlock.ofNode? (Node.of tag content) = none := by
    rw [CodeBlock.ofNode?, if_neg]
    intro htagged
    exact absurd (hne.symm.trans htagged) Bool.false_ne_true
  rw [accepts, hcode]

theorem supplants_of_ne {tag : String} (htag : tag ≠ "CodeBlock") (b : CodeBlock)
    (content : Json) : Supplants b (Node.of tag content) :=
  ⟨tag, content, rfl, fun h => absurd h htag⟩

/-- Statements about what runs from any world return. -/
abbrev returning : Logic Run := keeping fun _ => True

theorem returning_trivial {α : Type} (x : Run α) : returning.Holds x fun _ => True :=
  fun _ _ => ⟨trivial, fun _ _ => trivial⟩

theorem supplants_replacement (convert : Converter) (b : CodeBlock) (c : Context) :
    returning.Holds (replacement fileText convert (expand convert) b c) (Supplants b) := by
  have hparts : PassParts returning fileText convert (expand convert) b c (fun _ => True)
      (fun _ => True) (fun _ _ => True) (Supplants b) :=
    { cwd := returning_trivial _
      debug := fun _ => returning_trivial _
      report := by
        intro requested problem w _
        rw [show liftM (problem.report requested) = problem.report requested from rfl, run_report]
        refine ⟨trivial, ?_⟩
        rintro a ⟨⟩
        exact supplants_errorBlock b requested problem.message
      load := fun _ _ _ _ => ⟨trivial, fun _ _ _ _ => trivial⟩
      blocks := fun _ _ _ _ => ⟨trivial, fun _ _ _ _ => trivial⟩
      expand := fun _ _ _ _ _ => returning_trivial _
      included := by
        intro path v _ _
        refine keeping_ofExcept fun a ha => ?_
        unfold included at ha
        split at ha
        · cases ha
          exact supplants_of_ne (by decide) b _
        · cases ha
      code := supplants_codeOf b
      raw := fun content => supplants_of_ne (by decide) b _ }
  exact hparts.replacement

/-- Two values of which the second came of the first by a pass: without nodes it is the same, and if
it is the same, there was no block to include. -/
structure Passed (v w : Json) : Prop where
  eq_of_no_nodes : nodes v = [] → w = v
  none_of_eq : w = v → ∀ n ∈ nodes v, accepts n = none

/-- The same of lists of items, which only become shorter. -/
structure PassedItems (vs ws : List Json) : Prop where
  length_le : ws.length ≤ vs.length
  eq_of_no_nodes : nodesOfItems vs = [] → ws = vs
  none_of_eq : ws = vs → ∀ n ∈ nodesOfItems vs, accepts n = none

/-- The same of fields, which keep their keys. -/
abbrev PassedFields : Fields → Fields → Prop :=
  List.Forall₂ fun f g => f.1 = g.1 ∧ Passed f.2 g.2

namespace PassedFields
variable {fs gs : Fields}

theorem keys_eq (h : PassedFields fs gs) : Dictionary.keys fs = Dictionary.keys gs := by
  induction h with
  | nil => rfl
  | cons hfield _ ih => exact congrArg₂ List.cons hfield.1 ih

theorem eq_of_no_nodes (h : PassedFields fs gs) (hnodes : nodesOfFields fs = []) : gs = fs := by
  induction h with
  | nil => rfl
  | @cons f g fs gs hfield _ ih =>
    obtain ⟨hv, hfs⟩ := List.append_eq_nil_iff.mp hnodes
    rw [ih hfs, Prod.ext hfield.1.symm (hfield.2.eq_of_no_nodes hv)]

theorem none_of_eq (h : PassedFields fs gs) (heq : gs = fs) :
    ∀ n ∈ nodesOfFields fs, accepts n = none := by
  induction h with
  | nil => exact fun n hn => nomatch hn
  | @cons f g fs gs hfield _ ih =>
    obtain ⟨hv, hfs⟩ := List.cons.inj heq
    intro n hn
    rcases List.mem_append.mp hn with hn | hn
    · exact hfield.2.none_of_eq (congrArg Prod.snd hv) n hn
    · exact ih hfs n hn

end PassedFields

theorem rebuilding_passed : Rebuilding Passed PassedItems PassedFields where
  leaf v harr hobj := by
    have hnone : nodes v = [] := by
      rw [nodes] <;> simp_all
    exact ⟨fun _ => rfl, fun _ n hn => by rw [hnone] at hn; cases hn⟩
  arr h := by
    constructor
    · intro hnodes
      rw [h.eq_of_no_nodes (by simpa only [nodes] using hnodes)]
    · intro heq n hn
      exact h.none_of_eq (Json.arr.inj heq) n (by simpa only [nodes] using hn)
  obj := by
    intro fs gs h hn
    have hfs : (Json.obj fs).isNode = false := by rw [isNode_eq_of_keys_eq h.keys_eq, hn]
    constructor
    · intro hnodes
      rw [nodes_obj_of_not_isNode hfs] at hnodes
      rw [h.eq_of_no_nodes hnodes]
    · intro heq
      rw [nodes_obj_of_not_isNode hfs]
      exact h.none_of_eq (Json.obj.inj heq)
  items_nil := ⟨le_rfl, fun _ => rfl, fun _ n hn => nomatch hn⟩
  items_cons := by
    intro v w vs ws hv hvs
    have hle := hvs.length_le
    constructor
    · split <;> simp <;> omega
    · intro hnodes
      obtain ⟨hnone, hrest⟩ := List.append_eq_nil_iff.mp hnodes
      rw [hv.eq_of_no_nodes hnone, hvs.eq_of_no_nodes hrest, isNull_and_isNode,
        if_neg Bool.false_ne_true]
    · intro heq n hn
      -- an item that was dropped would be missing
      split at heq
      · rw [heq, List.length_cons] at hle
        omega
      · obtain ⟨hw, hws⟩ := List.cons.inj heq
        rcases List.mem_append.mp hn with hn | hn
        · exact hv.none_of_eq hw n hn
        · exact hvs.none_of_eq hws n hn
  fields_nil := .nil
  fields_cons hv hfs := .cons ⟨rfl, hv⟩ hfs

/-- What supplants a block is never what the block was made of. -/
theorem PassedFields.ne_of_supplants {fs gs : Fields} (h : PassedFields fs gs) {b : CodeBlock}
    (hb : accepts (.obj gs) = some b) {w : Json} (hw : Supplants b w) : w ≠ .obj fs := by
  rintro rfl
  obtain ⟨tag, content, hfs, hcode⟩ := hw
  obtain rfl : fs = [("t", .str tag), ("c", content)] := Json.obj.inj hfs
  -- the pass has kept both keys and the tag
  rcases h with _ | ⟨⟨hkey, htag⟩, _ | ⟨⟨hkey', hcontent⟩, _ | _⟩⟩
  rename_i t c
  obtain rfl : t = ("t", .str tag) := Prod.ext hkey.symm (htag.eq_of_no_nodes (by simp [nodes]))
  obtain ⟨key, content'⟩ := c
  obtain rfl : "c" = key := hkey'
  by_cases hcase : tag = "CodeBlock"
  · obtain ⟨hflat, hother⟩ := hcode hcase
    obtain rfl : content' = content := hcontent.eq_of_no_nodes hflat
    exact hother hb
  · have hnone : accepts (Node.of tag content') = none := accepts_of_ne hcase content'
    cases hnone.symm.trans hb

theorem passed_walk (convert : Converter) (c : Context) (v : Json) :
    returning.Holds (walk (visit convert c) v) (Passed v) := by
  refine returning.walk rebuilding_passed (fun fs gs hpassed hn => ?_) v
  have hfs : (Json.obj fs).isNode = true := by rw [isNode_eq_of_keys_eq hpassed.keys_eq, hn]
  have hnodes : nodes (.obj fs) = nodesOfFields fs ++ [.obj fs] := nodes_obj_of_isNode hfs
  unfold visit
  cases hb : accepts (.obj gs) with
  | none =>
    refine returning.pure ⟨fun hnone => ?_, fun heq n hmem => ?_⟩
    · simp [hnodes] at hnone
    · rw [hnodes] at hmem
      rcases List.mem_append.mp hmem with hmem | hmem
      · exact hpassed.none_of_eq (Json.obj.inj heq) n hmem
      · rw [List.mem_singleton.mp hmem, ← heq, hb]
  | some b =>
    intro w hw
    obtain ⟨-, hsupplants⟩ := supplants_replacement convert b c w hw
    refine ⟨trivial, fun a ha => ⟨fun hnone => ?_, fun heq => ?_⟩⟩
    · simp [hnodes] at hnone
    · exact absurd heq (hpassed.ne_of_supplants hb (hsupplants a ha))

/-- A pass leaves a value as it is exactly if there is no block to include in it. -/
theorem walk_visit_eq_self_iff (convert : Converter) (c : Context) (v : Json) (w : World) :
    ((walk (visit convert c) v).run w).1 = .ok v ↔ ∀ n ∈ nodes v, accepts n = none := by
  constructor
  · intro hout
    exact ((passed_walk convert c v w trivial).2 v hout).none_of_eq rfl
  · intro hnone
    rw [walk_eq_pure v fun n hn => by rw [visit, hnone n hn]]
    rfl

/-! ### Both ways -/

/-- With paths for options and a converter that stays in the working directory, the filter and its
driver go the same way if there is a level to expand. Without one, the filter leaves every document
alone. So they give the same result exactly if there is a level to expand or nothing to include. -/
theorem driver_agrees_unless_exhausted (s : Settings) (hbase : IsPathOption s.baseDir)
    (hsource : IsPathOption s.source) (hconvert : KeepsDirectory s.convert) (doc : Json)
    (w : World) :
    (0 < s.limit.levels → (s.driver.apply doc).run w = (s.applyTo doc).run w) ∧
      (s.limit.levels ≤ 0 → ((s.applyTo doc).run w).1 = .ok doc) ∧
      (((s.driver.apply doc).run w).1 = ((s.applyTo doc).run w).1 ↔
        0 < s.limit.levels ∨ ∀ n ∈ nodes doc, accepts n = none) := by
  obtain ⟨c, hc⟩ := Settings.contextIn_isOk hbase hsource w.cwd
  have hdriver := run_driver hconvert hc doc
  have hpass (hlevels : 0 < s.limit.levels) :
      (s.driver.apply doc).run w = (s.applyTo doc).run w :=
    hdriver.trans (run_applyTo_of_levels hc hlevels doc).symm
  refine ⟨hpass, fun hlevels => applyTo_of_no_levels hc hlevels doc, ?_⟩
  rcases lt_or_ge 0 s.limit.levels with hlevels | hlevels
  · rw [hpass hlevels]
    exact iff_of_true rfl (.inl hlevels)
  · rw [hdriver, applyTo_of_no_levels hc hlevels doc, walk_visit_eq_self_iff]
    constructor
    · exact .inr
    · rintro (hroom | hnone)
      · omega
      · exact hnone

theorem driver_agrees_for_mutual_files :
    IsPathOption namingSettings.baseDir ∧ IsPathOption namingSettings.source ∧
      KeepsDirectory namingSettings.convert ∧ 0 < namingSettings.limit.levels ∧
      (namingSettings.driver.apply (.arr [includeOf "a"])).run mutualWorld =
        (namingSettings.applyTo (.arr [includeOf "a"])).run mutualWorld := by
  have hbase : IsPathOption namingSettings.baseDir := .inl rfl
  have hsource : IsPathOption namingSettings.source := .inr ⟨"/w/m", rfl⟩
  have hconvert : KeepsDirectory namingSettings.convert :=
    keepsDirectory_functional fun text => .ok (.arr [includeOf text])
  have hlevels : 0 < namingSettings.limit.levels := by decide
  obtain ⟨hsame, -, -⟩ := driver_agrees_unless_exhausted namingSettings hbase hsource hconvert
    (.arr [includeOf "a"]) mutualWorld
  exact ⟨hbase, hsource, hconvert, hlevels, hsame hlevels⟩

def exhaustedSettings : Settings := plainSettings.limited ⟨0, "0"⟩

def codeInclude : Json :=
  CodeBlock.toNode ⟨"f.txt", ⟨"", [.str "include"], [("mode", "code")]⟩⟩

def textWorld : World := .initial ⟨[(["f.txt"], .file (Utf8.encode "text"))]⟩ "/"

/-- Without a level to expand, the filter leaves a block alone that its driver replaces. -/
theorem exhausted_driver_includes :
    IsPathOption exhaustedSettings.baseDir ∧ IsPathOption exhaustedSettings.source ∧
      KeepsDirectory exhaustedSettings.convert ∧ 0 ≤ exhaustedSettings.limit.levels ∧
      ((exhaustedSettings.applyTo codeInclude).run textWorld).1 = .ok codeInclude ∧
      ((exhaustedSettings.driver.apply codeInclude).run textWorld).1 =
        .ok (Node.codeBlock (.str "text") .empty) :=
  ⟨.inl rfl, .inl rfl, keepsDirectory_pandoc _, by decide, rfl, rfl⟩

end DocFilter.Include
