import DocFilter.Proofs.Include.Limit
import DocFilter.Proofs.Include.Spelling
import DocFilter.Proofs.Observing

/-!
# Includes do not see each other

With a converter that is a function, the files decide how a run ends: it leaves them alone, and ends
the same way wherever it finds them. A list is therefore expanded item by item, each as if it were
expanded alone. What takes the place of a block is decided by the path and the manner of including
that it asks for: the base that led to the path is not passed on.
-/

namespace DocFilter

open World

/-! ### Runs that the files decide -/

/-- Wherever the files are those of a world, a run ends as it does there and leaves them alone. -/
def World.Decides {α : Type} (w : World) (x : Run α) : Prop :=
  ∀ u, Alike w u → u.outcome x = w.outcome x ∧ Alike w (x.run u).2

namespace World.Decides
variable {w : World} {α β : Type} {x : Run α} {f : α → Run β}

theorem outcome_eq (h : w.Decides x) {u : World} (hu : Alike w u) : u.outcome x = w.outcome x :=
  (h u hu).1

theorem pure (a : α) : w.Decides (Pure.pure a : Run α) := fun _ hu => ⟨rfl, hu⟩

theorem ofExcept (r : Except Failure α) : w.Decides (MonadExcept.ofExcept r : Run α) := by
  intro u hu
  rw [outcome_ofExcept, outcome_ofExcept, run_ofExcept]
  exact ⟨rfl, hu⟩

theorem exists_outcome_bind {u : World} {a : α} (hx : w.Decides x) (hu : Alike w u)
    (h : w.outcome x = .ok a) : ∃ v, Alike w v ∧ u.outcome (x >>= f) = v.outcome (f a) := by
  obtain ⟨hout, hleft⟩ := hx u hu
  refine ⟨(x.run u).2, hleft, ?_⟩
  rw [World.outcome, run_bind_of_ok (run_eq_of_outcome (hout.trans h))]
  rfl

/-- The second of two runs ends as it would without the first. -/
theorem outcome_bind_of_ok {u : World} {a : α} (hx : w.Decides x) (hf : w.Decides (f a))
    (hu : Alike w u) (h : w.outcome x = .ok a) : u.outcome (x >>= f) = w.outcome (f a) := by
  obtain ⟨v, hv, hout⟩ := hx.exists_outcome_bind hu h
  rw [hout, hf.outcome_eq hv]

theorem bind (hx : w.Decides x) (hf : ∀ a, w.outcome x = .ok a → w.Decides (f a)) :
    w.Decides (x >>= f) := by
  intro u hu
  have hw : Alike w w := alike_self hu.no_file
  obtain ⟨hout, hleft⟩ := hx u hu
  cases h : w.outcome x with
  | error failure =>
    rw [World.outcome_bind_of_error h, World.outcome_bind_of_error (hout.trans h),
      run_bind_of_error (run_eq_of_outcome (hout.trans h))]
    exact ⟨rfl, hleft⟩
  | ok a =>
    have hrun := run_eq_of_outcome (hout.trans h)
    constructor
    · rw [outcome_bind_of_ok hx (hf a h) hu h, outcome_bind_of_ok hx (hf a h) hw h]
    · rw [run_bind_of_ok hrun]
      exact (hf a h _ hleft).2

theorem outcome_bind (hx : w.Decides x) (hf : ∀ a, w.Decides (f a)) (hw : Alike w w) :
    w.outcome (x >>= f) = w.outcome x >>= fun a => w.outcome (f a) := by
  cases h : w.outcome x with
  | error failure => rw [World.outcome_bind_of_error h]; rfl
  | ok a => rw [outcome_bind_of_ok hx (hf a) hw h]; rfl

end World.Decides

/-- Statements about runs that the files of a world decide, and what they return there. -/
def World.deciding (w : World) : Logic Run where
  Holds x post := w.Decides x ∧ ∀ u, Alike w u → ∀ a, u.outcome x = .ok a → post a
  pure := by
    intro α a post ha
    refine ⟨.pure a, fun _ _ => ?_⟩
    rintro b ⟨⟩
    exact ha
  bind := by
    rintro α β x f mid post ⟨hx, hmid⟩ hf
    have hmid (u : World) (hu : Alike w u) (a : α) (ha : w.outcome x = .ok a) : mid a :=
      hmid u hu a ((hx.outcome_eq hu).trans ha)
    constructor
    · intro u hu
      exact hx.bind (fun a ha => (hf a (hmid u hu a ha)).1) u hu
    · intro u hu b hb
      cases h : w.outcome x with
      | error failure =>
        rw [World.outcome_bind_of_error ((hx.outcome_eq hu).trans h)] at hb
        cases hb
      | ok a =>
        obtain ⟨hdecides, hpost⟩ := hf a (hmid u hu a h)
        rw [hx.outcome_bind_of_ok hdecides hu h] at hb
        exact hpost w (alike_self hu.no_file) b hb

/-! ### Lists item by item -/

/-- What may take the place of a value: a node is not left out of its list. -/
def Remains (v r : Json) : Prop := v.isNode = true → r.isNull = false

theorem isNull_of_isNode (v : Json) : Remains v v := by
  intro hnode
  have hnull := isNull_and_isNode v
  rwa [hnode, Bool.and_true] at hnull

theorem rebuilding_remains : Rebuilding Remains (fun _ _ => True) fun _ _ => True where
  leaf v _ _ := isNull_of_isNode v
  arr _ _ := rfl
  obj _ _ _ := rfl
  items_nil := trivial
  items_cons _ _ := trivial
  fields_nil := trivial
  fields_cons _ _ := trivial

section Walks
variable {w : World} {action : Json → Run Json}

theorem deciding_walkItems (hwalk : ∀ v, w.deciding.Holds (walk action v) (Remains v))
    (vs : List Json) : w.Decides (walkItems action vs) := by
  induction vs with
  | nil =>
    rw [walkItems]
    exact .pure []
  | cons v vs ih =>
    rw [walkItems]
    exact (hwalk v).1.bind fun _ _ => ih.bind fun _ _ => .pure _

/-- If no node is left out, a list is walked item by item. -/
theorem outcome_walkItems (hw : Alike w w)
    (hwalk : ∀ v, w.deciding.Holds (walk action v) (Remains v)) (vs : List Json) :
    w.outcome (walkItems action vs) = vs.mapM fun v => w.outcome (walk action v) := by
  induction vs with
  | nil => rw [walkItems, List.mapM_nil]; rfl
  | cons v vs ih =>
    obtain ⟨hv, hremains⟩ := hwalk v
    have hvs := deciding_walkItems hwalk vs
    have hrest (a : Json) : w.outcome (do
        let ws ← walkItems action vs
        return if a.isNull && v.isNode then ws else a :: ws) =
        (w.outcome (walkItems action vs)).map fun ws =>
          if a.isNull && v.isNode then ws else a :: ws := by
      rw [hvs.outcome_bind (fun _ => .pure _) hw]
      cases w.outcome (walkItems action vs) <;> rfl
    rw [walkItems, hv.outcome_bind (fun _ => hvs.bind fun _ _ => .pure _) hw, List.mapM_cons, ← ih]
    cases ha : w.outcome (walk action v) with
    | error failure => rfl
    | ok a =>
      have hkept : (a.isNull && v.isNode) = false := by
        cases hnode : v.isNode with
        | false => exact Bool.and_false _
        | true => rw [hremains w hw a ha hnode]; rfl
      change w.outcome _ = _
      rw [hrest, hkept]
      cases w.outcome (walkItems action vs) <;> rfl

end Walks

namespace Include

/-! ### Expansions that the files decide -/

section Parts
variable {w : World}

theorem decides_cwd : w.Decides Run.cwd := fun _ hu => ⟨congrArg Except.ok hu.cwd_eq.symm, hu⟩

theorem decides_debug (text : String) : w.Decides (Run.debug logName text) :=
  fun _ hu => ⟨rfl, hu.log_right _⟩

theorem outcome_report (requested : String) (problem : Problem) (u : World) :
    u.outcome (problem.report requested) = .ok (errorBlock requested problem.message) := by
  rw [outcome, run_report]

theorem decides_report (requested : String) (problem : Problem) :
    w.Decides (problem.report requested) := by
  intro u hu
  rw [outcome_report, outcome_report, run_report]
  refine ⟨rfl, ?_⟩
  dsimp only
  split
  · exact hu.log_right _
  · exact hu

theorem decides_fileText (path : String) : w.Decides (fileText path) := by
  intro u hu
  rw [outcome, outcome, run_fileText, run_fileText, hu.textAt_eq]
  exact ⟨rfl, hu.readText_right path⟩

theorem decides_fileBlocks (f : String → Except Failure Json) (path content : String) :
    w.Decides (fileBlocks (functional f) path content) := by
  intro u hu
  rw [outcome, outcome, run_fileBlocks, run_fileBlocks, run_functional, run_functional]
  exact ⟨rfl, hu⟩

theorem deciding_of_decides {α : Type} {x : Run α} (h : w.Decides x) :
    w.deciding.Holds x fun _ => True := ⟨h, fun _ _ _ _ => trivial⟩

theorem deciding_parts (f : String → Except Failure Json) (b : CodeBlock) (c : Context)
    {expand : Json → Context → Run Json}
    (hexpand : ∀ v path, w.Decides (expand v (c.descend path))) :
    PassParts w.deciding fileText (functional f) expand b c (fun _ => True) (fun _ => True)
      (fun _ _ => True) fun r => r.isNull = false where
  cwd := deciding_of_decides decides_cwd
  debug text := deciding_of_decides (decides_debug text)
  report requested problem := by
    refine ⟨decides_report requested problem, fun u _ a ha => ?_⟩
    have ha : u.outcome (problem.report requested) = .ok a := ha
    rw [outcome_report] at ha
    cases ha
    rfl
  load path _ := ⟨decides_fileText path, fun _ _ _ _ _ _ => trivial⟩
  blocks path content := ⟨decides_fileBlocks f path content, fun _ _ _ _ _ _ => trivial⟩
  expand path v _ _ _ := deciding_of_decides (hexpand v path)
  included path v _ _ := by
    refine ⟨.ofExcept _, fun u _ a ha => ?_⟩
    have ha : u.outcome (MonadExcept.ofExcept (included path v)) = .ok a := ha
    rw [outcome_ofExcept, included] at ha
    split at ha <;> cases ha
    rfl
  code _ := rfl
  raw _ := rfl

theorem deciding_expandWithin (f : String → Except Failure Json) (levels : Nat) (v : Json)
    (c : Context) :
    w.deciding.Holds (expandWithin (functional f) levels v c) (Remains v) := by
  induction levels generalizing v c with
  | zero =>
    refine w.deciding.bind (deciding_of_decides (decides_debug _)) fun _ _ => ?_
    exact w.deciding.pure (isNull_of_isNode v)
  | succ levels ih =>
    have hparts (b : CodeBlock) := deciding_parts f b c fun v path => (ih v (c.descend path)).1
    refine w.deciding.walk rebuilding_remains (fun fs gs _ _ => ?_) v
    split
    · obtain ⟨hdecides, hkept⟩ := (hparts _).replacement
      exact ⟨hdecides, fun u hu a ha _ => hkept u hu a ha⟩
    · exact w.deciding.pure fun _ => rfl

theorem deciding_expand (f : String → Except Failure Json) (v : Json) (c : Context) :
    w.deciding.Holds (expand (functional f) v c) (Remains v) :=
  deciding_expandWithin f c.remaining v c

/-- What is expanded as a list is expanded item by item. -/
theorem outcome_expand_items (hw : Alike w w) (f : String → Except Failure Json)
    (items : List Json) (c : Context) :
    w.outcome (expand (functional f) (.arr items) c) =
      (items.mapM fun v => w.outcome (expand (functional f) v c)).map .arr := by
  cases hfull : c.isExhausted with
  | true =>
    have hleave (v : Json) : w.outcome (expand (functional f) v c) = pure v := by
      rw [expand_eq, hfull]
      rfl
    have hall : (items.mapM fun v => (pure v : Except Failure Json)) = pure (items.map id) :=
      List.mapM_pure
    simp only [hleave, hall, List.map_id]
    rfl
  | false =>
    have hpass (v : Json) : expand (functional f) v c =
        pass fileText (functional f) (expand (functional f)) v c := by
      rw [expand_eq, hfull, if_neg Bool.false_ne_true]
    have hwalk (v : Json) := deciding_expand (w := w) f v c
    simp only [hpass] at hwalk ⊢
    unfold pass at hwalk ⊢
    rw [walk, (deciding_walkItems hwalk items).outcome_bind (fun _ => .pure _) hw,
      outcome_walkItems hw hwalk]
    cases (items.mapM _ : Except Failure (List Json)) <;> rfl

theorem expand_items_eq_ok (hw : Alike w w) {f : String → Except Failure Json} {items : List Json}
    {c : Context} {result : Json}
    (h : w.outcome (expand (functional f) (.arr items) c) = .ok result) :
    ∃ results, result = .arr results ∧
      items.map (fun v => w.outcome (expand (functional f) v c)) = results.map .ok := by
  rw [outcome_expand_items hw] at h
  cases hitems : items.mapM fun v => w.outcome (expand (functional f) v c) with
  | error failure =>
    rw [hitems] at h
    cases h
  | ok results =>
    rw [hitems] at h
    cases h
    exact ⟨results, rfl, map_eq_of_mapM_eq_ok hitems⟩

end Parts

/-! ### Blocks that ask for the same -/

/-- What takes the place of a block, with a function for a converter. -/
def including (f : String → Except Failure Json) (b : CodeBlock) (c : Context) : Run Json :=
  replacement fileText (functional f) (expand (functional f)) b c

/-- In a world, two blocks that ask in different words are replaced alike: what is wrong with them
is the same, and is shown with the words of each. -/
def ShownAlike (requested requested' : String) (w : World) (x y : Run Json) : Prop :=
  w.outcome x = w.outcome y ∨
    ∃ message, w.outcome x = .ok (errorBlock requested message) ∧
      w.outcome y = .ok (errorBlock requested' message)

section Alternatives
variable {requested requested' : String} {w : World}

theorem ShownAlike.bind {α : Type} {x : Run α} {f g : α → Run Json}
    (h : ∀ a, w.outcome x = .ok a → ∀ u, ShownAlike requested requested' u (f a) (g a)) :
    ShownAlike requested requested' w (x >>= f) (x >>= g) := by
  unfold ShownAlike
  simp only [outcome, run_bind]
  cases hx : (x.run w).1 with
  | error failure => exact .inl rfl
  | ok a => exact h a hx _

theorem shownAlike_report (problem : Problem) :
    ShownAlike requested requested' w (problem.report requested) (problem.report requested') :=
  .inr ⟨problem.message, outcome_report _ _ w, outcome_report _ _ w⟩

variable {convert : Converter} {b b' : CodeBlock} {c c' : Context}

theorem shownAlike_parsed {path : String} (h : c.descend path = c'.descend path)
    (content : String) :
    ShownAlike requested requested' w
      (parsed convert (expand convert) requested path content c)
      (parsed convert (expand convert) requested' path content c') := by
  refine .bind fun r _ u => ?_
  cases r with
  | error problem => exact shownAlike_report problem
  | ok blocks =>
    dsimp only
    rw [h]
    exact .inl rfl

/-- The base of a context is not passed on. -/
theorem descend_congr (hstack : c.stack = c'.stack) (hdepth : c.depth = c'.depth)
    (hlimit : c.limit = c'.limit) (path : String) : c.descend path = c'.descend path := by
  simp only [Context.descend, hstack, hdepth, hlimit]

theorem request_congr {cwd : String} (htext : strip b.text ≠ "") (htext' : strip b'.text ≠ "")
    (hstack : c.stack = c'.stack)
    (hpath : Path.resolve cwd (strip b.text) (some (referenceBase b c)) =
      Path.resolve cwd (strip b'.text) (some (referenceBase b' c')))
    (hmode : b.attr.given? "mode" = b'.attr.given? "mode") :
    request cwd b c = request cwd b' c' := by
  unfold request
  rw [if_neg htext, if_neg htext', hpath, hstack, hmode]

/-- Blocks whose requests agree are replaced alike. -/
theorem shownAlike_replacement (hrequest : request w.cwd b c = request w.cwd b' c')
    (hdepth : c.depth = c'.depth) (hdescend : ∀ path, c.descend path = c'.descend path)
    (hlang : b.attr.given? "lang" = b'.attr.given? "lang")
    (hformat : b.attr.given? "format" = b'.attr.given? "format") :
    ShownAlike (strip b.text) (strip b'.text) w
      (replacement fileText convert (expand convert) b c)
      (replacement fileText convert (expand convert) b' c') := by
  refine .bind fun cwd hcwd u => ?_
  obtain rfl : w.cwd = cwd := Except.ok.inj hcwd
  rw [hrequest]
  cases request w.cwd b' c' with
  | error problem => exact shownAlike_report problem
  | ok r =>
    refine .bind fun text _ u => ?_
    cases text with
    | error problem => exact shownAlike_report problem
    | ok content =>
      rw [hdepth]
      refine .bind fun _ _ u => ?_
      cases r.mode with
      | code =>
        have hcode : codeOf b content = codeOf b' content := by unfold codeOf; rw [hlang]
        exact .inl (by rw [hcode])
      | raw =>
        have hraw : rawOf b content = rawOf b' content := by unfold rawOf; rw [hformat]
        exact .inl (by rw [hraw])
      | parse => exact shownAlike_parsed (hdescend r.path) content

end Alternatives

section Including
variable {f : String → Except Failure Json} {w : World} {b b' : CodeBlock} {c c' : Context}

theorem decides_including (f : String → Except Failure Json) (b : CodeBlock) (c : Context) :
    w.Decides (including f b c) :=
  (deciding_parts f b c fun v path => (deciding_expand f v (c.descend path)).1).replacement.1

/-- A file is replaced by its blocks, each expanded on its own in the directory of the file. -/
theorem outcome_including_of_parse (hw : Alike w w) {path content : String} {blocks : List Json}
    (hrequest : request w.cwd b c = .ok ⟨path, .parse⟩) (htext : w.textAt path = .ok content)
    (hblocks : f content = .ok (.arr blocks)) :
    w.outcome (including f b c) =
      (blocks.mapM fun v => w.outcome (expand (functional f) v (c.descend path))).map
        fun items => Node.div items ⟨"", [.str "included"], [("source", path)]⟩ := by
  have hcwd : w.outcome Run.cwd = .ok w.cwd := rfl
  have hload : w.outcome (fileText path) = .ok (.ok content) := by
    rw [outcome, run_fileText, htext]
    rfl
  have hparse : w.outcome (fileBlocks (functional f) path content) = .ok (.ok (.arr blocks)) := by
    rw [outcome, run_fileBlocks, run_functional, hblocks]
  obtain ⟨u, hu, hout⟩ := decides_cwd.exists_outcome_bind hw hcwd
  refine hout.trans ?_
  rw [hrequest]
  obtain ⟨u, hu, hout⟩ := (decides_fileText path).exists_outcome_bind hu hload
  refine hout.trans ?_
  obtain ⟨u, hu, hout⟩ := (decides_debug _).exists_outcome_bind hu rfl
  refine hout.trans ?_
  obtain ⟨u, hu, hout⟩ := (decides_fileBlocks f path content).exists_outcome_bind hu hparse
  refine hout.trans ?_
  have hnested : w.Decides (expand (functional f) (.arr blocks) (c.descend path)) :=
    (deciding_expand f (.arr blocks) (c.descend path)).1
  have hexpand := outcome_expand_items hw f blocks (c.descend path)
  cases hitems : blocks.mapM fun v => w.outcome (expand (functional f) v (c.descend path)) with
  | error failure =>
    rw [hitems] at hexpand
    exact World.outcome_bind_of_error ((hnested.outcome_eq hu).trans hexpand)
  | ok items =>
    rw [hitems] at hexpand
    obtain ⟨u, -, hout⟩ := hnested.exists_outcome_bind hu hexpand
    refine hout.trans ?_
    exact outcome_ofExcept u (included path (.arr items))

theorem including_of_empty (h : strip b.text = "") :
    w.outcome (including f b c) = .ok (errorBlock (strip b.text) "Empty include path") := by
  have hrequest : request w.cwd b c = .error .noPath := by
    unfold request
    rw [if_pos h]
  rw [outcome, including, run_replacement_of_refused hrequest, run_report]
  rfl

end Including

/-- Where the files stay as they are, a list is expanded to one of the same length, each item as if
it were expanded alone, so that an item is expanded to the same wherever it stands. In contexts that
differ in nothing but the base, blocks that ask for the same path in the same manner are replaced
by the same, unless an error is shown. The blocks of a file are expanded in the directory of the
file, whatever base has led to it. -/
theorem includes_isolated (f : String → Except Failure Json) {w : World}
    (hfile : w.setup.file = none) :
    (∀ (items : List Json) c result, w.outcome (expand (functional f) (.arr items) c) = .ok result →
      ∃ results, result = .arr results ∧ results.length = items.length ∧
        ∀ (i : Nat) v, items[i]? = some v → ∃ r, results[i]? = some r ∧
          ∀ u, Alike w u → u.outcome (expand (functional f) v c) = .ok r) ∧
    (∀ (items items' results results' : List Json) c u, Alike w u →
      w.outcome (expand (functional f) (.arr items) c) = .ok (.arr results) →
      u.outcome (expand (functional f) (.arr items') c) = .ok (.arr results') →
      ∀ i j : Nat, items[i]? = items'[j]? → results[i]? = results'[j]?) ∧
    (∀ b b' c c' u, Alike w u →
      c.stack = c'.stack → c.depth = c'.depth → c.limit = c'.limit →
      Path.resolve w.cwd (strip b.text) (some (referenceBase b c)) =
        Path.resolve w.cwd (strip b'.text) (some (referenceBase b' c')) →
      (∀ key ∈ ["mode", "lang", "format"], b.attr.given? key = b'.attr.given? key) →
      ∀ r r', w.outcome (including f b c) = .ok r → u.outcome (including f b' c') = .ok r' →
        r = r' ∨ (∃ message, r = errorBlock (strip b.text) message) ∨
          ∃ message, r' = errorBlock (strip b'.text) message) ∧
    (∀ b c path content blocks, request w.cwd b c = .ok ⟨path, .parse⟩ →
      w.textAt path = .ok content → f content = .ok (.arr blocks) →
      w.outcome (including f b c) =
        (blocks.mapM fun v => w.outcome (expand (functional f) v
            ⟨Path.directory path, c.stack ++ [path], c.depth + 1, c.limit⟩)).map
          fun items => Node.div items ⟨"", [.str "included"], [("source", path)]⟩) := by
  have hw : Alike w w := alike_self hfile
  refine ⟨fun items c result h => ?_, fun items items' results results' c u hu h h' i j hij => ?_,
    fun b b' c c' u hu hstack hdepth hlimit hpath hattrs r r' h h' => ?_,
    fun b c path content blocks hrequest htext hblocks =>
      outcome_including_of_parse hw hrequest htext hblocks⟩
  · obtain ⟨results, rfl, hall⟩ := expand_items_eq_ok hw h
    have hlength := congrArg List.length hall
    rw [List.length_map, List.length_map] at hlength
    refine ⟨results, rfl, hlength.symm, fun i v hv => ?_⟩
    have hi := congrArg (·[i]?) hall
    simp only [List.getElem?_map, hv, Option.map_some] at hi
    obtain ⟨r, hr, hout⟩ := Option.map_eq_some_iff.mp hi.symm
    exact ⟨r, hr, fun u hu => ((deciding_expand f v c).1.outcome_eq hu).trans hout.symm⟩
  · have hdecides : w.Decides (expand (functional f) (.arr items') c) :=
      (deciding_expand f (.arr items') c).1
    rw [hdecides.outcome_eq hu] at h'
    obtain ⟨_, hresults, hall⟩ := expand_items_eq_ok hw h
    obtain ⟨_, hresults', hall'⟩ := expand_items_eq_ok hw h'
    cases hresults
    cases hresults'
    have hi := congrArg (·[i]?) hall
    have hj := congrArg (·[j]?) hall'
    simp only [List.getElem?_map] at hi hj
    rw [hij, hj] at hi
    exact (Option.map_injective (fun _ _ => Except.ok.inj) hi).symm
  · rw [(decides_including f b' c').outcome_eq hu] at h'
    by_cases hempty : strip b.text = ""
    · rw [including_of_empty hempty] at h
      exact .inr (.inl ⟨_, (Except.ok.inj h).symm⟩)
    by_cases hempty' : strip b'.text = ""
    · rw [including_of_empty hempty'] at h'
      exact .inr (.inr ⟨_, (Except.ok.inj h').symm⟩)
    have hrequest := request_congr hempty hempty' hstack hpath (hattrs "mode" (by simp))
    have hshown : ShownAlike (strip b.text) (strip b'.text) w (including f b c)
        (including f b' c') :=
      shownAlike_replacement hrequest hdepth (descend_congr hstack hdepth hlimit)
        (hattrs "lang" (by simp)) (hattrs "format" (by simp))
    rcases hshown with hsame | ⟨message, hshown, -⟩
    · rw [hsame, h'] at h
      exact .inl (Except.ok.inj h).symm
    · rw [hshown] at h
      exact .inr (.inl ⟨message, (Except.ok.inj h).symm⟩)

/-! ### Two ways to one file -/

def basedBlock (text base : String) : CodeBlock :=
  ⟨text, ⟨"", [.str "include"], [("base", base)]⟩⟩

/-- A converter that takes each text for the name of a file. -/
def nameOf (text : String) : Except Failure Json := .ok (.arr [includeOf text])

theorem isIncluded_errorBlock (requested message : String) :
    isIncluded (errorBlock requested message) = false := isIncluded_of_ne (by decide)

theorem includes_isolated_for_two_bases :
    mutualWorld.setup.file = none ∧
      ∃ r, isIncluded r = true ∧
        mutualWorld.outcome (including nameOf (basedBlock "../a" "x") ⟨"/w", [], 0, ⟨3, "3"⟩⟩) =
          .ok r ∧
        mutualWorld.outcome (including nameOf (basedBlock "a" "/w//.") ⟨"/v", [], 0, ⟨3, "3"⟩⟩) =
          .ok r := by
  have hfirst : (mutualWorld.outcome (including nameOf (basedBlock "../a" "x")
      ⟨"/w", [], 0, ⟨3, "3"⟩⟩)).toOption.any isIncluded = true := by
    decide +kernel
  have hsecond : (mutualWorld.outcome (including nameOf (basedBlock "a" "/w//.")
      ⟨"/v", [], 0, ⟨3, "3"⟩⟩)).toOption.any isIncluded = true := by
    decide +kernel
  obtain ⟨r, hr, hincluded⟩ := (Option.any_eq_true _ _).mp hfirst
  obtain ⟨r', hr', hincluded'⟩ := (Option.any_eq_true _ _).mp hsecond
  have hout := eq_ok_of_toOption hr
  have hout' := eq_ok_of_toOption hr'
  obtain ⟨-, -, hblocks, -⟩ := includes_isolated nameOf (w := mutualWorld) rfl
  have hsame := hblocks (basedBlock "../a" "x") (basedBlock "a" "/w//.") ⟨"/w", [], 0, ⟨3, "3"⟩⟩
    ⟨"/v", [], 0, ⟨3, "3"⟩⟩ mutualWorld (alike_self rfl) rfl rfl rfl (by decide +kernel)
    (by decide) r r' hout hout'
  refine ⟨rfl, r, hincluded, hout, ?_⟩
  rcases hsame with rfl | ⟨message, rfl⟩ | ⟨message, rfl⟩
  · exact hout'
  · rw [isIncluded_errorBlock] at hincluded
    cases hincluded
  · rw [isIncluded_errorBlock] at hincluded'
    cases hincluded'

end Include

end DocFilter
