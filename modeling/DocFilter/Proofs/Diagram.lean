import DocFilter.Proofs.Converter
import DocFilter.Proofs.Document.View
import DocFilter.Proofs.Text.Base64
import DocFilter.Proofs.Walk.Answers
import DocFilter.Proofs.Walk.Fixpoint
import DocFilter.Registry.Builtin

/-!
# Diagrams in a document

Every diagram is rendered by one launch, in the order of the nodes of the document, and what the
launch comes to is shown in its place. What is rendered depends on the text of the block and its
format alone, and these do not change when nodes in the attributes of the block give way to others:
such a node has no text that could name a format.
-/

namespace DocFilter

/-! ### Launches in order -/

namespace World

/-- The world after launches that each took an outcome, if there was one left. -/
def launchingAll (w : World) (ls : List Launch) : World :=
  { w with programs := ⟨w.programs.outcomes.drop ls.length, w.programs.launches ++ ls⟩ }

theorem launchingAll_nil (w : World) : w.launchingAll [] = w := by
  rw [launchingAll, List.append_nil]
  rfl

theorem launching_launchingAll (w : World) (ls : List Launch) (command : List Json)
    (input : String) :
    (w.launchingAll ls).launching command input = w.launchingAll (ls ++ [⟨command, input⟩]) := by
  simp only [launchingAll, launching, List.tail_drop, List.length_append, List.length_singleton,
    List.append_assoc]

theorem log_launching (w : World) (command : List Json) (input : String) (r : Log.Record) :
    (w.log r).launching command input = (w.launching command input).log r := by
  unfold log launching
  dsimp only
  split <;> rfl

theorem OnlyLogged.launching {w u : World} (h : w.OnlyLogged u) (command : List Json)
    (input : String) : (w.launching command input).OnlyLogged (u.launching command input) := by
  obtain ⟨rs, rfl⟩ := h
  refine ⟨rs, ?_⟩
  induction rs generalizing w with
  | nil => rfl
  | cons r rs ih => rw [List.foldl_cons, ih, List.foldl_cons, log_launching]

end World

namespace Diagram

/-! ### Formats -/

/-- The format that a name stands for; a name that no format has stands for svg. -/
def Format.named (name : String) : Format := (ofName? (lowerCase name)).getD .svg

theorem run_chooseFormat (name : String) (w : World) :
    ∃ u, (chooseFormat (some name)).run w = (.ok (.named name), u) ∧ w.OnlyLogged u := by
  unfold chooseFormat
  dsimp only
  split
  · next format h =>
    split at h
    · next hname =>
      cases hname
      cases h
      exact ⟨w, rfl, .refl w⟩
    · rw [Option.getD_some] at h
      exact ⟨w, by rw [Format.named, h]; rfl, .refl w⟩
  · next h =>
    split at h
    · cases h
    · rw [Option.getD_some] at h
      exact ⟨_, by rw [Format.named, h]; rfl, .log w _⟩

/-- Whether a text begins as the text of a list or of an object does. -/
def IsBracketed (s : String) : Prop := s.toList.head? = some '[' ∨ s.toList.head? = some '\x7b'

/-- Whether two texts are the same or none of them names anything. -/
def AreAlike (s t : String) : Prop := s = t ∨ IsBracketed s ∧ IsBracketed t

theorem shown_outline (v : Json) : AreAlike (outline v).shown v.shown := by
  cases v with
  | arr items =>
    refine .inr ⟨.inl ?_, .inl ?_⟩
    · simp [outline, Json.shown, Json.shownInside]
    · simp [Json.shown, Json.shownInside]
  | obj fields =>
    refine .inr ⟨.inr ?_, .inr ?_⟩
    · simp [outline, Json.shown, Json.shownInside]
    · simp [Json.shown, Json.shownInside]
  | _ => exact .inl rfl

theorem head?_lowerCase_of_bracketed {s : String} (h : IsBracketed s) :
    (lowerCase s).toList.head? = s.toList.head? := by
  rw [lowerCase, String.toList_ofList]
  rcases h with h | h
  all_goals
    obtain ⟨cs, hcs⟩ := List.head?_eq_some_iff.mp h
    rw [hcs]
    rfl

theorem named_of_bracketed {s : String} (h : IsBracketed s) : Format.named s = .svg := by
  have hhead := head?_lowerCase_of_bracketed h
  have hnone : Format.ofName? (lowerCase s) = none := by
    refine List.find?_eq_none.mpr fun format _ hname => ?_
    rw [← eq_of_beq hname] at hhead
    rw [IsBracketed, ← hhead] at h
    cases format <;> revert h <;> decide
  rw [Format.named, hnone]
  rfl

theorem named_eq_of_areAlike {s t : String} (h : AreAlike s t) : Format.named s = Format.named t := by
  rcases h with rfl | ⟨hs, ht⟩
  · rfl
  · rw [named_of_bracketed hs, named_of_bracketed ht]

theorem AreAlike.eq_iff {s t key : String} (h : AreAlike s t) (hkey : ¬IsBracketed key) :
    s = key ↔ t = key := by
  rcases h with rfl | ⟨hs, ht⟩
  · rfl
  · refine iff_of_false ?_ ?_
    · rintro rfl
      exact hkey hs
    · rintro rfl
      exact hkey ht

/-- What is found among the pairs of an outline is like what is found among the pairs. -/
theorem lookup_pairs_outline (items : List Json) {key : String} (hkey : ¬IsBracketed key) :
    Option.Rel AreAlike (((items.map outline).filterMap Attr.pairOf?).lookup key)
      ((items.filterMap Attr.pairOf?).lookup key) := by
  induction items with
  | nil => exact .none
  | cons item items ih =>
    rw [List.map_cons]
    match item with
    | .arr [k, v] =>
      have hpair : Attr.pairOf? (outline (.arr [k, v])) =
          some ((outline k).shown, (outline v).shown) := rfl
      rw [List.filterMap_cons_some hpair, List.filterMap_cons_some (by rw [Attr.pairOf?]),
        Dictionary.lookup_cons, Dictionary.lookup_cons]
      have hsame := (shown_outline k).eq_iff hkey
      by_cases hk : k.shown = key
      · rw [if_pos (beq_iff_eq.mpr (hsame.mpr hk).symm), if_pos (beq_iff_eq.mpr hk.symm)]
        exact .some (shown_outline v)
      · rw [if_neg (mt beq_iff_eq.mp (Ne.symm (mt hsame.mp hk))),
          if_neg (mt beq_iff_eq.mp (Ne.symm hk))]
        exact ih
    | .arr [] | .arr [_] | .arr (_ :: _ :: _ :: _) | .null | .bool _ | .int _ | .float _ | .str _
    | .pair _ _ | .obj _ | .table _ | .foreign _ =>
      exact ih

theorem get?_outline (attr : Json) {key : String} (hkey : ¬IsBracketed key) :
    Option.Rel AreAlike ((Attr.ofJson (outline attr)).get? key) ((Attr.ofJson attr).get? key) := by
  cases attr with
  | arr items =>
    have hpart : ((outlineItems items)[2]?).getD Json.null =
        outline ((items[2]?).getD Json.null) := by
      rw [outlineItems_eq_map, List.getElem?_map]
      cases items[2]? <;> rfl
    simp only [outline, Attr.ofJson, Attr.get?]
    rw [hpart, items?_outline]
    cases ((items[2]?).getD Json.null).items? with
    | none => exact .none
    | some pairs => exact lookup_pairs_outline pairs hkey
  | _ => exact .none

namespace Settings

def formatFor (s : Settings) (b : CodeBlock) : Format :=
  .named ((b.attr.given? "format").getD s.format.name)

def launch (s : Settings) (b : CodeBlock) : Launch :=
  ⟨[s.executable, .str "-pipe", .str (s.formatFor b).flag], b.text⟩

theorem formatFor_outline (s : Settings) (text : String) (attr : Json) :
    s.formatFor ⟨text, .ofJson (outline attr)⟩ = s.formatFor ⟨text, .ofJson attr⟩ := by
  have hkey : ¬IsBracketed "format" := by
    rw [IsBracketed]
    decide
  have hrel := get?_outline attr hkey
  have hempty : ¬IsBracketed "" := by
    rw [IsBracketed]
    decide
  unfold formatFor Attr.given?
  dsimp only
  generalize (Attr.ofJson (outline attr)).get? "format" = found at hrel ⊢
  generalize (Attr.ofJson attr).get? "format" = found' at hrel ⊢
  cases hrel with
  | none => rfl
  | @some name name' halike =>
    have hsame := halike.eq_iff hempty
    by_cases hname : name' = ""
    · rw [hsame.mpr hname, hname]
    · split
      · next h => exact absurd (hsame.mp (Option.some.inj h)) hname
      · split
        · next h => exact absurd (Option.some.inj h) hname
        · exact named_eq_of_areAlike halike

theorem launch_outline (s : Settings) (text : String) (attr : Json) :
    s.launch ⟨text, .ofJson (outline attr)⟩ = s.launch ⟨text, .ofJson attr⟩ := by
  rw [launch, launch, formatFor_outline]

def look (s : Settings) (b : CodeBlock) : Format × String := (s.formatFor b, b.text)

theorem look_outline (s : Settings) (text : String) (attr : Json) :
    s.look ⟨text, .ofJson (outline attr)⟩ = s.look ⟨text, .ofJson attr⟩ := by
  rw [look, look, formatFor_outline]

end Settings

/-! ### Rendering -/

/-- What is shown in place of a diagram for an outcome of the launch that renders it: what was
rendered, as a picture or as text, or else a report that ends with the source. -/
inductive Shows (format : Format) (source : String) (outcome : Option ProgramOutcome) : Json → Prop
  | picture {stdout stderr : List UInt8} {payload : String} :
    outcome = some (.exited 0 stdout stderr) → format.isText = false →
    Base64.decode? payload.toList = some stdout →
    Shows format source outcome (Node.para [Node.image
      (.str ("data:" ++ format.mediaType ++ ";base64," ++ payload)) (.ofClasses ["plantuml"]) []
      (.str "")])
  | text {stdout stderr : List UInt8} :
    outcome = some (.exited 0 stdout stderr) → format.isText = true →
    Shows format source outcome
      (CodeBlock.toNode ⟨Utf8.decodeLossy stdout, .ofClasses ["plantuml-output"]⟩)
  | report {reason : String} :
    (∀ stdout stderr, outcome ≠ some (.exited 0 stdout stderr)) →
    Shows format source outcome (CodeBlock.toNode
      ⟨"ERROR rendering PlantUML:\n" ++ reason ++ "\n\nOriginal code:\n" ++ source,
        .ofClasses ["plantuml-error"]⟩)

section Shown
variable {format : Format} {source : String} {outcome : Option ProgramOutcome} {a : Json}

theorem shows_outputNode {stdout stderr : List UInt8}
    (h : outcome = some (.exited 0 stdout stderr)) :
    Shows format source outcome (outputNode format stdout) := by
  unfold outputNode
  cases htext : format.isText with
  | true => exact .text h htext
  | false =>
    have hpayload : Base64.decode? (String.ofList (Base64.encode stdout)).toList = some stdout := by
      rw [String.toList_ofList, Base64.decode?_encode]
    exact .picture h htext hpayload

theorem shows_errorBlock (reason : String)
    (h : ∀ stdout stderr, outcome ≠ some (.exited 0 stdout stderr)) :
    Shows format source outcome (errorBlock source reason) :=
  .report h

theorem Shows.outline_eq (h : Shows format source outcome a) : outline a = .obj [] := by
  cases h <;> rfl

theorem Shows.isNode (h : Shows format source outcome a) : a.isNode = true := by
  cases h <;> rfl

/-- What is shown is no diagram, nor does it hold one. -/
theorem Shows.accepts_eq_false (h : Shows format source outcome a) (s : Settings) :
    ∀ n ∈ nodes a, s.blockFilter.accepts n = false := by
  have hcode (text name : String)
      (hclass : (Attr.ofClasses [name]).hasAnyClass s.blockFilter.classes = false) :
      ∀ n ∈ nodes (CodeBlock.toNode ⟨text, .ofClasses [name]⟩), s.blockFilter.accepts n = false := by
    intro n hn
    obtain rfl : n = CodeBlock.toNode ⟨text, .ofClasses [name]⟩ := List.mem_singleton.mp hn
    rw [BlockFilter.accepts, CodeBlock.ofNode?_toNode]
    exact hclass
  cases h with
  | @picture _ _ payload =>
    intro n hn
    rcases List.mem_cons.mp hn with rfl | hn
    · rfl
    · rw [List.mem_singleton.mp hn]
      rfl
  | text => exact hcode _ "plantuml-output" rfl
  | report => exact hcode _ "plantuml-error" rfl

end Shown

/-- Whether the command line can be launched depends on the program alone. -/
theorem isLaunchable_render (executable : Json) (format : Format) :
    Run.isLaunchable [executable, .str "-pipe", .str format.flag] =
      Run.isLaunchable [executable] := by
  have hrest : Run.isLaunchable [.str "-pipe", .str format.flag] = true := by
    cases format <;> decide
  unfold Run.isLaunchable at hrest ⊢
  rw [← List.singleton_append, List.filterMap_append, List.all_append, hrest, Bool.and_true]

theorem isLaunchable_str (executable : String) :
    Run.isLaunchable [.str executable] = true ↔ '\x00' ∉ executable.toList := by
  simp [Run.isLaunchable, Json.text?]

/-- How a launch ends decides what was rendered. -/
theorem run_render {executable : Json} (hexecutable : Run.isLaunchable [executable] = true)
    (format : Format) (source : String) (w : World) :
    ∃ r : Rendering, (render executable format source).run w =
        (.ok r, w.launching [executable, .str "-pipe", .str format.flag] source) ∧
      ((∃ stdout stderr, w.programs.outcomes.head? = some (.exited 0 stdout stderr) ∧
          r = .ok stdout) ∨
        (∀ stdout stderr, w.programs.outcomes.head? ≠ some (.exited 0 stdout stderr)) ∧
          ∃ reason, r = .error reason) := by
  unfold render
  rw [run_bind, run_attempt, run_launch (isLaunchable_render executable format ▸ hexecutable)]
  cases w.programs.outcomes.head? with
  | none => exact ⟨_, rfl, .inr ⟨nofun, _, rfl⟩⟩
  | some outcome =>
    cases outcome with
    | refused code text => exact ⟨_, rfl, .inr ⟨nofun, _, rfl⟩⟩
    | exited code stdout stderr =>
      by_cases hcode : code = 0
      · subst hcode
        exact ⟨.ok stdout, rfl, .inl ⟨stdout, stderr, rfl, rfl⟩⟩
      · have hfails : ∀ out err, some (ProgramOutcome.exited code stdout stderr) ≠
            some (.exited 0 out err) := by
          rintro out err ⟨⟩
          exact hcode rfl
        dsimp only [launched]
        rw [if_neg hcode]
        exact ⟨_, rfl, .inr ⟨hfails, _, rfl⟩⟩

/-- A program whose name has a null byte is refused before the launch, with an exception that is
none of the operating system's. -/
theorem run_render_of_null {executable : Json} (hexecutable : Run.isLaunchable [executable] = false)
    (format : Format) (source : String) (w : World) :
    (render executable format source).run w = (.error (.badValue "embedded null byte"), w) := by
  unfold render
  rw [run_bind, run_attempt,
    run_launch_of_null (isLaunchable_render executable format ▸ hexecutable)]
  rfl

namespace Settings

section Launchable
variable {s : Settings} (hs : Run.isLaunchable [s.executable] = true)
include hs

/-- A block is always replaced, and nothing happens but one launch. -/
theorem run_replacement (b : CodeBlock) (w : World) :
    ∃ a u, (s.replacement b).run w = (.ok a, u) ∧
      Shows (s.formatFor b) b.text w.programs.outcomes.head? a ∧
      (w.launching (s.launch b).command b.text).OnlyLogged u := by
  obtain ⟨v, hchoose, hlogged⟩ := run_chooseFormat ((b.attr.given? "format").getD s.format.name) w
  change _ = (Except.ok (s.formatFor b), v) at hchoose
  obtain ⟨r, hrender, hr⟩ := run_render hs (s.formatFor b) b.text v
  have hlaunched := hlogged.launching (s.launch b).command b.text
  rw [hlogged.programs_eq] at hr
  unfold replacement
  rw [run_bind_of_ok hchoose, run_bind_of_ok hrender]
  rcases hr with ⟨stdout, stderr, hhead, rfl⟩ | ⟨hhead, reason, rfl⟩
  · exact ⟨_, _, rfl, shows_outputNode hhead, hlaunched⟩
  · exact ⟨_, _, rfl, shows_errorBlock reason hhead, hlaunched.trans (.log _ _)⟩

theorem run_rewrite (b : CodeBlock) (t : Unit × World) :
    ∃ a u, (merged (s.blockFilter.rewrite b)).run t = (.ok a, (t.1, u)) ∧
      Shows (s.formatFor b) b.text t.2.programs.outcomes.head? a ∧
      (t.2.launching (s.launch b).command b.text).OnlyLogged u := by
  obtain ⟨a, u, hrun, hshows, hlogged⟩ := run_replacement hs b t.2
  exact ⟨a, u, run_merged_lift hrun, hshows, hlogged⟩

/-- The blocks are rendered by one launch each, and the outcomes are taken in the same order. -/
theorem rewrites_shown {t u : Unit × World} {rs : List BlockFilter.Rewriting}
    (h : s.blockFilter.Rewrites t rs u) :
    (t.2.launchingAll (rs.map fun r => s.launch r.block)).OnlyLogged u.2 ∧
      ∀ (j : Nat) (r : BlockFilter.Rewriting), rs[j]? = some r → ∃ a, r.outcome = .ok a ∧
        Shows (s.formatFor r.block) r.block.text t.2.programs.outcomes[j]? a := by
  induction h with
  | start =>
    rw [List.map_nil, World.launchingAll_nil]
    exact ⟨.refl _, fun j r hr => by simp at hr⟩
  | @block done u b _ ih =>
    obtain ⟨hlogged, hshown⟩ := ih
    obtain ⟨a, v, hrun, hshows, hafter⟩ := run_rewrite hs b u
    -- one outcome is gone for every launch so far
    have houtcomes : u.2.programs.outcomes = t.2.programs.outcomes.drop done.length := by
      rw [hlogged.programs_eq, World.launchingAll, List.length_map]
    rw [houtcomes, List.head?_drop] at hshows
    rw [hrun]
    constructor
    · have hlaunched := hlogged.launching (s.launch b).command b.text
      rw [World.launching_launchingAll] at hlaunched
      rw [List.map_append]
      exact hlaunched.trans hafter
    · intro j r hr
      rcases Nat.lt_or_ge j done.length with hj | hj
      · rw [List.getElem?_append_left hj] at hr
        exact hshown j r hr
      · -- the last block took the outcome that the launches before it had left first
        rw [List.getElem?_append_right hj, List.getElem?_singleton] at hr
        split at hr
        · obtain rfl : j = done.length := by omega
          cases hr
          exact ⟨a, rfl, hshows⟩
        · cases hr

theorem givesObjects_blockFilter : s.blockFilter.GivesObjects := by
  intro b t a ha
  obtain ⟨a', u, hrun, hshows, -⟩ := run_rewrite hs b t
  rw [hrun] at ha
  cases ha
  exact hshows.outline_eq

/-- A sweep ends well, whatever the launches come to. -/
theorem exists_sweptBy (doc : Json) (w : World) :
    ∃ calls doc' u, (merged (s.blockFilter.sweep doc)).run ((), w) = (.ok doc', u) ∧
      s.blockFilter.SweptBy doc ((), w) calls (.ok doc') u := by
  obtain ⟨calls, hswept⟩ := s.blockFilter.sweptBy_sweep doc ((), w)
  cases hrun : (merged (s.blockFilter.sweep doc)).run ((), w) with
  | mk outcome u =>
    rw [hrun] at hswept
    cases outcome with
    | ok doc' => exact ⟨calls, doc', u, rfl, hswept⟩
    | error failure =>
      obtain ⟨b, hlast⟩ := hswept.last_of_error
      obtain ⟨j, hj⟩ := List.mem_iff_getElem?.mp (List.mem_of_getLast? hlast)
      obtain ⟨a, ha, -⟩ := (rewrites_shown hs hswept.rewrites).2 j _ hj
      cases ha

/-- A sweep leaves no diagram. -/
theorem accepts_of_sweep {doc doc' : Json} {t u : Unit × World}
    (h : (merged (s.blockFilter.sweep doc)).run t = (.ok doc', u)) :
    ∀ n ∈ nodes doc', s.blockFilter.accepts n = false := by
  have hwalk : merged (s.blockFilter.sweep doc) =
      walk (fun n => merged (s.blockFilter.visit n)) doc := merging.walk (fun _ => rfl) doc
  have hsettles : (keeping fun _ : Unit × World => True).Holds (merged (s.blockFilter.sweep doc))
      fun v => ∀ n ∈ nodes v, s.blockFilter.accepts n = false := by
    rw [hwalk]
    refine Logic.walk _ (rebuilding_settled s.blockFilter.accepts) (fun fs gs hgs hnode => ?_) doc
    cases hb : s.blockFilter.block? (.obj gs) with
    | some b =>
      rw [BlockFilter.visit_of_block hb]
      intro t _
      obtain ⟨a, v, hrun, hshows, -⟩ := run_rewrite hs b t
      rw [hrun]
      refine ⟨trivial, ?_⟩
      rintro _ ⟨⟩
      exact hshows.accepts_eq_false s
    | none =>
      rw [BlockFilter.visit_of_no_block hb]
      refine (keeping _).pure fun n hn => ?_
      rw [nodes_obj_of_isNode hnode] at hn
      rcases List.mem_append.mp hn with hn | hn
      · exact hgs n hn
      · rw [List.mem_singleton.mp hn]
        rw [BlockFilter.accepts_eq_isSome_block?, hb]
        rfl
  have hends := (hsettles t trivial).2
  rw [h] at hends
  exact hends doc' rfl

end Launchable

section Refused
variable {s : Settings} (hs : Run.isLaunchable [s.executable] = false)
include hs

theorem run_rewrite_of_null (b : CodeBlock) (t : Unit × World) :
    ∃ u, (merged (s.blockFilter.rewrite b)).run t =
      (.error (.badValue "embedded null byte"), (t.1, u)) ∧ t.2.OnlyLogged u := by
  obtain ⟨u, hchoose, hlogged⟩ := run_chooseFormat ((b.attr.given? "format").getD s.format.name) t.2
  have hrun : (s.replacement b).run t.2 = (.error (.badValue "embedded null byte"), u) := by
    unfold replacement
    rw [run_bind_of_ok hchoose, run_bind, run_render_of_null hs]
  exact ⟨u, run_merged_lift hrun, hlogged⟩

/-- No block is rewritten, and nothing is launched. -/
theorem rewrites_refused {t u : Unit × World} {rs : List BlockFilter.Rewriting}
    (h : s.blockFilter.Rewrites t rs u) : t.2.OnlyLogged u.2 ∧
      ∀ r ∈ rs, r.outcome = .error (.badValue "embedded null byte") := by
  induction h with
  | start => exact ⟨.refl _, fun r hr => nomatch hr⟩
  | @block done u b _ ih =>
    obtain ⟨hlogged, hrefused⟩ := ih
    obtain ⟨v, hrun, hafter⟩ := run_rewrite_of_null hs b u
    rw [hrun]
    refine ⟨hlogged.trans hafter, fun r hr => ?_⟩
    rcases List.mem_append.mp hr with hr | hr
    · exact hrefused r hr
    · rw [List.mem_singleton.mp hr]

/-- A sweep ends at the first diagram. -/
theorem run_sweep_of_null {doc n : Json} (hn : n ∈ nodes doc) (hb : s.blockFilter.accepts n = true)
    (w : World) : ∃ u, (merged (s.blockFilter.sweep doc)).run ((), w) =
      (.error (.badValue "embedded null byte"), u) ∧ w.OnlyLogged u.2 := by
  obtain ⟨calls, hswept⟩ := s.blockFilter.sweptBy_sweep doc ((), w)
  obtain ⟨hlogged, hrefused⟩ := rewrites_refused hs hswept.rewrites
  cases hrun : (merged (s.blockFilter.sweep doc)).run ((), w) with
  | mk outcome u =>
    rw [hrun] at hswept hlogged
    cases outcome with
    | error failure =>
      obtain ⟨b, hlast⟩ := hswept.last_of_error
      cases hrefused _ (List.mem_of_getLast? hlast)
      exact ⟨u, rfl, hlogged⟩
    | ok doc' =>
      have hobjects : s.blockFilter.GivesObjects := by
        intro b t a ha
        obtain ⟨v, hrefuses, -⟩ := run_rewrite_of_null hs b t
        rw [hrefuses] at ha
        cases ha
      rw [BlockFilter.accepts_eq_isSome_block?] at hb
      obtain ⟨i, hi⟩ := List.mem_iff_getElem?.mp hn
      obtain ⟨b, hb⟩ := Option.isSome_iff_exists.mp hb
      obtain ⟨r, a, hr, -, ha, -⟩ :=
        hswept.answer_of_block (hswept.seesAlike hobjects s.look_outline) hi hb
      cases (hrefused r (List.mem_of_getElem? hr)).symm.trans ha

end Refused

variable {s : Settings}

theorem sweep_eq_pure {doc : Json} (h : ∀ n ∈ nodes doc, s.blockFilter.accepts n = false) :
    s.blockFilter.sweep doc = pure doc :=
  walk_eq_pure doc fun n hn => if_neg (by rw [h n hn]; exact Bool.false_ne_true)

def pass (s : Settings) (doc : Json) : Run Json := do
  MonadExcept.ofExcept (← Act.startingAt () (s.blockFilter.sweep doc)).1

theorem run_make (executable name : String) (w : World) :
    ∃ f u, (Builtin.diagram.make [("executable", .str executable),
        ("default_format", .str name)]).run w = (.ok f, u) ∧ w.OnlyLogged u ∧
      f.apply = pass ⟨.str executable, .named name⟩ := by
  obtain ⟨u, hchoose, hlogged⟩ := run_chooseFormat name w
  have hmake : Builtin.diagram.make [("executable", .str executable),
      ("default_format", .str name)] = Diagram.filter [("executable", .str executable),
        ("default_format", .str name)] := rfl
  have hoption : optionOr [("executable", .str executable), ("default_format", .str name)]
      "default_format" (.str "svg") = .str name := rfl
  rw [hmake]
  unfold Diagram.filter
  rw [hoption]
  dsimp only
  rw [run_bind_of_ok hchoose]
  exact ⟨_, u, rfl, hlogged, rfl⟩

end Settings

/-- The diagram filter can be made with any program and any name of a format. Unless there is a null
byte in the name of the program, its passes do not fail, whatever the launches come to. One program
is launched for each diagram of the document, in the order of its nodes, with the text of the
diagram as its input; beside this only records are logged. Every diagram gives way to one node,
which shows the outcome of the launch at the place of the diagram among the diagrams, and any other
node stays, with what became of the nodes inside it. No diagram is left, so that a further pass
launches nothing and gives the document back. With a null byte in the name of the program, the first
diagram ends the pass, and nothing is launched. -/
theorem diagrams_rendered_in_order (executable name : String) (w : World) :
    let s : Settings := ⟨.str executable, .named name⟩
    ∃ f u, (Builtin.diagram.make [("executable", .str executable),
        ("default_format", .str name)]).run w = (.ok f, u) ∧ w.OnlyLogged u ∧
      ('\x00' ∉ executable.toList →
        ∀ doc w, ∃ answers v, answers.length = (nodes doc).length ∧
          (f.apply doc).run w = (.ok (patched answers doc), v) ∧
          (w.launchingAll (((nodes doc).filterMap s.blockFilter.block?).map s.launch)).OnlyLogged v ∧
          (∀ (i : Nat) n b, (nodes doc)[i]? = some n → s.blockFilter.block? n = some b →
            ∃ a, answers[i]? = some a ∧ a.isNode = true ∧ Shows (s.formatFor b) b.text
              w.programs.outcomes[s.blockFilter.rank (nodes doc) i]? a) ∧
          (∀ (i : Nat) n, (nodes doc)[i]? = some n → s.blockFilter.block? n = none →
            ∃ fields, n = .obj fields ∧ answers[i]? = some (.obj (patchedFields
              (answers.drop (i - (nodesOfFields fields).length)) fields))) ∧
          (∀ n ∈ nodes (patched answers doc), s.blockFilter.accepts n = false) ∧
          ∀ w, (f.apply (patched answers doc)).run w = (.ok (patched answers doc), w)) ∧
      ('\x00' ∈ executable.toList → ∀ doc w,
        (∀ n ∈ nodes doc, s.blockFilter.accepts n = true →
          ∃ v, (f.apply doc).run w = (.error (.badValue "embedded null byte"), v) ∧
            w.OnlyLogged v) ∧
        ((∀ n ∈ nodes doc, s.blockFilter.accepts n = false) →
          (f.apply doc).run w = (.ok doc, w))) := by
  intro s
  obtain ⟨f, u, hmake, hlogged, happly⟩ := Settings.run_make executable name w
  -- without a diagram there is nothing to launch
  have hnone {doc : Json} (h : ∀ n ∈ nodes doc, s.blockFilter.accepts n = false) (w : World) :
      (f.apply doc).run w = (.ok doc, w) := by
    rw [happly, Settings.pass, run_ofExcept_startingAt, Settings.sweep_eq_pure h]
    rfl
  refine ⟨f, u, hmake, hlogged, fun hnull doc w => ?_, fun hnull doc w => ⟨?_, fun h => hnone h w⟩⟩
  · have hs : Run.isLaunchable [s.executable] = true := (isLaunchable_str executable).2 hnull
    obtain ⟨calls, doc', v, hrun, hswept⟩ := Settings.exists_sweptBy hs doc w
    obtain ⟨hlength, hreturned, rfl⟩ := hswept.ends
    obtain ⟨hlaunched, hshown⟩ := Settings.rewrites_shown hs hswept.rewrites
    have hobjects := Settings.givesObjects_blockFilter hs
    have hlaunches := BlockFilter.SweptBy.map_block_rewritings s.launch
      (hswept.seesAlike hobjects s.launch_outline)
    rw [hlength, List.take_length, ← List.map_filterMap] at hlaunches
    rw [hlaunches] at hlaunched
    have halike := hswept.seesAlike hobjects s.look_outline
    have hsettled := Settings.accepts_of_sweep hs hrun
    refine ⟨answersOf calls, v.2, (length_answersOf hreturned).trans hlength, ?_, hlaunched, ?_, ?_,
      hsettled, hnone hsettled⟩
    · rw [happly, Settings.pass, run_ofExcept_startingAt, hrun]
    · intro i n b hn hb
      obtain ⟨r, a, hr, hlook, ha, hanswer⟩ := hswept.answer_of_block halike hn hb
      obtain ⟨a', ha', hshows⟩ := hshown _ r hr
      cases ha.symm.trans ha'
      obtain ⟨hformat, htext⟩ := Prod.mk.inj hlook
      rw [hformat, htext] at hshows
      exact ⟨a, hanswer, hshows.isNode, hshows⟩
    · intro i n hn hnone
      obtain ⟨fields, hfields, -, hanswer⟩ := hswept.answer_of_no_block halike hn hnone
      exact ⟨fields, hfields, hanswer⟩
  · intro n hn hb
    have hs : Run.isLaunchable [s.executable] = false :=
      Bool.eq_false_iff.mpr fun h => (isLaunchable_str executable).1 h hnull
    obtain ⟨v, hrun, hlogged⟩ := Settings.run_sweep_of_null hs hn hb w
    exact ⟨v.2, by rw [happly, Settings.pass, run_ofExcept_startingAt, hrun], hlogged⟩

def plainDiagram : Json := CodeBlock.toNode ⟨"a -> b", .ofClasses ["plantuml"]⟩

def diagramDoc : Json := Node.document [plainDiagram] (.obj [])

theorem nodes_diagramDoc : nodes diagramDoc = [plainDiagram] := rfl

theorem diagrams_rendered_in_order_without_program : '\x00' ∉ "plantuml".toList ∧
    ∃ f u v result, (Builtin.diagram.make [("executable", .str "plantuml"),
        ("default_format", .str "PNG")]).run (.initial ⟨[]⟩ "/") = (.ok f, u) ∧
      (f.apply diagramDoc).run u = (.ok result, v) ∧
      v.programs.launches = [⟨[.str "plantuml", .str "-pipe", .str "-tpng"], "a -> b"⟩] ∧
      (f.apply result).run v = (.ok result, v) := by
  have hnull : '\x00' ∉ "plantuml".toList := by decide
  obtain ⟨f, u, hmake, hlogged, hrenders, -⟩ :=
    diagrams_rendered_in_order "plantuml" "PNG" (.initial ⟨[]⟩ "/")
  obtain ⟨answers, v, -, hrun, hlaunched, -, -, -, hagain⟩ := hrenders hnull diagramDoc u
  refine ⟨hnull, f, u, v, patched answers diagramDoc, hmake, hrun, ?_, hagain v⟩
  rw [hlaunched.programs_eq, nodes_diagramDoc, World.launchingAll]
  dsimp only
  rw [hlogged.programs_eq]
  rfl

/-- With a null byte in the name of the program no error block is shown for a diagram. -/
theorem null_byte_ends_pass : ∃ f u v, (Builtin.diagram.make [("executable", .str "a\x00b"),
      ("default_format", .str "svg")]).run (.initial ⟨[]⟩ "/") = (.ok f, u) ∧
    (f.apply diagramDoc).run u = (.error (.badValue "embedded null byte"), v) := by
  obtain ⟨f, u, hmake, -, happly⟩ := Settings.run_make "a\x00b" "svg" (.initial ⟨[]⟩ "/")
  let s : Settings := ⟨.str "a\x00b", .named "svg"⟩
  have hs : Run.isLaunchable [s.executable] = false := by decide
  have hdiagram : plainDiagram ∈ nodes diagramDoc := nodes_diagramDoc ▸ List.mem_singleton_self _
  have haccepts : s.blockFilter.accepts plainDiagram = true := by decide +kernel
  obtain ⟨v, hrun, -⟩ := Settings.run_sweep_of_null hs hdiagram haccepts u
  exact ⟨f, u, v.2, hmake, by rw [happly, Settings.pass, run_ofExcept_startingAt, hrun]⟩

end Diagram

end DocFilter
