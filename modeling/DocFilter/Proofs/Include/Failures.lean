import DocFilter.Proofs.Converter
import DocFilter.Proofs.Include.Nesting
import DocFilter.Proofs.Walk.Sweep

/-!
# Failures in place

What goes wrong with an include block is shown in its place, by one error block, and everything else
of the document is expanded all the same. One thing is not shown: a path with a null byte is refused
before the operating system is asked for the file, and that refusal ends the whole run. So a run
returns a document exactly if no such path is opened.
-/

namespace DocFilter.Include

open Noting

/-! ### What becomes of a block -/

/-- Why the text of a file cannot be used. -/
def unreadable (path : String) : Failure → Problem
  | .os fault =>
    if fault.refusal.code = 2 then .notFound path else .unreadable path fault.message
  | failure => .unreadable path failure.message

section Settled
variable (convert : Converter) (b : CodeBlock) (c : Context) (w : World)

/-- What takes the place of a block that is met in a world: an error block, if there is something
wrong with what the block asks for, with the file or with the conversion, and else what the file
holds. -/
inductive Settled : Json → Prop where
  | refused {problem : Problem} : request w.cwd b c = .error problem →
      Settled (errorBlock (strip b.text) problem.message)
  | unread {r : Request} {failure : Failure} : request w.cwd b c = .ok r →
      w.textAt r.path = .error failure →
      Settled (errorBlock (strip b.text) (unreadable r.path failure).message)
  | unparsed {r : Request} {content : String} {failure : Failure} : request w.cwd b c = .ok r →
      w.textAt r.path = .ok content → r.mode = .parse →
      ((convert content).run w).1 = .error failure →
      Settled (errorBlock (strip b.text) failure.message)
  | code {r : Request} {content : String} : request w.cwd b c = .ok r →
      w.textAt r.path = .ok content → r.mode = .code → Settled (codeOf b content)
  | raw {r : Request} {content : String} : request w.cwd b c = .ok r →
      w.textAt r.path = .ok content → r.mode = .raw → Settled (rawOf b content)
  | parsed {r : Request} {content : String} {blocks a : Json} {items : List Json} :
      request w.cwd b c = .ok r → w.textAt r.path = .ok content → r.mode = .parse →
      ((convert content).run w).1 = .ok blocks → included r.path (.arr items) = .ok a → Settled a

end Settled

/-- What takes the place of a block is one node. -/
theorem Settled.isNode {convert : Converter} {b : CodeBlock} {c : Context} {w : World} {a : Json}
    (h : Settled convert b c w a) : a.isNode = true := by
  cases h with
  | parsed _ _ _ _ ha =>
    cases ha
    rfl
  | _ => rfl

/-- A converter that gives lists of blocks and fails only as a conversion, as long as programs write
text; nothing else of the world than its programs has an influence on it. -/
structure Dependable (convert : Converter) : Prop where
  ends : ∀ text w, w.WritesText → ∃ u, u.WritesText ∧
    ((∃ items, (convert text).run w = (.ok (.arr items), u)) ∨
      ∃ failure, (convert text).run w = (.error failure, u) ∧ failure.isConversion = true)
  congr : ∀ text w w', w.programs = w'.programs →
    ((convert text).run w).1 = ((convert text).run w').1

theorem isLaunchable_pandoc {executable : String} (h : '\x00' ∉ executable.toList) :
    Run.isLaunchable (Pandoc.ofExecutable (.str executable)).command = true := by
  simp [Run.isLaunchable, Pandoc.command, Pandoc.ofExecutable, Json.text?, h]

/-- Pandoc is dependable, whatever program stands for it. -/
theorem dependable_pandoc {executable : String} (h : '\x00' ∉ executable.toList) :
    Dependable (Pandoc.ofExecutable (.str executable)).blocks := by
  have hcommand := isLaunchable_pandoc h
  have hwords : Pandoc.words (Pandoc.ofExecutable (.str executable)).command =
      .ok [executable, "-f", "markdown", "-t", "json"] := rfl
  constructor
  · intro text w hw
    obtain ⟨u, hrun, hu⟩ := Pandoc.run_blocks _ hcommand hwords text w
    have htext (o : ProgramOutcome) (ho : w.programs.outcomes.head? = some o) : o.isText = true :=
      hw o (List.mem_of_head? ho)
    refine ⟨u, hu hw, ?_⟩
    rw [hrun]
    rcases Pandoc.blocksAfter_cases _ htext with ⟨items, hblocks⟩ | ⟨failure, hfails, hconversion⟩
    · exact .inl ⟨items, by rw [hblocks]⟩
    · exact .inr ⟨failure, by rw [hfails], hconversion⟩
  · intro text w w' heq
    obtain ⟨u, hrun, -⟩ := Pandoc.run_blocks _ hcommand hwords text w
    obtain ⟨u', hrun', -⟩ := Pandoc.run_blocks _ hcommand hwords text w'
    rw [hrun, hrun', heq]

/-! ### How the parts of a pass end -/

def nullByte : Failure := .badValue "embedded null byte"

def EndsInNullByte (failure : Failure) (w : World) : Prop := failure = nullByte ∧ w.WritesText

theorem report_ends (bad : Failure → World → Prop) (requested : String) (problem : Problem) :
    (ending World.WritesText bad).Holds (problem.report requested)
      (· = errorBlock requested problem.message) := by
  intro w hw
  refine .inl ⟨_, _, run_report requested problem w, ?_, rfl⟩
  split
  · exact hw.of_programs_eq (w.programs_log _)
  · exact hw

theorem debug_ends (bad : Failure → World → Prop) (origin text : String) :
    (ending World.WritesText bad).Holds (Run.debug origin text) fun _ => True := fun w hw =>
  .inl ⟨(), _, run_debug origin text w, hw.of_programs_eq (w.programs_log _), trivial⟩

theorem programs_readText (path : String) (w : World) :
    ((Run.readText path).run w).2.programs = w.programs := by
  rcases (run_readText path w).2 with hrun | hrun
  · rw [hrun]
  · rw [hrun]
    rfl

theorem run_fileText_of_null {path : String} (h : path.toList.contains '\x00' = true) (w : World) :
    (fileText path).run w = (.error nullByte, ((Run.readText path).run w).2) := by
  rw [run_fileText, World.textAt, if_pos h]
  rfl

/-- Without a null byte in its path, a file has a text or is found unusable. -/
theorem run_fileText_of_no_null {path : String} (h : path.toList.contains '\x00' = false)
    (w : World) :
    (fileText path).run w =
      (.ok ((w.textAt path).mapError (unreadable path)), ((Run.readText path).run w).2) := by
  have hreading : readingOf path (w.textAt path) =
      .ok ((w.textAt path).mapError (unreadable path)) := by
    rw [World.textAt, h, if_neg Bool.false_ne_true]
    cases w.disk.read w.here path with
    | error refusal => rfl
    | ok bytes =>
      dsimp only
      cases Utf8.decode bytes <;> rfl
  rw [run_fileText, hreading]

/-- A dependable converter gives a list of blocks, or its failure is shown. -/
theorem Dependable.run_fileBlocks {convert : Converter} (h : Dependable convert)
    (path content : String) {w : World} (hw : w.WritesText) :
    ∃ u, u.WritesText ∧
      ((∃ items, ((convert content).run w).1 = .ok (.arr items) ∧
          (fileBlocks convert path content).run w = (.ok (.ok (.arr items)), u)) ∨
        ∃ failure, ((convert content).run w).1 = .error failure ∧
          (fileBlocks convert path content).run w =
            (.ok (.error (.unparsed path failure.message)), u)) := by
  rw [Include.run_fileBlocks]
  obtain ⟨u, hu, ⟨items, hrun⟩ | ⟨failure, hrun, hconversion⟩⟩ := h.ends content w hw
  · rw [hrun]
    exact ⟨u, hu, .inl ⟨items, rfl, rfl⟩⟩
  · rw [hrun]
    refine ⟨u, hu, .inr ⟨failure, rfl, ?_⟩⟩
    dsimp only
    rw [if_pos hconversion]

theorem fileBlocks_ends {convert : Converter} (h : Dependable convert)
    (bad : Failure → World → Prop) (path content : String) :
    (ending World.WritesText bad).Holds (fileBlocks convert path content)
      fun r => ∀ v, r = .ok v → ∃ items, v = .arr items := by
  intro w hw
  obtain ⟨u, hu, ⟨items, -, hrun⟩ | ⟨failure, -, hrun⟩⟩ := h.run_fileBlocks path content hw
  · refine .inl ⟨_, u, hrun, hu, ?_⟩
    rintro v ⟨⟩
    exact ⟨items, rfl⟩
  · exact .inl ⟨_, u, hrun, hu, fun v hv => nomatch hv⟩

/-! ### How an expansion ends -/

/-- Whether a file is opened by a path with a null byte. -/
def Event.opensNull : Event → Bool
  | .opens path _ => path.toList.contains '\x00'
  | .expands .. => false

def EndsWatchedInNullByte (failure : Failure) (t : World × List Event) : Prop :=
  EndsInNullByte failure t.1 ∧ ∃ e ∈ t.2, e.opensNull = true

/-- Statements about watched runs that return if no path with a null byte is opened, and end in its
refusal otherwise. -/
abbrev watchedEnding : Logic Watched :=
  ending (StateOf World.WritesText fun e : Event => e.opensNull = false) EndsWatchedInNullByte

theorem watchedText_ends (c : Context) (path : String) :
    watchedEnding.Holds (watchedText c path) fun _ => True := by
  rintro ⟨w, noted⟩ ⟨hw, hnoted⟩
  have hrun {r : Except Failure (Except Problem String)} {u : World}
      (hread : (fileText path).run w = (r, u)) :
      (watchedText c path).run (w, noted) = (r, (u, noted ++ [.opens path c])) := by
    change (((fileText path).run w).1, (((fileText path).run w).2, noted ++ [.opens path c])) = _
    rw [hread]
  have hkept : ((Run.readText path).run w).2.WritesText :=
    hw.of_programs_eq (programs_readText path w)
  cases hnull : path.toList.contains '\x00' with
  | true =>
    exact .inr ⟨nullByte, _, hrun (run_fileText_of_null hnull w), ⟨rfl, hkept⟩,
      .opens path c, by simp, hnull⟩
  | false =>
    refine .inl ⟨_, _, hrun (run_fileText_of_no_null hnull w), ⟨hkept, fun e he => ?_⟩, trivial⟩
    rcases List.mem_append.mp he with he | he
    · exact hnoted e he
    · rw [List.mem_singleton.mp he]
      exact hnull

theorem note_expands_ends (v : Json) (c : Context) :
    watchedEnding.Holds (note (.expands v c) : Watched Unit) fun _ => True := by
  rintro ⟨w, noted⟩ ⟨hw, hnoted⟩
  refine .inl ⟨(), _, rfl, ⟨hw, fun e he => ?_⟩, trivial⟩
  rcases List.mem_append.mp he with he | he
  · exact hnoted e he
  · rw [List.mem_singleton.mp he]
    rfl

/-- What returns in any world may be done under watch. -/
theorem quiet_ends {α : Type} {x : Run α} {post : α → Prop}
    (h : (ending World.WritesText fun _ _ => False).Holds x post) :
    watchedEnding.Holds (quiet x) post :=
  ending_quiet h fun _ _ _ => False.elim

theorem included_ends {bad : Failure → World → Prop} {path : String} {v : Json}
    (h : ∃ items, v = .arr items) :
    (ending World.WritesText bad).Holds (MonadExcept.ofExcept (included path v) : Run Json)
      fun _ => True := by
  obtain ⟨items, rfl⟩ := h
  exact fun w hw => .inl ⟨_, w, rfl, hw, trivial⟩

def StaysList (v w : Json) : Prop := (∃ items, v = .arr items) → ∃ items, w = .arr items

theorem rebuilding_staysList :
    Rebuilding StaysList (fun _ _ => True) fun _ _ => True where
  leaf _ _ _ := id
  arr _ _ := ⟨_, rfl⟩
  obj _ _ h := nomatch h
  items_nil := trivial
  items_cons _ _ := trivial
  fields_nil := trivial
  fields_cons _ _ := trivial

theorem watchedWithin_ends {convert : Converter} (h : Dependable convert) (levels : Nat) (v : Json)
    (c : Context) : watchedEnding.Holds (watchedWithin convert levels v c) (StaysList v) := by
  induction levels generalizing v c with
  | zero =>
    refine watchedEnding.bind (note_expands_ends v c) fun _ _ => quiet_ends ?_
    exact (ending _ _).bind (debug_ends _ _ _) fun _ _ => (ending _ _).pure id
  | succ levels ih =>
    refine watchedEnding.bind (note_expands_ends v c) fun _ _ => ?_
    have hparts (b : CodeBlock) : PassParts watchedEnding (watchedText c) convert
        (watchedWithin convert levels) b c (fun _ => True) (fun v => ∃ items, v = .arr items) (fun _ v => ∃ items, v = .arr items)
        fun _ => True :=
      { cwd := quiet_ends fun w hw => .inl ⟨w.cwd, w, rfl, hw, trivial⟩
        debug := fun text => quiet_ends (debug_ends _ logName text)
        report := fun requested problem => quiet_ends fun w hw =>
          (report_ends _ requested problem w hw).mono fun _ _ => trivial
        load := fun path _ => fun t ht =>
          (watchedText_ends c path t ht).mono fun _ _ _ _ => trivial
        blocks := fun path content => quiet_ends (fileBlocks_ends h _ path content)
        expand := fun path v _ _ hv => fun t ht =>
          (ih v (c.descend path) t ht).mono fun _ hw => hw hv
        included := fun path v _ hv => quiet_ends (included_ends hv)
        code := fun _ => trivial
        raw := fun _ => trivial }
    refine watchedEnding.walk rebuilding_staysList (fun fs gs _ _ => ?_) v
    have hnode (w : Json) : StaysList (.obj fs) w := fun hlist => nomatch hlist
    split
    · exact fun t ht => ((hparts _).replacement t ht).mono fun w _ => hnode w
    · exact watchedEnding.pure (hnode _)

/-- An expansion returns, or it ends in the refusal of a null byte. -/
theorem expandWithin_ends {convert : Converter} (h : Dependable convert) (levels : Nat) (v : Json)
    (c : Context) :
    (ending World.WritesText EndsInNullByte).Holds (expandWithin convert levels v c)
      (StaysList v) := by
  intro w hw
  -- the expansion under watch goes the same way
  obtain ⟨hout, hworld⟩ :=
    (watchedWithin_agrees convert levels v c).ends w w [] rfl fun _ _ => trivial
  have hrun : (expandWithin convert levels v c).run w =
      (((watchedWithin convert levels v c).run (w, [])).1,
        ((watchedWithin convert levels v c).run (w, [])).2.1) := Prod.ext hout.symm hworld.symm
  rcases watchedWithin_ends h levels v c (w, []) ⟨hw, by simp⟩ with
    ⟨a, u, hends, hu, ha⟩ | ⟨failure, u, hends, hfails⟩
  · exact .inl ⟨a, u.1, by rw [hrun, hends], hu.1, ha⟩
  · exact .inr ⟨failure, u.1, by rw [hrun, hends], hfails.1⟩

/-! ### How a block ends -/

section Block
variable {convert : Converter} {b : CodeBlock} {c : Context} {w : World}

/-- A problem of a block is shown. -/
theorem report_settles (problem : Problem)
    (hproblem : Settled convert b c w (errorBlock (strip b.text) problem.message)) {u : World}
    (hu : u.WritesText) :
    Ends World.WritesText EndsInNullByte (problem.report (strip b.text)) u
      (Settled convert b c w) := by
  refine (report_ends _ _ problem u hu).mono ?_
  rintro _ rfl
  exact hproblem

theorem parsed_settles (h : Dependable convert) {r : Request} {content : String}
    (hrequest : request w.cwd b c = .ok r) (htext : w.textAt r.path = .ok content)
    (hmode : r.mode = .parse) {u : World} (hu : u.WritesText)
    (hprograms : u.programs = w.programs) :
    Ends World.WritesText EndsInNullByte
      (parsed convert (expand convert) (strip b.text) r.path content c) u
      (Settled convert b c w) := by
  have hsame := h.congr content u w hprograms
  unfold parsed
  obtain ⟨u', hu', ⟨items, hblocks, hrun⟩ | ⟨failure, hfails, hrun⟩⟩ :=
    h.run_fileBlocks r.path content hu
  · rw [hsame] at hblocks
    refine .bind_of_ok hrun ?_
    rcases expandWithin_ends h _ (.arr items) (c.descend r.path) u' hu' with
      ⟨nested, u'', hexpand, hu'', hlist⟩ | ⟨failure, u'', hexpand, hnull⟩
    · refine .bind_of_ok hexpand ?_
      obtain ⟨items', rfl⟩ := hlist ⟨items, rfl⟩
      obtain ⟨a, ha⟩ : ∃ a, included r.path (.arr items') = .ok a := ⟨_, rfl⟩
      have hincluded : (MonadExcept.ofExcept (included r.path (.arr items')) : Run Json).run u'' =
          (.ok a, u'') := by rw [ha, run_ofExcept]
      exact .inl ⟨a, u'', hincluded, hu'', .parsed hrequest htext hmode hblocks ha⟩
    · exact .bind_of_error hexpand hnull
  · rw [hsame] at hfails
    have hsettled : Settled convert b c w (errorBlock (strip b.text)
        (Problem.unparsed r.path failure.message).message) :=
      .unparsed hrequest htext hmode hfails
    exact .bind_of_ok hrun (report_settles (.unparsed r.path failure.message) hsettled hu')

/-- A block that is met in a world is settled, or the run ends in the refusal of a null byte. -/
theorem replacement_settles (h : Dependable convert) (b : CodeBlock) (c : Context)
    (hw : w.WritesText) :
    Ends World.WritesText EndsInNullByte (replacement fileText convert (expand convert) b c) w
      (Settled convert b c w) := by
  have hcwd : Run.cwd.run w = (.ok w.cwd, w) := rfl
  refine .bind_of_ok hcwd ?_
  cases hrequest : request w.cwd b c with
  | error problem => exact report_settles problem (.refused hrequest) hw
  | ok r =>
    have hread : ((Run.readText r.path).run w).2.WritesText :=
      hw.of_programs_eq (programs_readText r.path w)
    cases hnull : r.path.toList.contains '\x00' with
    | true => exact .bind_of_error (run_fileText_of_null hnull w) ⟨rfl, hread⟩
    | false =>
      refine .bind_of_ok (run_fileText_of_no_null hnull w) ?_
      cases htext : w.textAt r.path with
      | error failure => exact report_settles _ (.unread hrequest htext) hread
      | ok content =>
        have hkept (record : Log.Record) := hread.of_programs_eq (World.programs_log _ record)
        refine .bind_of_ok (run_debug _ _ _) ?_
        cases hmode : r.mode with
        | code => exact .inl ⟨_, _, rfl, hkept _, .code hrequest htext hmode⟩
        | raw => exact .inl ⟨_, _, rfl, hkept _, .raw hrequest htext hmode⟩
        | parse =>
          exact parsed_settles h hrequest htext hmode (hkept _)
            ((World.programs_log _ _).trans (programs_readText r.path w))

end Block

/-! ### How a pass ends -/

def visit (convert : Converter) (c : Context) (node : Json) : Run Json :=
  match accepts node with
  | some b => replacement fileText convert (expand convert) b c
  | none => pure node

/-- How a pass answers a node that it meets in a world: a node that asks for no file is left alone,
and a block that asks for one gives way to one node. Only a null byte is not answered. -/
inductive Answered (convert : Converter) (c : Context) (w : World) : Call Failure → Prop where
  | left {n : Json} : accepts n = none → Answered convert c w ⟨n, .ok n⟩
  | settled {n a : Json} {b : CodeBlock} : accepts n = some b → a.isNode = true →
      Settled convert b c w a → Answered convert c w ⟨n, .ok a⟩
  | refused {n : Json} {b : CodeBlock} : accepts n = some b →
      Answered convert c w ⟨n, .error nullByte⟩

section Pass
variable {convert : Converter} {c : Context} {w : World}

theorem visit_answers (h : Dependable convert) (hw : w.WritesText) (n : Json) :
    Answered convert c w ⟨n, ((visit convert c n).run w).1⟩ ∧
      ((visit convert c n).run w).2.WritesText := by
  unfold visit
  cases hn : accepts n with
  | none => exact ⟨.left hn, hw⟩
  | some b =>
    dsimp only
    rcases replacement_settles h b c hw with ⟨a, u, hrun, hu, ha⟩ | ⟨failure, u, hrun, rfl, hu⟩
    · rw [hrun]
      exact ⟨.settled hn ha.isNode ha, hu⟩
    · rw [hrun]
      exact ⟨.refused hn, hu⟩

/-- A pass that may expand something answers each node that it meets. -/
theorem pass_answers (h : Dependable convert) (v : Json) (hroom : c.isExhausted = false)
    (hw : w.WritesText) :
    ∃ calls, Handed (nodes v) calls ∧
      EndsAs (nodes v) calls (fun as => patched as v) ((expand convert v c).run w).1 ∧
      ∀ earlier call, earlier ++ [call] <+: calls →
        ∃ u, InTurn (visit convert c) w earlier u ∧ Answered convert c u call := by
  have hpass : expand convert v c = walk (visit convert c) v := by
    rw [expand_eq, hroom, if_neg Bool.false_ne_true]
    rfl
  obtain ⟨calls, hhanded, hends, hturn⟩ := inTurn_walk (visit convert c) v w
  rw [← hpass] at hends
  refine ⟨calls, hhanded, hends, fun earlier call hcall => ?_⟩
  obtain ⟨u, hearlier, houtcome⟩ := hturn.outcome_eq hcall
  have hu : u.WritesText :=
    hearlier.keeps (fun n u' hu' => (visit_answers h hu' n).2) hw
  refine ⟨u, hearlier, ?_⟩
  obtain ⟨n, outcome⟩ := call
  dsimp only at houtcome
  rw [houtcome]
  exact (visit_answers h hu n).1

end Pass

/-! ### Documents -/

theorem outline_of_isNode {v : Json} (h : v.isNode = true) : outline v = .obj [] := by
  cases v with
  | obj fields => rfl
  | _ => cases h

/-- Whether an object is a document shows in the outlines under its keys. -/
theorem isDocument_outlineFields (fs : Fields) :
    Document.isDocument (.obj (outlineFields fs)) = Document.isDocument (.obj fs) := by
  rw [Document.isDocument, Document.isDocument, field?_outlineFields]
  cases (Json.obj fs).field? "blocks" with
  | none => rfl
  | some v => rw [Option.map_some, Option.bind_some, Option.bind_some, items?_outline,
      Option.isSome_map]

/-- A document whose nodes are answered with nodes stays a document. -/
theorem isDocument_patched {as : List Json} (h : ∀ a ∈ as, outline a = .obj []) {doc : Json}
    (hlen : (nodes doc).length ≤ as.length) (hnode : doc.isNode = false)
    (hdoc : Document.isDocument doc = true) : Document.isDocument (patched as doc) = true := by
  cases doc with
  | obj fs =>
    rw [nodes_obj_of_not_isNode hnode] at hlen
    rw [patched, hnode, if_neg Bool.false_ne_true, ← isDocument_outlineFields,
      outlineFields_patchedFields h fs hlen, isDocument_outlineFields, hdoc]
  | arr items => cases hdoc
  | _ => simpa [patched] using hdoc

/-- The answers of a pass are nodes. -/
theorem outline_of_answered {convert : Converter} {c : Context} {w : World} {call : Call Failure}
    {fs : Fields} {a : Json} (h : Answered convert c w call) (hreceived : call.received = .obj fs)
    (ha : call.outcome = .ok a) : outline a = .obj [] := by
  cases h with
  | left _ =>
    cases ha
    dsimp only at hreceived
    rw [hreceived, outline]
  | settled _ hnode _ =>
    cases ha
    exact outline_of_isNode hnode
  | refused _ => cases ha

theorem expand_isDocument {convert : Converter} (h : Dependable convert) {doc result : Json}
    {c : Context} {w : World} (hw : w.WritesText)
    (hresult : ((expand convert doc c).run w).1 = .ok result) (hnode : doc.isNode = false)
    (hdoc : Document.isDocument doc = true) : Document.isDocument result = true := by
  cases hroom : c.isExhausted with
  | true =>
    rw [expand_eq, hroom, if_pos rfl] at hresult
    cases hresult
    exact hdoc
  | false =>
    obtain ⟨calls, hhanded, hends, hanswered⟩ := pass_answers h doc hroom hw
    rw [hresult] at hends
    obtain ⟨hlen, hok, rfl⟩ := hends
    refine isDocument_patched (fun a ha => ?_) ?_ hnode hdoc
    · obtain ⟨call, hcall, ha⟩ := mem_answersOf.mp ha
      obtain ⟨i, hi⟩ := List.mem_iff_getElem?.mp hcall
      obtain ⟨fields, -, -, hreceived⟩ := hhanded i call hi
      obtain ⟨earlier, later, hsplit⟩ := List.append_of_mem hcall
      obtain ⟨u, -, hanswer⟩ := hanswered earlier call
        ⟨later, by rw [List.append_assoc, List.singleton_append, hsplit]⟩
      exact outline_of_answered hanswer hreceived ha
    · rw [length_answersOf hok, hlen]

/-! ### Runs -/

/-- An option that is a text, if it is given. -/
def IsPathOption (v : Json) : Prop := v = .null ∨ ∃ path, v = .str path

theorem IsPathOption.pathOption_isOk {v : Json} (h : IsPathOption v) (htrue : v.isTruthy = true) :
    ∃ path, pathOption v = .ok path := by
  rcases h with rfl | ⟨path, rfl⟩
  · cases htrue
  · exact ⟨path, rfl⟩

section Start
variable {s : Settings}

theorem Settings.sourcePath_isOk (h : IsPathOption s.source) (cwd : String) :
    ∃ source, s.sourcePath cwd = .ok source := by
  unfold sourcePath
  split
  · next htrue =>
    obtain ⟨path, hpath⟩ := h.pathOption_isOk htrue
    exact ⟨_, by rw [hpath]; rfl⟩
  · exact ⟨none, rfl⟩

theorem Settings.rootBase_isOk (h : IsPathOption s.baseDir) (source : Option String) :
    ∃ base, s.rootBase source = .ok base := by
  have hused {v : Json} (hv : IsPathOption v) :
      ∃ base, (if v.isTruthy then pathOption v else .ok ".") = .ok base := by
    split
    · next htrue => exact hv.pathOption_isOk htrue
    · exact ⟨".", rfl⟩
  cases source with
  | none => exact hused h
  | some path =>
    refine hused ?_
    dsimp only
    split
    · exact .inr ⟨_, rfl⟩
    · exact h

/-- With paths for options there is a context to start in. -/
theorem Settings.contextIn_isOk (hbase : IsPathOption s.baseDir) (hsource : IsPathOption s.source)
    (cwd : String) : ∃ c, s.contextIn cwd = .ok c := by
  obtain ⟨source, hsource⟩ := sourcePath_isOk hsource cwd
  obtain ⟨base, hbase⟩ := rootBase_isOk hbase source
  refine ⟨⟨Path.absolute cwd base, source.toList, 0, s.limit⟩, ?_⟩
  rw [contextIn, hsource]
  simp only [bind, Except.bind, hbase]
  rfl

end Start

/-- Settings as callers give them: paths are texts, if they are given, and a program that can be
launched as pandoc converts. -/
structure Settings.Ordinary (s : Settings) : Prop where
  baseDir : IsPathOption s.baseDir
  source : IsPathOption s.source
  convert : ∃ executable : String, '\x00' ∉ executable.toList ∧
    s.convert = (Pandoc.ofExecutable (.str executable)).blocks

namespace Settings.Ordinary
variable {s : Settings} {w : World}

theorem dependable (h : s.Ordinary) : Dependable s.convert := by
  obtain ⟨executable, hexecutable, hconvert⟩ := h.convert
  rw [hconvert]
  exact dependable_pandoc hexecutable

theorem contextIn_isOk (h : s.Ordinary) (cwd : String) : ∃ c, s.contextIn cwd = .ok c :=
  Settings.contextIn_isOk h.baseDir h.source cwd

/-- A run returns without having opened a path with a null byte, or ends in the refusal of one. -/
theorem applyTo_ends (h : s.Ordinary) (doc : Json) (hw : w.WritesText) :
    (∃ result, ((s.applyTo doc).run w).1 = .ok result ∧
        ∀ e ∈ s.events doc w, e.opensNull = false) ∨
      ((s.applyTo doc).run w).1 = .error nullByte ∧ ∃ e ∈ s.events doc w, e.opensNull = true := by
  obtain ⟨c, hc⟩ := h.contextIn_isOk w.cwd
  have hrun := s.run_watched doc w
  rw [Settings.run_watched_of_ok doc hc] at hrun
  rcases watchedWithin_ends h.dependable c.remaining doc c (w, []) ⟨hw, by simp⟩ with
    ⟨result, t, hends, ⟨-, hfine⟩, -⟩ | ⟨failure, t, hends, ⟨rfl, -⟩, hnull⟩
  · obtain ⟨hout, hstate⟩ := Prod.mk.inj (hrun.symm.trans hends)
    rw [← hstate] at hfine
    exact .inl ⟨result, hout, hfine⟩
  · obtain ⟨hout, hstate⟩ := Prod.mk.inj (hrun.symm.trans hends)
    rw [← hstate] at hnull
    exact .inr ⟨hout, hnull⟩

theorem applyTo_isDocument (h : s.Ordinary) {doc result : Json} (hw : w.WritesText)
    (hresult : ((s.applyTo doc).run w).1 = .ok result) (hnode : doc.isNode = false)
    (hdoc : Document.isDocument doc = true) : Document.isDocument result = true := by
  obtain ⟨c, hc⟩ := h.contextIn_isOk w.cwd
  rw [Settings.run_applyTo_of_ok doc hc] at hresult
  exact expand_isDocument h.dependable hw hresult hnode hdoc

end Settings.Ordinary

/-- A run with settings as callers give them ends in the refusal of a null byte if a path with one
is opened, and else it returns; a document becomes a document. Every pass that may expand something
answers each node that it meets: one that asks for no file is left alone, and a block that asks for
one gives way to one node, which is an error block if anything is wrong with it. -/
theorem failures_shown_except_null_bytes {s : Settings} (hs : s.Ordinary) (doc : Json) {w : World}
    (hw : w.WritesText) :
    ((∃ e ∈ s.events doc w, e.opensNull = true) →
        ((s.applyTo doc).run w).1 = .error (.badValue "embedded null byte")) ∧
      ((∀ e ∈ s.events doc w, e.opensNull = false) →
        ∃ result, ((s.applyTo doc).run w).1 = .ok result ∧
          (doc.isNode = false → Document.isDocument doc = true →
            Document.isDocument result = true)) ∧
      ∀ v c u, u.WritesText → c.isExhausted = false →
        ∃ calls, Handed (nodes v) calls ∧
          EndsAs (nodes v) calls (fun as => patched as v) ((expand s.convert v c).run u).1 ∧
          ∀ earlier call, earlier ++ [call] <+: calls →
            ∃ u', InTurn (visit s.convert c) u earlier u' ∧ Answered s.convert c u' call := by
  refine ⟨?_, ?_, fun v c u hu hroom => pass_answers hs.dependable v hroom hu⟩
  · rintro ⟨e, he, hnull⟩
    rcases hs.applyTo_ends doc hw with ⟨-, -, hfine⟩ | ⟨hout, -⟩
    · rw [hfine e he] at hnull
      cases hnull
    · exact hout
  · intro hfine
    rcases hs.applyTo_ends doc hw with ⟨result, hout, -⟩ | ⟨-, e, he, hnull⟩
    · exact ⟨result, hout, hs.applyTo_isDocument hw hout⟩
    · rw [hfine e he] at hnull
      cases hnull

/-! ### Two runs -/

/-- Settings without any path, for a depth of ten. -/
def plainSettings : Settings where
  baseDir := .null
  source := .null
  limit := ⟨10, "10"⟩
  convert := (Pandoc.ofExecutable (.str "pandoc")).blocks

theorem ordinary_plainSettings : plainSettings.Ordinary :=
  ⟨.inl rfl, .inl rfl, "pandoc", by decide, rfl⟩

/-- A world with one file, in which pandoc fails once and is not found afterwards. -/
def failingWorld : World :=
  { World.initial ⟨[(["w"], .directory), (["w", "a"], .file [97])]⟩ "/w" with
    programs := ⟨[.exited 2 [] [110, 111]], []⟩ }

/-- A document that asks for a file that is not parsed, and for one that is missing. -/
def failingDoc : Json := Node.document [includeOf "a", includeOf "b"] (.obj [])

theorem failures_shown_for_failing_pandoc :
    plainSettings.Ordinary ∧ failingWorld.WritesText ∧
      (∀ e ∈ plainSettings.events failingDoc failingWorld, e.opensNull = false) ∧
      ∃ result, ((plainSettings.applyTo failingDoc).run failingWorld).1 = .ok result ∧
        Document.isDocument result = true ∧
        ((nodes result).filterMap CodeBlock.ofNode?).map (·.text) =
          ["ERROR including file: a\nPandoc failed: no",
            "ERROR including file: b\nFile not found: /w/b"] := by
  have hw : failingWorld.WritesText := by
    unfold World.WritesText
    decide +kernel
  have hfine : ∀ e ∈ plainSettings.events failingDoc failingWorld, e.opensNull = false := by
    decide +kernel
  have hshown : (((plainSettings.applyTo failingDoc).run failingWorld).1.toOption.map fun result =>
      ((nodes result).filterMap CodeBlock.ofNode?).map (·.text)) =
        some ["ERROR including file: a\nPandoc failed: no",
          "ERROR including file: b\nFile not found: /w/b"] := by
    decide +kernel
  obtain ⟨-, hreturns, -⟩ :=
    failures_shown_except_null_bytes ordinary_plainSettings failingDoc hw
  obtain ⟨result, hout, hdoc⟩ := hreturns hfine
  rw [hout] at hshown
  exact ⟨ordinary_plainSettings, hw, hfine, result, hout, hdoc rfl rfl, Option.some.inj hshown⟩

/-- A document that asks for a file under a name with a null byte. -/
def nullByteDoc : Json := Node.document [includeOf "a\x00b"] (.obj [])

/-- A null byte in the name of a file ends the run, and no error block is shown for it. -/
theorem null_byte_ends_run :
    ((plainSettings.applyTo nullByteDoc).run (.initial ⟨[]⟩ "/")).1 =
      .error (.badValue "embedded null byte") := by
  have hw : (World.initial ⟨[]⟩ "/").WritesText := fun _ ho => nomatch ho
  have hopens :
      (plainSettings.events nullByteDoc (.initial ⟨[]⟩ "/")).any Event.opensNull = true := by
    decide +kernel
  obtain ⟨e, he, hnull⟩ := List.any_eq_true.mp hopens
  rcases ordinary_plainSettings.applyTo_ends nullByteDoc hw with ⟨-, -, hfine⟩ | ⟨hout, -⟩
  · rw [hfine e he] at hnull
    cases hnull
  · exact hout

end DocFilter.Include
