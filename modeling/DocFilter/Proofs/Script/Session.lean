import DocFilter.Proofs.Walk.Sweep
import DocFilter.Proofs.World
import DocFilter.Script.Filter

/-!
# Sessions of scripts

What a pass runs, whatever the interpreter. A session runs blocks one after the other: each starts
in the namespace that the one before has left, and runs up to and including the first statement that
raises an exception. The pass plays the session of its blocks from a fresh namespace and leaves an
empty one.
-/

namespace DocFilter

namespace Script

namespace Interpreter
variable {I : Interpreter}

/-! ### Scripts -/

/-- Statements run in turn, up to and including the first that raises an exception. -/
inductive Runs (I : Interpreter) :
    List I.Statement → Machine I.Space → Except I.Raised Unit → Machine I.Space → Prop
  | done (m : Machine I.Space) : Runs I [] m (.ok ()) m
  | returns {s : I.Statement} {rest : List I.Statement} {m m' m'' : Machine I.Space}
      {outcome : Except I.Raised Unit} :
      (I.run s).run m = (.ok (), m') → Runs I rest m' outcome m'' →
      Runs I (s :: rest) m outcome m''
  | raises {s : I.Statement} {rest : List I.Statement} {m m' : Machine I.Space} {r : I.Raised} :
      (I.run s).run m = (.error r, m') → Runs I (s :: rest) m (.error r) m'

/-- A script under way that has been warned. -/
def warned (m : Machine I.Space) (warnings : String) : Machine I.Space :=
  { m with error := m.error ++ warnings }

/-- The end of a script: its trailing expression, if it has one, is compiled and evaluated once, and
the text of its value is the result. -/
inductive Ends (I : Interpreter) :
    Option I.Expression → Machine I.Space → Except I.Raised String → Machine I.Space → Prop
  | nothing (m : Machine I.Space) : Ends I none m (.ok noResult) m
  | refused {e : I.Expression} {m : Machine I.Space} {warnings : String} {r : I.Raised} :
      I.compileExpression e = (warnings, .error r) →
      Ends I (some e) m (.error r) (warned m warnings)
  | raises {e : I.Expression} {m m' : Machine I.Space} {warnings : String} {r : I.Raised} :
      I.compileExpression e = (warnings, .ok ()) →
      (I.evaluate e).run (warned m warnings) = (.error r, m') → Ends I (some e) m (.error r) m'
  | returns {e : I.Expression} {m m' : Machine I.Space} {warnings : String} {v : I.Value} :
      I.compileExpression e = (warnings, .ok ()) →
      (I.evaluate e).run (warned m warnings) = (.ok v, m') →
      Ends I (some e) m (.ok (I.shown m'.space v)) m'

/-- A block of a text, started in a namespace: what it gives, and the namespace that it leaves. What
it has written starts with what reading and compiling warn of. -/
inductive Plays (I : Interpreter) (source : String) (space : I.Space) :
    Except Ending Outcome → I.Space → Prop
  | unread {warnings : String} {e : Ending} :
      I.read source = (warnings, .error e) →
      Plays I source space (.ok ⟨noResult, "", warnings, some e⟩) space
  | refused {warnings more : String} {statements : List I.Statement} {r : I.Raised} :
      I.read source = (warnings, .ok statements) →
      I.compile (I.split statements).1 = (more, .error r) →
      Plays I source space (I.raised (warned ⟨space, "", warnings⟩ more) r) space
  | stopped {warnings more : String} {statements : List I.Statement} {m : Machine I.Space}
      {r : I.Raised} :
      I.read source = (warnings, .ok statements) →
      I.compile (I.split statements).1 = (more, .ok ()) →
      Runs I (I.split statements).1 (warned ⟨space, "", warnings⟩ more) (.error r) m →
      Plays I source space (I.raised m r) m.space
  | spoiled {warnings more : String} {statements : List I.Statement} {m m' : Machine I.Space}
      {r : I.Raised} :
      I.read source = (warnings, .ok statements) →
      I.compile (I.split statements).1 = (more, .ok ()) →
      Runs I (I.split statements).1 (warned ⟨space, "", warnings⟩ more) (.ok ()) m →
      Ends I (I.split statements).2 m (.error r) m' →
      Plays I source space (I.raised m' r) m'.space
  | finished {warnings more : String} {statements : List I.Statement} {m m' : Machine I.Space}
      {text : String} :
      I.read source = (warnings, .ok statements) →
      I.compile (I.split statements).1 = (more, .ok ()) →
      Runs I (I.split statements).1 (warned ⟨space, "", warnings⟩ more) (.ok ()) m →
      Ends I (I.split statements).2 m (.ok text) m' →
      Plays I source space (.ok ⟨text, m'.output, m'.error, none⟩) m'.space

theorem run_compiled (answer : String × Except I.Raised Unit) (m : Machine I.Space) :
    (I.compiled answer).run m = (answer.2, warned m answer.1) := by
  obtain ⟨warnings, outcome⟩ := answer
  cases outcome <;> rfl

theorem runs_forM (body : List I.Statement) (m : Machine I.Space) :
    Runs I body m ((body.forM I.run).run m).1 ((body.forM I.run).run m).2 := by
  induction body generalizing m with
  | nil => exact .done m
  | cons s rest ih =>
    have hcons : (s :: rest).forM I.run = I.run s >>= fun _ => rest.forM I.run := rfl
    rw [hcons]
    cases hs : (I.run s).run m with
    | mk outcome m' =>
      cases outcome with
      | ok _ =>
        rw [run_bind_of_ok hs]
        exact .returns hs (ih m')
      | error r =>
        rw [run_bind_of_error hs]
        exact .raises hs

theorem ends_finish (trailing : Option I.Expression) (m : Machine I.Space) :
    Ends I trailing m ((I.finish trailing).run m).1 ((I.finish trailing).run m).2 := by
  cases trailing with
  | none => exact .nothing m
  | some e =>
    have hcompiled := run_compiled (I.compileExpression e) m
    rw [finish]
    generalize hanswer : I.compileExpression e = answer at hcompiled ⊢
    obtain ⟨warnings, _ | _⟩ := answer
    · rw [run_bind_of_error hcompiled]
      exact .refused hanswer
    · rw [run_bind_of_ok hcompiled]
      generalize he : (I.evaluate e).run (warned m warnings) = ending
      obtain ⟨_ | _, m'⟩ := ending
      · rw [run_bind_of_error he]
        exact .raises hanswer he
      · rw [run_bind_of_ok he]
        exact .returns hanswer he

theorem plays_execute (source : String) (space : I.Space) :
    Plays I source space (I.execute source space).1 (I.execute source space).2 := by
  unfold execute
  generalize hread : I.read source = reading
  obtain ⟨warnings, _ | statements⟩ := reading
  · exact .unread hread
  · dsimp only
    have hcompiled := run_compiled (I.compile (I.split statements).1) ⟨space, "", warnings⟩
    rw [runScript]
    generalize hanswer : I.compile (I.split statements).1 = answer at hcompiled ⊢
    obtain ⟨more, _ | _⟩ := answer
    · rw [run_bind_of_error hcompiled]
      exact .refused hread hanswer
    · have hruns := runs_forM (I.split statements).1 (warned ⟨space, "", warnings⟩ more)
      rw [run_bind_of_ok hcompiled]
      generalize hbody : ((I.split statements).1.forM I.run).run _ = body at hruns ⊢
      obtain ⟨_ | _, m⟩ := body
      · rw [run_bind_of_error hbody]
        exact .stopped hread hanswer hruns
      · have hends := ends_finish (I.split statements).2 m
        rw [run_bind_of_ok hbody]
        generalize (I.finish (I.split statements).2).run m = ending at hends ⊢
        obtain ⟨_ | _, m'⟩ := ending
        · exact .spoiled hread hanswer hruns hends
        · exact .finished hread hanswer hruns hends

end Interpreter

/-! ### Blocks -/

/-- A block that was run, and what it gave. -/
structure Played where
  block : CodeBlock
  answer : Except Ending Outcome

namespace Played

/-- What was put in the place of a block that was run: one code block with its attributes, which
shows what it gave, unless that is an exception that nothing contains. -/
def rewriting (p : Played) : BlockFilter.Rewriting where
  block := p.block
  outcome := match p.answer with
    | .ok outcome => .ok (outcomeNode p.block outcome)
    | .error e => .error (.interrupted e.kind e.text)

def notes (p : Played) : List Log.Record :=
  match p.answer with
  | .ok outcome => (outcome.exception.map raisedNote).toList
  | .error _ => []

end Played

namespace Interpreter
variable {I : Interpreter}

/-- Blocks run one after the other. Each starts in the namespace that the one before has left. -/
inductive Session (I : Interpreter) (start : I.Space) : List Played → I.Space → Prop
  | start : Session I start [] start
  | block {played : List Played} {space left : I.Space} {answer : Except Ending Outcome}
      (b : CodeBlock) : Session I start played space → Plays I b.text space answer left →
      Session I start (played ++ [⟨b, answer⟩]) left

theorem run_replacement (b : CodeBlock) (t : I.Space × World) :
    let p : Played := ⟨b, (I.execute b.text t.1).1⟩
    (merged (I.replacement b)).run t =
      (p.rewriting.outcome, ((I.execute b.text t.1).2, p.notes.foldl World.log t.2)) := by
  unfold replacement
  rw [merged_bind, run_bind_of_ok (run_merged_getState t)]
  obtain ⟨answer, left⟩ := I.execute b.text t.1
  dsimp only
  rw [merged_bind, run_bind_of_ok (run_merged_setState left t)]
  cases answer with
  | error e => rfl
  | ok outcome =>
    unfold Played.rewriting Played.notes
    dsimp only
    cases outcome.exception <;> rfl

/-- Blocks rewritten one after the other play a session. -/
theorem session_of_rewrites {t u : I.Space × World} {rewritings : List BlockFilter.Rewriting}
    (h : I.blockFilter.Rewrites t rewritings u) :
    ∃ played, rewritings = played.map Played.rewriting ∧ Session I t.1 played u.1 ∧
      u.2 = (played.flatMap Played.notes).foldl World.log t.2 := by
  induction h with
  | start => exact ⟨[], rfl, .start, rfl⟩
  | @block done u b _ ih =>
    obtain ⟨played, hdone, hsession, hworld⟩ := ih
    have hrun : (merged (I.blockFilter.rewrite b)).run u = _ := run_replacement b u
    refine ⟨played ++ [⟨b, (I.execute b.text u.1).1⟩], ?_, ?_, ?_⟩
    · rw [hrun, List.map_append, ← hdone]
      rfl
    · rw [hrun]
      exact .block b hsession (plays_execute b.text u.1)
    · rw [hrun, List.flatMap_append, List.foldl_append, ← hworld, List.flatMap_singleton]

theorem givesObjects_blockFilter (I : Interpreter) : I.blockFilter.GivesObjects := by
  intro b t a h
  have hrun : (merged (I.blockFilter.rewrite b)).run t = _ := run_replacement b t
  rw [hrun] at h
  unfold Played.rewriting at h
  dsimp only at h
  split at h
  · cases h
    rfl
  · cases h

theorem run_pass (I : Interpreter) (doc : Json) (t : I.Space × World) :
    (merged (I.pass doc)).run t =
      (((merged (I.blockFilter.sweep doc)).run (I.fresh, t.2)).1,
        (I.empty, ((merged (I.blockFilter.sweep doc)).run (I.fresh, t.2)).2.2)) := by
  unfold pass
  rw [merged_bind, run_bind_of_ok (run_merged_setState I.fresh t), merged_bind,
    run_bind_of_ok (run_merged_attempt _ _), merged_bind,
    run_bind_of_ok (run_merged_setState I.empty _), run_merged_ofExcept]

/-! ### Passes -/

/-- A pass plays the session of its blocks from a fresh namespace, whatever the namespace held
before, and leaves an empty one. The blocks are those that the walk hands the filter, and every
other node is left as it was. The pass fails as the last block does, if that raises an exception
that nothing contains. It logs the exceptions that are shown and changes the world in no other way.
The texts of the blocks are those of the document in the order of its nodes, as far as the pass
comes; if code blocks hold no nodes, so are the blocks. -/
theorem pass_plays_session (I : Interpreter) (doc : Json) (space : I.Space) (w : World) :
    let ending := (merged (I.pass doc)).run (space, w)
    ∃ visits played left, Handed (nodes doc) visits ∧
      EndsAs (nodes doc) visits (fun as => patched as doc) ending.1 ∧
      (∀ visit ∈ visits, I.blockFilter.block? visit.received = none →
        visit.outcome = .ok visit.received) ∧
      I.blockFilter.rewritings visits = played.map Played.rewriting ∧
      Session I I.fresh played left ∧
      (∀ failure, ending.1 = .error failure ↔
        ∃ b e, played.getLast? = some ⟨b, .error e⟩ ∧ failure = .interrupted e.kind e.text) ∧
      ending.2 = (I.empty, (played.flatMap Played.notes).foldl World.log w) ∧
      played.map (·.block.text) =
        ((nodes doc).take visits.length).filterMap
          (fun n => (I.blockFilter.block? n).map (·.text)) ∧
      (BlockFilter.FlatBlocks doc →
        played.map (·.block) =
          ((nodes doc).take visits.length).filterMap I.blockFilter.block?) := by
  obtain ⟨visits, hswept⟩ := I.blockFilter.sweptBy_sweep doc (I.fresh, w)
  obtain ⟨played, hrewritings, hsession, hworld⟩ := session_of_rewrites hswept.rewrites
  have hleft := (BlockFilter.rewrites_of_inTurn hswept.inTurn).2
  have htexts := hswept.texts_eq I.givesObjects_blockFilter
  have hblocks := hswept.blocks_eq I.givesObjects_blockFilter
  rw [hrewritings, List.map_map] at htexts hblocks
  -- what comes after the sweep empties the namespace and keeps the outcome
  rw [run_pass]
  refine ⟨visits, played, _, hswept.handed, hswept.ends, hleft, hrewritings, hsession, ?_, ?_,
    htexts, hblocks⟩
  · intro failure
    rw [hswept.error_iff, hrewritings, List.getLast?_map]
    constructor
    · rintro ⟨b, hb⟩
      obtain ⟨p, hp, hrewriting⟩ := Option.map_eq_some_iff.mp hb
      obtain ⟨block, answer⟩ := p
      cases answer with
      | ok outcome => cases hrewriting
      | error e =>
        cases hrewriting
        exact ⟨block, e, hp, rfl⟩
    · rintro ⟨b, e, hp, rfl⟩
      exact ⟨b, by rw [hp]; rfl⟩
  · rw [hworld]

end Interpreter

def blockOf (source : String) : Json := CodeBlock.toNode ⟨source, ⟨"", [.str "python-exec"], []⟩⟩

/-- What the code blocks of a document show. -/
def shownIn (doc : Json) : List String :=
  (nodes doc).filterMap fun n => (CodeBlock.ofNode? n).map (·.text)

/-- The trailing expression of the first block is refused when it is compiled. -/
def refusedAtEnd : Json := .arr [blockOf "x = 1\nprint(x, end='', end='')", blockOf "x"]

/-- A block that is not compiled as a whole has run all the same as far as its trailing expression,
and the next block sees the name that it has assigned. -/
theorem refused_trailing_expression_leaves_effects :
    let ending := (merged (pass refusedAtEnd)).run (.empty, World.initial ⟨[]⟩ "/")
    ending.1.toOption.map shownIn = some
        ["# Original code:\nx = 1\nprint(x, end='', end='')\n\n# Execution result:\n" ++
          "ERROR: SyntaxError: keyword argument repeated: end (<python-exec>, line 2)",
          "# Original code:\nx\n\n# Execution result:\nResult:\n1"] ∧
      (execute "x" .fresh).1.toOption.map (·.text) =
        some "ERROR: NameError: name 'x' is not defined" := by
  decide +kernel

end Script

end DocFilter
