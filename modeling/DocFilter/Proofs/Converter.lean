import DocFilter.Converter
import DocFilter.Proofs.World

/-!
# Launches of pandoc

What a text of markup becomes depends on how the launch of pandoc ends, and on nothing else of the
world. If what programs write is text, then a conversion gives a list of blocks, or fails as a
conversion.
-/

namespace DocFilter

/-! ### Launches -/

/-- The most digits that a whole number may have where one is read. -/
def Json.digitLimit : Nat := 4300

/-- The characters of a JSON text outside its strings. -/
def Json.outsideStrings (inString : Bool) : List Char → List Char
  | [] => []
  | '\\' :: c :: cs =>
    if inString then outsideStrings true cs else '\\' :: outsideStrings false (c :: cs)
  | '"' :: cs => '"' :: outsideStrings (!inString) cs
  | c :: cs => if inString then outsideStrings true cs else c :: outsideStrings false cs

/-- Whether nothing in a text goes beyond what JSON can be read of: there is no half of a surrogate
pair, and outside the strings there are never more digits in a row than a whole number may have. -/
def Json.isHoldable (text : String) : Bool :=
  (match parse text with
    | .ok _ => true
    | .error fault => fault.mistake ≠ .halfPair) &&
  ((outsideStrings false text.toList).splitOnP (!·.isDigit)).all (·.length ≤ digitLimit)

/-- Whether an outcome shows no bytes that are not text, and nothing that JSON cannot be read of. -/
def ProgramOutcome.isText : ProgramOutcome → Bool
  | .exited _ stdout stderr =>
    (Pandoc.received stdout).toOption.any Json.isHoldable && (Pandoc.received stderr).isOk
  | .refused .. => true

def World.WritesText (w : World) : Prop := ∀ outcome ∈ w.programs.outcomes, outcome.isText = true

/-- What a launch gives if it ends in a certain way; without an outcome no program is found. -/
def launched (command : List Json) :
    Option ProgramOutcome → Except Failure (Int × List UInt8 × List UInt8)
  | none => .error (.os ⟨.missing, command.head?.map Json.shownInside⟩)
  | some (.exited code stdout stderr) => .ok (code, stdout, stderr)
  | some (.refused code text) =>
    .error (.os ⟨.other code text, command.head?.map Json.shownInside⟩)

def World.launching (w : World) (command : List Json) (input : String) : World :=
  { w with programs := ⟨w.programs.outcomes.tail, w.programs.launches ++ [⟨command, input⟩]⟩ }

theorem run_launch {command : List Json} (hcommand : Run.isLaunchable command = true)
    (input : String) (w : World) :
    (Run.launch command input).run w =
      (launched command w.programs.outcomes.head?, w.launching command input) := by
  obtain ⟨_, _, _, _, _, _, _, ⟨outcomes, _⟩, _, _, _, _, _⟩ := w
  unfold Run.launch
  rw [hcommand]
  cases outcomes with
  | nil => rfl
  | cons outcome rest => cases outcome <;> rfl

/-- A command line with a null byte is refused, and nothing is launched. -/
theorem run_launch_of_null {command : List Json} (hcommand : Run.isLaunchable command = false)
    (input : String) (w : World) :
    (Run.launch command input).run w = (.error (.badValue "embedded null byte"), w) := by
  unfold Run.launch
  rw [hcommand]
  rfl

theorem World.WritesText.launching {w : World} (h : w.WritesText) (command : List Json)
    (input : String) : (w.launching command input).WritesText :=
  fun outcome ho => h outcome (List.mem_of_mem_tail ho)

theorem World.WritesText.of_programs_eq {w w' : World} (h : w.WritesText)
    (heq : w'.programs = w.programs) : w'.WritesText := fun outcome ho =>
  h outcome (by rwa [heq] at ho)

/-! ### Documents -/

/-- The document that a text writes, without a word about what it lacks. -/
def Document.written (text : String) (source : String) : Except Failure Json :=
  match Json.parse text with
  | .error fault => .error (unread fault text (.notJson source (some source)))
  | .ok v => if isDocument v then .ok v else .error (.notDocument source (some source))

theorem Document.run_ofText (text : String) {source : String} (hsource : source ≠ "") (w : World) :
    ∃ u, (ofText text (some source)).run w = (written text source, u) ∧
      u.programs = w.programs := by
  unfold ofText written
  dsimp only
  rw [if_neg hsource]
  cases Json.parse text with
  | error fault => exact ⟨w, rfl, rfl⟩
  | ok v =>
    dsimp only
    cases isDocument v with
    | false => exact ⟨w, rfl, rfl⟩
    | true =>
      cases (v.field? "pandoc-api-version").isNone with
      | false => exact ⟨w, rfl, rfl⟩
      | true => exact ⟨w.log _, rfl, w.programs_log _⟩

/-- A text that can be held writes a document, or is refused as one. -/
theorem Document.written_cases {text : String} (h : Json.isHoldable text = true)
    (source : String) :
    (∃ doc, written text source = .ok doc ∧ isDocument doc = true) ∨
      ∃ failure, written text source = .error failure ∧ failure.category? = some .parsing := by
  unfold written
  unfold Json.isHoldable at h
  cases hparse : Json.parse text with
  | error fault =>
    rw [hparse] at h
    have hmistake : fault.mistake ≠ .halfPair := by simpa using (Bool.and_eq_true_iff.mp h).1
    dsimp only
    rw [unread, if_neg hmistake]
    exact .inr ⟨_, rfl, rfl⟩
  | ok v =>
    dsimp only
    cases hv : isDocument v with
    | false => exact .inr ⟨_, rfl, rfl⟩
    | true => exact .inl ⟨v, rfl, hv⟩

/-! ### Conversions -/

namespace Pandoc

/-- The document that a launch gives if it ends in a certain way. -/
def documentAfter (p : Pandoc) (outcome : Option ProgramOutcome) : Except Failure Json :=
  match launched p.command outcome with
  | .error (.os fault) => .error (.converterNotStarted p.command fault)
  | .error failure => .error failure
  | .ok (code, stdout, stderr) =>
    match received stdout, received stderr with
    | .error failure, _ => .error failure
    | .ok _, .error failure => .error failure
    | .ok text, .ok diagnostics =>
      if code != 0 then .error (.converterFailed p.command (strip diagnostics))
      else match Document.written text "pandoc output" with
        | .ok doc => .ok doc
        | .error failure =>
          if failure.category? = some .parsing then .error (.converterOutput p.command failure)
          else .error failure

/-- The blocks that a launch gives if it ends in a certain way. -/
def blocksAfter (p : Pandoc) (outcome : Option ProgramOutcome) : Except Failure Json :=
  (p.documentAfter outcome).map fun doc => (doc.field? "blocks").getD .null

section Launchable
variable (p : Pandoc) (hcommand : Run.isLaunchable p.command = true)
include hcommand

theorem run_parse {line : List String} (hwords : words p.command = .ok line) (markup : String)
    (w : World) :
    ∃ u, (p.parse markup).run w = (p.documentAfter w.programs.outcomes.head?, u) ∧
      (w.WritesText → u.WritesText) := by
  have hline : (MonadExcept.ofExcept (words p.command) : Run (List String)).run w =
      (.ok line, w) := by rw [hwords, run_ofExcept]
  unfold parse
  dsimp only
  rw [run_bind_of_ok hline, run_bind_of_ok (run_debug _ _ w), run_bind, run_attempt,
    run_launch hcommand, w.programs_log]
  generalize hw' : (w.log _).launching p.command markup = w'
  have hkeeps (h : w.WritesText) : w'.WritesText := by
    rw [← hw']
    exact (h.of_programs_eq (w.programs_log _)).launching p.command markup
  unfold documentAfter
  dsimp only
  cases launched p.command w.programs.outcomes.head? with
  | error failure => cases failure <;> exact ⟨w', rfl, hkeeps⟩
  | ok ended =>
    obtain ⟨code, stdout, stderr⟩ := ended
    dsimp only
    cases received stdout with
    | error failure => exact ⟨w', rfl, hkeeps⟩
    | ok text =>
      cases received stderr with
      | error failure => exact ⟨w', rfl, hkeeps⟩
      | ok diagnostics =>
        dsimp only
        rw [run_bind_of_ok (run_ofExcept _ w'), run_bind_of_ok (run_ofExcept _ w')]
        split
        · exact ⟨w', rfl, hkeeps⟩
        · obtain ⟨u, hrun, hprograms⟩ :=
            Document.run_ofText text (show "pandoc output" ≠ "" by decide) w'
          refine ⟨u, ?_, fun h => (hkeeps h).of_programs_eq hprograms⟩
          rw [run_bind, run_attempt, hrun]
          dsimp only
          cases Document.written text "pandoc output" with
          | ok doc => rfl
          | error failure =>
            dsimp only
            split <;> rfl

/-- A conversion gives what its launch gives. -/
theorem run_blocks {line : List String} (hwords : words p.command = .ok line) (markup : String)
    (w : World) :
    ∃ u, (p.blocks markup).run w = (p.blocksAfter w.programs.outcomes.head?, u) ∧
      (w.WritesText → u.WritesText) := by
  obtain ⟨u, hrun, hkeeps⟩ := p.run_parse hcommand hwords markup w
  refine ⟨u, ?_, hkeeps⟩
  unfold blocks blocksAfter
  rw [run_bind, hrun]
  cases p.documentAfter w.programs.outcomes.head? <;> rfl

end Launchable

/-- As long as programs write text, a launch gives a document or fails as a conversion. -/
theorem documentAfter_cases (p : Pandoc) {outcome : Option ProgramOutcome}
    (htext : ∀ o, outcome = some o → o.isText = true) :
    (∃ doc, p.documentAfter outcome = .ok doc ∧ Document.isDocument doc = true) ∨
      ∃ failure, p.documentAfter outcome = .error failure ∧ failure.isConversion = true := by
  unfold documentAfter
  cases outcome with
  | none => exact .inr ⟨_, rfl, rfl⟩
  | some o =>
    cases o with
    | refused code text => exact .inr ⟨_, rfl, rfl⟩
    | exited code stdout stderr =>
      have hboth := htext _ rfl
      simp only [ProgramOutcome.isText, Bool.and_eq_true] at hboth
      obtain ⟨hout, herr⟩ := hboth
      simp only [launched]
      cases hwritten : received stdout with
      | error failure =>
        rw [hwritten] at hout
        cases hout
      | ok text =>
        rw [hwritten] at hout
        cases hdiagnostics : received stderr with
        | error failure =>
          rw [hdiagnostics] at herr
          cases herr
        | ok diagnostics =>
          dsimp only
          split
          · exact .inr ⟨_, rfl, rfl⟩
          · rcases Document.written_cases hout "pandoc output" with
              ⟨doc, hdoc, hdocument⟩ | ⟨failure, hfails, hcategory⟩
            · rw [hdoc]
              exact .inl ⟨doc, rfl, hdocument⟩
            · rw [hfails]
              dsimp only
              rw [if_pos hcategory]
              exact .inr ⟨_, rfl, rfl⟩

theorem blocksAfter_cases (p : Pandoc) {outcome : Option ProgramOutcome}
    (htext : ∀ o, outcome = some o → o.isText = true) :
    (∃ items, p.blocksAfter outcome = .ok (.arr items)) ∨
      ∃ failure, p.blocksAfter outcome = .error failure ∧ failure.isConversion = true := by
  unfold blocksAfter
  rcases p.documentAfter_cases htext with ⟨doc, hdoc, hdocument⟩ | ⟨failure, hfails, hconversion⟩
  · rw [hdoc]
    obtain ⟨items, hitems⟩ := Option.isSome_iff_exists.mp hdocument
    obtain ⟨blocks, hblocks, hlist⟩ := Option.bind_eq_some_iff.mp hitems
    cases blocks with
    | arr items => exact .inl ⟨items, by rw [Except.map, hblocks, Option.getD_some]⟩
    | _ => cases hlist
  · rw [hfails]
    exact .inr ⟨failure, rfl, hconversion⟩

end Pandoc

end DocFilter
