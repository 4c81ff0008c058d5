import DocFilter.Document.Source
import DocFilter.Proofs.Disk
import DocFilter.Proofs.Text.Utf8
import DocFilter.Proofs.World

/-!
# Sources and destinations

How the world changes when a document is read or written. Reading takes the text and may warn about
what the document lacks. Writing either delivers the whole text, or fails and leaves the world as it
is.
-/

namespace DocFilter

/-! ### Files -/

theorem run_writeText {p : String} (hnull : p.toList.contains '\x00' = false) (text : String)
    (w : World) :
    (Run.writeText p text).run w = match w.disk.write w.here p (Utf8.encode text) with
      | .ok disk => (.ok (), { w with disk := disk })
      | .error refusal => (.error (.os ⟨refusal, some (quoted p)⟩), w) := by
  unfold Run.writeText Run.checkPath
  rw [hnull]
  change ((match w.disk.write w.here p (Utf8.encode text) with
    | .ok disk => set { w with disk := disk }
    | .error refusal => throw (.os ⟨refusal, some (quoted p)⟩) : Run Unit).run w) = _
  cases w.disk.write w.here p (Utf8.encode text) <;> rfl

theorem run_writeText_of_null {p : String} (hnull : p.toList.contains '\x00' = true) (text : String)
    (w : World) :
    (Run.writeText p text).run w = (.error (.badValue "embedded null byte"), w) := by
  unfold Run.writeText Run.checkPath
  rw [hnull]
  rfl

/-- The bytes of a file are read as the text that they encode, but for the ends of its lines. -/
theorem World.textAt_of_read {w : World} {p text : String}
    (hnull : p.toList.contains '\x00' = false)
    (h : w.disk.read w.here p = .ok (Utf8.encode text)) :
    w.textAt p = .ok (String.ofList (unifyLineEnds text.toList)) := by
  rw [textAt, hnull, if_neg Bool.false_ne_true, h]
  dsimp only
  rw [Utf8.decode_encode]

theorem run_readText_of_textAt {w : World} {p text : String} (h : w.textAt p = .ok text) :
    (Run.readText p).run w = (.ok text, w.noteOpened p) := by
  unfold World.textAt at h
  split at h
  · cases h
  next hnull =>
  have hbytes := run_readBytes ((Bool.not_eq_true _).mp hnull) w
  split at h
  · cases h
  next bytes hread =>
  rw [hread] at hbytes
  unfold Run.readText
  rw [run_bind_of_ok hbytes]
  cases hdecode : Utf8.decode bytes with
  | error fault =>
    rw [hdecode] at h
    cases h
  | ok text' =>
    rw [hdecode] at h
    cases h
    rfl

namespace Document

/-! ### Reading -/

theorem run_ofText_of_parse {text : String} {v : Json} (hparse : Json.parse text = .ok v)
    (hdoc : isDocument v = true) (source : Option String) (w : World) :
    ∃ u, (ofText text source).run w = (.ok v, u) ∧ w.OnlyLogged u := by
  unfold ofText
  rw [hparse]
  dsimp only
  rw [hdoc]
  cases (v.field? "pandoc-api-version").isNone with
  | false => exact ⟨w, rfl, .refl w⟩
  | true => exact ⟨_, rfl, .log w _⟩

theorem parse_of_run_ofText {text : String} {v : Json} {source : Option String} {w : World}
    (h : ((ofText text source).run w).1 = .ok v) :
    Json.parse text = .ok v ∧ isDocument v = true := by
  unfold ofText at h
  cases hparse : Json.parse text with
  | error fault =>
    rw [hparse] at h
    cases h
  | ok u =>
    rw [hparse] at h
    dsimp only at h
    cases hdoc : isDocument u with
    | false =>
      rw [hdoc] at h
      cases h
    | true =>
      rw [hdoc] at h
      cases hversion : (u.field? "pandoc-api-version").isNone <;>
      · rw [hversion] at h
        cases h
        exact ⟨rfl, hdoc⟩

/-- What a source has to hold for a text to be read from it. -/
def Source.Gives (text : String) (w : World) : Source → Prop
  | .input => w.stdin = text
  | .file p => w.textAt (Path.tidy p) = .ok text
  | .stream given _ => given = text

/-- The world after the text of a source was taken. -/
def Source.taken (w : World) : Source → World
  | .input => { w with stdin := "" }
  | .file p => w.noteOpened (Path.tidy p)
  | .stream .. => w

/-- The files that are opened to read a source. -/
def Source.opened : Source → List String
  | .file p => [Path.tidy p]
  | .input | .stream .. => []

theorem run_read {source : Source} {text : String} {w : World} (h : source.Gives text w) :
    ∃ name, (read source).run w = (ofText text name).run (source.taken w) := by
  cases source with
  | input =>
    obtain rfl : w.stdin = text := h
    exact ⟨some "<stdin>", rfl⟩
  | stream given name =>
    obtain rfl : given = text := h
    exact ⟨name, rfl⟩
  | file p =>
    refine ⟨some (Path.tidy p), ?_⟩
    unfold read
    dsimp only
    rw [run_bind, run_attempt, run_readText_of_textAt h]
    rfl

/-! ### Writing -/

/-- From a world, a text is delivered to a destination: what an open stream receives, and the world
afterwards. -/
inductive Delivered (text : String) (w : World) : Destination → String → World → Prop where
  | output : Delivered text w .output "" (w.printing text)
  | stream : Delivered text w .stream text w
  | file {p : String} {disk : Disk} (hnull : (Path.tidy p).toList.contains '\x00' = false)
      (hwrite : w.disk.write w.here (Path.tidy p) (Utf8.encode text) = .ok disk) :
      Delivered text w (.file p) "" { w with disk := disk }

/-- In a world, the file at a path refuses a text: there can be none under that name, or it cannot
be written. -/
inductive Refused (text : String) (w : World) (p : String) : Failure → Prop where
  | name (hnull : (Path.tidy p).toList.contains '\x00' = true) :
    Refused text w p (.badValue "embedded null byte")
  | disk {refusal : Refusal} (hnull : (Path.tidy p).toList.contains '\x00' = false)
      (hwrite : w.disk.write w.here (Path.tidy p) (Utf8.encode text) = .error refusal) :
      Refused text w p (.outputUnwritable (Path.tidy p) ⟨refusal, some (quoted (Path.tidy p))⟩)

/-- Writing delivers the text of the document. Only a file can refuse it. -/
theorem run_write (v : Json) (spacing : Json.Spacing) (d : Destination) (w : World) :
    (∃ r w', (write v spacing d).run w = (.ok r, w') ∧ Delivered (v.render spacing) w d r w') ∨
      ∃ p failure, d = .file p ∧ Refused (v.render spacing) w p failure ∧
        (write v spacing d).run w = (.error failure, w) := by
  cases d with
  | output => exact .inl ⟨_, _, rfl, .output⟩
  | stream => exact .inl ⟨_, _, rfl, .stream⟩
  | file p =>
    unfold write
    dsimp only
    rw [run_bind, run_attempt]
    cases hnull : (Path.tidy p).toList.contains '\x00' with
    | true =>
      rw [run_writeText_of_null hnull]
      exact .inr ⟨p, _, rfl, .name hnull, rfl⟩
    | false =>
      rw [run_writeText hnull]
      cases hwrite : w.disk.write w.here (Path.tidy p) (Utf8.encode (v.render spacing)) with
      | ok disk => exact .inl ⟨_, _, rfl, .file hnull hwrite⟩
      | error refusal => exact .inr ⟨p, _, rfl, .disk hnull hwrite, rfl⟩

theorem run_write_of_takes {p : String} (hnull : (Path.tidy p).toList.contains '\x00' = false)
    {w : World} (h : w.disk.Takes w.here (Path.tidy p)) (v : Json) (spacing : Json.Spacing) :
    ((write v spacing (.file p)).run w).1 = .ok "" := by
  unfold write
  dsimp only
  rw [run_bind, run_attempt, run_writeText hnull, h.write]
  rfl

theorem Delivered.of_run {v : Json} {spacing : Json.Spacing} {d : Destination} {w w' : World}
    {r : String} (h : (write v spacing d).run w = (.ok r, w')) :
    Delivered (v.render spacing) w d r w' := by
  rcases run_write v spacing d w with ⟨_, _, hrun, hdelivered⟩ | ⟨_, _, -, -, hrun⟩
  · rw [h] at hrun
    cases hrun
    exact hdelivered
  · rw [h] at hrun
    cases hrun

theorem Delivered.find?_target {text p r : String} {w w' : World}
    (h : Delivered text w (.file p) r w') :
    w'.disk.find? (Disk.target w.here (Path.tidy p)) = some (.file (Utf8.encode text)) := by
  cases h with
  | file _ hwrite =>
    obtain ⟨-, hfile, rfl⟩ := Disk.write_eq_ok hwrite
    exact Disk.find?_put_self hfile _

/-- A file that a text was delivered to reads as the text, but for the ends of its lines. -/
theorem Delivered.textAt {text p r : String} {w w' : World}
    (h : Delivered text w (.file p) r w') :
    w'.textAt (Path.tidy p) = .ok (String.ofList (unifyLineEnds text.toList)) := by
  cases h with
  | file hnull hwrite => exact World.textAt_of_read hnull (Disk.read_of_write hwrite)

end Document

end DocFilter
