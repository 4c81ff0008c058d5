import DocFilter.Proofs.Document.RoundTrip
import DocFilter.Proofs.Include.Failures
import DocFilter.Proofs.Registry.Pipeline
import DocFilter.Proofs.Script.Session
import DocFilter.Proofs.Sql.Block
import DocFilter.Proofs.Walk.Fixpoint
import DocFilter.Registry.Builtin

/-!
# Documents without a block for a filter

A built-in filter that finds no code block of its classes gives the document back, and nothing
happens but that records are logged. The same is true of chains of such filters. So a program made
of one writes the text again that it has read.
-/

namespace DocFilter

namespace BlockFilter
variable {σ : Type}

/-- Whether no code block of a value carries one of some classes. -/
def Spares (classes : List String) (v : Json) : Prop :=
  ∀ n ∈ nodes v, ∀ b, CodeBlock.ofNode? n = some b → b.attr.hasAnyClass classes = false

instance (classes : List String) (v : Json) : Decidable (Spares classes v) :=
  decidable_of_iff ((nodes v).all fun n =>
      (CodeBlock.ofNode? n).all fun b => !b.attr.hasAnyClass classes) <| by
    simp only [List.all_eq_true, Option.all_eq_true, Bool.not_eq_true', Spares]

/-- Whatever a filter would do to a block, a sweep without one does nothing. -/
theorem sweep_of_spares (f : BlockFilter σ) {v : Json} (h : Spares f.classes v) :
    f.sweep v = pure v := by
  refine walk_eq_pure v fun n hn => visit_of_no_block ?_
  rw [block?]
  cases hblock : CodeBlock.ofNode? n with
  | none => rfl
  | some b => rw [Option.filter_some, h n hn b hblock, if_neg Bool.false_ne_true]

end BlockFilter

/-! ### Passes -/

/-- Whether a filter gives a value back and does nothing but log. -/
def Filter.LeavesAlone (f : Filter) (v : Json) : Prop :=
  ∀ w, ∃ u, (f.apply v).run w = (.ok v, u) ∧ w.OnlyLogged u

namespace Include

theorem accepts_of_spares {v : Json} (h : BlockFilter.Spares ["include"] v) {n : Json}
    (hn : n ∈ nodes v) : accepts n = none := by
  unfold accepts
  cases hblock : CodeBlock.ofNode? n with
  | none => rfl
  | some b =>
    dsimp only
    rw [h n hn b hblock, if_neg Bool.false_ne_true]

theorem run_expand_of_spares (convert : Converter) {v : Json}
    (h : BlockFilter.Spares ["include"] v) (c : Context) (w : World) :
    ∃ u, (expand convert v c).run w = (.ok v, u) ∧ w.OnlyLogged u := by
  rw [expand]
  cases c.remaining with
  | zero => exact ⟨_, rfl, .log w _⟩
  | succ levels =>
    have hpass : pass fileText convert (expandWithin convert levels) v c = pure v :=
      walk_eq_pure v fun n hn => by rw [accepts_of_spares h hn]
    rw [expandWithin, hpass]
    exact ⟨w, rfl, .refl w⟩

/-- Where a document stands and what it refers to can be told from options that are paths, whatever
converts. -/
theorem Settings.contextIn_of_pathOptions {s : Settings} (hbase : IsPathOption s.baseDir)
    (hsource : IsPathOption s.source) (cwd : String) : ∃ c, s.contextIn cwd = .ok c := by
  have hordinary : Settings.Ordinary
      { s with convert := (Pandoc.ofExecutable (.str "pandoc")).blocks } :=
    ⟨hbase, hsource, "pandoc", by decide, rfl⟩
  exact hordinary.contextIn_isOk cwd

theorem Settings.run_applyTo_of_spares {s : Settings} (hbase : IsPathOption s.baseDir)
    (hsource : IsPathOption s.source) {v : Json} (h : BlockFilter.Spares ["include"] v)
    (w : World) : ∃ u, (s.applyTo v).run w = (.ok v, u) ∧ w.OnlyLogged u := by
  obtain ⟨c, hc⟩ := Settings.contextIn_of_pathOptions hbase hsource w.cwd
  rw [Settings.run_applyTo_of_ok v hc]
  exact run_expand_of_spares s.convert h c w

end Include

/-- A pass from a state of its own that gives a value back. -/
theorem run_startingAt {σ : Type} {x : Act σ Json} {start t : σ} {v : Json} {w : World}
    (h : (merged x).run (start, w) = (.ok v, (t, w))) :
    (do MonadExcept.ofExcept (← Act.startingAt start x).1 : Run Json).run w = (.ok v, w) := by
  rw [run_ofExcept_startingAt, h]

theorem Script.filter_leavesAlone {v : Json} (h : BlockFilter.Spares blockFilter.classes v) :
    Script.filter.LeavesAlone v := by
  intro w
  have hpass : (merged (pass v)).run (.empty, w) = (.ok v, (.empty, w)) := by
    have hrun : (merged (pass v)).run (.empty, w) = _ := language.run_pass v (.empty, w)
    have hsweep : language.blockFilter.sweep v = pure v := blockFilter.sweep_of_spares h
    rw [hrun, hsweep]
    rfl
  exact ⟨w, run_startingAt hpass, .refl w⟩

theorem Sql.filter_leavesAlone (options : Fields) {v : Json}
    (h : BlockFilter.Spares ["sqlite-exec", "sqlite"] v) :
    (Sql.filter options).LeavesAlone v := by
  intro w
  have hpass (s : Settings) : (merged (s.pass v)).run ([], w) = (.ok v, ([], w)) := by
    rw [Settings.run_pass, s.blockFilter.sweep_of_spares h, merged_pure, run_pure]
    simp only [Settings.closed, List.map_nil, World.noting_nil]
  exact ⟨w, run_startingAt (hpass _), .refl w⟩

/-! ### Built-in filters -/

namespace Builtin

/-- The classes of the blocks that a built-in filter takes up. -/
def classes : Builtin → List String
  | .files => ["include"]
  | .script => ["python-exec", "py-exec"]
  | .sql => ["sqlite-exec", "sqlite"]
  | .diagram => ["plantuml", "uml"]

/-- Options of a built-in filter that it knows, and of which it can make use. -/
def Usable (b : Builtin) (options : Fields) : Prop :=
  (∀ key ∈ Dictionary.keys options, (b.options.map (·.1)).contains key = true) ∧
  match b with
  | .files =>
    Include.IsPathOption (optionOr options "base_dir" .null) ∧
    Include.IsPathOption (optionOr options "source" .null) ∧
    ∃ limit, Include.DepthLimit.ofOption (optionOr options "max_depth" (.int 10)) = .ok limit
  | .diagram => ∃ name, optionOr options "default_format" (.str "svg") = .str name
  | .script | .sql => True

/-- The filters that usable options make: by the name of the filter, or with a converter of files
given apart. -/
inductive Made (b : Builtin) (options : Fields) : Filter → Prop where
  | make {f : Filter} {w u : World} : (b.make options).run w = (.ok f, u) → Made b options f
  | converting {f : Filter} {convert : Converter} : b = .files →
      Include.filter options (some convert) = .ok f → Made b options f

variable {b : Builtin} {options : Fields} {f : Filter}

theorem of_filter_eq_ok {given : Option Converter} (h : Include.filter options given = .ok f) :
    ∃ s : Include.Settings, s.baseDir = optionOr options "base_dir" .null ∧
      s.source = optionOr options "source" .null ∧ f.apply = s.applyTo := by
  unfold Include.filter at h
  obtain ⟨⟨s, command⟩, hsettings, h⟩ := bind_eq_ok h
  cases h
  refine ⟨s, ?_, ?_, rfl⟩
  all_goals
    unfold Include.Settings.ofOptions at hsettings
    obtain ⟨limit, -, hsettings⟩ := bind_eq_ok hsettings
    dsimp only at hsettings
    split at hsettings <;>
    · cases hsettings
      rfl

theorem leavesAlone_of_filter {given : Option Converter} (husable : Usable .files options)
    (h : Include.filter options given = .ok f) {v : Json}
    (hspares : BlockFilter.Spares (classes .files) v) : f.LeavesAlone v := by
  obtain ⟨s, hbase, hsource, happly⟩ := of_filter_eq_ok h
  obtain ⟨-, hbaseOption, hsourceOption, -⟩ := husable
  intro w
  rw [happly]
  exact Include.Settings.run_applyTo_of_spares (hbase ▸ hbaseOption) (hsource ▸ hsourceOption)
    hspares w

theorem run_chooseFormat (name : Option String) :
    ∃ format, ∀ w, ∃ u, (Diagram.chooseFormat name).run w = (.ok format, u) ∧ w.OnlyLogged u := by
  unfold Diagram.chooseFormat
  dsimp only
  split
  · exact ⟨_, fun w => ⟨w, rfl, .refl w⟩⟩
  · exact ⟨_, fun w => ⟨_, rfl, .log w _⟩⟩

theorem diagram_leavesAlone (husable : Usable .diagram options) {w : World}
    (h : ((Diagram.filter options).run w).1 = .ok f) {v : Json}
    (hspares : BlockFilter.Spares (classes .diagram) v) : f.LeavesAlone v := by
  obtain ⟨-, name, hname⟩ := husable
  obtain ⟨format, hchoose⟩ := run_chooseFormat (some name)
  obtain ⟨u, hrun, -⟩ := hchoose w
  unfold Diagram.filter at h
  rw [hname] at h
  dsimp only at h
  rw [run_bind_of_ok hrun] at h
  cases h
  intro u
  have hsweep (s : Diagram.Settings) :
      (merged (s.blockFilter.sweep v)).run ((), u) = (.ok v, ((), u)) := by
    rw [s.blockFilter.sweep_of_spares hspares]
    rfl
  exact ⟨u, run_startingAt (hsweep _), .refl u⟩

theorem make_eq_ok {w : World} (h : ((b.make options).run w).1 = .ok f) :
    match b with
    | .files => Include.filter options none = .ok f
    | .script => f = Script.filter
    | .sql => f = Sql.filter options
    | .diagram => ((Diagram.filter options).run w).1 = .ok f := by
  unfold make makeWith at h
  dsimp only at h
  split at h
  · cases h
  · cases b with
    | files => rwa [run_ofExcept] at h
    | script =>
      cases h
      rfl
    | sql =>
      cases h
      rfl
    | diagram => exact h

/-- A built-in filter leaves a document alone that has no block for it. -/
theorem Made.leavesAlone (hmade : b.Made options f) (husable : b.Usable options) {v : Json}
    (hspares : BlockFilter.Spares b.classes v) : f.LeavesAlone v := by
  cases hmade with
  | converting hfiles h =>
    subst hfiles
    exact leavesAlone_of_filter husable h hspares
  | make hrun =>
    have h := make_eq_ok (congrArg Prod.fst hrun)
    cases b with
    | files => exact leavesAlone_of_filter husable h hspares
    | script =>
      rw [show f = Script.filter from h]
      exact Script.filter_leavesAlone hspares
    | sql =>
      rw [show f = Sql.filter options from h]
      exact Sql.filter_leavesAlone options hspares
    | diagram => exact diagram_leavesAlone husable h hspares

/-- Of usable options a filter is made, and nothing happens but that records are logged. -/
theorem Usable.run_make (husable : b.Usable options) :
    ∃ f, ∀ w, ∃ u, (b.make options).run w = (.ok f, u) ∧ w.OnlyLogged u := by
  obtain ⟨hknown, hvalues⟩ := husable
  have hnone : (Dictionary.keys options).find? (!(b.options.map (·.1)).contains ·) = none := by
    rw [List.find?_eq_none]
    intro key hkey
    simpa using hknown key hkey
  unfold make makeWith
  dsimp only
  rw [hnone]
  cases b with
  | script => exact ⟨_, fun w => ⟨w, rfl, .refl w⟩⟩
  | sql => exact ⟨_, fun w => ⟨w, rfl, .refl w⟩⟩
  | files =>
    obtain ⟨-, -, limit, hlimit⟩ := hvalues
    have hmade : ∃ f, Include.filter options none = .ok f := by
      unfold Include.filter Include.Settings.ofOptions
      rw [hlimit]
      simp only [bind, Except.bind]
      cases optionOr options "converter" .null <;> exact ⟨_, rfl⟩
    obtain ⟨f, hf⟩ := hmade
    exact ⟨f, fun w => ⟨w, by rw [hf, run_ofExcept], .refl w⟩⟩
  | diagram =>
    obtain ⟨name, hname⟩ := hvalues
    obtain ⟨format, hchoose⟩ := run_chooseFormat (some name)
    dsimp only
    unfold Diagram.filter
    rw [hname]
    dsimp only
    apply Exists.intro
    intro w
    obtain ⟨u, hrun, hlogs⟩ := hchoose w
    exact ⟨u, run_bind_of_ok hrun, hlogs⟩

end Builtin

/-! ### Chains -/

namespace Filter
variable {v : Json}

theorem LeavesAlone.guard {f : Filter} (h : f.LeavesAlone v) : f.guard.LeavesAlone v := by
  intro w
  obtain ⟨u, hrun, hlogs⟩ := h w
  refine ⟨u, ?_, hlogs⟩
  change (tryCatch (f.apply v) _).run w = _
  rw [run_tryCatch, hrun]

theorem leavesAlone_compose {fs : List Filter} (h : ∀ f ∈ fs, f.LeavesAlone v) :
    (compose fs).LeavesAlone v := by
  induction fs with
  | nil => exact fun w => ⟨w, rfl, .refl w⟩
  | cons f fs ih =>
    intro w
    obtain ⟨u, hrun, hlogs⟩ := h f List.mem_cons_self (w.log (applying f.name))
    obtain ⟨u', hrun', hlogs'⟩ := ih (fun g hg => h g (List.mem_cons_of_mem f hg)) u
    refine ⟨u', ?_, (World.OnlyLogged.log w _).trans (hlogs.trans hlogs')⟩
    have hrecord : (liftM (Run.record (applying f.name)) : Run Unit).run w =
        (.ok (), w.log (applying f.name)) := rfl
    change (applyAll (f :: fs) v).run w = _
    rw [applyAll, run_bind_of_ok hrecord, run_bind_of_ok hrun]
    exact hrun'

/-- From a source that holds the compact text of a value, a program made of a filter writes the text
again, unless the destination is a file that refuses it. Before it is written nothing happens but
that the source is read and records are logged. -/
def WritesBack (f : Filter) (v : Json) : Prop :=
  ∀ source destination w, source.Gives v.compact w →
    ∃ outcome u w',
      (f.process (Document.read source) (Document.write · none destination)).run w = (outcome, w') ∧
      (source.taken w).OnlyLogged u ∧ (w.setup.file = none → u.disk = w.disk) ∧
      (match outcome with
        | .ok r => Document.Delivered v.compact u destination r w'
        | .error failure =>
          w' = u ∧ ∃ p, destination = .file p ∧ Document.Refused v.compact u p failure) ∧
      w'.programs = w.programs ∧ w'.databases = w.databases ∧ w'.opened = w.opened ++ source.opened

theorem LeavesAlone.writesBack {f : Filter} (h : f.LeavesAlone v) (hplain : v.isPlain = true)
    (hdoc : Document.isDocument v = true) : f.WritesBack v := by
  intro source destination w hsource
  obtain ⟨name, hread⟩ := Document.run_read hsource
  obtain ⟨u₁, hparse, hlogs₁⟩ := Document.run_ofText_of_parse
    (Json.parse_render hplain none) hdoc name (source.taken w)
  obtain ⟨u, happly, hlogs₂⟩ := h u₁
  have hlogs : (source.taken w).OnlyLogged u := hlogs₁.trans hlogs₂
  have hframe : u.programs = w.programs ∧ u.databases = w.databases ∧
      u.opened = w.opened ++ source.opened := by
    rw [hlogs.programs_eq, hlogs.databases_eq, hlogs.opened_eq]
    cases source with
    | file p => exact ⟨rfl, rfl, rfl⟩
    | input | stream _ _ => exact ⟨rfl, rfl, (List.append_nil _).symm⟩
  have hdisk (hfile : w.setup.file = none) : u.disk = w.disk := by
    cases source <;> exact hlogs.disk_eq hfile
  have hrun : (f.process (Document.read source) (Document.write · none destination)).run w =
      (Document.write v none destination).run u := by
    unfold process
    rw [run_bind_of_ok (hread.trans hparse), run_bind_of_ok happly]
  rcases Document.run_write v none destination u with
    ⟨r, w', hwrite, hdelivered⟩ | ⟨p, failure, hfile, hrefused, hwrite⟩
  · refine ⟨.ok r, u, w', hrun.trans hwrite, hlogs, hdisk, hdelivered, ?_⟩
    cases hdelivered <;> exact hframe
  · exact ⟨.error failure, u, u, hrun.trans hwrite, hlogs, hdisk, ⟨rfl, p, hfile, hrefused⟩, hframe⟩

end Filter

namespace Pipeline
variable {φ : Type} {embed : Builtin → φ} {make : φ → Fields → Act (Host φ) Filter}

/-- A name under which a pipeline gets a built-in filter, with options that it can use, for which a
value has no block. -/
structure Idle (embed : Builtin → φ) (r : Registry φ) (options : Fields) (v : Json) (name : String)
    (b : Builtin) (given : Fields) : Prop where
  found : r.find? name = some (b.metadata embed)
  options : optionsFor options (r.canonical name) name = .ok given
  free : Host.checkNames "FilterRegistry.get_filter()" ["self", "name"] given = .ok ()
  usable : b.Usable ((b.metadata embed).understood given)
  spares : BlockFilter.Spares b.classes v

theorem Idle.gives (hmake : ∀ b options, make (embed b) options = liftM (b.make options))
    {r : Registry φ} {options given : Fields} {v : Json} {name : String} {b : Builtin}
    (h : Idle embed r options v name b given) :
    ∃ m given f, Gives make r options (·.LeavesAlone v) name m given f := by
  obtain ⟨f, hf⟩ := h.usable.run_make
  obtain ⟨u, hrun, -⟩ := hf (.initial ⟨[]⟩ "/")
  refine ⟨b.metadata embed, given, f, h.found, h.options, h.free, ?_,
    (Builtin.Made.make hrun).leavesAlone h.usable h.spares⟩
  intro host
  change host.Turns (make (embed b) _) f host.registry
  rw [hmake]
  exact .lift hf host

/-- A pipeline of built-in filters is built, and leaves a value without blocks for them alone. -/
theorem run_build_of_idle (hmake : ∀ b options, make (embed b) options = liftM (b.make options))
    {h : Host φ} {names : List String} {options : Fields} {v : Json}
    (hidle : ∀ name ∈ names, ∃ b given, Idle embed h.readied options v name b given)
    (isSafe : Bool) (w : World) :
    ∃ f h' u, (merged (build make names options isSafe)).run (h, w) = (.ok f, (h', u)) ∧
      w.OnlyLogged u ∧ f.LeavesAlone v := by
  obtain ⟨fs, r, hbuild, hfs⟩ := build_turns (P := (·.LeavesAlone v)) isSafe names h
    fun name hname => by
      obtain ⟨b, given, hb⟩ := hidle name hname
      exact hb.gives hmake
  obtain ⟨u, hrun, hlogs⟩ := hbuild w
  refine ⟨Filter.compose fs, _, u, hrun, hlogs, Filter.leavesAlone_compose fun f hf => ?_⟩
  obtain ⟨g, hg, rfl⟩ := hfs f hf
  cases isSafe with
  | true => exact hg.guard
  | false => exact hg

end Pipeline

/-- In a registry of which nothing was asked before, and without plugins, a built-in filter is found
under its name and its aliases. -/
theorem Builtin.find?_readied {φ : Type} (embed : Builtin → φ) (b : Builtin) {name : String}
    (hname : name ∈ b.name :: b.aliases) :
    (Host.mk (Builtin.all.map (metadata embed)) (.ok []) .empty).readied.find? name =
      some (b.metadata embed) := by
  cases b <;>
  · simp only [Builtin.name, Builtin.aliases, List.mem_cons, List.not_mem_nil, or_false] at hname
    rcases hname with rfl | rfl <;> rfl

/-- A document without fractions in which no code block carries a class of a built-in filter is
written back as it was read: by every such filter that can be made, with a converter of its own or
without, by chains of them, guarded or not, and by the pipelines that are built of their names. No
filter is handed a block, no file is opened but the source, no database and no program is called. -/
theorem untouched_documents_written_back {v : Json} (hplain : v.isPlain = true)
    (hdoc : Document.isDocument v = true) :
    (∀ (σ : Type) (f : BlockFilter σ), BlockFilter.Spares f.classes v → f.sweep v = pure v) ∧
    (∀ b options, Builtin.Usable b options → BlockFilter.Spares b.classes v →
      (∃ f, b.Made options f) ∧ ∀ f, b.Made options f → f.WritesBack v) ∧
    (∀ fs : List Filter, (∀ f ∈ fs, ∃ g b options, (f = g ∨ f = g.guard) ∧
        Builtin.Made b options g ∧ b.Usable options ∧ BlockFilter.Spares b.classes v) →
      (Filter.compose fs).WritesBack v) ∧
    ∀ (φ : Type) (embed : Builtin → φ) (make : φ → Fields → Act (Host φ) Filter),
      (∀ b options, make (embed b) options = liftM (b.make options)) →
      ∀ (h : Host φ) (names : List String) (options : Fields) (isSafe : Bool) (w : World),
        (∀ name ∈ names, ∃ b given, Pipeline.Idle embed h.readied options v name b given) →
        ∃ f h' u, (merged (Pipeline.build make names options isSafe)).run (h, w) =
            (.ok f, (h', u)) ∧ w.OnlyLogged u ∧ f.WritesBack v := by
  refine ⟨fun σ f hf => f.sweep_of_spares hf, ?_, ?_, ?_⟩
  · intro b options husable hspares
    refine ⟨?_, fun f hf => (hf.leavesAlone husable hspares).writesBack hplain hdoc⟩
    obtain ⟨f, hf⟩ := husable.run_make
    obtain ⟨u, hrun, -⟩ := hf (.initial ⟨[]⟩ "/")
    exact ⟨f, .make hrun⟩
  · intro fs hfs
    refine (Filter.leavesAlone_compose fun f hf => ?_).writesBack hplain hdoc
    obtain ⟨g, b, options, hguard, hmade, husable, hspares⟩ := hfs f hf
    have hg := hmade.leavesAlone husable hspares
    rcases hguard with rfl | rfl
    · exact hg
    · exact hg.guard
  · intro φ embed make hmake h names options isSafe w hidle
    obtain ⟨f, h', u, hrun, hlogs, hf⟩ := Pipeline.run_build_of_idle hmake hidle isSafe w
    exact ⟨f, h', u, hrun, hlogs, hf.writesBack hplain hdoc⟩

/-- A document with malformed code blocks, a node in its metadata, a null in a list and fields that
nothing looks at. -/
def malformedDoc : Json :=
  .obj [("meta", .obj [("t", .str "CodeBlock"), ("c", .null), ("t2", .int (-1))]),
    ("blocks", .arr [.null, .obj [("c", .arr [.arr [.str "include"], .str "uml"]),
      ("t", .str "CodeBlock"), ("extra", .bool true)],
      Node.codeBlock (.str "a") (Attr.ofClasses ["py"])])]

theorem untouched_malformed_document :
    let make (b : Builtin) (given : Fields) : Act (Host Builtin) Filter := liftM (b.make given)
    let h : Host Builtin := ⟨Builtin.all.map (Builtin.metadata id), .ok [], .empty⟩
    let options := [("plantuml", .obj [("default_format", .str "png"), ("other", .null)])]
    malformedDoc.isPlain = true ∧ Document.isDocument malformedDoc = true ∧
    (∃ f, Builtin.Made .sql [("db", .str "a.db")] f ∧ f.WritesBack malformedDoc) ∧
    (Filter.compose [Script.filter.guard]).WritesBack malformedDoc ∧
    ∃ f h' u, (merged (Pipeline.build make ["include", "uml"] options true)).run
        (h, .initial ⟨[]⟩ "/") = (.ok f, (h', u)) ∧ f.WritesBack malformedDoc := by
  intro make h options
  have hplain : malformedDoc.isPlain = true := by decide +kernel
  have hspares : ∀ b, BlockFilter.Spares (Builtin.classes b) malformedDoc := by
    intro b
    cases b <;> decide +kernel
  have hidle : ∀ name ∈ ["include", "uml"],
      ∃ b given, Pipeline.Idle id h.readied options malformedDoc name b given := by
    intro name hname
    rcases List.mem_cons.mp hname with rfl | hname
    · refine ⟨.files, [], Builtin.find?_readied id .files (by decide), rfl, rfl, ?_, hspares _⟩
      exact ⟨by decide, .inl rfl, .inl rfl, _, rfl⟩
    · obtain rfl := List.mem_singleton.mp hname
      refine ⟨.diagram, [("default_format", .str "png"), ("other", .null)],
        Builtin.find?_readied id .diagram (by decide), rfl, rfl, ?_, hspares _⟩
      exact ⟨by decide, "png", rfl⟩
  obtain ⟨-, hsingle, hchain, hpipeline⟩ := untouched_documents_written_back hplain rfl
  obtain ⟨⟨f, hf⟩, hback⟩ := hsingle .sql [("db", .str "a.db")] ⟨by decide, trivial⟩ (hspares .sql)
  obtain ⟨g, h', u, hrun, -, hg⟩ :=
    hpipeline Builtin id make (fun _ _ => rfl) h ["include", "uml"] options true (.initial ⟨[]⟩ "/")
      hidle
  refine ⟨hplain, rfl, ⟨f, hf, hback f hf⟩, hchain _ ?_, g, h', u, hrun, hg⟩
  intro k hk
  exact ⟨Script.filter, .script, [], .inr (List.mem_singleton.mp hk),
    .make (w := .initial ⟨[]⟩ "/") rfl, ⟨by decide, trivial⟩, hspares .script⟩

end DocFilter
