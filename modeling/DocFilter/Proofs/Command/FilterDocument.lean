import DocFilter.Command.FilterDocument
import DocFilter.Proofs.Config.Load
import DocFilter.Proofs.Converter
import DocFilter.Proofs.Document.Source
import DocFilter.Proofs.Filter.Builtin
import DocFilter.Proofs.Registry.Regime

/-!
# What a request commits

A request writes at one moment only, when everything else is done. If it succeeds, the destination
holds the text of the result, and nothing else has gone to the standard output; if it does not, the
standard output and the file that was asked for are what they were. With built-in filters that are
guarded, it succeeds once the document is read and the file can be opened, unless a script is
interrupted.
-/

namespace DocFilter

theorem Failure.exitCode_ne_zero (failure : Failure) : failure.exitCode ≠ 0 := by
  unfold exitCode
  cases failure.category? with
  | none => decide
  | some category => cases category <;> decide

namespace Command.Request

variable {φ : Type} {make : φ → Fields → Act (Host φ) Filter} {r : Request} {h : Host φ}
variable {w : World}

def spacing (r : Request) : Json.Spacing := if r.isPretty then some 2 else none

/-- The world after it was logged what the request is going to do. -/
def announced (r : Request) (names : List String) (w : World) : World :=
  let list := joinWith ", " names
  ((r.targetFormat.filter (· ≠ "")).elim w fun format =>
    w.log ⟨.debug, logName, s!"Target format: {format}", none⟩).log
      ⟨.info, logName, s!"Applying filters: {list}", none⟩

/-- The chain of the filters with some names, and the document that it is to be applied to. -/
def prepare (make : φ → Fields → Act (Host φ) Filter) (r : Request) (names : List String)
    (options : Fields) : Act (Host φ) (Filter × Json) := do
  let f ← Pipeline.build make names options r.isSafe
  return (f, ← (Document.read (.ofPath r.input) : Run Json))

/-- What comes before a chain is applied: the configuration is loaded, the chain is built of filters
with some names, and the document is read. -/
def Begins (make : φ → Fields → Act (Host φ) Filter) (r : Request) (h : Host φ) (w : World)
    (names : List String) (f : Filter) (doc : Json) (u : World) : Prop :=
  ∃ options v h', r.chain.run w = (.ok (names, options), v) ∧ names ≠ [] ∧
    (merged (r.prepare make names (r.withIncludeOptions options))).run
      (h, r.announced names v) = (.ok (f, doc), (h', u))

/-- What a run ends with: an exit code, or a failure that is not held. -/
def exit (make : φ → Fields → Act (Host φ) Filter) (r : Request) (h : Host φ) (w : World) :
    Except Failure Nat :=
  ((merged (r.run make)).run (h, w)).1

def after (make : φ → Fields → Act (Host φ) Filter) (r : Request) (h : Host φ) (w : World) :
    World :=
  ((merged (r.run make)).run (h, w)).2.2

/-- What is left to do once the document is read. -/
def complete (r : Request) (f : Filter) (doc : Json) : Run Unit := do
  let result ← f.apply doc
  let _ ← Document.write result r.spacing (.ofPath r.output)

/-- The exit code for what the processing of a document ended in. -/
def conclude (outcome : Except Failure Unit) : Run Nat :=
  match outcome with
  | .ok () => return 0
  | .error failure => report failure

theorem run_of_chain {names : List String} {options : Fields} {v : World}
    (hchain : r.chain.run w = (.ok (names, options), v)) (hnames : names ≠ []) :
    (merged (r.run make)).run (h, w) =
      (merged (do conclude (← (r.process make names (r.withIncludeOptions options)).attempt))).run
        (h, r.announced names v) := by
  have hattempt : (merged (liftM r.chain.attempt : Act (Host φ) _)).run (h, w) =
      (.ok (.ok (names, options)), (h, v)) :=
    run_merged_lift (by rw [run_attempt, hchain])
  have hrecord (rec : Log.Record) (u : World) :
      (merged (liftM (Run.record rec) : Act (Host φ) Unit)).run (h, u) = (.ok (), (h, u.log rec)) :=
    rfl
  have hconclude :
      (fun outcome => liftM (conclude outcome) : Except Failure Unit → Act (Host φ) Nat) =
        fun outcome => match outcome with
          | .ok () => pure 0
          | .error failure => liftM (report failure) := by
    funext outcome
    cases outcome <;> rfl
  unfold run announced
  rw [merged_bind, run_bind_of_ok hattempt, hconclude]
  cases names with
  | nil => exact absurd rfl hnames
  | cons name names =>
    dsimp only
    -- no target format, an empty one, which is not announced either, or another
    split
    · next hnone =>
      rw [hnone, merged_bind]
      exact run_bind_of_ok (hrecord _ v)
    · next hblank =>
      rw [hblank, merged_bind]
      exact run_bind_of_ok (hrecord _ v)
    · next format hother hformat =>
      have hfilter : (some format).filter (· ≠ "") = some format := by
        simpa using hother
      rw [hformat, hfilter, merged_bind]
      refine (run_bind_of_ok (hrecord _ v)).trans ?_
      rw [merged_bind]
      exact run_bind_of_ok (hrecord _ _)

theorem run_conclude_attempt {x : Act (Host φ) Unit} {t : Host φ × World}
    {outcome : Except Failure Unit} {h' : Host φ} {u : World}
    (hrun : (merged x).run t = (outcome, (h', u))) :
    (merged (do conclude (← x.attempt))).run t =
      (((conclude outcome).run u).1, (h', ((conclude outcome).run u).2)) := by
  have hattempt := run_merged_attempt x t
  rw [hrun] at hattempt
  rw [merged_bind, run_bind_of_ok hattempt]
  exact run_merged_lift rfl

theorem process_eq (names : List String) (options : Fields) :
    r.process make names options =
      (do
        let p ← r.prepare make names options
        liftM (r.complete p.1 p.2)) := by
  unfold process prepare complete spacing
  simp only [bind_assoc, pure_bind, lift_bind]
  rfl

/-- What a run comes to if the document is processed with some outcome. -/
theorem run_of_process {names : List String} {options : Fields} {v u : World} {h' : Host φ}
    {outcome : Except Failure Unit} (hchain : r.chain.run w = (.ok (names, options), v))
    (hnames : names ≠ []) (hprocess : (merged (r.process make names
      (r.withIncludeOptions options))).run (h, r.announced names v) = (outcome, (h', u))) :
    (conclude outcome).run u = (r.exit make h w, r.after make h w) := by
  unfold exit after
  rw [run_of_chain hchain hnames, run_conclude_attempt hprocess]
  rfl

theorem run_of_begins {names : List String} {f : Filter} {doc : Json} {u v : World}
    {outcome : Except Failure Unit} (hbegins : r.Begins make h w names f doc u)
    (hcomplete : (r.complete f doc).run u = (outcome, v)) :
    (conclude outcome).run v = (r.exit make h w, r.after make h w) := by
  obtain ⟨options, v₀, h', hchain, hnames, hprepare⟩ := hbegins
  have hprocess : (merged (r.process make names (r.withIncludeOptions options))).run
      (h, r.announced names v₀) = (outcome, (h', v)) := by
    rw [process_eq, merged_bind, run_bind_of_ok hprepare]
    exact run_merged_lift hcomplete
  exact run_of_process hchain hnames hprocess

theorem run_report_of_not_contained {failure : Failure} (h : failure.isContained = false)
    (w : World) : (report failure).run w = (.error failure, w) := by
  unfold report
  rw [h]
  rfl

/-! ### In a regime -/

section Regime
variable {inv : World → Prop} {may : Failure → Prop} (hregime : Regime inv may)
include hregime

theorem during_chain (r : Request) : (during inv fun _ => True).Holds r.chain fun _ => True := by
  let L := during inv fun _ : Failure => True
  have hconfig : L.Holds r.config fun _ => True := by
    unfold config
    split
    · exact L.bind Regime.get fun v _ => Config.during_loadFor hregime.any _ _
    · exact L.pure trivial
  have hofExcept {α : Type} (x : Except Failure α) :
      L.Holds (MonadExcept.ofExcept x) fun _ => True :=
    During.ofExcept (fun _ _ => trivial) fun _ _ => trivial
  refine L.bind hconfig fun config _ => ?_
  split
  · exact L.bind (hofExcept _) fun names _ => L.bind (hofExcept _) fun options _ => L.pure trivial
  · exact L.bind (L.pure trivial) fun names (_ : True) =>
      L.bind (hofExcept _) fun options _ => L.pure trivial

theorem inv_announced (names : List String) (hw : inv w) : inv (r.announced names w) := by
  unfold announced
  refine hregime.log _ ?_
  cases r.targetFormat.filter (· ≠ "") with
  | none => exact hw
  | some format => exact hregime.log _ hw

/-- A failure never leads to the exit code of success. -/
theorem during_report (failure : Failure) :
    (during inv fun _ => True).Holds (report failure) (· ≠ 0) := by
  let L := during inv fun _ : Failure => True
  have hcode := failure.exitCode_ne_zero
  have htext : L.Holds (MonadExcept.ofExcept failure.text) fun _ => True :=
    During.ofExcept (fun _ _ => trivial) fun _ _ => trivial
  unfold report
  cases failure.isContained with
  | false => exact L.bind (During.throw trivial) fun _ (hnever : False) => hnever.elim
  | true =>
    cases failure.category? with
    | some category =>
      exact L.bind htext fun _ _ => L.bind (hregime.printError _) fun _ _ => L.pure hcode
    | none =>
      refine L.bind (hregime.record _) fun _ _ => L.bind htext fun _ _ => ?_
      exact L.bind (hregime.printError _) fun _ _ => L.pure hcode

theorem of_report {failure : Failure} {v u : World} {outcome : Except Failure Nat} (hv : inv v)
    (hrun : (report failure).run v = (outcome, u)) : outcome ≠ .ok 0 ∧ inv u := by
  obtain ⟨hu, hcode, -⟩ := During.cases (during_report hregime failure) hv
  rw [hrun] at hu hcode
  exact ⟨fun hzero => hcode 0 hzero rfl, hu⟩

theorem fails_of_unchained {v : World} {outcome : Except Failure (List String × Fields)}
    (hchain : r.chain.run w = (outcome, v)) (hv : inv v)
    (hnames : ∀ names options, outcome = .ok (names, options) → names = []) :
    r.exit make h w ≠ .ok 0 ∧ inv (r.after make h w) := by
  have hattempt : (merged (liftM r.chain.attempt : Act (Host φ) _)).run (h, w) =
      (.ok outcome, (h, v)) :=
    run_merged_lift (by rw [run_attempt, hchain])
  have hprinted (text : String) : inv { v with stderr := v.stderr ++ text } :=
    hregime.same (w := v) ⟨rfl, rfl, rfl, rfl, rfl⟩ hv
  unfold exit after run
  rw [merged_bind, run_bind_of_ok hattempt]
  cases outcome with
  | error failure =>
    cases failure with
    | configuration problem => exact ⟨nofun, hprinted _⟩
    | _ => exact ⟨nofun, hv⟩
  | ok result =>
    obtain ⟨names, options⟩ := result
    obtain rfl := hnames names options rfl
    exact ⟨nofun, hprinted _⟩

variable {kept : Host φ → Prop} (hready : ∀ h, kept h → kept { h with registry := h.readied })
variable (hmake : ∀ names options v, r.chain.run w = (.ok (names, options), v) →
  ∀ name ∈ names, Pipeline.MakesStaying make kept inv may name)
variable (hh : kept h) (hw : inv w)
include hready hmake hh hw

theorem prepare_cases {names : List String} {options : Fields} {v : World}
    (hchain : r.chain.run w = (.ok (names, options), v)) {t : Host φ × World}
    {outcome : Except Failure (Filter × Json)}
    (hprepare : (merged (r.prepare make names (r.withIncludeOptions options))).run
      (h, r.announced names v) = (outcome, t)) :
    inv t.2 ∧ ∀ f doc, outcome = .ok (f, doc) → f.Stays inv (Filter.lettingOut may r.isSafe) := by
  have hholds : (during (Beside kept inv) fun _ => True).Holds
      (merged (r.prepare make names (r.withIncludeOptions options))) fun p =>
        p.1.Stays inv (Filter.lettingOut may r.isSafe) := by
    refine Beside.bind (Pipeline.during_build hregime hready (hmake names options v hchain)
      (r.withIncludeOptions options) r.isSafe) fun f hf => ?_
    exact Beside.bind (Beside.lift (hregime.any.read _)) fun doc _ => Beside.pure hf
  obtain ⟨hv, -⟩ := During.cases (during_chain hregime r) hw
  rw [hchain] at hv
  have hstart : Beside kept inv (h, r.announced names v) := ⟨hh, inv_announced hregime names hv⟩
  obtain ⟨hended, hstays, -⟩ := During.cases hholds hstart
  rw [hprepare] at hended hstays
  exact ⟨hended.2, fun f doc hok => hstays (f, doc) hok⟩

theorem stays_of_begins {names : List String} {f : Filter} {doc : Json} {u : World}
    (hbegins : r.Begins make h w names f doc u) :
    inv u ∧ f.Stays inv (Filter.lettingOut may r.isSafe) := by
  obtain ⟨options, v, h', hchain, -, hprepare⟩ := hbegins
  obtain ⟨hu, hstays⟩ := prepare_cases hregime hready hmake hh hw hchain hprepare
  exact ⟨hu, hstays f doc rfl⟩

/-- Either the run comes as far as that the document is read, or it ends before without success. -/
theorem begins_or_fails : (∃ names f doc u, r.Begins make h w names f doc u) ∨
    r.exit make h w ≠ .ok 0 ∧ inv (r.after make h w) := by
  obtain ⟨hv, -⟩ := During.cases (during_chain hregime r) hw
  rcases hchain : r.chain.run w with ⟨failure | ⟨names, options⟩, v⟩
  · rw [hchain] at hv
    exact .inr (fails_of_unchained hregime hchain hv nofun)
  rw [hchain] at hv
  by_cases hnames : names = []
  · refine .inr (fails_of_unchained hregime hchain hv ?_)
    rintro _ _ ⟨⟩
    exact hnames
  rcases hprepare : (merged (r.prepare make names (r.withIncludeOptions options))).run
    (h, r.announced names v) with ⟨failure | ⟨f, doc⟩, h', u⟩
  · obtain ⟨hu, -⟩ := prepare_cases hregime hready hmake hh hw hchain hprepare
    have hprocess : (merged (r.process make names (r.withIncludeOptions options))).run
        (h, r.announced names v) = (.error failure, (h', u)) := by
      rw [process_eq, merged_bind]
      exact run_bind_of_error hprepare
    exact .inr (of_report hregime hu (run_of_process hchain hnames hprocess))
  · exact .inl ⟨names, f, doc, u, options, v, h', hchain, hnames, hprepare⟩

end Regime

/-! ### The one moment of writing -/

/-- Whether a request gives a result, and what the world is then. -/
def Gives (make : φ → Fields → Act (Host φ) Filter) (r : Request) (h : Host φ) (w : World)
    (result : Json) (v : World) : Prop :=
  ∃ names f doc u, r.Begins make h w names f doc u ∧ (f.apply doc).run u = (.ok result, v)

/-- Whether from one world to another nothing happened but that a text went where the output of a
request goes: to the standard output, or as the whole content of a file. -/
structure Committed (r : Request) (text : String) (v u : World) : Prop where
  output : r.output = "-" → u = v.printing text
  file : r.output ≠ "-" → ∃ disk, u = { v with disk := disk } ∧
    v.disk.write v.here (Path.tidy r.output) (Utf8.encode text) = .ok disk ∧
    disk.find? (Disk.target v.here (Path.tidy r.output)) = some (.file (Utf8.encode text))

theorem committed_of_delivered {text received : String} {v u : World}
    (h : Document.Delivered text v (.ofPath r.output) received u) : r.Committed text v u := by
  unfold Document.Destination.ofPath at h
  split at h
  · next hdash =>
    cases h
    exact ⟨fun _ => rfl, fun hfile => absurd hdash hfile⟩
  · next hfile =>
    have hfind := h.find?_target
    cases h with
    | file _ hwrite => exact ⟨fun hdash => absurd hdash hfile, fun _ => ⟨_, rfl, hwrite, hfind⟩⟩

def Opens (r : Request) (w : World) : Prop :=
  r.output ≠ "-" → (Path.tidy r.output).toList.contains '\x00' = false ∧
    w.disk.Takes w.here (Path.tidy r.output)

theorem run_write_of_opens (hopens : r.Opens w) (v : Json) :
    ∃ received, ((Document.write v r.spacing (.ofPath r.output)).run w).1 = .ok received := by
  unfold Document.Destination.ofPath
  split
  · exact ⟨_, rfl⟩
  · next hfile =>
    obtain ⟨hnull, htakes⟩ := hopens hfile
    exact ⟨_, Document.run_write_of_takes hnull htakes v r.spacing⟩

/-- How a run ends once the document is read. -/
inductive Ends (make : φ → Fields → Act (Host φ) Filter) (r : Request) (h : Host φ) (w : World)
    (f : Filter) (doc : Json) (u : World) : Prop where
  | failed {failure : Failure} {v : World} :
      (f.apply doc).run u = (.error failure, v) →
      (report failure).run v = (r.exit make h w, r.after make h w) → Ends make r h w f doc u
  | refused {result : Json} {failure : Failure} {v : World} :
      (f.apply doc).run u = (.ok result, v) → ¬ r.Opens v →
      (report failure).run v = (r.exit make h w, r.after make h w) → Ends make r h w f doc u
  | committed {result : Json} {v : World} :
      (f.apply doc).run u = (.ok result, v) → r.exit make h w = .ok 0 →
      r.Committed (result.render r.spacing) v (r.after make h w) → Ends make r h w f doc u

theorem ends_of_begins {names : List String} {f : Filter} {doc : Json} {u : World}
    (hbegins : r.Begins make h w names f doc u) : r.Ends make h w f doc u := by
  rcases happly : (f.apply doc).run u with ⟨failure | result, v⟩
  · have hcomplete : (r.complete f doc).run u = (.error failure, v) := run_bind_of_error happly
    exact .failed happly (run_of_begins hbegins hcomplete)
  rcases Document.run_write result r.spacing (.ofPath r.output) v with
    ⟨received, u', hwrite, hdelivered⟩ | ⟨p, failure, -, -, hwrite⟩
  · have hcomplete : (r.complete f doc).run u = (.ok (), u') := by
      unfold complete
      rw [run_bind_of_ok happly]
      exact run_bind_of_ok hwrite
    have hends : (pure 0 : Run Nat).run u' = (r.exit make h w, r.after make h w) :=
      run_of_begins hbegins hcomplete
    obtain ⟨hexit, hafter⟩ := Prod.mk.inj hends
    rw [hafter] at hdelivered
    exact .committed happly hexit.symm (committed_of_delivered hdelivered)
  · have hcloses : ¬ r.Opens v := by
      intro hopens
      obtain ⟨received, hok⟩ := run_write_of_opens hopens result
      rw [hwrite] at hok
      cases hok
    have hcomplete : (r.complete f doc).run u = (.error failure, v) := by
      unfold complete
      rw [run_bind_of_ok happly]
      exact run_bind_of_error hwrite
    exact .refused happly hcloses (run_of_begins hbegins hcomplete)

/-- A property of the world that holds from the start of a run until it writes, and to the end if it
never does. -/
def HoldsUntilWritten (make : φ → Fields → Act (Host φ) Filter) (r : Request) (h : Host φ)
    (w : World) (inv : World → Prop) : Prop :=
  (∀ result v, r.Gives make h w result v → inv v) ∧
    (r.exit make h w ≠ .ok 0 → inv (r.after make h w))

section Regime
variable {inv : World → Prop} {may : Failure → Prop} (hregime : Regime inv may)
variable {kept : Host φ → Prop} (hready : ∀ h, kept h → kept { h with registry := h.readied })
variable (hmake : ∀ names options v, r.chain.run w = (.ok (names, options), v) →
  ∀ name ∈ names, Pipeline.MakesStaying make kept inv may name)
variable (hh : kept h) (hw : inv w)
include hregime hready hmake hh hw

theorem holdsUntilWritten : r.HoldsUntilWritten make h w inv := by
  constructor
  · rintro result v ⟨names, f, doc, u, hbegins, happly⟩
    obtain ⟨hu, hstays⟩ := stays_of_begins hregime hready hmake hh hw hbegins
    obtain ⟨hv, -⟩ := During.cases (hstays doc) hu
    rwa [happly] at hv
  · intro hcode
    rcases begins_or_fails hregime hready hmake hh hw with ⟨names, f, doc, u, hbegins⟩ | ⟨-, hafter⟩
    · obtain ⟨hu, hstays⟩ := stays_of_begins hregime hready hmake hh hw hbegins
      obtain ⟨hv, -⟩ := During.cases (hstays doc) hu
      cases ends_of_begins hbegins with
      | failed happly hreport =>
        rw [happly] at hv
        exact (of_report hregime hv hreport).2
      | refused happly _ hreport =>
        rw [happly] at hv
        exact (of_report hregime hv hreport).2
      | committed _ hexit _ => exact absurd hexit hcode
    · exact hafter

end Regime

theorem makesStaying_always (name : String) :
    Pipeline.MakesStaying make (fun _ => True) (fun _ => True) (fun _ => True) name := by
  have hanything {α τ : Type} {inv : τ → Prop} (hinv : ∀ t, inv t)
      (x : ExceptT Failure (StateM τ) α) {post : α → Prop} (hpost : ∀ a, post a) :
      (during inv fun _ => True).Holds x post :=
    During.of_cases fun t _ => ⟨hinv _, fun a _ => hpost a, fun _ _ => trivial⟩
  intro h m _ _ given
  exact hanything (fun _ => ⟨trivial, trivial⟩) _ fun f doc =>
    hanything (fun _ => trivial) _ fun _ => trivial

/-- A run that succeeds has given a result, and committed it. -/
theorem gives_of_success (hcode : r.exit make h w = .ok 0) :
    ∃ result v, r.Gives make h w result v ∧
      r.Committed (result.render r.spacing) v (r.after make h w) := by
  rcases begins_or_fails .always (fun _ h => h) (fun _ _ _ _ name _ => makesStaying_always name)
    trivial trivial with ⟨names, f, doc, u, hbegins⟩ | ⟨hfails, -⟩
  · cases ends_of_begins hbegins with
    | failed _ hreport => exact absurd hcode (of_report .always trivial hreport).1
    | refused _ _ hreport => exact absurd hcode (of_report .always trivial hreport).1
    | committed happly _ hcommitted =>
      exact ⟨_, _, ⟨names, f, doc, u, hbegins, happly⟩, hcommitted⟩
  · exact absurd hcode hfails

/-! ### Requests for built-in filters -/

/-- Whether making filters keeps a property of the world, and so does every filter that is made. -/
def Keeps (make : φ → Fields → Act (Host φ) Filter) (inv : World → Prop) : Prop :=
  ∀ a given, (during (Beside (fun _ => True) inv) fun _ => True).Holds (merged (make a given))
    fun f => f.Stays inv fun _ => True

/-- Whether all filters that a request asks for are built-in ones. -/
def AsksForBuiltins (embed : Builtin → φ) (r : Request) (h : Host φ) (w : World) : Prop :=
  ∀ names options v, r.chain.run w = (.ok (names, options), v) → ∀ name ∈ names, ∀ m,
    h.readied.find? name = some m → ∃ b : Builtin, m = b.metadata embed

/-- The place of the file that the output of a request goes to, if it goes to a file. -/
def IsOutput (r : Request) (w : World) (place : Place) : Prop :=
  r.output ≠ "-" ∧ place = Disk.target w.here (Path.tidy r.output)

theorem Opens.of_undisturbed (h : r.Opens w) {v : World}
    (hv : World.Undisturbed (r.IsOutput w) w v) : r.Opens v := by
  intro hfile
  obtain ⟨hnull, htakes⟩ := h hfile
  have hhere : v.here = w.here := congrArg Path.steps hv.cwd_eq
  refine ⟨hnull, ?_⟩
  rw [hhere]
  exact htakes.within hv.within (hv.spares _ ⟨hfile, rfl⟩).1

theorem readied_kept (h host : Host φ) (hhost : host.readied = h.readied) :
    { host with registry := host.readied }.readied = h.readied :=
  host.readied_readied.trans hhost

/-- Whether no text that a request takes in goes beyond what JSON can be read of: neither the
document nor what programs write. -/
structure TakesText (r : Request) (w : World) : Prop where
  document : ∀ text, (Document.Source.ofPath r.input).Gives text w → Json.isHoldable text = true
  programs : w.WritesText

section Builtins
variable {I : Script.Interpreter} {embed : Builtin → φ}
variable (hbuiltin : ∀ (b : Builtin) given, make (embed b) given = liftM (b.makeWith I given))
include hbuiltin

theorem makesStaying_of_builtin {inv : World → Prop} {may : Failure → Prop}
    (hregime : Regime inv may) (hanswers : ∀ w, inv w → Sql.AnswersWithin may w) {name : String}
    (hname : ∀ m, h.readied.find? name = some m → ∃ b : Builtin, m = b.metadata embed)
    (hinterrupts : h.readied.find? name = some (Builtin.script.metadata embed) →
      ∀ failure, I.Interrupts failure → may failure) :
    Pipeline.MakesStaying make (fun host => host.readied = h.readied) inv may name := by
  intro host m hhost hfind given
  rw [hhost] at hfind
  obtain ⟨b, rfl⟩ := hname m hfind
  have hmade := b.during_makeWith hregime hanswers
    (fun hscript => hinterrupts (hscript ▸ hfind)) given
  have hlift : make (b.metadata embed).factory given = liftM (b.makeWith I given) :=
    hbuiltin b given
  rw [hlift]
  exact Beside.lift hmade

theorem holdsUntilWritten_of_builtins {inv : World → Prop} (hregime : Regime inv fun _ => True)
    (hasks : r.AsksForBuiltins embed h w) (hw : inv w) : r.HoldsUntilWritten make h w inv := by
  refine holdsUntilWritten hregime (readied_kept h) ?_ rfl hw
  intro names options v hchain name hname
  exact makesStaying_of_builtin hbuiltin hregime (fun _ _ _ _ _ _ _ => trivial)
    (hasks names options v hchain name hname) fun _ _ _ => trivial

/-- Guarded built-in filters let a run succeed once the document is read, unless the output cannot
be opened or a script is interrupted. -/
theorem succeeds_unless_interrupted (hasks : r.AsksForBuiltins embed h w) (hsafe : r.isSafe = true)
    (hlogs : ∀ place, r.IsOutput w place → w.LogsElsewhere place) (hopens : r.Opens w)
    (hanswers : Sql.AnswersWithin (·.isHeld = true) w)
    {names : List String} {f : Filter} {doc : Json} {u : World}
    (hbegins : r.Begins make h w names f doc u) :
    r.exit make h w = .ok 0 ∨ ∃ failure, r.exit make h w = .error failure ∧
      I.Interrupts failure ∧
      ∃ name ∈ names, h.readied.find? name = some (Builtin.script.metadata embed) := by
  -- what a filter with one of the names may fail with
  let may (failure : Failure) : Prop := failure.isHeld = true ∨ I.Interrupts failure ∧
    ∃ name ∈ names, h.readied.find? name = some (Builtin.script.metadata embed)
  have hregime : Regime (World.Undisturbed (r.IsOutput w) w) may :=
    .undisturbed w _ fun _ => .inl
  have hstart : World.Undisturbed (r.IsOutput w) w w :=
    ⟨fun place hplace => ⟨rfl, hlogs place hplace⟩, .refl _, rfl, rfl⟩
  have hmake : ∀ names options v, r.chain.run w = (.ok (names, options), v) → ∀ name ∈ names,
      Pipeline.MakesStaying make (fun host => host.readied = h.readied)
        (World.Undisturbed (r.IsOutput w) w) may name := by
    intro names' options v hchain name hname
    obtain ⟨options', v', h', hchain', -⟩ := hbegins
    cases hchain.symm.trans hchain'
    refine makesStaying_of_builtin hbuiltin hregime ?_ (hasks names options v hchain name hname) ?_
    · intro v hv script hscript calls failure hanswer
      exact .inl (hanswers script (hv.script_eq ▸ hscript) calls failure hanswer)
    · exact fun hfind failure hinterrupts => .inr ⟨hinterrupts, name, hname, hfind⟩
  obtain ⟨hu, hstays⟩ := stays_of_begins hregime (readied_kept h) hmake rfl hstart hbegins
  obtain ⟨hv, -, hfails⟩ := During.cases (hstays doc) hu
  cases ends_of_begins hbegins with
  | @failed failure v happly hreport =>
    have hout := hfails failure (by rw [happly])
    rw [hsafe] at hout
    obtain ⟨cause, hheld | ⟨hinterrupts, hname⟩, hout⟩ := hout
    · rw [Failure.held_eq_message hheld] at hout
      cases hout
    · -- nothing holds an interruption, neither the guard nor the report
      have hpasses := hinterrupts.isContained_eq_false
      rw [Failure.held, hpasses, if_neg Bool.false_ne_true] at hout
      cases hout
      rw [run_report_of_not_contained hpasses] at hreport
      exact .inr ⟨_, (congrArg Prod.fst hreport).symm, hinterrupts, hname⟩
  | refused happly hcloses _ =>
    -- what the filters did cannot have closed the way to the output
    rw [happly] at hv
    exact absurd (hopens.of_undisturbed hv) hcloses
  | committed _ hexit _ => exact .inl hexit

end Builtins

/-! ### Requests for one filter -/

/-- A request for one filter, without configuration. -/
def asking (name output : String) (isSafe : Bool) : Request :=
  { initial with filters := [name], output := output, isSafe := isSafe, isConfigured := false }

/-- A world with one file, where a document with one code block stands at the standard input. -/
def blockWorld (cls text : String) : World :=
  let doc := Node.document [CodeBlock.toNode ⟨text, Attr.ofClasses [cls]⟩] (.obj [])
  { World.initial ⟨[(["w"], .directory), (["w", "o.json"], .file [])]⟩ "/w" with
    stdin := doc.render none }

def plainHost : Host Unit := ⟨[⟨0, "p", "", (), [], [], [], ""⟩], .ok [], .empty⟩

def failing : Filter := .ofFunction "p" fun _ => throw (.runtime "no")

def printing : Filter := .ofFunction "p" fun doc => do
  Run.print "x"
  failing.apply doc

theorem keeps_failing (inv : World → Prop) : Keeps (fun (_ : Unit) _ => pure failing) inv :=
  fun _ _ => Beside.pure fun _ => During.throw trivial

theorem asksForBuiltins_asking {b : Builtin} {name : String} (output : String) (isSafe : Bool)
    (hname : builtinHost.readied.find? name = some (b.metadata id)) :
    (asking name output isSafe).AsksForBuiltins id builtinHost w := by
  intro names options v hchain other hother m hm
  cases hchain
  obtain rfl := List.mem_singleton.mp hother
  exact ⟨b, Option.some.inj (hm.symm.trans hname)⟩

theorem asking_chain (name output : String) (isSafe : Bool) (w : World) :
    (asking name output isSafe).chain.run w = (.ok ([name], []), w) := rfl

theorem begins_of_isOk {names : List String} {options : Fields} {v : World}
    (hchain : r.chain.run w = (.ok (names, options), v)) (hnames : names ≠ [])
    (hok : ((merged (r.prepare make names (r.withIncludeOptions options))).run
      (h, r.announced names v)).1.isOk = true) :
    ∃ f doc u, r.Begins make h w names f doc u := by
  rcases hprepare : (merged (r.prepare make names (r.withIncludeOptions options))).run
    (h, r.announced names v) with ⟨failure | ⟨f, doc⟩, h', u⟩
  · rw [hprepare] at hok
    cases hok
  · exact ⟨f, doc, u, options, v, h', hchain, hnames, hprepare⟩

/-! ### Committed or left -/

/-- What goes to the standard output in a run: the text of the result, if the run succeeds and its
output goes there, and else nothing. -/
def PrintsResultOnly (make : φ → Fields → Act (Host φ) Filter) (r : Request) (h : Host φ)
    (w : World) : Prop :=
  (r.exit make h w = .ok 0 → r.output = "-" → ∃ result v, r.Gives make h w result v ∧
      (r.after make h w).stdout = w.stdout ++ result.render r.spacing) ∧
    (r.exit make h w ≠ .ok 0 ∨ r.output ≠ "-" → (r.after make h w).stdout = w.stdout)

theorem printsResultOnly (hsilent : r.HoldsUntilWritten make h w (·.stdout = w.stdout)) :
    r.PrintsResultOnly make h w := by
  constructor
  · intro hcode hdash
    obtain ⟨result, v, hgives, hcommitted⟩ := gives_of_success hcode
    refine ⟨result, v, hgives, ?_⟩
    rw [hcommitted.output hdash, ← hsilent.1 result v hgives]
    rfl
  · intro hnot
    by_cases hcode : r.exit make h w = .ok 0
    · have hfile : r.output ≠ "-" := hnot.resolve_left fun hne => hne hcode
      obtain ⟨result, v, hgives, hcommitted⟩ := gives_of_success hcode
      obtain ⟨disk, hworld, -⟩ := hcommitted.file hfile
      rw [hworld, ← hsilent.1 result v hgives]
    · exact hsilent.2 hcode

end Command.Request

end DocFilter
