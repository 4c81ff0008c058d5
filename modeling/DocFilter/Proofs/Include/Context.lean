import DocFilter.Proofs.Include.Watching
import Mathlib.Data.List.Nodup

/-!
# The contexts of an expansion

The invariant of contexts: the files being included are all different, there are as many of them as
levels, and references are taken from the directory of the innermost one. It holds of the context
that a document starts in, and descending preserves it. Hence no file is opened while it is being
included, and the source of the document is never opened at all.
-/

namespace DocFilter.Include

/-! ### The context of a document -/

theorem Settings.run_rootContext (s : Settings) (w : World) :
    s.rootContext.run w = (s.contextIn w.cwd, w) := by
  unfold rootContext
  have hcwd : Run.cwd.run w = (.ok w.cwd, w) := rfl
  rw [run_bind_of_ok hcwd, run_ofExcept]

section Start
variable {s : Settings} {w : World} (doc : Json)

theorem Settings.run_applyTo_of_ok {c : Context} (h : s.contextIn w.cwd = .ok c) :
    (s.applyTo doc).run w = (expandWithin s.convert c.remaining doc c).run w := by
  have hroot : s.rootContext.run w = (.ok c, w) := by rw [s.run_rootContext, h]
  unfold applyTo
  rw [run_bind_of_ok hroot]
  rfl

theorem Settings.run_applyTo_of_error {failure : Failure}
    (h : s.contextIn w.cwd = .error failure) : (s.applyTo doc).run w = (.error failure, w) := by
  have hroot : s.rootContext.run w = (.error failure, w) := by rw [s.run_rootContext, h]
  unfold applyTo
  rw [run_bind_of_error hroot]

theorem Settings.run_watched_of_ok {c : Context} (h : s.contextIn w.cwd = .ok c) :
    (s.watched doc).run (w, []) =
      (watchedWithin s.convert c.remaining doc c).run (w, []) := by
  have hroot : (liftM s.rootContext : Watched Context).run (w, []) = (.ok c, (w, [])) := by
    change ((s.rootContext.run w).1, ((s.rootContext.run w).2, [])) = _
    rw [s.run_rootContext, h]
  unfold watched
  rw [run_bind_of_ok hroot]

theorem Settings.run_watched_of_error {failure : Failure}
    (h : s.contextIn w.cwd = .error failure) :
    (s.watched doc).run (w, []) = (.error failure, (w, [])) := by
  have hroot : (liftM s.rootContext : Watched Context).run (w, []) =
      (.error failure, (w, [])) := by
    change ((s.rootContext.run w).1, ((s.rootContext.run w).2, [])) = _
    rw [s.run_rootContext, h]
  unfold watched
  rw [run_bind_of_error hroot]

end Start

/-- What is known of the context that a document starts in. -/
theorem Settings.contextIn_eq_ok {s : Settings} {cwd : String} {c : Context}
    (h : s.contextIn cwd = .ok c) :
    ∃ source base, s.sourcePath cwd = .ok source ∧
      c = ⟨Path.absolute cwd base, source.toList, 0, s.limit⟩ := by
  unfold contextIn at h
  cases hs : s.sourcePath cwd with
  | error e =>
    rw [hs] at h
    cases h
  | ok source =>
    rw [hs] at h
    cases hb : s.rootBase source with
    | error e =>
      simp only [Except.bind, bind, hb] at h
      cases h
    | ok base =>
      simp only [Except.bind, bind, hb] at h
      cases h
      exact ⟨source, base, rfl, rfl⟩

theorem Settings.sourcePath_isCanonical {s : Settings} {cwd path : String}
    (h : s.sourcePath cwd = .ok (some path)) (hcwd : Path.isAbsolute cwd = true) :
    Path.IsCanonical path := by
  unfold sourcePath at h
  split at h
  · cases ht : pathOption s.source with
    | error e =>
      rw [ht] at h
      cases h
    | ok text =>
      rw [ht] at h
      cases h
      exact Path.resolve_none_isCanonical hcwd text
  · cases h

/-! ### The invariant -/

/-- The invariant of the contexts in an expansion with a limit, and perhaps with a source. -/
structure Context.Sound (limit : DepthLimit) (source : Option String) (c : Context) : Prop where
  limit_eq : c.limit = limit
  nodup : c.stack.Nodup
  isCanonical : ∀ path ∈ c.stack, Path.IsCanonical path
  length_eq : (c.stack.length : Int) = c.depth + if source.isSome then 1 else 0
  first : ∀ path, source = some path → c.stack.head? = some path
  depth_le : c.depth ≤ limit.levels
  baseDir_isAbsolute : Path.isAbsolute c.baseDir = true
  baseDir_eq : 0 < c.depth → c.stack.getLast?.map Path.directory = some c.baseDir

namespace Context.Sound
variable {limit : DepthLimit} {source : Option String} {c : Context}

theorem descend (h : c.Sound limit source) {path : String} (hroom : c.isExhausted = false)
    (hnew : path ∉ c.stack) (hpath : Path.IsCanonical path) :
    (c.descend path).Sound limit source where
  limit_eq := h.limit_eq
  nodup := by
    rw [Context.descend, ← List.concat_eq_append]
    exact List.Nodup.concat hnew h.nodup
  isCanonical := by
    intro p hp
    rcases List.mem_append.mp hp with hp | hp
    · exact h.isCanonical p hp
    · rwa [List.mem_singleton.mp hp]
  length_eq := by
    have hlength := h.length_eq
    simp only [Context.descend, List.length_append, List.length_singleton]
    omega
  first := by
    intro p hp
    simp only [Context.descend, List.head?_append, h.first p hp, Option.some_or]
  depth_le := by
    have hlevels : c.depth < c.limit.levels := by simpa [isExhausted] using hroom
    rw [h.limit_eq] at hlevels
    simp only [Context.descend]
    omega
  baseDir_isAbsolute := Path.isAbsolute_directory hpath.isAbsolute
  baseDir_eq := by
    intro _
    simp [Context.descend]

theorem start {s : Settings} {cwd : String} (h : s.contextIn cwd = .ok c)
    (hsource : s.sourcePath cwd = .ok source) (hcwd : Path.isAbsolute cwd = true)
    (hlevels : 0 ≤ s.limit.levels) : c.Sound s.limit source := by
  obtain ⟨source', base, hs, rfl⟩ := Settings.contextIn_eq_ok h
  obtain rfl : source' = source := by
    rw [hs] at hsource
    exact Except.ok.inj hsource
  constructor
  case limit_eq => rfl
  case nodup => cases source' <;> simp
  case isCanonical =>
    intro path hp
    have hpath : source' = some path := by simpa [eq_comm] using hp
    rw [hpath] at hs
    exact Settings.sourcePath_isCanonical hs hcwd
  case length_eq => cases source' <;> simp
  case first =>
    rintro path rfl
    rfl
  case depth_le => exact hlevels
  case baseDir_isAbsolute =>
    exact (Path.absolute_isCanonical (Path.isAbsolute_join hcwd base)).isAbsolute
  case baseDir_eq =>
    intro hdepth
    exact absurd hdepth (by simp)

/-- The source of a document is being included all the time. -/
theorem source_mem (h : c.Sound limit source) {path : String} (hs : source = some path) :
    path ∈ c.stack :=
  List.mem_of_mem_head? (h.first path hs)

end Context.Sound

/-! ### The events of an expansion -/

/-- What holds at the start of a document, and is kept by the parts of its expansion, holds at the
end. -/
theorem Settings.watched_keeps {s : Settings} (doc : Json) {w : World}
    {inv : World × List Event → Prop} {I : Context → Prop} {readable : String → Prop}
    (hsteady : Steady s.convert inv I readable) (hw : inv (w, []))
    (hstart : ∀ c, s.contextIn w.cwd = .ok c → I c) : inv ((s.watched doc).run (w, [])).2 := by
  cases hc : s.contextIn w.cwd with
  | error failure => rwa [Settings.run_watched_of_error doc hc]
  | ok c =>
    rw [Settings.run_watched_of_ok doc hc]
    exact (hsteady.watchedWithin c.remaining doc c (hstart c hc) rfl (w, []) hw).1

/-- An event in whose context a property holds; a file is only opened if a block may ask for it. -/
def Event.Within (I : Context → Prop) : Event → Prop
  | .expands _ c => I c
  | .opens path c => I c ∧ ∃ b, Asks b c path

/-- Worlds with `inv` stay such worlds, whatever is logged, read or converted, and only files with
`readable` are read in them. -/
structure Preserved (convert : Converter) (inv : World → Prop) (readable : String → Prop) :
    Prop where
  log : ∀ w r, inv w → inv (w.log r)
  read : ∀ w path, inv w → inv ((Run.readText path).run w).2
  readable : ∀ w path content, inv w → w.textAt path = .ok content → readable path
  convert : ∀ w content, inv w → inv ((convert content).run w).2

theorem Preserved.steady {convert : Converter} {inv : World → Prop} {readable : String → Prop}
    {I : Context → Prop} (h : Preserved convert inv readable)
    (hstep : ∀ c b path, I c → c.isExhausted = false → Asks b c path → readable path →
      I (c.descend path)) :
    Steady convert (Noting.StateOf inv (Event.Within I)) I readable where
  expands v c hc := Noting.stateOf_note (show Event.Within I (.expands v c) from hc)
  debug text := Noting.stateOf_quiet fun w hw => ⟨h.log w _ hw, fun _ _ => trivial⟩
  report requested problem := by
    refine Noting.stateOf_quiet fun w hw => ⟨?_, fun _ _ => trivial⟩
    rw [run_report]
    dsimp only
    split
    · exact h.log w _ hw
    · exact hw
  load c b path hc ha := by
    have hopen : Event.Within I (.opens path c) := ⟨hc, b, ha⟩
    refine (keeping _).bind (Noting.stateOf_note hopen) fun _ _ => ?_
    refine Noting.stateOf_quiet (x := fileText path) fun w hw => ?_
    rw [run_fileText]
    refine ⟨h.read w path hw, fun r hr content hcontent => ?_⟩
    rw [hcontent] at hr
    exact h.readable w path content hw (readingOf_eq_ok hr)
  blocks path content := by
    refine Noting.stateOf_quiet fun w hw => ⟨?_, fun _ _ => trivial⟩
    rw [run_fileBlocks]
    exact h.convert w content hw
  descend := hstep

/-- A property of contexts that holds where a document starts, and that descending into a readable
file preserves, holds at all events. -/
theorem Settings.events_within {s : Settings} (doc : Json) {w : World} {inv : World → Prop}
    {readable : String → Prop} {I : Context → Prop} (h : Preserved s.convert inv readable)
    (hw : inv w) (hstart : ∀ c, s.contextIn w.cwd = .ok c → I c)
    (hstep : ∀ c b path, I c → c.isExhausted = false → Asks b c path → readable path →
      I (c.descend path)) :
    ∀ e ∈ s.events doc w, e.Within I :=
  (Settings.watched_keeps doc (h.steady hstep) ⟨hw, by simp⟩ hstart).2

/-! ### The files that are opened -/

def OpensNothing (convert : Converter) : Prop :=
  ∀ text w, ((convert text).run w).2.opened = w.opened

/-- What was opened since a world, has been noted. -/
def OpenedNoted (w : World) (t : World × List Event) : Prop :=
  ∀ path ∈ t.1.opened, path ∈ w.opened ∨ ∃ c, .opens path c ∈ t.2

theorem OpenedNoted.of_opened_eq {w u u' : World} {noted : List Event}
    (h : OpenedNoted w (u, noted)) (heq : u'.opened = u.opened) :
    OpenedNoted w (u', noted) := fun path hpath => h path (heq ▸ hpath)

theorem OpenedNoted.note {w u : World} {noted : List Event} (h : OpenedNoted w (u, noted))
    (e : Event) : OpenedNoted w (u, noted ++ [e]) := by
  intro path hpath
  rcases h path hpath with hold | ⟨c, hc⟩
  · exact .inl hold
  · exact .inr ⟨c, List.mem_append_left _ hc⟩

theorem steady_openedNoted {convert : Converter} (h : OpensNothing convert) (w : World) :
    Steady convert (OpenedNoted w) (fun _ => True) fun _ => True where
  expands v c _ := fun (u, noted) hu =>
    ⟨OpenedNoted.note hu (.expands v c), fun _ _ => trivial⟩
  debug text := fun (u, noted) hu =>
    ⟨OpenedNoted.of_opened_eq hu (u.opened_log _), fun _ _ => trivial⟩
  report requested problem := by
    rintro ⟨u, noted⟩ hu
    refine ⟨OpenedNoted.of_opened_eq hu ?_, fun _ _ => trivial⟩
    rw [run_report]
    dsimp only
    split
    · exact u.opened_log _
    · rfl
  load c b path _ _ := by
    rintro ⟨u, noted⟩ hu
    have hnoted : OpenedNoted w (u, noted ++ [.opens path c]) := OpenedNoted.note hu _
    refine ⟨?_, fun _ _ _ _ => trivial⟩
    change OpenedNoted w (((fileText path).run u).2, noted ++ [.opens path c])
    rw [run_fileText]
    rcases (run_readText path u).2 with hsame | hopened
    · rwa [hsame]
    · rw [hopened]
      intro p hp
      rcases List.mem_append.mp hp with hp | hp
      · exact hnoted p hp
      · rw [List.mem_singleton.mp hp]
        exact .inr ⟨c, by simp⟩
  blocks path content := by
    rintro ⟨u, noted⟩ hu
    refine ⟨OpenedNoted.of_opened_eq hu ?_, fun _ _ => trivial⟩
    rw [run_fileBlocks]
    exact h content u
  descend _ _ _ _ _ _ _ := trivial

/-- Beside the converter, an expansion opens no files but those it notes. -/
theorem Settings.opened_noted {s : Settings} (h : OpensNothing s.convert) (doc : Json)
    (w : World) :
    ∀ path ∈ ((s.applyTo doc).run w).2.opened,
      path ∈ w.opened ∨ ∃ c, .opens path c ∈ s.events doc w := by
  have hkeep : OpenedNoted w ((s.watched doc).run (w, [])).2 :=
    Settings.watched_keeps doc (steady_openedNoted h w) (fun _ hp => .inl hp) fun _ _ => trivial
  rw [s.run_watched] at hkeep
  exact hkeep

end DocFilter.Include
