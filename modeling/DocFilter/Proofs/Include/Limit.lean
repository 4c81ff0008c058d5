import DocFilter.Proofs.Include.Nesting
import DocFilter.Proofs.Path.Readable
import DocFilter.Proofs.Walk.Fixpoint

/-!
# The depth limit

What a depth limit can change. A pass that may not expand anything leaves its value alone, and so
does any pass over a value without include blocks. Therefore a greater limit gives the same result
if no pass that stops at the limit sees an include block. Since the files being included are all
different and readable, no pass stops at a limit above the number of readable files.
-/

namespace DocFilter.Include

open Noting World

def functional (f : String → Except Failure Json) : Converter :=
  fun text => MonadExcept.ofExcept (f text)

theorem run_functional (f : String → Except Failure Json) (text : String) (w : World) :
    (functional f text).run w = (f text, w) := run_ofExcept (f text) w

def Context.limited (c : Context) (limit : DepthLimit) : Context := { c with limit := limit }

def Settings.limited (s : Settings) (limit : DepthLimit) : Settings := { s with limit := limit }

theorem Settings.contextIn_limited (s : Settings) (limit : DepthLimit) (cwd : String) :
    (s.limited limit).contextIn cwd = (s.contextIn cwd).map (·.limited limit) := by
  have hsource : (s.limited limit).sourcePath cwd = s.sourcePath cwd := rfl
  unfold contextIn
  rw [hsource]
  cases s.sourcePath cwd with
  | error failure => rfl
  | ok source =>
    have hbase : (s.limited limit).rootBase source = s.rootBase source := rfl
    simp only [bind, Except.bind, hbase]
    cases s.rootBase source <;> rfl

/-! ### The same files -/

/-- From alike worlds, computations end the same way in alike worlds. -/
def EndAlike {α : Type} (x y : Run α) : Prop :=
  ∀ s t, Alike s t → (x.run s).1 = (y.run t).1 ∧ Alike (x.run s).2 (y.run t).2

theorem report_endAlike (requested : String) (problem : Problem) :
    EndAlike (problem.report requested) (problem.report requested) := by
  intro s t hst
  rw [run_report, run_report]
  refine ⟨rfl, ?_⟩
  dsimp only
  split
  · exact (hst.log_left _).log_right _
  · exact hst

theorem fileText_endAlike (path : String) : EndAlike (fileText path) (fileText path) := by
  intro s t hst
  rw [run_fileText, run_fileText, hst.textAt_eq]
  exact ⟨rfl, (hst.readText_left path).readText_right path⟩

theorem fileBlocks_endAlike (f : String → Except Failure Json) (path content : String) :
    EndAlike (fileBlocks (functional f) path content) (fileBlocks (functional f) path content) := by
  intro s t hst
  rw [run_fileBlocks, run_fileBlocks, run_functional, run_functional]
  exact ⟨rfl, hst⟩

theorem ofExcept_endAlike {α : Type} (x : Except Failure α) :
    EndAlike (MonadExcept.ofExcept x) (MonadExcept.ofExcept x) := by
  intro s t hst
  rw [run_ofExcept, run_ofExcept]
  exact ⟨rfl, hst⟩

/-! ### Two limits -/

/-- A pass that stops at the limit sees no include block. -/
def Event.Calm : Event → Prop
  | .expands v c => c.isExhausted = true → ∀ n ∈ nodes v, accepts n = none
  | .opens _ _ => True

/-- A value without include blocks is left alone, whatever the limit is. -/
theorem leave_endAlike {convert : Converter} {v : Json} (h : ∀ n ∈ nodes v, accepts n = none)
    (levels : Nat) (c c' : Context) : EndAlike (leave v c) (expandWithin convert levels v c') := by
  intro s t hst
  cases levels with
  | zero => exact ⟨rfl, (hst.log_left _).log_right _⟩
  | succ levels =>
    have hpure : expandWithin convert (levels + 1) v c' = pure v := by
      refine walk_eq_pure v fun n hn => ?_
      rw [h n hn]
    rw [hpure]
    exact ⟨rfl, hst.log_left _⟩

/-- As long as its events are calm, an expansion goes as one with more levels to go. -/
theorem watchedWithin_agrees_with_more (f : String → Except Failure Json) (limit : DepthLimit)
    {levels more : Nat} (hmore : levels ≤ more) (v : Json) (c : Context)
    (hlevels : c.remaining = levels) :
    Agree Alike Event.Calm (watchedWithin (functional f) levels v c)
      (expandWithin (functional f) more v (c.limited limit)) := by
  induction levels generalizing more v c with
  | zero =>
    -- this pass stops while the other may go on, but finds no block to replace
    refine agree_note_bind (fun _ _ => List.prefix_rfl) fun hcalm => ?_
    have hblocks := hcalm (Context.remaining_eq_zero.mp hlevels)
    exact agree_quiet (leave_endAlike hblocks more c _)
  | succ levels ih =>
    obtain ⟨more, rfl⟩ : ∃ k, more = k + 1 := ⟨more - 1, by omega⟩
    have hparts : SamePass (agreeing Alike Event.Calm) (watchedText c) fileText (functional f)
        (watchedWithin (functional f) levels) (expandWithin (functional f) more) c
        (c.limited limit) :=
      { cwd := agree_quiet fun s t hst => ⟨congrArg Except.ok hst.cwd_eq, hst⟩
        debug := fun text => agree_quiet fun s t hst => ⟨rfl, (hst.log_left _).log_right _⟩
        report := fun requested problem => agree_quiet (report_endAlike requested problem)
        load := fun path => (agree_quiet (fileText_endAlike path)).note_bind _
        blocks := fun path content => agree_quiet (fileBlocks_endAlike f path content)
        expand := fun v path => by
          refine ih (by omega) v (c.descend path) ?_
          rw [Context.remaining_descend, hlevels, Nat.add_sub_cancel]
        included := fun path v => agree_quiet (ofExcept_endAlike (included path v))
        request_eq := fun _ _ => rfl
        depth_eq := rfl }
    exact Agree.note_bind (hparts.pass v) _

/-- If no pass that stops at the limit sees an include block, a greater limit changes nothing. -/
theorem Settings.applyTo_eq_of_calm {s : Settings} {f : String → Except Failure Json}
    (hconvert : s.convert = functional f) (doc : Json) {w : World}
    (hfile : w.setup.file = none) {k m : DepthLimit} (hle : k.levels ≤ m.levels)
    (hcalm : ∀ e ∈ (s.limited k).events doc w, e.Calm) :
    (((s.limited k).applyTo doc).run w).1 = (((s.limited m).applyTo doc).run w).1 := by
  have hwatched := (s.limited k).run_watched doc w
  have hk := s.contextIn_limited k w.cwd
  have hm := s.contextIn_limited m w.cwd
  cases hc : s.contextIn w.cwd with
  | error failure =>
    rw [hc] at hk hm
    rw [run_applyTo_of_error doc hk, run_applyTo_of_error doc hm]
  | ok c =>
    rw [hc] at hk hm
    rw [run_watched_of_ok doc hk] at hwatched
    rw [run_applyTo_of_ok doc hm]
    have hmore : (c.limited k).remaining ≤ (c.limited m).remaining := by
      simp only [Context.remaining, Context.limited]
      omega
    have hagree := watchedWithin_agrees_with_more f m hmore doc (c.limited k) rfl
    rw [← hconvert] at hagree
    obtain ⟨hout, -⟩ := hagree.ends w w [] (alike_self hfile) <| by
      change ∀ e ∈ ((watchedWithin (s.limited k).convert _ doc _).run (w, [])).2.2, e.Calm
      rw [hwatched]
      exact hcalm
    have hfirst := congrArg Prod.fst hwatched
    exact hfirst.symm.trans hout

/-! ### Limits above the number of readable files -/

theorem preserved_alike (f : String → Except Failure Json) (w : World) :
    Preserved (functional f) (Alike w) fun path => ∃ content, w.textAt path = .ok content where
  log _ r h := h.log_right r
  read _ path h := h.readText_right path
  readable _ path content h hcontent := ⟨content, by rw [h.textAt_eq, hcontent]⟩
  convert u content h := by rwa [run_functional]

/-- Beside a source, only readable files are being included. -/
def Context.Readable (w : World) (source : Option String) (c : Context) : Prop :=
  ∃ files, c.stack = source.toList ++ files ∧ ∀ path ∈ files, path ∈ readablePaths w

theorem Context.Readable.descend {w : World} {source : Option String} {c : Context}
    (h : c.Readable w source) {path : String} (hpath : path ∈ readablePaths w) :
    (c.descend path).Readable w source := by
  obtain ⟨files, hstack, hfiles⟩ := h
  refine ⟨files ++ [path], ?_, fun p hp => ?_⟩
  · rw [Context.descend, hstack, List.append_assoc]
  · rcases List.mem_append.mp hp with hp | hp
    · exact hfiles p hp
    · rwa [List.mem_singleton.mp hp]

/-- There are no more levels than readable files. -/
theorem Context.Readable.depth_le {w : World} {limit : DepthLimit} {source : Option String}
    {c : Context} (h : c.Readable w source) (hsound : c.Sound limit source) :
    c.depth ≤ (readablePaths w).ncard := by
  obtain ⟨files, hstack, hfiles⟩ := h
  have hlength := hsound.length_eq
  have hnodup := hsound.nodup
  rw [hstack] at hlength hnodup
  have hdepth : c.depth = files.length := by
    cases source <;> simp at hlength <;> omega
  have hcard : files.length ≤ (readablePaths w).ncard := by
    calc files.length
        = files.toFinset.card := (List.toFinset_card_of_nodup hnodup.of_append_right).symm
      _ = (files.toFinset : Set String).ncard := (Set.ncard_coe_finset _).symm
      _ ≤ (readablePaths w).ncard :=
        Set.ncard_le_ncard (by simpa [Set.subset_def] using hfiles) (finite_readablePaths w)
  omega

/-- With a limit above the number of readable files, no pass stops at the limit. -/
theorem Settings.not_exhausted {s : Settings} {f : String → Except Failure Json}
    (hconvert : s.convert = functional f) (doc : Json) {w : World}
    (hcwd : Path.isAbsolute w.cwd = true) (hfile : w.setup.file = none)
    (hlimit : ((readablePaths w).ncard : Int) + 1 ≤ s.limit.levels) :
    ∀ e ∈ s.events doc w, e.Within fun c => c.isExhausted = false := by
  have hlevels : 0 ≤ s.limit.levels := by omega
  have hpreserved := preserved_alike f w
  rw [← hconvert] at hpreserved
  have hevents : ∀ e ∈ s.events doc w, e.Within fun c =>
      ∃ source, c.Sound s.limit source ∧ c.Readable w source := by
    refine Settings.events_within doc hpreserved (alike_self hfile) ?_ ?_
    · intro c hc
      obtain ⟨source, base, hsource, rfl⟩ := contextIn_eq_ok hc
      exact ⟨source, .start hc hsource hcwd hlevels, [], by simp, by simp⟩
    · rintro c b path ⟨source, hsound, hreadable⟩ hroom ha hcontent
      have hcanonical := ha.isCanonical hsound.baseDir_isAbsolute
      exact ⟨source, hsound.descend hroom ha.not_mem hcanonical,
        hreadable.descend (mem_readablePaths.mpr ⟨hcanonical, hcontent⟩)⟩
  -- a pass at the limit would have more readable files above it than there are
  have hroom (c : Context) :
      (∃ source, c.Sound s.limit source ∧ c.Readable w source) → c.isExhausted = false := by
    rintro ⟨source, hsound, hreadable⟩
    have hdepth := hreadable.depth_le hsound
    rw [Context.isExhausted, hsound.limit_eq, decide_eq_false_iff_not]
    omega
  intro e he
  cases e with
  | expands v c => exact hroom c (hevents _ he)
  | opens path c => exact ⟨hroom c (hevents _ he).1, (hevents _ he).2⟩

/-- Finitely many files can be read, and all limits above their number give the same result. More
generally, a greater limit gives the same result if no pass that stops at the limit sees an include
block. -/
theorem limit_unobservable_above_readable_files (s : Settings)
    (f : String → Except Failure Json) (hconvert : s.convert = functional f) (doc : Json)
    (w : World) (hcwd : Path.isAbsolute w.cwd = true) (hfile : w.setup.file = none) :
    (readablePaths w).Finite ∧
      (∀ k m : DepthLimit, ((readablePaths w).ncard : Int) + 1 ≤ k.levels →
        ((readablePaths w).ncard : Int) + 1 ≤ m.levels →
        (((s.limited k).applyTo doc).run w).1 = (((s.limited m).applyTo doc).run w).1) ∧
      (∀ k m : DepthLimit, k.levels ≤ m.levels →
        (∀ v c, .expands v c ∈ (s.limited k).events doc w → c.isExhausted = true →
          ∀ n ∈ nodes v, accepts n = none) →
        (((s.limited k).applyTo doc).run w).1 = (((s.limited m).applyTo doc).run w).1) := by
  have habove (k m : DepthLimit) (hk : ((readablePaths w).ncard : Int) + 1 ≤ k.levels)
      (hle : k.levels ≤ m.levels) :
      (((s.limited k).applyTo doc).run w).1 = (((s.limited m).applyTo doc).run w).1 := by
    refine s.applyTo_eq_of_calm hconvert doc hfile hle fun e he => ?_
    have hroom := Settings.not_exhausted (s := s.limited k) hconvert doc hcwd hfile hk e he
    cases e with
    | expands v c =>
      intro hfull
      rw [show c.isExhausted = false from hroom] at hfull
      cases hfull
    | opens path c => trivial
  refine ⟨finite_readablePaths w, fun k m hk hm => ?_, fun k m hle hcalm => ?_⟩
  · rcases le_total k.levels m.levels with hle | hle
    · exact habove k m hk hle
    · exact (habove m k hm hle).symm
  · refine s.applyTo_eq_of_calm hconvert doc hfile hle fun e he => ?_
    cases e with
    | expands v c => exact hcalm v c he
    | opens path c => trivial

/-- The result of including one file of `mutualWorld`, down to a number of levels. -/
def mutualResult (levels : Int) : Except Failure Json :=
  (((namingSettings.limited ⟨levels, ""⟩).applyTo (.arr [includeOf "a"])).run mutualWorld).1

theorem limit_unobservable_for_mutual_files :
    namingSettings.convert = functional (fun text => .ok (.arr [includeOf text])) ∧
      Path.isAbsolute mutualWorld.cwd = true ∧ mutualWorld.setup.file = none ∧
      mutualResult 7 = mutualResult 20 ∧ mutualResult 3 = mutualResult 20 := by
  have hlimits := limit_unobservable_above_readable_files namingSettings
    (fun text => .ok (.arr [includeOf text])) rfl (.arr [includeOf "a"]) mutualWorld rfl rfl
  obtain ⟨-, habove, hcalm⟩ := hlimits
  have hcard : (readablePaths mutualWorld).ncard ≤ 6 := ncard_readablePaths_le mutualWorld
  refine ⟨rfl, rfl, rfl, habove ⟨7, ""⟩ ⟨20, ""⟩ ?_ ?_, hcalm ⟨3, ""⟩ ⟨20, ""⟩ (by decide) ?_⟩
  · change ((readablePaths mutualWorld).ncard : Int) + 1 ≤ 7
    omega
  · change ((readablePaths mutualWorld).ncard : Int) + 1 ≤ 20
    omega
  · have hroom : ((namingSettings.limited ⟨3, ""⟩).events (.arr [includeOf "a"]) mutualWorld).all
        fun e => match e with
          | .expands _ c => !c.isExhausted
          | .opens _ _ => true := by
      decide +kernel
    intro v c he hfull
    have hc : (!c.isExhausted) = true := List.all_eq_true.mp hroom _ he
    rw [hfull] at hc
    cases hc

end DocFilter.Include
