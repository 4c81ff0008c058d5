import DocFilter.Proofs.Include.Pass

/-!
# Watching an expansion

An expansion that also notes each value that is expanded and each file that is opened, with the
context of the pass. Apart from its notes it is the expansion itself, so what is proved of the notes
holds of every expansion. A property of contexts that descending into a readable file preserves
holds at everything that is noted.
-/

namespace DocFilter.Include

/-- What an expansion notes: that a value is expanded, or that a file is opened. -/
inductive Event where
  | expands (v : Json) (c : Context)
  | opens (path : String) (c : Context)

/-- An expansion that notes its events. -/
abbrev Watched := Noting Event Failure World

def watchedText (c : Context) (path : String) : Watched (Except Problem String) := do
  Noting.note (.opens path c)
  fileText path

def watchedWithin (convert : Converter) : Nat → Json → Context → Watched Json
  | 0, v, c => do
    Noting.note (.expands v c)
    leave v c
  | levels + 1, v, c => do
    Noting.note (.expands v c)
    pass (watchedText c) convert (watchedWithin convert levels) v c

namespace Settings

/-- A document with all its includes expanded, under watch. -/
def watched (s : Settings) (doc : Json) : Watched Json := do
  let c ← s.rootContext
  watchedWithin s.convert c.remaining doc c

def events (s : Settings) (doc : Json) (w : World) : List Event :=
  ((s.watched doc).run (w, [])).2.2

end Settings

/-! ### Watching has no influence -/

open Noting

theorem watchedWithin_agrees (convert : Converter) (levels : Nat) (v : Json) (c : Context) :
    Agree Eq (fun _ => True) (watchedWithin convert levels v c)
      (expandWithin convert levels v c) := by
  induction levels generalizing v c with
  | zero => exact (agree_quiet_self (leave v c)).note_bind _
  | succ levels ih =>
    have hparts : SamePass (agreeing Eq fun _ => True) (watchedText c) fileText convert
        (watchedWithin convert levels) (expandWithin convert levels) c c :=
      { cwd := agree_quiet_self _
        debug := fun _ => agree_quiet_self _
        report := fun _ _ => agree_quiet_self _
        load := fun path => (agree_quiet_self (fileText path)).note_bind _
        blocks := fun _ _ => agree_quiet_self _
        expand := fun v path => ih v (c.descend path)
        included := fun _ _ => agree_quiet_self _
        request_eq := fun _ _ => rfl
        depth_eq := rfl }
    exact Agree.note_bind (hparts.pass v) _

/-- Under watch a document becomes what it becomes anyway, and so does the world. -/
theorem Settings.run_watched (s : Settings) (doc : Json) (w : World) :
    (s.watched doc).run (w, []) =
      (((s.applyTo doc).run w).1, ((s.applyTo doc).run w).2, s.events doc w) := by
  have hagree : Agree Eq (fun _ => True) (s.watched doc) (s.applyTo doc) :=
    (agreeing Eq fun _ => True).bind (agree_quiet_self s.rootContext)
      fun c => watchedWithin_agrees s.convert c.remaining doc c
  obtain ⟨hout, hworld⟩ := hagree.ends w w [] rfl fun _ _ => trivial
  exact Prod.ext hout (Prod.ext hworld rfl)

/-! ### What holds throughout -/

/-- The parts of an expansion keep an invariant of the world and of what was noted, while its
contexts have a property, and only files with `readable` are read. -/
structure Steady (convert : Converter) (inv : World × List Event → Prop) (I : Context → Prop)
    (readable : String → Prop) : Prop where
  expands : ∀ v c, I c → (keeping inv).Holds (note (.expands v c) : Watched Unit) fun _ => True
  debug : ∀ text, (keeping inv).Holds (quiet (Run.debug logName text)) fun _ => True
  report : ∀ requested problem,
    (keeping inv).Holds (quiet (Problem.report requested problem)) fun _ => True
  load : ∀ c b path, I c → Asks b c path → (keeping inv).Holds (watchedText c path)
    fun r => ∀ content, r = .ok content → readable path
  blocks : ∀ path content,
    (keeping inv).Holds (quiet (fileBlocks convert path content)) fun _ => True
  descend : ∀ c b path, I c → c.isExhausted = false → Asks b c path → readable path →
    I (c.descend path)

variable {convert : Converter} {inv : World × List Event → Prop} {I : Context → Prop}
variable {readable : String → Prop}

/-- What the parts of an expansion keep, the expansion keeps. -/
theorem Steady.watchedWithin (h : Steady convert inv I readable) (levels : Nat) (v : Json)
    (c : Context) (hc : I c) (hlevels : c.remaining = levels) :
    (keeping inv).Holds (watchedWithin convert levels v c) fun _ => True := by
  let L := keeping (ε := Failure) inv
  -- by induction on the levels that are left, of which each descent uses up one
  induction levels generalizing v c with
  | zero =>
    refine L.bind (h.expands v c hc) fun _ _ => ?_
    intro t ht
    exact ⟨(h.debug _ t ht).1, fun _ _ => trivial⟩
  | succ levels ih =>
    refine L.bind (h.expands v c hc) fun _ _ => ?_
    have hroom : c.isExhausted = false := by
      by_contra hfull
      have hzero := Context.remaining_eq_zero.mpr (Bool.of_not_eq_false hfull)
      omega
    have hparts (b : CodeBlock) : PassParts L (watchedText c) convert
        (Include.watchedWithin convert levels) b c readable (fun _ => True) (fun _ _ => True)
        (fun _ => True) :=
      { cwd := fun _ ht => ⟨ht, fun _ _ => trivial⟩
        debug := h.debug
        report := h.report
        load := fun path ha => h.load c b path hc ha
        blocks := fun path content t ht =>
          ⟨(h.blocks path content t ht).1, fun _ _ _ _ => trivial⟩
        expand := fun path v ha hread _ => by
          refine ih v _ (h.descend c b path hc hroom ha hread) ?_
          rw [Context.remaining_descend, hlevels, Nat.add_sub_cancel]
        included := fun path v _ _ => keeping_quiet_ofExcept fun _ _ => trivial
        code := fun _ => trivial
        raw := fun _ => trivial }
    exact holds_pass hparts v

end DocFilter.Include
