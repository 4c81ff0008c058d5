import DocFilter.Document.Source
import DocFilter.Proofs.Disk
import DocFilter.Proofs.World

/-!
# Regimes

A regime is a property of the world that runs keep, whether they fail or not, and the failures that
they may end in. The property may depend on the standard output, the files, the working directory,
where records go and how databases answer, so that reading, reporting and launching programs cannot
break it; the failures include all that a boundary can hold. Here are the operations that stay in
every regime.
-/

namespace DocFilter

/-- Whether the parts of the world that a regime may depend on are the same. -/
structure World.Same (w w' : World) : Prop where
  stdout_eq : w'.stdout = w.stdout
  disk_eq : w'.disk = w.disk
  cwd_eq : w'.cwd = w.cwd
  setup_eq : w'.setup = w.setup
  script_eq : w'.databases.script = w.databases.script

structure Regime (inv : World → Prop) (may : Failure → Prop) : Prop where
  log : ∀ {w} r, inv w → inv (w.log r)
  same : ∀ {w w'}, w.Same w' → inv w → inv w'
  held : ∀ failure, failure.isHeld = true → may failure

namespace Regime
variable {inv : World → Prop} {may may' : Failure → Prop} {α : Type}

theorem get : (during inv may).Holds (MonadState.get : Run World) inv :=
  fun w hw => .inl ⟨w, w, rfl, hw, hw⟩

theorem set {w : World} (hw : inv w) :
    (during inv may).Holds (MonadStateOf.set w : Run Unit) fun _ => True :=
  fun _ _ => .inl ⟨(), w, rfl, hw, trivial⟩

theorem attempt {x : Run α} {post : α → Prop} (hx : (during inv may).Holds x post) :
    (during inv may').Holds x.attempt fun r =>
      (∀ a, r = .ok a → post a) ∧ ∀ failure, r = .error failure → may failure :=
  During.attempt (run_attempt x) hx

theorem cwd : (during inv may).Holds Run.cwd fun _ => True :=
  (during inv may).bind get fun _ _ => (during inv may).pure trivial

variable (h : Regime inv may)
include h

theorem any : Regime inv fun _ => True := ⟨h.log, h.same, fun _ _ => trivial⟩

theorem changing {f : World → World} (hf : ∀ w : World, w.Same (f w)) :
    (during inv may').Holds (modify f : Run Unit) fun _ => True :=
  fun w hw => .inl ⟨(), f w, rfl, h.same (hf w) hw, trivial⟩

theorem throw {failure : Failure} {post : α → Prop} (hfailure : failure.isHeld = true) :
    (during inv may).Holds (MonadExcept.throw failure : Run α) post :=
  During.throw (h.held failure hfailure)

theorem record (r : Log.Record) : (during inv may').Holds (Run.record r) fun _ => True :=
  fun w hw => .inl ⟨(), w.log r, rfl, h.log r hw, trivial⟩

theorem printError (text : String) :
    (during inv may').Holds (Run.printError text) fun _ => True :=
  h.changing fun _ => ⟨rfl, rfl, rfl, rfl, rfl⟩

theorem readInput : (during inv may).Holds Run.readInput fun _ => True := by
  let L := during inv may
  refine L.bind get fun w hw => ?_
  refine L.bind (set (h.same ?_ hw)) fun _ _ => L.pure trivial
  exact ⟨rfl, rfl, rfl, rfl, rfl⟩

theorem checkPath (p : String) : (during inv may).Holds (Run.checkPath p) fun _ => True := by
  unfold Run.checkPath
  split
  · exact h.throw rfl
  · exact (during inv may).pure trivial

theorem entryAt (p : String) : (during inv may).Holds (Run.entryAt? p) fun _ => True := by
  let L := during inv may
  unfold Run.entryAt?
  split
  · exact L.pure trivial
  · refine L.bind get fun w _ => ?_
    split
    · exact L.pure trivial
    · exact L.pure trivial
    · exact L.pure trivial
    · exact h.throw rfl

theorem isFile (p : String) : (during inv may).Holds (Run.isFile p) fun _ => True := by
  let L := during inv may
  refine L.bind (h.entryAt p) fun e _ => ?_
  split <;> exact L.pure trivial

theorem readBytes (p : String) : (during inv may).Holds (Run.readBytes p) fun _ => True := by
  let L := during inv may
  refine L.bind (h.checkPath p) fun _ _ => ?_
  refine L.bind get fun w hw => ?_
  split
  · refine L.bind (set (h.same ?_ hw)) fun _ _ => L.pure trivial
    exact ⟨rfl, rfl, rfl, rfl, rfl⟩
  · exact h.throw rfl

theorem readText (p : String) : (during inv may).Holds (Run.readText p) fun _ => True := by
  let L := during inv may
  refine L.bind (h.readBytes p) fun bytes _ => ?_
  split
  · exact L.pure trivial
  · exact h.throw rfl

theorem launch (command : List Json) (input : String) :
    (during inv may).Holds (Run.launch command input) fun _ => True := by
  let L := during inv may
  unfold Run.launch
  split
  · exact h.throw rfl
  refine L.bind get fun w hw => ?_
  dsimp only
  split
  · refine L.bind (set (h.same ?_ hw)) fun _ _ => h.throw rfl
    exact ⟨rfl, rfl, rfl, rfl, rfl⟩
  · refine L.bind (set (h.same ?_ hw)) fun _ _ => ?_
    · exact ⟨rfl, rfl, rfl, rfl, rfl⟩
    · split
      · exact L.pure trivial
      · exact h.throw rfl

theorem unread {fault : Json.Fault} {text : String} {malformed : String → Failure} {post : α → Prop}
    (hmalformed : ∀ explanation, (malformed explanation).isHeld = true) :
    (during inv may).Holds (MonadExcept.throw (Document.unread fault text malformed) : Run α)
      post := by
  refine h.throw ?_
  unfold Document.unread
  dsimp only
  split
  · rfl
  · exact hmalformed _

theorem ofText (text : String) (source : Option String) :
    (during inv may).Holds (Document.ofText text source) fun _ => True := by
  let L := during inv may
  unfold Document.ofText
  dsimp only
  split
  · exact h.unread fun _ => rfl
  · split
    · exact h.throw rfl
    · split
      · exact L.bind (h.record _) fun _ _ => L.pure trivial
      · exact L.pure trivial

theorem read (source : Document.Source) :
    (during inv may).Holds (Document.read source) fun _ => True := by
  let L := during inv may
  cases source with
  | input => exact L.bind h.readInput fun text _ => h.ofText text _
  | stream text name => exact h.ofText text name
  | file p =>
    refine L.bind (attempt (h.readText (Path.tidy p))) fun r hr => ?_
    split
    · exact h.ofText _ _
    · split
      · exact h.throw rfl
      · exact h.throw rfl
    · exact h.throw rfl
    · exact During.throw (hr.2 _ rfl)

end Regime

/-! ### What regimes are about -/

namespace World
variable {w u : World} {place : Place}

/-- Whether records do not go to the file at a place. -/
def LogsElsewhere (w : World) (place : Place) : Prop :=
  ∀ file, w.setup.file = some file → Disk.target [] file ≠ place

/-- Whether a place holds what it held before, and records do not go there. -/
def Spares (w : World) (place : Place) (u : World) : Prop :=
  u.disk.find? place = w.disk.find? place ∧ u.LogsElsewhere place

/-- Logging leaves the files alone, or adds to the file that records go to. -/
theorem disk_log (w : World) (r : Log.Record) :
    (w.log r).disk = w.disk ∨ ∃ file all, w.setup.file = some file ∧
      w.disk.find? (Disk.target [] file) ≠ some .directory ∧
      (w.log r).disk = w.disk.put (Disk.target [] file) (.file all) := by
  unfold log
  dsimp only
  split
  · exact .inl rfl
  · cases hfile : w.setup.file with
    | none => exact .inl rfl
    | some file =>
      dsimp only
      cases happend : w.disk.append [] file (Utf8.encode (r.text w.setup.style w.clock)) with
      | error refusal => exact .inl rfl
      | ok disk =>
        obtain ⟨hnew, all, rfl⟩ := Disk.append_eq_ok happend
        exact .inr ⟨file, all, rfl, hnew, rfl⟩

theorem LogsElsewhere.find?_log (h : w.LogsElsewhere place) (r : Log.Record) :
    (w.log r).disk.find? place = w.disk.find? place := by
  rcases w.disk_log r with hdisk | ⟨file, all, hfile, -, hdisk⟩
  · rw [hdisk]
  · rw [hdisk, Disk.find?_put_of_ne (h file hfile).symm]

theorem within_log (w : World) (r : Log.Record) : w.disk.Within (w.log r).disk := by
  rcases w.disk_log r with hdisk | ⟨file, all, -, hnew, hdisk⟩
  · rw [hdisk]
    exact .refl w.disk
  · rw [hdisk]
    exact Disk.within_put hnew _

theorem LogsElsewhere.of_setup_eq (h : w.LogsElsewhere place) (hsetup : u.setup = w.setup) :
    u.LogsElsewhere place := by
  intro file hfile
  exact h file (by rwa [← hsetup])

end World

namespace Regime

/-- Any property of the world will do if nothing can break it. -/
theorem always : Regime (fun _ => True) fun _ => True :=
  ⟨fun _ _ => trivial, fun _ _ => trivial, fun _ _ => trivial⟩

theorem silent (text : String) : Regime (·.stdout = text) fun _ => True where
  log r hw := by rw [World.stdout_log, hw]
  same h hw := h.stdout_eq.trans hw
  held _ _ := trivial

theorem spares (w : World) (place : Place) : Regime (w.Spares place) fun _ => True where
  log r hv := ⟨(hv.2.find?_log r).trans hv.1, hv.2.of_setup_eq (World.setup_log _ r)⟩
  same h hv := ⟨by rw [h.disk_eq, hv.1], hv.2.of_setup_eq h.setup_eq⟩
  held _ _ := trivial

end Regime

/-- Whether nothing was removed or moved from one world to another, and some places hold what they
held. -/
structure World.Undisturbed (places : Place → Prop) (w u : World) : Prop where
  spares : ∀ place, places place → w.Spares place u
  within : w.disk.Within u.disk
  cwd_eq : u.cwd = w.cwd
  script_eq : u.databases.script = w.databases.script

theorem Regime.undisturbed {may : Failure → Prop} (w : World) (places : Place → Prop)
    (hmay : ∀ failure : Failure, failure.isHeld = true → may failure) :
    Regime (World.Undisturbed places w) may where
  log r hv := ⟨fun place h => (spares w place).log r (hv.spares place h),
    hv.within.trans (World.within_log _ r), (World.cwd_log _ r).trans hv.cwd_eq,
    by rw [World.databases_log, hv.script_eq]⟩
  same h hv := ⟨fun place hplace => (spares w place).same h (hv.spares place hplace),
    by rw [h.disk_eq]; exact hv.within, h.cwd_eq.trans hv.cwd_eq, h.script_eq.trans hv.script_eq⟩
  held := hmay

/-! ### Beside a state of its own -/

/-- What holds of a state, and what holds of the world beside it. -/
def Beside {σ : Type} (kept : σ → Prop) (inv : World → Prop) (t : σ × World) : Prop :=
  kept t.1 ∧ inv t.2

namespace Beside
variable {σ α : Type} {kept : σ → Prop} {inv : World → Prop} {may may' : Failure → Prop}
variable {post : α → Prop}

theorem lift {x : Run α} (hx : (during inv may).Holds x post) :
    (during (Beside kept inv) may).Holds (merged (liftM x : Act σ α)) post := by
  refine During.of_cases ?_
  rintro ⟨s, w⟩ ⟨hs, hw⟩
  obtain ⟨hinv, hok, herror⟩ := During.cases hx hw
  have hrun : (merged (liftM x : Act σ α)).run (s, w) = ((x.run w).1, (s, (x.run w).2)) :=
    run_merged_lift rfl
  rw [hrun]
  exact ⟨⟨hs, hinv⟩, hok, herror⟩

theorem getState : (during (Beside kept inv) may).Holds (merged (Act.getState : Act σ σ)) kept :=
  fun t ht => .inl ⟨t.1, t, rfl, ht, ht.1⟩

theorem setState {s : σ} (hs : kept s) :
    (during (Beside kept inv) may).Holds (merged (Act.setState s)) fun _ => True :=
  fun t ht => .inl ⟨(), (s, t.2), rfl, ⟨hs, ht.2⟩, trivial⟩

theorem attempt {x : Act σ α} (hx : (during (Beside kept inv) may).Holds (merged x) post) :
    (during (Beside kept inv) may').Holds (merged x.attempt) fun r =>
      (∀ a, r = .ok a → post a) ∧ ∀ failure, r = .error failure → may failure :=
  During.attempt (run_merged_attempt x) hx

theorem ofExcept {x : Except Failure α} (hok : ∀ a, x = .ok a → post a)
    (herror : ∀ failure, x = .error failure → may failure) :
    (during (Beside kept inv) may).Holds (merged (MonadExcept.ofExcept x : Act σ α)) post := by
  refine During.of_cases fun t ht => ?_
  rw [run_merged_ofExcept]
  exact ⟨ht, hok, herror⟩

theorem bind {β : Type} {x : Act σ α} {f : α → Act σ β} {post' : β → Prop}
    (hx : (during (Beside kept inv) may).Holds (merged x) post)
    (hf : ∀ a, post a → (during (Beside kept inv) may).Holds (merged (f a)) post') :
    (during (Beside kept inv) may).Holds (merged (x >>= f)) post' := by
  rw [merged_bind]
  exact (during (Beside kept inv) may).bind hx hf

theorem pure {a : α} (ha : post a) :
    (during (Beside kept inv) may).Holds (merged (Pure.pure a : Act σ α)) post :=
  (during (Beside kept inv) may).pure ha

theorem throw {failure : Failure} (hfailure : may failure) :
    (during (Beside kept inv) may).Holds (merged (MonadExcept.throw failure : Act σ α)) post :=
  fun t ht => .inr ⟨failure, t, rfl, ht, hfailure⟩

/-- A computation that starts from a state of its own and whose outcome is then taken up. -/
theorem startingAt {x : Act σ α} {s : σ} (hs : kept s)
    (hx : (during (Beside kept inv) may).Holds (merged x) post) :
    (during inv may).Holds (do MonadExcept.ofExcept (← Act.startingAt s x).1 : Run α) post := by
  refine During.of_cases fun w hw => ?_
  obtain ⟨⟨-, hinv⟩, hok, herror⟩ := During.cases hx (t := (s, w)) ⟨hs, hw⟩
  rw [run_ofExcept_startingAt]
  exact ⟨hinv, hok, herror⟩

end Beside

end DocFilter
