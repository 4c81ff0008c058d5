import DocFilter.Config.Load
import DocFilter.Proofs.Regime

/-!
# Finding and loading configuration

Looking for a file of configuration and reading it keeps every property of a regime, whatever is
found and whether or not it can be used.
-/

namespace DocFilter.Config

variable {inv : World → Prop} (h : Regime inv fun _ => True)
include h

theorem during_readExactText (path : String) :
    (during inv fun _ => True).Holds (readExactText path) fun _ => True := by
  let L := during inv fun _ : Failure => True
  refine L.bind (h.readBytes path) fun bytes _ => ?_
  split
  · exact L.pure trivial
  · exact h.throw rfl

theorem during_loadSection (path : String) :
    (during inv fun _ => True).Holds (loadSection path) fun _ => True := by
  let L := during inv fun _ : Failure => True
  refine L.bind (Regime.attempt (during_readExactText h path)) fun r _ => ?_
  split
  · exact h.throw rfl
  · exact During.throw trivial
  · split
    · exact h.throw rfl
    · exact During.ofExcept (fun _ _ => trivial) fun _ _ => trivial

theorem during_readYaml (path : String) :
    (during inv fun _ => True).Holds (readYaml path) fun _ => True := by
  let L := during inv fun _ : Failure => True
  refine L.bind (h.readBytes path) fun bytes _ => ?_
  split
  · exact L.pure trivial
  · split
    · exact h.throw rfl
    · split
      · exact L.pure trivial
      · exact h.throw rfl

theorem during_readValue (format : ConfigFormat) (path : String) :
    (during inv fun _ => True).Holds (readValue format path) fun _ => True := by
  let L := during inv fun _ : Failure => True
  cases format with
  | toml =>
    refine L.bind (during_readExactText h path) fun text _ => ?_
    split
    · exact L.pure trivial
    · exact h.throw rfl
  | yaml =>
    refine L.bind (during_readYaml h path) fun r _ => ?_
    split
    · exact L.pure trivial
    · exact h.throw rfl
    · exact During.throw trivial
  | json =>
    refine L.bind (h.readText path) fun text _ => ?_
    split
    · exact L.pure trivial
    · exact h.throw rfl

theorem during_loadMapping (format : ConfigFormat) (path : String) :
    (during inv fun _ => True).Holds (loadMapping format path) fun _ => True := by
  let L := during inv fun _ : Failure => True
  refine L.bind (during_readValue h format path) fun v _ => ?_
  split
  · exact L.pure trivial
  · split
    · exact L.pure trivial
    · exact h.throw rfl

theorem during_load (p : String) :
    (during inv fun _ => True).Holds (load p) fun _ => True := by
  let L := during inv fun _ : Failure => True
  have hattempt {x : Run Json} (hx : L.Holds x fun _ => True) :
      L.Holds x.attempt fun _ => True :=
    During.weaken (Regime.attempt hx)
  refine L.bind (h.entryAt (Path.tidy p)) fun e _ => ?_
  split
  · exact h.throw rfl
  · exact h.throw rfl
  · refine L.bind (hattempt ?_) fun r _ => ?_
    · split
      · exact during_loadSection h _
      · split
        · exact during_loadMapping h _ _
        · exact h.throw rfl
    · split
      · exact L.pure trivial
      · exact h.throw rfl
      · exact h.throw rfl
      · exact During.throw trivial

theorem during_firstFile (paths : List String) :
    (during inv fun _ => True).Holds (firstFile paths) fun _ => True := by
  let L := during inv fun _ : Failure => True
  induction paths with
  | nil => exact L.pure trivial
  | cons p paths ih =>
    refine L.bind (h.isFile p) fun isFile _ => ?_
    split
    · exact L.pure trivial
    · exact ih

theorem during_hasSection (path : String) :
    (during inv fun _ => True).Holds (hasSection path) fun _ => True := by
  let L := during inv fun _ : Failure => True
  refine L.bind (h.isFile path) fun isFile _ => ?_
  split
  · exact L.pure trivial
  · refine L.bind (Regime.attempt (during_loadSection h path)) fun r _ => ?_
    split
    · exact L.pure trivial
    · exact L.pure trivial
    · exact During.throw trivial

theorem during_findIn (directory : String) :
    (during inv fun _ => True).Holds (findIn directory) fun _ => True := by
  let L := during inv fun _ : Failure => True
  refine L.bind (during_firstFile h _) fun found _ => ?_
  split
  · exact L.pure trivial
  · refine L.bind (during_hasSection h _) fun found _ => ?_
    split <;> exact L.pure trivial

theorem during_findFirst (directories : List String) :
    (during inv fun _ => True).Holds (findFirst directories) fun _ => True := by
  let L := during inv fun _ : Failure => True
  induction directories with
  | nil => exact L.pure trivial
  | cons directory directories ih =>
    refine L.bind (during_findIn h directory) fun found _ => ?_
    split
    · exact L.pure trivial
    · exact ih

theorem during_home : (during inv fun _ => True).Holds home fun _ => True := by
  let L := during inv fun _ : Failure => True
  refine L.bind Regime.get fun w _ => ?_
  dsimp only
  split
  · exact h.throw rfl
  · exact L.pure trivial

theorem during_find (start : Option String) :
    (during inv fun _ => True).Holds (find start) fun _ => True := by
  let L := during inv fun _ : Failure => True
  refine L.bind (h.any.checkPath _) fun _ _ => ?_
  exact L.bind Regime.get fun w _ => during_findFirst h _

theorem during_discover : (during inv fun _ => True).Holds discover fun _ => True := by
  let L := during inv fun _ : Failure => True
  refine L.bind (during_find h none) fun found _ => ?_
  split
  · exact L.pure trivial
  · exact L.bind (during_home h) fun directory _ => during_firstFile h _

theorem during_loadFor (named fromEnvironment : Option String) :
    (during inv fun _ => True).Holds (loadFor named fromEnvironment) fun _ => True := by
  let L := during inv fun _ : Failure => True
  unfold loadFor
  split
  · exact during_load h _
  · refine L.bind (during_discover h) fun found _ => ?_
    split
    · exact during_load h _
    · exact L.pure trivial

end DocFilter.Config
