import DocFilter.Proofs.Config.Problems
import DocFilter.Proofs.Path.Room
import DocFilter.Proofs.Text.Utf8
import Mathlib.Data.Prod.Lex
import Mathlib.Order.Bounds.Basic

/-!
# The nearest file of configuration

The search for a file of configuration asks the same five names in each directory, going up from one
directory to the next. What it comes to is the first spot at which it does not go on: a file that
qualifies is found, and a path that the files cannot be asked about ends the search with a failure.
Where there is room for the names, the second case does not arise.
-/

namespace DocFilter

namespace Config

/-! ### Asking in turn -/

section Asking
variable {α β : Type} {ask : α → Except Failure Bool}

/-- The first item of which the answer is yes. An answer that fails ends the search. -/
def firstWhere (ask : α → Except Failure Bool) : List α → Except Failure (Option α)
  | [] => .ok none
  | a :: rest =>
    match ask a with
    | .error failure => .error failure
    | .ok true => .ok (some a)
    | .ok false => firstWhere ask rest

theorem firstWhere_map (f : β → α) (items : List β) :
    firstWhere ask (items.map f) = (firstWhere (fun b => ask (f b)) items).map (Option.map f) := by
  induction items with
  | nil => rfl
  | cons b rest ih =>
    rw [List.map_cons, firstWhere, firstWhere, ih]
    cases ask (f b) with
    | error failure => rfl
    | ok found => cases found <;> rfl

theorem firstWhere_append (items more : List α) :
    firstWhere ask (items ++ more) = match firstWhere ask items with
      | .error failure => .error failure
      | .ok (some a) => .ok (some a)
      | .ok none => firstWhere ask more := by
  induction items with
  | nil => rfl
  | cons a rest ih =>
    rw [List.cons_append, firstWhere, firstWhere, ih]
    cases ask a with
    | error failure => rfl
    | ok found => cases found <;> rfl

theorem firstWhere_singleton (a : α) :
    firstWhere ask [a] = (ask a).map fun found => if found then some a else none := by
  rw [firstWhere]
  cases ask a with
  | error failure => rfl
  | ok found => cases found <;> rfl

/-- Among items in order, the answer is decided by the least one that is not passed. -/
theorem firstWhere_eq_of_isLeast [LinearOrder α] {items : List α} (h : items.Pairwise (· < ·))
    {a : α} (ha : IsLeast {b | b ∈ items ∧ ask b ≠ .ok false} a) :
    firstWhere ask items = (ask a).map fun _ => some a := by
  induction items with
  | nil => cases ha.1.1
  | cons b rest ih =>
    obtain ⟨hfirst, hrest⟩ := List.pairwise_cons.mp h
    rw [firstWhere]
    by_cases hb : ask b = .ok false
    · have hmem : a ∈ rest := by
        rcases List.mem_cons.mp ha.1.1 with rfl | hmem
        · exact absurd hb ha.1.2
        · exact hmem
      rw [hb]
      exact ih hrest ⟨⟨hmem, ha.1.2⟩, fun c hc => ha.2 ⟨List.mem_cons_of_mem b hc.1, hc.2⟩⟩
    · have hab : a = b := by
        refine le_antisymm (ha.2 ⟨List.mem_cons_self, hb⟩) ?_
        rcases List.mem_cons.mp ha.1.1 with hab | hmem
        · exact hab.ge
        · exact (hfirst a hmem).le
      rw [hab]
      cases hask : ask b with
      | error failure => rfl
      | ok found =>
        cases found with
        | true => rfl
        | false => exact absurd hask hb

theorem firstWhere_eq_none {items : List α} (h : ∀ b ∈ items, ask b = .ok false) :
    firstWhere ask items = .ok none := by
  induction items with
  | nil => rfl
  | cons b rest ih =>
    rw [firstWhere, h b List.mem_cons_self]
    exact ih fun c hc => h c (List.mem_cons_of_mem b hc)

end Asking

/-! ### The spots of a search -/

/-- The name of a project file, in which only one section counts. -/
def projectName : String := "pyproject.toml"

/-- The names that are asked for in each directory, in order. -/
def fileNames : List String := dedicatedNames ++ [projectName]

/-- A place in a search: how many levels above its start, and which of the names. Spots are compared
by the level first. -/
abbrev Spot := ℕ ×ₗ Fin fileNames.length

namespace Spot

/-- The directory of a spot in a search from a directory. -/
def directory (origin : String) (s : Spot) : String := Path.directory^[(ofLex s).1] origin

def name (s : Spot) : String := fileNames[(ofLex s).2]

/-- The path at a spot of a search from a directory. -/
def path (origin : String) (s : Spot) : String := Path.join (s.directory origin) s.name

end Spot

/-- Whether a file of configuration with a name stands in a directory. One named as a project file
must be TOML with a section that holds something. -/
def Qualifies (w : World) (directory name : String) : Prop :=
  ∃ content, w.HasFile (Path.join directory name) content ∧
    (name = projectName → ∃ text fields tools config, Utf8.decode content = .ok text ∧
      Toml.parse text = .ok fields ∧ fields.get? "tool" = some (.obj tools) ∧
        Fields.get? tools "docweave" = some (.obj config) ∧ config ≠ [])

/-- Whether every project file on the disk is text, in which `tool` is a table, if the text is TOML
and says anything of it. -/
def SoundProjects (w : World) : Prop :=
  ∀ place content, w.disk.find? (place ++ [projectName]) = some (.file content) →
    ∃ text, Utf8.decode content = .ok text ∧
      ∀ fields, Toml.parse text = .ok fields → ∀ v, fields.get? "tool" = some v →
        ∃ tools, v = .obj tools

/-- What is asked about a name in a directory. -/
def asked (w : World) (directory name : String) : Except Failure Bool :=
  if name = projectName then w.outcome (hasSection (Path.join directory name))
  else w.outcome (Run.isFile (Path.join directory name))

section Search
variable {w : World} {directory name : String}

theorem outcome_firstFile_eq (w : World) (paths : List String) :
    w.outcome (firstFile paths) = firstWhere (fun p => w.outcome (Run.isFile p)) paths := by
  induction paths with
  | nil => rfl
  | cons p paths ih =>
    rw [outcome_firstFile_cons, ih]
    rfl

theorem outcome_findIn_eq (w : World) (directory : String) :
    w.outcome (findIn directory) =
      (firstWhere (asked w directory) fileNames).map (Option.map (Path.join directory)) := by
  have hdedicated : w.outcome (firstFile (dedicatedNames.map (Path.join directory))) =
      (firstWhere (asked w directory) dedicatedNames).map (Option.map (Path.join directory)) := by
    rw [outcome_firstFile_eq, firstWhere_map]
    rfl
  have hproject : asked w directory projectName =
      w.outcome (hasSection (Path.join directory "pyproject.toml")) := if_pos rfl
  rw [outcome_findIn, hdedicated, fileNames, firstWhere_append, firstWhere_singleton, hproject]
  cases firstWhere (asked w directory) dedicatedNames with
  | error failure => rfl
  | ok found =>
    cases found with
    | some name => rfl
    | none =>
      dsimp only [Except.map, Option.map]
      cases w.outcome (hasSection (Path.join directory "pyproject.toml")) with
      | error failure => rfl
      | ok found => cases found <;> rfl

/-- The spots of a search that goes up by a number of levels, in the order in which they are
asked. -/
def spots (height : Nat) : List Spot :=
  (List.range (height + 1)).flatMap fun level =>
    (List.finRange fileNames.length).map fun rank => toLex (level, rank)

theorem mem_spots {height : Nat} {s : Spot} : s ∈ spots height ↔ (ofLex s).1 ≤ height := by
  unfold spots
  rw [List.mem_flatMap]
  constructor
  · rintro ⟨level, hlevel, hs⟩
    obtain ⟨rank, -, rfl⟩ := List.mem_map.mp hs
    exact Nat.lt_succ_iff.mp (List.mem_range.mp hlevel)
  · intro hs
    exact ⟨(ofLex s).1, List.mem_range.mpr (Nat.lt_succ_of_le hs),
      List.mem_map.mpr ⟨(ofLex s).2, List.mem_finRange _, rfl⟩⟩

theorem pairwise_spots (height : Nat) : (spots height).Pairwise (· < ·) := by
  rw [spots, List.pairwise_flatMap]
  constructor
  · intro level _
    rw [List.pairwise_map]
    refine (List.pairwise_lt_finRange _).imp fun h => ?_
    exact Prod.Lex.lt_iff.mpr (.inr ⟨rfl, h⟩)
  · refine List.pairwise_lt_range.imp fun {level level'} h => ?_
    intro s hs s' hs'
    obtain ⟨rank, -, rfl⟩ := List.mem_map.mp hs
    obtain ⟨rank', -, rfl⟩ := List.mem_map.mp hs'
    exact Prod.Lex.lt_iff.mpr (.inl h)

theorem withParents_eq {origin : String} (h : Path.IsCanonical origin) :
    withParents origin =
      (List.range ((Path.steps origin).length + 1)).map fun level =>
        Path.directory^[level] origin := by
  unfold withParents
  dsimp only
  refine List.ext_getElem (by simp) fun i hi hi' => ?_
  have hlt : i < (Path.steps origin).length + 1 := by simpa using hi'
  have hindex : (List.range ((Path.steps origin).length + 1)).length - 1 - i =
      (Path.steps origin).length - i := by simp
  simp only [List.getElem_map, List.getElem_reverse, List.getElem_range, h.directory_iterate]
  simp

/-- The search as one over all its spots. -/
theorem outcome_find_eq {w : World} {start : Option String} {origin : String}
    (hnull : '\x00' ∉ (start.getD ".").toList)
    (horigin : origin = Path.real w.cwd (start.getD ".")) (h : Path.IsCanonical origin) :
    w.outcome (find start) =
      (firstWhere (fun s : Spot => asked w (s.directory origin) s.name)
        (spots (Path.steps origin).length)).map (Option.map (Spot.path origin)) := by
  have hnames (directory : String) : firstWhere (asked w directory) fileNames =
      (firstWhere (fun rank : Fin fileNames.length => asked w directory fileNames[rank])
        (List.finRange fileNames.length)).map (Option.map fun rank => fileNames[rank]) :=
    (congrArg (firstWhere _) (List.map_getElem_finRange fileNames).symm).trans (firstWhere_map _ _)
  have hlevels (levels : List Nat) :
      w.outcome (findFirst (levels.map fun level => Path.directory^[level] origin)) =
        (firstWhere (fun s : Spot => asked w (s.directory origin) s.name)
          (levels.flatMap fun level =>
            (List.finRange fileNames.length).map fun rank => toLex (level, rank))).map
              (Option.map (Spot.path origin)) := by
    induction levels with
    | nil => rfl
    | cons level levels ih =>
      rw [List.map_cons, outcome_findFirst_cons, ih, List.flatMap_cons, firstWhere_append,
        outcome_findIn_eq, hnames, firstWhere_map]
      simp only [Spot.directory, Spot.name, ofLex_toLex]
      cases firstWhere (fun rank : Fin fileNames.length =>
        asked w (Path.directory^[level] origin) fileNames[rank])
          (List.finRange fileNames.length) with
      | error failure => rfl
      | ok found => cases found <;> rfl
  rw [outcome_find hnull, ← horigin, withParents_eq h, hlevels, spots]

end Search

/-! ### What is asked at a spot -/

theorem sectionOf_isTruthy_iff (path : String) (fields : Fields) :
    (∃ config, sectionOf path fields = .ok config ∧ config.isTruthy = true) ↔
      ∃ tools config, fields.get? "tool" = some (.obj tools) ∧
        Fields.get? tools "docweave" = some (.obj config) ∧ config ≠ [] := by
  unfold sectionOf
  cases htool : fields.get? "tool" with
  | none => simp [Fields.get?, Json.isTruthy]
  | some v =>
    cases v with
    | obj tools =>
      cases hsection : Fields.get? tools "docweave" with
      | none => simp [hsection, Json.isTruthy]
      | some v => cases v <;> simp [hsection, Json.isTruthy]
    | _ => simp

section Asked
variable {w : World} {directory name : String} {failure : Failure}

/-- A file under a name stands in a directory of the disk. -/
theorem exists_place_of_hasFile {content : List UInt8}
    (h : w.HasFile (Path.join directory projectName) content) :
    ∃ place, w.disk.find? (place ++ [projectName]) = some (.file content) := by
  obtain ⟨place, hplace, hfile⟩ := Disk.exists_place_of_read h.2
  rw [Disk.locate_eq_target hplace, Path.target_join] at hfile
  exact ⟨_, hfile⟩

theorem not_projectSlip (hsound : SoundProjects w) :
    ¬ ProjectSlip w (Path.join directory projectName) failure := by
  intro hslip
  cases hslip with
  | notText hfile hdecode =>
    obtain ⟨place, hplace⟩ := exists_place_of_hasFile hfile
    obtain ⟨text, htext, -⟩ := hsound place _ hplace
    cases htext.symm.trans hdecode
  | toolNotTable hfile hdecode hparse htool hv =>
    obtain ⟨place, hplace⟩ := exists_place_of_hasFile hfile
    obtain ⟨text, htext, htable⟩ := hsound place _ hplace
    cases htext.symm.trans hdecode
    obtain ⟨tools, htools⟩ := htable _ hparse _ htool
    exact hv tools htools

theorem outcome_hasSection_eq_true :
    w.outcome (hasSection (Path.join directory projectName)) = .ok true ↔
      Qualifies w directory projectName := by
  let path := Path.join directory projectName
  have hfound {content : List UInt8} (h : w.HasFile path content) :
      w.outcome (hasSection path) = .ok true ↔
        ∃ config, w.outcome (loadSection path) = .ok config ∧ config.isTruthy = true := by
    rw [outcome_hasSection_of_file h]
    cases w.outcome (loadSection path) with
    | ok config => simp
    | error failure => cases failure <;> simp
  have hsection {content : List UInt8} (h : w.HasFile path content) :
      (∃ config, w.outcome (loadSection path) = .ok config ∧ config.isTruthy = true) ↔
        ∃ text fields tools config, Utf8.decode content = .ok text ∧
          Toml.parse text = .ok fields ∧ fields.get? "tool" = some (.obj tools) ∧
            Fields.get? tools "docweave" = some (.obj config) ∧ config ≠ [] := by
    rw [outcome_loadSection h]
    cases Utf8.decode content with
    | error fault => simp
    | ok text =>
      cases hparse : Toml.parse text with
      | error explanation => simp [hparse]
      | ok fields => simp [hparse, sectionOf_isTruthy_iff]
  constructor
  · intro htrue
    rcases outcome_isFile_cases w path with hlacks | hfile | ⟨failure, hrefused⟩
    · cases (outcome_hasSection_of_lacks hlacks).symm.trans htrue
    · obtain ⟨content, hcontent⟩ := World.outcome_isFile_eq_true.mp hfile
      exact ⟨content, hcontent, fun _ => (hsection hcontent).mp ((hfound hcontent).mp htrue)⟩
    · cases (World.outcome_bind_of_error hrefused).symm.trans htrue
  · rintro ⟨content, hcontent, hvalid⟩
    exact (hfound hcontent).mpr ((hsection hcontent).mpr (hvalid rfl))

theorem asked_eq_true : asked w directory name = .ok true ↔ Qualifies w directory name := by
  unfold asked
  split
  · next hproject =>
    rw [hproject]
    exact outcome_hasSection_eq_true
  · next hdedicated => simp [World.outcome_isFile_eq_true, Qualifies, hdedicated]

theorem asked_eq_error (hsound : SoundProjects w) :
    asked w directory name = .error failure ↔
      w.RefusesToLook (Path.join directory name) ∧
        failure = .os ⟨.nameTooLong, some (quoted (Path.join directory name))⟩ := by
  unfold asked
  split
  · next hproject =>
    rw [hasSection_slips, hproject, or_iff_left (not_projectSlip hsound)]
  · exact World.outcome_isFile_eq_error

/-- Whether a search does not go on at a name in a directory. -/
def Stops (w : World) (directory name : String) : Prop :=
  Qualifies w directory name ∨ w.RefusesToLook (Path.join directory name)

theorem asked_eq_false (hsound : SoundProjects w) :
    asked w directory name = .ok false ↔ ¬ Stops w directory name := by
  unfold Stops
  rw [← asked_eq_true]
  cases hasked : asked w directory name with
  | error failure => simp [(asked_eq_error hsound).mp hasked]
  | ok found =>
    have hrefuses : ¬ w.RefusesToLook (Path.join directory name) := by
      intro hrefused
      cases hasked.symm.trans ((asked_eq_error hsound).mpr ⟨hrefused, rfl⟩)
    cases found <;> simp [hrefuses]

end Asked

/-! ### Where a search ends -/

section Ends
variable {w : World} {start : Option String} {origin : String} {s : Spot}

/-- The spots at which a search from a directory does not go on. -/
def stopping (w : World) (origin : String) : Set Spot :=
  {s | Stops w (s.directory origin) s.name}

/-- Above the top there is only the top again. -/
theorem level_le_of_isLeast (h : Path.IsCanonical origin) (hs : IsLeast (stopping w origin) s) :
    (ofLex s).1 ≤ (Path.steps origin).length := by
  by_contra hlt
  let top : Spot := toLex ((Path.steps origin).length, (ofLex s).2)
  have hsame : top.directory origin = s.directory origin := by
    unfold Spot.directory
    rw [h.directory_iterate, h.directory_iterate, ofLex_toLex, Nat.sub_self,
      Nat.sub_eq_zero_of_le (by omega)]
  have htop : Stops w (top.directory origin) top.name := by
    rw [hsame]
    exact hs.1
  have hle := Prod.Lex.le_iff.mp (hs.2 htop)
  simp only [top, ofLex_toLex] at hle
  omega

theorem exists_isLeast_stopping (h : s ∈ stopping w origin) :
    ∃ least, IsLeast (stopping w origin) least := by
  obtain ⟨least, hleast, hmin⟩ := wellFounded_lt.has_min (stopping w origin) ⟨s, h⟩
  exact ⟨least, hleast, fun b hb => not_lt.mp (hmin b hb)⟩

variable (hsound : SoundProjects w) (hnull : '\x00' ∉ (start.getD ".").toList)
variable (horigin : origin = Path.real w.cwd (start.getD ".")) (h : Path.IsCanonical origin)
include hsound hnull horigin h

theorem outcome_find_of_isLeast (hs : IsLeast (stopping w origin) s) :
    w.outcome (find start) =
      (asked w (s.directory origin) s.name).map fun _ => some (s.path origin) := by
  have hleast : IsLeast {b | b ∈ spots (Path.steps origin).length ∧
      asked w (b.directory origin) b.name ≠ .ok false} s := by
    refine ⟨⟨mem_spots.mpr (level_le_of_isLeast h hs), ?_⟩, ?_⟩
    · rw [Ne, asked_eq_false hsound, not_not]
      exact hs.1
    · rintro b ⟨-, hb⟩
      rw [Ne, asked_eq_false hsound, not_not] at hb
      exact hs.2 hb
  rw [outcome_find_eq hnull horigin h, firstWhere_eq_of_isLeast (pairwise_spots _) hleast]
  cases asked w (s.directory origin) s.name <;> rfl

theorem outcome_find_of_none (hnone : ∀ s, s ∉ stopping w origin) :
    w.outcome (find start) = .ok none := by
  rw [outcome_find_eq hnull horigin h, firstWhere_eq_none]
  · rfl
  · intro s _
    rw [asked_eq_false hsound]
    exact hnone s

/-- A search ends at the first spot at which it does not go on, by what is found there or with a
failure, or it ends when there is no such spot. -/
theorem find_cases :
    (∃ s, IsLeast (stopping w origin) s ∧ Qualifies w (s.directory origin) s.name ∧
      w.outcome (find start) = .ok (some (s.path origin))) ∨
    (∃ s, IsLeast (stopping w origin) s ∧ w.RefusesToLook (s.path origin) ∧
      w.outcome (find start) = .error (.os ⟨.nameTooLong, some (quoted (s.path origin))⟩)) ∨
    (∀ s, s ∉ stopping w origin) ∧ w.outcome (find start) = .ok none := by
  by_cases hstops : ∃ s, s ∈ stopping w origin
  · obtain ⟨s, hs⟩ := hstops
    obtain ⟨least, hleast⟩ := exists_isLeast_stopping hs
    have hfind := outcome_find_of_isLeast hsound hnull horigin h hleast
    rcases hleast.1 with hqualifies | hrefused
    · rw [asked_eq_true.mpr hqualifies] at hfind
      exact .inl ⟨least, hleast, hqualifies, hfind⟩
    · rw [(asked_eq_error hsound).mpr ⟨hrefused, rfl⟩] at hfind
      exact .inr (.inl ⟨least, hleast, hrefused, hfind⟩)
  · have hnone : ∀ s, s ∉ stopping w origin := fun s hs => hstops ⟨s, hs⟩
    exact .inr (.inr ⟨hnone, outcome_find_of_none hsound hnull horigin h hnone⟩)

theorem find_eq_some_iff (p : String) :
    w.outcome (find start) = .ok (some p) ↔ ∃ s, IsLeast (stopping w origin) s ∧
      Qualifies w (s.directory origin) s.name ∧ p = s.path origin := by
  constructor
  · intro hfound
    rcases find_cases hsound hnull horigin h with
      ⟨s, hs, hqualifies, hfind⟩ | ⟨s, -, -, hfind⟩ | ⟨-, hfind⟩
    · cases hfind.symm.trans hfound
      exact ⟨s, hs, hqualifies, rfl⟩
    · cases hfind.symm.trans hfound
    · cases hfind.symm.trans hfound
  · rintro ⟨s, hs, hqualifies, rfl⟩
    rw [outcome_find_of_isLeast hsound hnull horigin h hs, asked_eq_true.mpr hqualifies]
    rfl

theorem find_eq_error_iff (failure : Failure) :
    w.outcome (find start) = .error failure ↔ ∃ s, IsLeast (stopping w origin) s ∧
      w.RefusesToLook (s.path origin) ∧
        failure = .os ⟨.nameTooLong, some (quoted (s.path origin))⟩ := by
  constructor
  · intro hfailure
    rcases find_cases hsound hnull horigin h with
      ⟨s, -, -, hfind⟩ | ⟨s, hs, hrefused, hfind⟩ | ⟨-, hfind⟩
    · cases hfind.symm.trans hfailure
    · cases hfind.symm.trans hfailure
      exact ⟨s, hs, hrefused, rfl⟩
    · cases hfind.symm.trans hfailure
  · rintro ⟨s, hs, hrefused⟩
    rw [outcome_find_of_isLeast hsound hnull horigin h hs, (asked_eq_error hsound).mpr hrefused]
    rfl

theorem find_eq_none_iff : w.outcome (find start) = .ok none ↔ ∀ s, s ∉ stopping w origin := by
  refine ⟨fun hfound => ?_, outcome_find_of_none hsound hnull horigin h⟩
  rcases find_cases hsound hnull horigin h with ⟨s, -, -, hfind⟩ | ⟨s, -, -, hfind⟩ | ⟨hnone, -⟩
  · cases hfind.symm.trans hfound
  · cases hfind.symm.trans hfound
  · exact hnone

end Ends

/-! ### Room for the names -/

theorem fileNames_fit : ∀ name ∈ fileNames,
    Path.isAbsolute name = false ∧ splitAtChar '/' name = [name] ∧ name.utf8ByteSize ≤ 14 := by
  decide +kernel

/-- Where there is room, a search only stops at what it finds. -/
theorem stops_iff_qualifies {w : World} {origin : String} (hroom : Path.HasRoom origin)
    (h : Path.IsCanonical origin) (s : Spot) :
    Stops w (s.directory origin) s.name ↔ Qualifies w (s.directory origin) s.name := by
  obtain ⟨habs, hname, hshort⟩ := fileNames_fit s.name (List.getElem_mem _)
  have hlook := hroom.not_refusesToLook h (ofLex s).1 habs hname hshort w.disk w.here
  exact or_iff_left fun hrefused => hlook hrefused.2

/-! ### Discovery -/

/-- The search for a file of configuration. It goes up to the top, which is the first directory that
is its own, and what it comes to is decided at the first spot where it stops: a file that qualifies
is found, and a path that is too long ends the search with a failure. Where there is room for the
names, it only stops at files that qualify. A path with a null byte is no place to start from. The
home directory counts only if the search finds nothing, and then its files are asked in turn. -/
theorem discovery_finds_nearest_where_paths_fit (w : World) (hcwd : Path.isAbsolute w.cwd = true)
    (hsound : SoundProjects w) (start : Option String) (origin : String)
    (horigin : origin = Path.real w.cwd (start.getD ".")) :
    (∃ height, withParents origin = (List.range (height + 1)).map (Path.directory^[·] origin) ∧
        ∀ level, Path.directory (Path.directory^[level] origin) = Path.directory^[level] origin ↔
          height ≤ level) ∧
      ('\x00' ∉ (start.getD ".").toList →
        (∀ p, w.outcome (find start) = .ok (some p) ↔ ∃ s, IsLeast (stopping w origin) s ∧
          Qualifies w (s.directory origin) s.name ∧ p = s.path origin) ∧
        (w.outcome (find start) = .ok none ↔ ∀ s, s ∉ stopping w origin) ∧
        ∀ failure, w.outcome (find start) = .error failure ↔ ∃ s, IsLeast (stopping w origin) s ∧
          w.RefusesToLook (s.path origin) ∧
            failure = .os ⟨.nameTooLong, some (quoted (s.path origin))⟩) ∧
      ('\x00' ∈ (start.getD ".").toList →
        w.outcome (find start) = .error (.badValue "embedded null byte")) ∧
      (Path.HasRoom origin →
        stopping w origin = {s | Qualifies w (s.directory origin) s.name}) ∧
      (w.outcome (find none) ≠ .ok none → w.outcome discover = w.outcome (find none)) ∧
      (w.outcome (find none) = .ok none → ∀ directory, w.outcome home = .ok directory →
        (∀ p, w.outcome discover = .ok (some p) ↔
          FirstIn (homeCandidates directory) (LacksFile w) p ∧ ∃ content, w.HasFile p content) ∧
        (w.outcome discover = .ok none ↔ ∀ p ∈ homeCandidates directory, LacksFile w p)) := by
  have hcanonical : Path.IsCanonical origin := by
    rw [horigin]
    exact Path.real_isCanonical (Path.isAbsolute_join hcwd _)
  refine ⟨⟨_, withParents_eq hcanonical, hcanonical.directory_eq_self_iff⟩,
    fun hnull => ⟨find_eq_some_iff hsound hnull horigin hcanonical,
      find_eq_none_iff hsound hnull horigin hcanonical,
      find_eq_error_iff hsound hnull horigin hcanonical⟩,
    fun hnull => outcome_find_of_null hnull w,
    fun hroom => Set.ext (stops_iff_qualifies hroom hcanonical), ?_, ?_⟩
  · intro hfound
    rw [outcome_discover]
    cases hfind : w.outcome (find none) with
    | error failure => rfl
    | ok found =>
      cases found with
      | some p => rfl
      | none => exact absurd hfind hfound
  · intro hnone directory hhome
    rw [outcome_discover, hnone]
    dsimp only
    rw [hhome]
    refine ⟨fun p => ?_, outcome_firstFile_eq_none⟩
    rw [outcome_firstFile_eq_some, World.outcome_isFile_eq_true]

/-- A disk with a project file that is broken, and above it one with a section, beside a directory
that is named as a file of configuration. -/
def projectDisk : Disk :=
  ⟨[(["w"], .directory), (["w", "a"], .directory),
    (["w", "a", projectName], .file (Utf8.encode "[tool")), (["w", ".docweave.yml"], .directory),
    (["w", projectName], .file (Utf8.encode "[tool.docweave]\nx = 1\n"))]⟩

theorem soundProjects_projectDisk : SoundProjects (.initial projectDisk "/w") := by
  intro place content hfind
  have hlookup : projectDisk.entries.lookup (place ++ [projectName]) = some (.file content) := by
    rw [← hfind]
    exact (if_neg (by simp)).symm
  obtain ⟨before, after, hentries, -⟩ := List.lookup_eq_some_iff.mp hlookup
  have hmem : (place ++ [projectName], Entry.file content) ∈ projectDisk.entries := by
    rw [hentries]
    simp
  simp only [projectDisk, List.mem_cons, Prod.mk.injEq, reduceCtorEq, and_false, false_or,
    or_false, Entry.file.injEq, List.not_mem_nil] at hmem
  rcases hmem with ⟨-, rfl⟩ | ⟨-, rfl⟩
  · refine ⟨"[tool", Utf8.decode_encode _, fun fields hfields => ?_⟩
    have hbroken : (Toml.parse "[tool").toOption = none := by decide +kernel
    rw [hfields] at hbroken
    cases hbroken
  · refine ⟨"[tool.docweave]\nx = 1\n", Utf8.decode_encode _, fun fields hfields v hv => ?_⟩
    have htable : (Toml.parse "[tool.docweave]\nx = 1\n").toOption.all fun fields =>
        (fields.get? "tool").all fun v => (Table.fields v).toOption.isSome := by
      decide +kernel
    rw [hfields] at htable
    simp only [Except.toOption, Option.all_some, hv] at htable
    cases v with
    | obj tools => exact ⟨tools, rfl⟩
    | _ => cases htable

/-- The broken project file and the directory are passed. -/
theorem discovery_finds_project_above :
    Path.isAbsolute "/w" = true ∧ SoundProjects (.initial projectDisk "/w") ∧
      Path.HasRoom "/w/a" ∧
      ∃ s : Spot,
        IsLeast {s | Qualifies (.initial projectDisk "/w") (s.directory "/w/a") s.name} s ∧
          s.path "/w/a" = "/w/pyproject.toml" := by
  have hroom : Path.HasRoom "/w/a" := by
    have hplace : projectDisk.locate [] "/w/a" = .ok ["w", "a"] := rfl
    exact Path.hasRoom_of_locate hplace (by decide)
  obtain ⟨-, hfinds, -, hqualifies, -⟩ := discovery_finds_nearest_where_paths_fit
    (.initial projectDisk "/w") rfl soundProjects_projectDisk (some "a") "/w/a" rfl
  have hfind : ((World.initial projectDisk "/w").outcome (find (some "a"))).toOption =
      some (some "/w/pyproject.toml") := by
    decide +kernel
  obtain ⟨s, hs, -, hpath⟩ :=
    ((hfinds (by decide)).1 "/w/pyproject.toml").mp (eq_ok_of_toOption hfind)
  rw [hqualifies hroom] at hs
  exact ⟨rfl, soundProjects_projectDisk, hroom, s, hs, hpath.symm⟩

/-- A name that consists of a number of letters. -/
def letters (n : Nat) : String := String.ofList (List.replicate n 'd')

theorem size_letters (n : Nat) : (letters n).utf8ByteSize = n := by
  induction n with
  | zero => rfl
  | succ n ih =>
    have hfirst : letters (n + 1) = "d" ++ letters n := by
      rw [← String.toList_inj]
      simp [letters, List.replicate_succ]
    have hletter : ("d" : String).utf8ByteSize = 1 := by decide
    rw [hfirst, String.utf8ByteSize_append, ih]
    omega

theorem eq_of_mem_letters {n : Nat} {c : Char} (h : c ∈ (letters n).toList) : c = 'd' := by
  rw [letters, String.toList_ofList] at h
  exact List.eq_of_mem_replicate h

theorem isPlainStep_letters {n : Nat} (hn : 2 < n) : Path.IsPlainStep (letters n) := by
  have hne {s : String} (hs : s.utf8ByteSize ≤ 2) : letters n ≠ s := by
    rintro rfl
    rw [size_letters] at hs
    omega
  refine ⟨hne (by decide), hne (by decide), hne (by decide), fun hslash => ?_⟩
  cases eq_of_mem_letters hslash

def deepDirectory : String := Path.spell "/" (List.replicate 21 (letters 200))

theorem size_joinWith_replicate (s : String) (n : Nat) :
    n * s.utf8ByteSize ≤ (joinWith "/" (List.replicate n s)).utf8ByteSize := by
  induction n with
  | zero => simp
  | succ n ih =>
    cases n with
    | zero => simp [joinWith]
    | succ n =>
      change _ ≤ (s ++ "/" ++ joinWith "/" (List.replicate (n + 1) s)).utf8ByteSize
      rw [String.utf8ByteSize_append, String.utf8ByteSize_append, Nat.succ_mul]
      omega

theorem mem_joinWith {sep : String} {parts : List String} {c : Char}
    (h : c ∈ (joinWith sep parts).toList) : c ∈ sep.toList ∨ ∃ s ∈ parts, c ∈ s.toList := by
  induction parts with
  | nil => simp [joinWith] at h
  | cons s rest ih =>
    cases rest with
    | nil => exact .inr ⟨s, by simp, h⟩
    | cons t rest =>
      change c ∈ (s ++ sep ++ joinWith sep (t :: rest)).toList at h
      rw [String.toList_append, String.toList_append] at h
      rcases List.mem_append.mp h with h | h
      · rcases List.mem_append.mp h with h | h
        · exact .inr ⟨s, by simp, h⟩
        · exact .inl h
      · rcases ih h with h | ⟨r, hr, h⟩
        · exact .inl h
        · exact .inr ⟨r, List.mem_cons_of_mem s hr, h⟩

theorem deepDirectory_eq : deepDirectory =
    "/" ++ joinWith "/" (List.replicate 21 (letters 200)) :=
  Path.spell_eq_append (.inl rfl) _

theorem isPlainStep_deepDirectory : ∀ s ∈ List.replicate 21 (letters 200), Path.IsPlainStep s := by
  intro s hs
  rw [List.eq_of_mem_replicate hs]
  exact isPlainStep_letters (by decide)

theorem isCanonical_deepDirectory : Path.IsCanonical deepDirectory :=
  Path.spell_isCanonical (.inl rfl) isPlainStep_deepDirectory

theorem real_deepDirectory : Path.real "/" deepDirectory = deepDirectory := by
  rw [Path.real, Path.absolute, Path.join, if_pos isCanonical_deepDirectory.isAbsolute,
    isCanonical_deepDirectory.normalize_eq]
  exact congrArg (Path.spell "/") (Path.steps_spell (.inl rfl) isPlainStep_deepDirectory)

theorem not_mem_deepDirectory {c : Char} (hslash : c ≠ '/') (hletter : c ≠ 'd') :
    c ∉ deepDirectory.toList := by
  have hone : ("/" : String).toList = ['/'] := rfl
  rw [deepDirectory_eq, String.toList_append, hone]
  intro hmem
  rcases List.mem_append.mp hmem with hmem | hmem
  · exact hslash (List.mem_singleton.mp hmem)
  · rcases mem_joinWith hmem with hmem | ⟨s, hs, hmem⟩
    · rw [hone] at hmem
      exact hslash (List.mem_singleton.mp hmem)
    · rw [List.eq_of_mem_replicate hs] at hmem
      exact hletter (eq_of_mem_letters hmem)

/-- There is no room below the directory. -/
theorem refusesToLook_deepDirectory (w : World) :
    w.RefusesToLook (Path.join deepDirectory ".docweave.toml") := by
  have hjoin : ∃ more, Path.join deepDirectory ".docweave.toml" = deepDirectory ++ more ∧
      '\x00' ∉ more.toList := by
    unfold Path.join
    split
    · next habs => cases habs
    · split
      · exact ⟨".docweave.toml", rfl, by decide⟩
      · exact ⟨"/" ++ ".docweave.toml", String.append_assoc, by decide⟩
  obtain ⟨more, hmore, hnull⟩ := hjoin
  have hsize := size_joinWith_replicate (letters 200) 21
  rw [size_letters] at hsize
  rw [hmore]
  constructor
  · rw [String.toList_append]
    intro hmem
    rcases List.mem_append.mp hmem with hmem | hmem
    · exact not_mem_deepDirectory (by decide) (by decide) hmem
    · exact hnull hmem
  · rw [deepDirectory_eq]
    refine Disk.locate_of_size ?_ _ _
    rw [String.utf8ByteSize_append, String.utf8ByteSize_append]
    omega

/-- A search that cannot even ask for the first name fails at once. -/
theorem find_eq_error_of_first {w : World} {start : Option String} {origin : String}
    (hsound : SoundProjects w) (hnull : '\x00' ∉ (start.getD ".").toList)
    (horigin : origin = Path.real w.cwd (start.getD ".")) (h : Path.IsCanonical origin)
    (hfirst : w.RefusesToLook (Path.join origin ".docweave.toml")) :
    w.outcome (find start) =
      .error (.os ⟨.nameTooLong, some (quoted (Path.join origin ".docweave.toml"))⟩) := by
  let first : Spot := toLex (0, ⟨0, by decide⟩)
  have hleast : IsLeast (stopping w origin) first := by
    refine ⟨.inr hfirst, fun s _ => Prod.Lex.le_iff.mpr ?_⟩
    rcases Nat.eq_zero_or_pos (ofLex s).1 with hzero | hpos
    · exact .inr ⟨hzero.symm, Nat.zero_le _⟩
    · exact .inl hpos
  exact (find_eq_error_iff hsound hnull horigin h _).mpr ⟨first, hleast, hfirst, rfl⟩

/-- On an empty disk the search from a deep directory fails, although no file qualifies. -/
theorem discovery_fails_in_deep_directory :
    Path.isAbsolute "/" = true ∧ SoundProjects (.initial ⟨[]⟩ "/") ∧
      (∀ directory name, ¬ Qualifies (.initial ⟨[]⟩ "/") directory name) ∧
      (World.initial ⟨[]⟩ "/").outcome (find (some deepDirectory)) =
        .error (.os ⟨.nameTooLong, some (quoted (Path.join deepDirectory ".docweave.toml"))⟩) := by
  have hempty (place : Place) (content : List UInt8) :
      (Disk.mk []).find? place ≠ some (.file content) := by
    unfold Disk.find?
    split <;> simp
  have hsound : SoundProjects (.initial ⟨[]⟩ "/") := fun place content hfind =>
    absurd hfind (hempty _ content)
  refine ⟨rfl, hsound, ?_, ?_⟩
  · rintro directory name ⟨content, hfile, -⟩
    obtain ⟨place, -, hplace⟩ := Disk.exists_place_of_read hfile.2
    exact hempty place content hplace
  · exact find_eq_error_of_first hsound (not_mem_deepDirectory (by decide) (by decide))
      real_deepDirectory.symm isCanonical_deepDirectory (refusesToLook_deepDirectory _)

end Config

end DocFilter
