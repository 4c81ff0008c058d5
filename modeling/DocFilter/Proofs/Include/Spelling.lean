import DocFilter.Proofs.Include.Nesting
import DocFilter.Proofs.Path.Resolving

/-!
# Cycles and the spelling of references

A file that is being included is recognized by its resolved path. Two absolute paths are resolved to
the same path exactly if they name the same place from the same root, so the one thing about the
spelling that matters is whether a path begins with exactly two slashes: these are kept apart from a
single one. Except for that, a block that names a file that is being included is a cycle, however
it names the file, and nothing is read for it.
-/

namespace DocFilter

namespace Path

/-- Two paths from the same root that name the same place. -/
structure SameFile (p q : String) : Prop where
  root_eq : root p = root q
  target_eq : Disk.target [] p = Disk.target [] q

variable {cwd p q : String}

theorem resolve_of_isAbsolute (h : isAbsolute p = true) (base : Option String) :
    resolve cwd p base = normalize p := by
  unfold resolve
  rw [if_pos h]

theorem resolve_eq_resolve_iff (hp : isAbsolute p = true) (hq : isAbsolute q = true)
    (base base' : Option String) :
    resolve cwd p base = resolve cwd q base' ↔ SameFile p q := by
  rw [resolve_of_isAbsolute hp, resolve_of_isAbsolute hq, normalize_eq_iff hp hq []]
  constructor
  · rintro ⟨hroot, htarget⟩
    exact ⟨hroot, htarget⟩
  · intro h
    exact ⟨h.root_eq, h.target_eq⟩

theorem normalize_eq_canonical_iff (hp : isAbsolute p = true) (hq : IsCanonical q) :
    normalize p = q ↔ SameFile p q := by
  have hresolve : resolve "/" p none = resolve "/" q none ↔ SameFile p q :=
    resolve_eq_resolve_iff hp hq.isAbsolute none none
  rwa [resolve_of_isAbsolute hp, hq.resolve_eq] at hresolve

end Path

namespace Include

/-- The path that a block asks for in a context, as it is spelled. -/
def reference (cwd : String) (b : CodeBlock) (c : Context) : String :=
  Path.join (Path.join cwd (referenceBase b c)) (strip b.text)

section Cycles
variable {cwd : String} {b : CodeBlock} {c : Context}

theorem isAbsolute_reference (hcwd : Path.isAbsolute cwd = true) (b : CodeBlock) (c : Context) :
    Path.isAbsolute (reference cwd b c) = true :=
  Path.isAbsolute_join (Path.isAbsolute_join hcwd (referenceBase b c)) (strip b.text)

theorem resolve_eq_normalize_reference (hcwd : Path.isAbsolute cwd = true) (b : CodeBlock)
    (c : Context) :
    Path.resolve cwd (strip b.text) (some (referenceBase b c)) =
      Path.normalize (reference cwd b c) := by
  rw [Path.resolve_eq_normalize hcwd, reference, Option.getD_some]

/-- Of a file that is being included, a block is refused as a cycle if it names the file. -/
theorem request_of_sameFile (hcwd : Path.isAbsolute cwd = true) (htext : strip b.text ≠ "")
    {file : String} (hfile : file ∈ c.stack) (hcanonical : Path.IsCanonical file)
    (hsame : Path.SameFile (reference cwd b c) file) :
    request cwd b c = .error (.cycle (c.stack ++ [file])) := by
  have hpath : Path.resolve cwd (strip b.text) (some (referenceBase b c)) = file := by
    rw [resolve_eq_normalize_reference hcwd]
    exact (Path.normalize_eq_canonical_iff (isAbsolute_reference hcwd b c) hcanonical).mpr hsame
  have hcycle : isCycle file c.stack = true := by simpa [isCycle] using hfile
  unfold request
  rw [if_neg htext, hpath, if_pos hcycle]

theorem request_eq_cycle {chain : List String} (h : request cwd b c = .error (.cycle chain)) :
    strip b.text ≠ "" ∧ ∃ file ∈ c.stack, chain = c.stack ++ [file] ∧
      Path.resolve cwd (strip b.text) (some (referenceBase b c)) = file := by
  unfold request at h
  dsimp only at h
  split at h
  · cases h
  · next htext =>
    split at h
    · next hcycle =>
      cases h
      exact ⟨htext, _, by simpa [isCycle] using hcycle, rfl, rfl⟩
    · split at h <;> cases h

/-- A block is refused as a cycle only because of a file that it names. -/
theorem sameFile_of_request_eq_cycle (hcwd : Path.isAbsolute cwd = true)
    (hstack : ∀ file ∈ c.stack, Path.IsCanonical file) {chain : List String}
    (h : request cwd b c = .error (.cycle chain)) :
    ∃ file ∈ c.stack, chain = c.stack ++ [file] ∧ Path.SameFile (reference cwd b c) file := by
  obtain ⟨-, file, hfile, hchain, hpath⟩ := request_eq_cycle h
  refine ⟨file, hfile, hchain, ?_⟩
  rw [resolve_eq_normalize_reference hcwd] at hpath
  exact (Path.normalize_eq_canonical_iff (isAbsolute_reference hcwd b c) (hstack file hfile)).mp hpath

end Cycles

theorem run_replacement_of_refused {convert : Converter} {b : CodeBlock} {c : Context} {w : World}
    {problem : Problem} (h : request w.cwd b c = .error problem) :
    (replacement fileText convert (expand convert) b c).run w =
      (problem.report (strip b.text)).run w := by
  have hcwd : Run.cwd.run w = (.ok w.cwd, w) := rfl
  unfold replacement
  refine (run_bind_of_ok hcwd).trans ?_
  rw [h]
  rfl

/-- Absolute paths are resolved to the same path exactly if they have the same root and name the
same place. A block that so names a file that is being included is shown as a cycle, and nothing is
opened for it; a block is a cycle for no other reason. -/
theorem cycles_found_up_to_root (convert : Converter) (w : World)
    (hcwd : Path.isAbsolute w.cwd = true) :
    (∀ p q base base', Path.isAbsolute p = true → Path.isAbsolute q = true →
      (Path.resolve w.cwd p base = Path.resolve w.cwd q base' ↔ Path.SameFile p q)) ∧
    ∀ (b : CodeBlock) (c : Context), strip b.text ≠ "" →
      (∀ file ∈ c.stack, Path.IsCanonical file) →
      (∀ file ∈ c.stack, Path.SameFile (reference w.cwd b c) file →
        let message := "Include cycle detected: " ++ joinWith " -> " (c.stack ++ [file])
        let after := w.log ⟨.warning, logName, message, none⟩
        (replacement fileText convert (expand convert) b c).run w =
            (.ok (errorBlock (strip b.text) message), after) ∧
          after.opened = w.opened) ∧
      ((∀ file ∈ c.stack, ¬ Path.SameFile (reference w.cwd b c) file) →
        ∀ chain, request w.cwd b c ≠ .error (.cycle chain)) := by
  refine ⟨fun p q base base' hp hq => Path.resolve_eq_resolve_iff hp hq base base', ?_⟩
  intro b c htext hstack
  constructor
  · intro file hfile hsame
    have hrequest := request_of_sameFile hcwd htext hfile (hstack file hfile) hsame
    refine ⟨?_, w.opened_log _⟩
    rw [run_replacement_of_refused hrequest, run_report]
    rfl
  · intro hother chain hrequest
    obtain ⟨file, hfile, -, hsame⟩ := sameFile_of_request_eq_cycle hcwd hstack hrequest
    exact hother file hfile hsame

/-! ### A file under two names -/

def oneFileWorld : World :=
  .initial ⟨[(["w"], .directory), (["w", "m"], .file [120])]⟩ "/w"

def oneFileContext : Context := ⟨"/w", ["/w/m"], 1, ⟨10, "10"⟩⟩

/-- A block that asks for a file as code, from a base of its own. -/
def roundaboutBlock (text base : String) : CodeBlock :=
  ⟨text, ⟨"", [.str "include"], [("mode", "code"), ("base", base)]⟩⟩

theorem roundabout_reference_is_cycle :
    Path.isAbsolute oneFileWorld.cwd = true ∧
      strip (roundaboutBlock " ..//../w/./m " ".//up/").text ≠ "" ∧
      Path.SameFile (reference "/w" (roundaboutBlock " ..//../w/./m " ".//up/") oneFileContext)
        "/w/m" ∧
      ((replacement fileText (fun _ => pure .null) (expand fun _ => pure .null)
        (roundaboutBlock " ..//../w/./m " ".//up/") oneFileContext).run oneFileWorld).1 =
          .ok (errorBlock "..//../w/./m" "Include cycle detected: /w/m -> /w/m") := by
  have htext : strip (roundaboutBlock " ..//../w/./m " ".//up/").text ≠ "" := by decide +kernel
  have hsame : Path.SameFile
      (reference "/w" (roundaboutBlock " ..//../w/./m " ".//up/") oneFileContext) "/w/m" :=
    ⟨by decide +kernel, by decide +kernel⟩
  have hstack : ∀ file ∈ oneFileContext.stack, Path.IsCanonical file := by
    intro file hfile
    obtain rfl := List.mem_singleton.mp hfile
    exact ⟨by decide, by decide +kernel⟩
  obtain ⟨-, hblocks⟩ := cycles_found_up_to_root (fun _ => pure .null) oneFileWorld rfl
  obtain ⟨hcycle, -⟩ := hblocks _ oneFileContext htext hstack
  obtain ⟨hrun, -⟩ := hcycle "/w/m" (List.mem_singleton_self _) hsame
  refine ⟨rfl, htext, hsame, ?_⟩
  rw [hrun]
  rfl

/-- With two slashes at its beginning, the name of a file is not recognized, and the file is read
while it is being included. -/
theorem two_slashes_hide_cycle :
    Path.isAbsolute "//w/m" = true ∧ Path.isAbsolute "/w/m" = true ∧
      Disk.target [] "//w/m" = Disk.target [] "/w/m" ∧
      Path.resolve "/w" "//w/m" none ≠ Path.resolve "/w" "/w/m" none ∧
      ((replacement fileText (fun _ => pure .null) (expand fun _ => pure .null)
        (roundaboutBlock "//w/m" "") oneFileContext).run oneFileWorld).2.opened = ["//w/m"] := by
  decide +kernel

end Include

end DocFilter
