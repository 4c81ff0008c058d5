import DocFilter.Proofs.Include.Pass
import DocFilter.Proofs.Observing
import DocFilter.Proofs.Text.LineEnds

/-!
# Files shown as they are

What a block that includes a file as code or as it is shows of the file: its text, in which every
end of line is a line feed. The bytes of that text are those of the file if and only if the file has
no carriage return; nothing else is lost or added, whatever the file holds.
-/

namespace DocFilter.Include

/-- The block that shows the content of a file without parsing it, if the mode is such a one. -/
def shownOf? (mode : FileMode) (b : CodeBlock) (content : String) : Option Json :=
  match mode with
  | .parse => none
  | .code => some (codeOf b content)
  | .raw => some (rawOf b content)

section Shown
variable {convert : Converter} {expand : Json → Context → Run Json} {b : CodeBlock} {c : Context}
variable {w : World} {path content : String} {mode : FileMode} {v : Json}

theorem textAt_of_hasFile {bytes : List UInt8} {text : String} (h : w.HasFile path bytes)
    (htext : Utf8.decode bytes = .ok text) :
    w.textAt path = .ok (String.ofList (unifyLineEnds text.toList)) := by
  obtain ⟨hnull, hread⟩ := h
  have hcontains : ¬ path.toList.contains '\x00' = true := by simpa using hnull
  rw [World.textAt, if_neg hcontains, hread]
  dsimp only
  rw [htext]

/-- A file that is not parsed is replaced by the block that shows its text. -/
theorem outcome_replacement_of_shown (hrequest : request w.cwd b c = .ok ⟨path, mode⟩)
    (htext : w.textAt path = .ok content) (hshown : shownOf? mode b content = some v) :
    w.outcome (replacement fileText convert expand b c) = .ok v := by
  have hcwd : Run.cwd.run w = (.ok w.cwd, w) := rfl
  have hload : (fileText path).run w = (.ok (.ok content), ((Run.readText path).run w).2) := by
    rw [run_fileText, htext]
    rfl
  refine (congrArg Prod.fst (run_bind_of_ok hcwd)).trans ?_
  rw [hrequest]
  refine (congrArg Prod.fst (run_bind_of_ok hload)).trans ?_
  refine (congrArg Prod.fst (run_bind_of_ok (run_debug _ _ _))).trans ?_
  cases mode with
  | parse => cases hshown
  | code =>
    cases hshown
    rfl
  | raw =>
    cases hshown
    rfl

end Shown

/-- A block that includes a file of text as code or as it is gives way to one that shows a text
whose bytes are those of the file, each end of line being a line feed. They are exactly the bytes of
the file if and only if there is no carriage return among these. -/
theorem file_shown_up_to_returns (convert : Converter) (expand : Json → Context → Run Json)
    (b : CodeBlock) (c : Context) (w : World) (path : String) (mode : FileMode)
    (bytes : List UInt8) (hrequest : request w.cwd b c = .ok ⟨path, mode⟩) (hmode : mode ≠ .parse)
    (hfile : w.HasFile path bytes) (hvalid : ∃ text, Utf8.decode bytes = .ok text) :
    ∃ shown v, shownOf? mode b shown = some v ∧
      w.outcome (replacement fileText convert expand b c) = .ok v ∧
      Utf8.encode shown = unifyLineEndBytes bytes ∧
      (Utf8.encode shown = bytes ↔ 0x0D ∉ bytes) := by
  obtain ⟨text, hdecode⟩ := hvalid
  have hshown : ∃ v, shownOf? mode b (String.ofList (unifyLineEnds text.toList)) = some v := by
    cases mode with
    | parse => exact absurd rfl hmode
    | code => exact ⟨_, rfl⟩
    | raw => exact ⟨_, rfl⟩
  obtain ⟨v, hv⟩ := hshown
  have hbytes : Utf8.encode (String.ofList (unifyLineEnds text.toList)) =
      unifyLineEndBytes bytes := by
    rw [Utf8.encode_unifyLineEnds, ← Utf8.decode_eq_ok_iff.mp hdecode, Utf8.encode]
  refine ⟨_, v, hv, outcome_replacement_of_shown hrequest (textAt_of_hasFile hfile hdecode) hv,
    hbytes, ?_⟩
  rw [hbytes]
  exact unifyLineEndBytes_eq_self_iff

/-- A world with one file, whose two lines are divided by a carriage return and a line feed. -/
def returnWorld : World := .initial ⟨[(["f"], .file [0x61, 0x0D, 0x0A, 0x62])]⟩ "/"

def returnBlock (mode : String) : CodeBlock := ⟨"f", ⟨"", [.str "include"], [("mode", mode)]⟩⟩

theorem file_shown_up_to_returns_as_raw :
    request returnWorld.cwd (returnBlock "raw") ⟨"/", [], 0, ⟨1, "1"⟩⟩ = .ok ⟨"/f", .raw⟩ ∧
      FileMode.raw ≠ .parse ∧ returnWorld.HasFile "/f" [0x61, 0x0D, 0x0A, 0x62] ∧
      (∃ text, Utf8.decode [0x61, 0x0D, 0x0A, 0x62] = .ok text) ∧
      ∃ shown, returnWorld.outcome (replacement fileText (fun _ => pure .null) (fun v _ => pure v)
          (returnBlock "raw") ⟨"/", [], 0, ⟨1, "1"⟩⟩) = .ok (rawOf (returnBlock "raw") shown) ∧
        Utf8.encode shown = [0x61, 0x0A, 0x62] := by
  have hrequest : request returnWorld.cwd (returnBlock "raw") ⟨"/", [], 0, ⟨1, "1"⟩⟩ =
      .ok ⟨"/f", .raw⟩ := rfl
  have hfile : returnWorld.HasFile "/f" [0x61, 0x0D, 0x0A, 0x62] := ⟨by decide, rfl⟩
  have hvalid : ∃ text, Utf8.decode [0x61, 0x0D, 0x0A, 0x62] = .ok text := ⟨_, rfl⟩
  obtain ⟨shown, v, hv, hout, hbytes, -⟩ :=
    file_shown_up_to_returns (fun _ => pure .null) (fun v _ => pure v) (returnBlock "raw")
      ⟨"/", [], 0, ⟨1, "1"⟩⟩ returnWorld "/f" .raw [0x61, 0x0D, 0x0A, 0x62] hrequest nofun hfile
      hvalid
  cases hv
  exact ⟨hrequest, nofun, hfile, hvalid, shown, hout, hbytes⟩

/-- A carriage return of a file is shown neither as code nor as it is. -/
theorem return_is_not_shown :
    returnWorld.HasFile "/f" (Utf8.encode "a\r\nb") ∧
      returnWorld.outcome (replacement fileText (fun _ => pure .null) (fun v _ => pure v)
        (returnBlock "code") ⟨"/", [], 0, ⟨1, "1"⟩⟩) = .ok (codeOf (returnBlock "code") "a\nb") ∧
      returnWorld.outcome (replacement fileText (fun _ => pure .null) (fun v _ => pure v)
        (returnBlock "raw") ⟨"/", [], 0, ⟨1, "1"⟩⟩) = .ok (rawOf (returnBlock "raw") "a\nb") ∧
      Utf8.encode "a\nb" ≠ Utf8.encode "a\r\nb" :=
  ⟨⟨by decide, rfl⟩, rfl, rfl, by decide⟩

end DocFilter.Include
