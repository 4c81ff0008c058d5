import DocFilter.Proofs.Sql.Chunk
import DocFilter.Proofs.Text.Blank
import DocFilter.Sql.Splitting

/-!
# Splitting in one scan

A text is split by looking at all that has been read since the last cut again for each semicolon.
The automaton comes to the same cuts when it reads the text only once. Since it is never complete
inside a statement, a comment at the end does not count as one, and no semicolon in a region is a
cut. Nothing is lost but blanks around the statements.
-/

namespace DocFilter.Sql

/-- A text cut after each semicolon with which the automaton finds complete what it has read since
the last cut. The text is read once; `buffer` holds, newest first, what has been read since the last
cut, and `s` is where the automaton stands. The last piece may be incomplete. -/
def cutFrom (s : Scan) (buffer : List Char) : List Char → List (List Char)
  | [] => [buffer.reverse]
  | c :: cs =>
    if c = ';' ∧ (s.feed c).isComplete = true then
      (c :: buffer).reverse :: cutFrom .initial [] cs
    else cutFrom (s.feed c) (c :: buffer) cs

def pieces (cs : List Char) : List (List Char) := cutFrom .initial [] cs

theorem isComplete_eq (cs : List Char) : isComplete cs = (scanOf cs).isComplete := rfl

/-- As long as no NUL is read, looking at everything again makes no difference. -/
theorem splitFrom_eq (cs : List Char) (buffer : List Char) (hbuffer : '\x00' ∉ buffer)
    (hcs : '\x00' ∉ cs) :
    splitFrom buffer cs = some ((cutFrom (scanOf buffer.reverse) buffer cs).flatMap trimmed) := by
  induction cs generalizing buffer with
  | nil => simp [splitFrom, cutFrom]
  | cons c cs ih =>
    obtain ⟨hc, hrest⟩ : '\x00' ≠ c ∧ '\x00' ∉ cs := by simpa using hcs
    have hread : '\x00' ∉ c :: buffer := by simpa using ⟨hc, hbuffer⟩
    have hscan : scanOf (c :: buffer).reverse = (scanOf buffer.reverse).feed c := by
      rw [List.reverse_cons, scanOf_concat]
    have hon := ih _ hread hrest
    rw [hscan] at hon
    rw [splitFrom, cutFrom]
    by_cases hsemi : c = ';'
    · rw [if_pos hsemi, if_neg (by simpa using hread), isComplete_eq, hscan]
      cases hcomplete : ((scanOf buffer.reverse).feed c).isComplete with
      | true =>
        rw [if_pos rfl, if_pos ⟨hsemi, rfl⟩, ih [] (by simp) hrest]
        rfl
      | false =>
        rw [if_neg Bool.false_ne_true, if_neg fun h => Bool.false_ne_true h.2, hon]
    · rw [if_neg hsemi, if_neg fun h => hsemi h.1, hon]

/-! ### What is cut -/

/-- Only a semicolon completes a statement. -/
theorem next_ne_start {p : Phase} {t : TokenClass} (hp : p ≠ .start) (ht : t ≠ .semi) :
    p.next t ≠ .start := by
  cases p <;> cases t <;> simp_all [Phase.next]

theorem classOfWord_ne_semi (letters : List Char) : classOfWord letters ≠ .semi := by
  unfold classOfWord
  split <;> exact nofun

theorem begin_phase {p : Phase} {c : Char} (hp : p ≠ .start)
    (h : (Scan.begin p c).phase = .start) : c = ';' ∧ (Scan.begin p c).mode = .plain := by
  by_cases hc : c = ';'
  · rw [Scan.begin, if_pos hc]
    exact ⟨hc, rfl⟩
  · refine absurd h ?_
    unfold Scan.begin
    rw [if_neg hc]
    have hspace := next_ne_start hp (t := .space) (by simp)
    have hother := next_ne_start hp (t := .other) (by simp)
    split_ifs <;> assumption

/-- Inside a statement the automaton becomes complete with a semicolon only. -/
theorem feed_phase {s : Scan} {c : Char} (hs : s.phase ≠ .start)
    (h : (s.feed c).phase = .start) : c = ';' ∧ (s.feed c).mode = .plain := by
  obtain ⟨p, mode⟩ := s
  have hspace := next_ne_start hs (t := .space) nofun
  have hother := next_ne_start hs (t := .other) nofun
  unfold Scan.feed at h ⊢
  dsimp only at hs hspace hother h ⊢
  split at h
  all_goals first | exact begin_phase hs h | skip
  all_goals split_ifs at h ⊢
  all_goals first
    | exact absurd h hs
    | exact absurd h hspace
    | exact absurd h hother
    | exact begin_phase hother h
    | exact begin_phase (next_ne_start hs (classOfWord_ne_semi _)) h

/-- A text that ends in a semicolon that no region holds. -/
def EndsStatement (cs : List Char) : Prop := ∃ ls, Chunked (ls ++ [.semicolon]) cs

theorem EndsStatement.append {cs ds : List Char} (h : EndsStatement cs) (h' : EndsStatement ds) :
    EndsStatement (cs ++ ds) := by
  obtain ⟨ls, hls⟩ := h
  obtain ⟨ls', hls'⟩ := h'
  have hparted : Parted (ls ++ [.semicolon]) ds := by
    intro l hl c _
    rw [List.getLast?_concat] at hl
    cases hl
    rfl
  refine ⟨ls ++ [.semicolon] ++ ls', ?_⟩
  rw [List.append_assoc]
  exact hls.append hls' hparted

theorem EndsStatement.exists_chunked {cs : List Char} (h : EndsStatement cs) :
    ∃ ls before, Chunked ls before ∧ cs = before ++ [';'] := by
  obtain ⟨ls, hls⟩ := h
  obtain ⟨before, hbefore, htext, -⟩ := hls.of_concat
  exact ⟨ls, before, hbefore, htext⟩

/-- The automaton is not complete in a comment that it has not left, since it was not complete
before the comment either. -/
theorem endsStatement_of_isComplete {cs : List Char} (hcs : (scanOf cs).phase ≠ .start)
    (h : (scanOf (cs ++ [';'])).isComplete = true) : EndsStatement (cs ++ [';']) := by
  have hphase : (scanOf (cs ++ [';'])).phase = .start := by
    revert h
    unfold Scan.isComplete
    split
    · exact of_decide_eq_true
    · exact of_decide_eq_true
    · exact nofun
  have hmode : (scanOf (cs ++ [';'])).mode = .plain := by
    rw [scanOf_concat] at hphase ⊢
    exact (feed_phase hcs hphase).2
  cases reading (cs ++ [';']) with
  | inside ls r inner hinside =>
    have hopen := r.isOpen_mode inner
    rw [hinside.scanOf_eq] at hmode
    dsimp only at hmode
    rw [hmode] at hopen
    exact hopen.elim
  | whole ls hls =>
    obtain ⟨before, rfl⟩ := hls.exists_semicolon
    exact ⟨before, hls⟩

/-- The pieces are the text, and all of them but the last end statements. The automaton is never
complete between two cuts. -/
theorem exists_cutFrom_eq (cs : List Char) (buffer : List Char)
    (h : (scanOf buffer.reverse).phase ≠ .start) :
    ∃ cuts last, cutFrom (scanOf buffer.reverse) buffer cs = cuts ++ [last] ∧
      cuts.flatten ++ last = buffer.reverse ++ cs ∧ ∀ cut ∈ cuts, EndsStatement cut := by
  induction cs generalizing buffer with
  | nil => exact ⟨[], buffer.reverse, rfl, by simp, by simp⟩
  | cons c cs ih =>
    have hscan : (scanOf buffer.reverse).feed c = scanOf (c :: buffer).reverse := by
      rw [List.reverse_cons, scanOf_concat]
    rw [cutFrom, hscan]
    by_cases hcut : c = ';' ∧ (scanOf (c :: buffer).reverse).isComplete = true
    · obtain ⟨rfl, hcomplete⟩ := hcut
      obtain ⟨cuts, last, hcuts, htext, hends⟩ := ih [] nofun
      rw [List.reverse_cons] at hcomplete ⊢
      refine ⟨(buffer.reverse ++ [';']) :: cuts, last, ?_, by simpa using htext, ?_⟩
      · rw [if_pos ⟨rfl, hcomplete⟩, List.cons_append, ← hcuts]
        rfl
      · rintro cut (_ | ⟨_, hcut⟩)
        · exact endsStatement_of_isComplete h hcomplete
        · exact hends cut hcut
    · rw [if_neg hcut]
      have hphase : (scanOf (c :: buffer).reverse).phase ≠ .start := by
        intro hstart
        rw [← hscan] at hstart hcut
        obtain ⟨rfl, hmode⟩ := feed_phase h hstart
        refine hcut ⟨rfl, ?_⟩
        simp [Scan.isComplete, hmode, hstart]
      obtain ⟨cuts, last, hcuts, htext, hends⟩ := ih _ hphase
      exact ⟨cuts, last, hcuts, by simpa using htext, hends⟩

theorem exists_pieces_eq (cs : List Char) :
    ∃ cuts last, pieces cs = cuts ++ [last] ∧ cuts.flatten ++ last = cs ∧
      ∀ cut ∈ cuts, EndsStatement cut :=
  exists_cutFrom_eq cs [] nofun

theorem endsStatement_flatten {cuts : List (List Char)} (hne : cuts ≠ [])
    (h : ∀ cut ∈ cuts, EndsStatement cut) : EndsStatement cuts.flatten := by
  induction cuts with
  | nil => exact absurd rfl hne
  | cons cut cuts ih =>
    have hcut := h cut List.mem_cons_self
    cases cuts with
    | nil => simpa using hcut
    | cons next rest =>
      rw [List.flatten_cons]
      exact hcut.append (ih (List.cons_ne_nil next rest) fun d hd => h d (.tail cut hd))

/-! ### What is left of the pieces -/

/-- A text that consists of given parts, in order, with blanks between, before and after them. -/
inductive Woven : List String → List Char → Prop where
  | blank {gap : List Char} : (∀ c ∈ gap, isBlank c = true) → Woven [] gap
  | cons {gap rest : List Char} {part : String} {parts : List String} :
      (∀ c ∈ gap, isBlank c = true) → Woven parts rest →
        Woven (part :: parts) (gap ++ part.toList ++ rest)

variable {cs rest : List Char} {s : String} {parts : List String}

theorem Woven.of_blank {gap : List Char} (hgap : ∀ c ∈ gap, isBlank c = true)
    (h : Woven parts rest) : Woven parts (gap ++ rest) := by
  have hblank {first more : List Char} (hfirst : ∀ c ∈ first, isBlank c = true)
      (hmore : ∀ c ∈ more, isBlank c = true) : ∀ c ∈ first ++ more, isBlank c = true := by
    intro c hc
    exact (List.mem_append.mp hc).elim (hfirst c) (hmore c)
  cases h with
  | blank hrest => exact .blank (hblank hgap hrest)
  | @cons first rest part parts hfirst hrest =>
    have hall : Woven (part :: parts) (gap ++ first ++ part.toList ++ rest) :=
      .cons (hblank hgap hfirst) hrest
    simpa only [List.append_assoc] using hall

theorem trimmed_eq (cs : List Char) :
    trimmed cs = if stripChars cs = [] then [] else [String.ofList (stripChars cs)] := by
  have hempty : String.ofList (stripChars cs) = "" ↔ stripChars cs = [] := by
    rw [← String.toList_inj, String.toList_ofList]
    rfl
  simp only [trimmed, hempty]

theorem mem_trimmed (h : s ∈ trimmed cs) : s ≠ "" ∧ strip s = s ∧ s.toList = stripChars cs := by
  rw [trimmed_eq] at h
  split_ifs at h with hempty
  · exact absurd h List.not_mem_nil
  · obtain rfl := List.mem_singleton.mp h
    refine ⟨fun hs => hempty ?_, ?_, String.toList_ofList⟩
    · rw [← String.toList_ofList (l := stripChars cs), hs]
      rfl
    · rw [strip, String.toList_ofList, stripChars, stripChars, trimWhere_trimWhere]

theorem Woven.trimmed_append (cs : List Char) (h : Woven parts rest) :
    Woven (trimmed cs ++ parts) (cs ++ rest) := by
  obtain ⟨lead, trail, hcs, hlead, htrail⟩ := exists_eq_append_trimWhere isBlank cs
  have hrest := h.of_blank htrail
  have htext : cs ++ rest = lead ++ stripChars cs ++ (trail ++ rest) := by
    rw [stripChars, ← List.append_assoc, ← hcs]
  rw [htext, trimmed_eq]
  split_ifs with hempty
  · rw [hempty, List.append_nil, List.nil_append]
    exact hrest.of_blank hlead
  · have hall : Woven (String.ofList (stripChars cs) :: parts)
        (lead ++ (String.ofList (stripChars cs)).toList ++ (trail ++ rest)) := .cons hlead hrest
    rwa [String.toList_ofList] at hall

theorem woven_trimmed (all : List (List Char)) : Woven (all.flatMap trimmed) all.flatten := by
  induction all with
  | nil => exact .blank (by simp)
  | cons cs all ih => exact ih.trimmed_append cs

/-- What ends in a semicolon still does without blanks, so something is left. -/
theorem EndsStatement.trimmed_eq (h : EndsStatement cs) :
    ∃ s, trimmed cs = [s] ∧ s.toList.getLast? = some ';' := by
  obtain ⟨-, before, -, rfl⟩ := h.exists_chunked
  have hstrip : stripChars (before ++ [';']) = before.dropWhile isBlank ++ [';'] :=
    trimWhere_concat rfl
  rw [Sql.trimmed_eq, hstrip, if_neg (by simp)]
  exact ⟨_, rfl, by simp⟩

theorem getLast?_of_mem_flatMap {cuts : List (List Char)} (h : ∀ cut ∈ cuts, EndsStatement cut)
    (hs : s ∈ cuts.flatMap trimmed) : s.toList.getLast? = some ';' := by
  obtain ⟨cut, hcut, hmem⟩ := List.mem_flatMap.mp hs
  obtain ⟨t, ht, hlast⟩ := (h cut hcut).trimmed_eq
  rw [ht] at hmem
  rwa [List.mem_singleton.mp hmem]

theorem mem_of_mem_dropLast_append_trimmed {front : List String}
    (h : s ∈ (front ++ trimmed cs).dropLast) : s ∈ front := by
  rw [Sql.trimmed_eq] at h
  split_ifs at h
  · rw [List.append_nil] at h
    exact List.mem_of_mem_dropLast h
  · rwa [List.dropLast_concat] at h

/-- The statements of a text are the pieces that one scan cuts it into, without the blanks around
them. The text before each cut consists of whole chunks, so no semicolon in a quoted text, in a
bracketed name or in a comment ends a statement, and all that is lost are blanks. -/
theorem statements_by_one_scan (sql : String) (h : '\x00' ∉ sql.toList) :
    ∃ statements, statements? sql = some statements ∧
      statements = (pieces sql.toList).flatMap trimmed ∧
      (pieces sql.toList).flatten = sql.toList ∧
      (∀ before after, pieces sql.toList = before ++ after → before ≠ [] → after ≠ [] →
        ∃ ls text, before.flatten = text ++ [';'] ∧ Chunked ls text ∧
          ∀ opened r inner, ¬ Inside opened r inner text) ∧
      (∀ s ∈ statements, s ≠ "" ∧ strip s = s) ∧
      (∀ s ∈ statements.dropLast, s.toList.getLast? = some ';') ∧
      Woven statements sql.toList := by
  obtain ⟨cuts, last, hpieces, htext, hends⟩ := exists_pieces_eq sql.toList
  have hflatten : (pieces sql.toList).flatten = sql.toList := by
    rw [hpieces, List.flatten_append, List.flatten_singleton, htext]
  refine ⟨_, splitFrom_eq sql.toList [] (by simp) h, rfl, hflatten, ?_, ?_, ?_, ?_⟩
  · intro before after hsplit hbefore hafter
    have hprefix : ∀ cut ∈ before, EndsStatement cut := by
      intro cut hcut
      refine hends cut ?_
      have hinit : before ++ after.dropLast = cuts := by
        rw [← List.dropLast_append_of_ne_nil hafter, ← hsplit, hpieces, List.dropLast_concat]
      rw [← hinit]
      exact List.mem_append_left _ hcut
    obtain ⟨ls, text, hls, hcut⟩ := (endsStatement_flatten hbefore hprefix).exists_chunked
    exact ⟨ls, text, hcut, hls, hls.not_inside⟩
  · intro s hs
    obtain ⟨piece, -, hmem⟩ := List.mem_flatMap.mp hs
    obtain ⟨hne, hstrip, -⟩ := mem_trimmed hmem
    exact ⟨hne, hstrip⟩
  · intro s hs
    change s ∈ ((pieces sql.toList).flatMap trimmed).dropLast at hs
    rw [hpieces, List.flatMap_append, List.flatMap_singleton] at hs
    exact getLast?_of_mem_flatMap hends (mem_of_mem_dropLast_append_trimmed hs)
  · have hwoven := woven_trimmed (pieces sql.toList)
    rwa [hflatten] at hwoven

theorem statements_by_one_scan_quoted_semicolons :
    statements? "SELECT ';'; -- a; b\nSELECT [;]" = some ["SELECT ';';", "-- a; b\nSELECT [;]"] ∧
      Woven ["SELECT ';';", "-- a; b\nSELECT [;]"] "SELECT ';'; -- a; b\nSELECT [;]".toList := by
  have hsplit : statements? "SELECT ';'; -- a; b\nSELECT [;]" =
      some ["SELECT ';';", "-- a; b\nSELECT [;]"] := by decide +kernel
  obtain ⟨statements, hstatements, -, -, -, -, -, hwoven⟩ :=
    statements_by_one_scan "SELECT ';'; -- a; b\nSELECT [;]" (by decide)
  obtain rfl : _ = statements := Option.some.inj (hsplit.symm.trans hstatements)
  exact ⟨hsplit, hwoven⟩

end DocFilter.Sql
