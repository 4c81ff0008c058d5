import DocFilter.Sql.Completion
import Mathlib.Data.List.Chain
import Mathlib.Data.List.Infix

/-!
# Chunks of SQL text

What the automaton has read is a list of whole chunks, or such a list and a region that is still
open. After whole chunks the automaton stands where their classes take it. A region keeps every
character until it is closed, so a semicolon in it is no chunk.
-/

namespace DocFilter.Sql

/-- Whether the automaton stands in a comment, a bracketed name or a quoted text. -/
def Mode.IsOpen : Mode → Prop
  | .block | .blockStar | .line | .bracket | .quote _ => True
  | .plain | .slash | .dash | .word _ => False

/-- The parts of a text in which characters lose their meaning: quoted texts, bracketed names,
comments up to the end of a line, and comments between marks. -/
inductive Region where
  | quoted (q : Char)
  | bracketed
  | remark
  | comment

namespace Region

def opening : Region → List Char
  | .quoted q => [q]
  | .bracketed => ['[']
  | .remark => ['-', '-']
  | .comment => ['/', '*']

def closing : Region → List Char
  | .quoted q => [q]
  | .bracketed => [']']
  | .remark => ['\n']
  | .comment => ['*', '/']

/-- Comments count as blanks. -/
def kind : Region → TokenClass
  | .quoted _ | .bracketed => .other
  | .remark | .comment => .space

/-- Only three characters are quotes. -/
def IsValid : Region → Prop
  | .quoted q => q = '\x60' ∨ q = '"' ∨ q = '\x27'
  | _ => True

/-- Whether a text leaves the region open that it stands in. -/
def Holds (r : Region) (inner : List Char) : Prop := ¬ r.closing <:+: inner

/-- Where the automaton stands in a region of which it has read some text. -/
def mode : Region → List Char → Mode
  | .quoted q, _ => .quote q
  | .bracketed, _ => .bracket
  | .remark, _ => .line
  | .comment, inner => if inner.getLast? = some '*' then .blockStar else .block

variable {r : Region} {inner : List Char}

theorem isOpen_mode (r : Region) (inner : List Char) : (r.mode inner).IsOpen := by
  cases r with
  | comment =>
    rw [mode]
    split_ifs <;> trivial
  | _ => trivial

theorem foldl_opening (h : r.IsValid) (p : Phase) :
    r.opening.foldl Scan.feed ⟨p, .plain⟩ = ⟨p, r.mode []⟩ := by
  cases r with
  | quoted q =>
    rcases h with rfl | rfl | rfl <;> rfl
  | bracketed => rfl
  | remark => rfl
  | comment => rfl

theorem singleton_suffix_concat {a c : Char} : [a] <:+ inner ++ [c] ↔ c = a := by
  constructor
  · rintro ⟨before, h⟩
    exact (List.singleton_inj.mp (List.append_inj' h rfl).2).symm
  · rintro rfl
    exact List.suffix_append inner [c]

theorem comment_suffix_concat {c : Char} :
    ['*', '/'] <:+ inner ++ [c] ↔ c = '/' ∧ inner.getLast? = some '*' := by
  constructor
  · rintro ⟨before, h⟩
    have hsplit : before ++ ['*'] ++ ['/'] = inner ++ [c] := by simpa using h
    obtain ⟨rfl, hc⟩ := List.append_inj' hsplit rfl
    exact ⟨(List.singleton_inj.mp hc).symm, List.getLast?_concat⟩
  · rintro ⟨rfl, hlast⟩
    obtain ⟨before, rfl⟩ := List.getLast?_eq_some_iff.mp hlast
    exact ⟨before, by simp⟩

/-- A region is left with the character that closes it, and with no other. -/
theorem feed_mode (r : Region) (p : Phase) (inner : List Char) (c : Char) :
    (Scan.mk p (r.mode inner)).feed c =
      if r.closing <:+ inner ++ [c] then ⟨p.next r.kind, .plain⟩
      else ⟨p, r.mode (inner ++ [c])⟩ := by
  cases r with
  | quoted q | bracketed | remark =>
    simp only [closing, singleton_suffix_concat, mode, Scan.feed, kind]
  | comment =>
    simp only [closing, comment_suffix_concat, mode, List.getLast?_concat, Option.some.injEq, kind]
    by_cases hstar : inner.getLast? = some '*'
    · by_cases hslash : c = '/'
      · simp [Scan.feed, hstar, hslash]
      · by_cases hc : c = '*' <;> simp [Scan.feed, hstar, hslash, hc]
    · by_cases hc : c = '*' <;> simp [Scan.feed, hstar, hc]

theorem Holds.of_concat {c : Char} (h : r.Holds (inner ++ [c])) :
    r.Holds inner ∧ ¬ r.closing <:+ inner ++ [c] := by
  rw [Holds, List.infix_concat_iff, not_or] at h
  exact ⟨h.2, h.1⟩

theorem Holds.concat {c : Char} (h : r.Holds inner) (hc : ¬ r.closing <:+ inner ++ [c]) :
    r.Holds (inner ++ [c]) := by
  rw [Holds, List.infix_concat_iff, not_or]
  exact ⟨hc, h⟩

theorem holds_nil (r : Region) : r.Holds [] := by
  intro h
  have hnil := List.infix_nil.mp h
  cases r <;> cases hnil

theorem closing_eq (r : Region) : ∃ last, r.closing = r.closing.dropLast ++ [last] := by
  cases r <;> exact ⟨_, rfl⟩

/-- As long as a region is open, the automaton stays in it. -/
theorem Holds.foldl_feed (h : r.Holds inner) (p : Phase) :
    inner.foldl Scan.feed ⟨p, r.mode []⟩ = ⟨p, r.mode inner⟩ := by
  induction inner using List.reverseRecOn with
  | nil => rfl
  | append_singleton inner c ih =>
    obtain ⟨hinner, hc⟩ := h.of_concat
    rw [List.foldl_concat, ih hinner, feed_mode, if_neg hc]

end Region

/-! ### Whole chunks -/

/-- The characters that count as blank between other chunks. -/
def IsGap (c : Char) : Prop := c = ' ' ∨ c = '\r' ∨ c = '\t' ∨ c = '\n' ∨ c = '\x0c'

/-- The smallest parts of SQL text that completeness depends on. -/
inductive Chunk where
  | semicolon
  | blank (c : Char)
  | word (letters : List Char)
  | sign (c : Char)
  | region (r : Region) (inner : List Char)

namespace Chunk

def text : Chunk → List Char
  | .semicolon => [';']
  | .blank c => [c]
  | .word letters => letters
  | .sign c => [c]
  | .region r inner => r.opening ++ inner ++ r.closing

def kind : Chunk → TokenClass
  | .semicolon => .semi
  | .blank _ => .space
  | .word letters => classOfWord letters.reverse
  | .sign _ => .other
  | .region r _ => r.kind

/-- Whether a chunk is what it should be. A region ends where it is closed first, and a sign is
nothing that any other chunk starts with, unless it is a single dash or slash. -/
def IsProper : Chunk → Prop
  | .semicolon => True
  | .blank c => IsGap c
  | .word letters => letters ≠ [] ∧ ∀ c ∈ letters, isWordChar c = true
  | .sign c => c ≠ ';' ∧ ¬ IsGap c ∧ c ≠ '[' ∧ ¬ (Region.quoted c).IsValid ∧ isWordChar c = false
  | .region r inner => r.IsValid ∧ r.Holds (inner ++ r.closing.dropLast)

/-- Whether a chunk would run together with a character that followed it. -/
def joins : Chunk → Char → Bool
  | .word _, c => isWordChar c
  | .sign a, c => a = '-' && c = '-' || a = '/' && c = '*'
  | _, _ => false

/-- Where the automaton stands when it has read a chunk. Whether a word, a dash or a slash is over
shows only in the next character. -/
def after (p : Phase) : Chunk → Scan
  | .word letters => ⟨p, .word letters.reverse⟩
  | .sign c =>
    if c = '-' then ⟨p, .dash⟩ else if c = '/' then ⟨p, .slash⟩ else ⟨p.next .other, .plain⟩
  | l => ⟨p.next l.kind, .plain⟩

variable {l : Chunk} {c : Char}

theorem text_ne_nil (h : l.IsProper) : l.text ≠ [] := by
  cases l with
  | word letters => exact h.1
  | region r inner => cases r <;> simp [text, Region.opening]
  | _ => exact List.cons_ne_nil _ _

theorem foldl_word {letters : List Char} (h : ∀ c ∈ letters, isWordChar c = true) (p : Phase)
    (first : List Char) :
    letters.foldl Scan.feed ⟨p, .word first⟩ = ⟨p, .word (letters.reverse ++ first)⟩ := by
  induction letters generalizing first with
  | nil => rfl
  | cons c letters ih =>
    have hc : (Scan.mk p (.word first)).feed c = ⟨p, .word (c :: first)⟩ :=
      if_pos (h c List.mem_cons_self)
    rw [List.foldl_cons, hc, ih fun d hd => h d (List.mem_cons_of_mem c hd)]
    simp

theorem begin_blank (h : IsGap c) (p : Phase) : Scan.begin p c = ⟨p.next .space, .plain⟩ := by
  rcases h with rfl | rfl | rfl | rfl | rfl <;> rfl

theorem begin_word (h : isWordChar c = true) (p : Phase) : Scan.begin p c = ⟨p, .word [c]⟩ := by
  have hne {d : Char} (hd : isWordChar d = false) : c ≠ d := by
    rintro rfl
    rw [h] at hd
    cases hd
  simp [Scan.begin, h, hne (d := ';') rfl, hne (d := ' ') rfl, hne (d := '\r') rfl,
    hne (d := '\t') rfl, hne (d := '\n') rfl, hne (d := '\x0c') rfl, hne (d := '/') rfl,
    hne (d := '-') rfl, hne (d := '[') rfl, hne (d := '\x60') rfl, hne (d := '"') rfl,
    hne (d := '\x27') rfl]

theorem begin_sign (h : (sign c).IsProper) (p : Phase) : Scan.begin p c = (sign c).after p := by
  obtain ⟨hsemi, hgap, hbracket, hquote, hword⟩ := h
  simp only [IsGap, not_or] at hgap
  simp only [Region.IsValid, not_or] at hquote
  simp only [Scan.begin, after, hsemi, hgap, hbracket, hquote, hword]
  by_cases hdash : c = '-'
  · simp [hdash]
  · simp [hdash]

/-- Between chunks the automaton reads a whole chunk. -/
theorem foldl_text (h : l.IsProper) (p : Phase) :
    l.text.foldl Scan.feed ⟨p, .plain⟩ = l.after p := by
  cases l with
  | semicolon => rfl
  | blank c => exact begin_blank h p
  | word letters =>
    obtain ⟨c, letters, rfl⟩ := List.exists_cons_of_ne_nil h.1
    have hc : (Scan.mk p .plain).feed c = ⟨p, .word [c]⟩ := begin_word (h.2 c List.mem_cons_self) p
    rw [text, List.foldl_cons, hc, foldl_word fun d hd => h.2 d (List.mem_cons_of_mem c hd)]
    simp [after]
  | sign c => exact begin_sign h p
  | region r inner =>
    obtain ⟨last, hlast⟩ := r.closing_eq
    have hclosed : r.closing <:+ inner ++ r.closing.dropLast ++ [last] := by
      rw [List.append_assoc, ← hlast]
      exact List.suffix_append inner r.closing
    rw [text, hlast, List.append_assoc, ← List.append_assoc inner, List.foldl_append,
      Region.foldl_opening h.1, List.foldl_concat, h.2.foldl_feed, Region.feed_mode,
      if_pos hclosed]
    rfl

/-- A character that does not run together with a chunk starts the next one. -/
theorem feed_after (h : l.joins c = false) (p : Phase) :
    (l.after p).feed c = Scan.begin (p.next l.kind) c := by
  cases l with
  | word letters =>
    have hc : isWordChar c = false := h
    simp [after, Scan.feed, kind, hc]
  | sign a =>
    simp only [joins, Bool.or_eq_false_iff, Bool.and_eq_false_iff, decide_eq_false_iff_not] at h
    by_cases hdash : a = '-'
    · have hc : c ≠ '-' := h.1.resolve_left (· hdash)
      simp [after, hdash, Scan.feed, hc, kind]
    · by_cases hslash : a = '/'
      · have hc : c ≠ '*' := h.2.resolve_left (· hslash)
        simp [after, hslash, Scan.feed, hc, kind]
      · simp [after, hdash, hslash, Scan.feed, kind]
  | _ => rfl

/-- A character between chunks is a chunk, the first part of one, or the opening of a region. -/
theorem begin_cases (p : Phase) (c : Char) :
    (∃ l : Chunk, l.IsProper ∧ l.text = [c] ∧ Scan.begin p c = l.after p) ∨
      ∃ r : Region, r.IsValid ∧ r.opening = [c] ∧ Scan.begin p c = ⟨p, r.mode []⟩ := by
  by_cases hsemi : c = ';'
  · subst hsemi
    exact .inl ⟨.semicolon, trivial, rfl, rfl⟩
  by_cases hgap : IsGap c
  · exact .inl ⟨.blank c, hgap, rfl, begin_blank hgap p⟩
  by_cases hbracket : c = '['
  · subst hbracket
    exact .inr ⟨.bracketed, trivial, rfl, rfl⟩
  by_cases hquote : (Region.quoted c).IsValid
  · exact .inr ⟨.quoted c, hquote, rfl, Region.foldl_opening hquote p⟩
  cases hword : isWordChar c with
  | true =>
    refine .inl ⟨.word [c], ⟨List.cons_ne_nil c [], fun d hd => ?_⟩, rfl, begin_word hword p⟩
    rw [List.mem_singleton.mp hd, hword]
  | false =>
    have hproper : (sign c).IsProper := ⟨hsemi, hgap, hbracket, hquote, hword⟩
    exact .inl ⟨.sign c, hproper, rfl, begin_sign hproper p⟩

end Chunk

/-! ### Texts as lists of chunks -/

/-- Whether a text can go on after some chunks without running together with the last of them. -/
def Parted (ls : List Chunk) (cs : List Char) : Prop :=
  ∀ l ∈ ls.getLast?, ∀ c ∈ cs.head?, l.joins c = false

/-- A text that consists of whole chunks. -/
inductive Chunked : List Chunk → List Char → Prop where
  | nil : Chunked [] []
  | concat {ls : List Chunk} {cs : List Char} {l : Chunk} : Chunked ls cs → l.IsProper →
      Parted ls l.text → Chunked (ls ++ [l]) (cs ++ l.text)

/-- A text that consists of whole chunks and a region that is still open. -/
structure Inside (ls : List Chunk) (r : Region) (inner cs : List Char) : Prop where
  exists_before : ∃ before, Chunked ls before ∧ cs = before ++ r.opening ++ inner
  parted : Parted ls r.opening
  valid : r.IsValid
  holds : r.Holds inner

def phaseAfter (ls : List Chunk) : Phase := ls.foldl (fun p l => p.next l.kind) .invalid

def scanAfter (ls : List Chunk) : Scan :=
  match ls.getLast? with
  | none => .initial
  | some l => l.after (phaseAfter ls.dropLast)

/-- Where the automaton stands after a text. -/
def scanOf (cs : List Char) : Scan := cs.foldl Scan.feed .initial

section Chunked
variable {ls : List Chunk} {l : Chunk} {r : Region} {inner cs : List Char} {c : Char}

theorem scanAfter_concat (ls : List Chunk) (l : Chunk) :
    scanAfter (ls ++ [l]) = l.after (phaseAfter ls) := by
  rw [scanAfter, List.getLast?_concat, List.dropLast_concat]

theorem phaseAfter_concat (ls : List Chunk) (l : Chunk) :
    phaseAfter (ls ++ [l]) = (phaseAfter ls).next l.kind := List.foldl_concat ..

theorem scanOf_append (cs ds : List Char) : scanOf (cs ++ ds) = ds.foldl Scan.feed (scanOf cs) :=
  List.foldl_append

theorem scanOf_concat (cs : List Char) (c : Char) : scanOf (cs ++ [c]) = (scanOf cs).feed c :=
  List.foldl_concat ..

theorem feed_scanAfter (h : ∀ l ∈ ls.getLast?, l.joins c = false) :
    (scanAfter ls).feed c = Scan.begin (phaseAfter ls) c := by
  cases ls using List.reverseRecOn with
  | nil => rfl
  | append_singleton ls l =>
    rw [scanAfter_concat, phaseAfter_concat, Chunk.feed_after (h l (by simp))]

/-- After whole chunks, a text that does not run together with them is read as between chunks. -/
theorem foldl_scanAfter (h : Parted ls cs) (hcs : cs ≠ []) :
    cs.foldl Scan.feed (scanAfter ls) = cs.foldl Scan.feed ⟨phaseAfter ls, .plain⟩ := by
  obtain ⟨c, cs, rfl⟩ := List.exists_cons_of_ne_nil hcs
  rw [List.foldl_cons, feed_scanAfter fun l hl => h l hl c rfl]
  rfl

theorem Chunked.scanOf_eq (h : Chunked ls cs) : scanOf cs = scanAfter ls := by
  induction h with
  | nil => rfl
  | concat _ hproper hparted ih =>
    rw [scanOf_append, ih, foldl_scanAfter hparted (Chunk.text_ne_nil hproper),
      Chunk.foldl_text hproper, scanAfter_concat]

theorem Inside.scanOf_eq (h : Inside ls r inner cs) :
    scanOf cs = ⟨phaseAfter ls, r.mode inner⟩ := by
  obtain ⟨before, hbefore, rfl⟩ := h.exists_before
  have hopening : r.opening ≠ [] := by cases r <;> exact List.cons_ne_nil _ _
  rw [scanOf_append, scanOf_append, hbefore.scanOf_eq, foldl_scanAfter h.parted hopening,
    Region.foldl_opening h.valid, h.holds.foldl_feed]

theorem Chunked.of_concat (h : Chunked (ls ++ [l]) cs) :
    ∃ before, Chunked ls before ∧ cs = before ++ l.text ∧ l.IsProper ∧ Parted ls l.text := by
  generalize hall : ls ++ [l] = all at h
  cases h with
  | nil => simp at hall
  | concat hbefore hproper hparted =>
    obtain ⟨rfl, hl⟩ := List.append_inj' hall rfl
    cases hl
    exact ⟨_, hbefore, rfl, hproper, hparted⟩

theorem Chunked.eq_nil (h : Chunked [] cs) : cs = [] := by
  generalize hls : ([] : List Chunk) = ls at h
  cases h with
  | nil => rfl
  | concat => simp at hls

/-- What a text has come to: whole chunks, or a region that is still open. -/
inductive Reading (cs : List Char) : Prop where
  | whole (ls : List Chunk) : Chunked ls cs → Reading cs
  | inside (ls : List Chunk) (r : Region) (inner : List Char) : Inside ls r inner cs → Reading cs

/-- A character that runs together with the last chunk makes the word longer, or opens a
comment. -/
theorem Chunked.reading_of_joins (h : Chunked (ls ++ [l]) cs) (hc : l.joins c = true) :
    Reading (cs ++ [c]) := by
  obtain ⟨before, hbefore, rfl, hproper, hparted⟩ := h.of_concat
  cases l with
  | word letters =>
    have hlonger : (Chunk.word (letters ++ [c])).IsProper := by
      refine ⟨by simp, fun d hd => ?_⟩
      rcases List.mem_append.mp hd with hd | hd
      · exact hproper.2 d hd
      · rwa [List.mem_singleton.mp hd]
    have hhead : (letters ++ [c]).head? = letters.head? :=
      List.head?_append_of_ne_nil letters hproper.1
    rw [List.append_assoc]
    refine .whole _ (hbefore.concat (l := .word (letters ++ [c])) hlonger ?_)
    intro l hl d hd
    exact hparted l hl d (hhead ▸ hd)
  | sign a =>
    simp only [Chunk.joins, Bool.or_eq_true, Bool.and_eq_true, decide_eq_true_eq] at hc
    rcases hc with ⟨rfl, rfl⟩ | ⟨rfl, rfl⟩
    · refine .inside ls .remark [] ⟨⟨before, hbefore, ?_⟩, hparted, trivial, Region.holds_nil _⟩
      simp [Chunk.text, Region.opening]
    · refine .inside ls .comment [] ⟨⟨before, hbefore, ?_⟩, hparted, trivial, Region.holds_nil _⟩
      simp [Chunk.text, Region.opening]
  | _ => cases hc

theorem Chunked.reading_of_parted (h : Chunked ls cs) (hc : Parted ls [c]) :
    Reading (cs ++ [c]) := by
  rcases Chunk.begin_cases .invalid c with ⟨l, hproper, htext, -⟩ | ⟨r, hvalid, hopening, -⟩
  · rw [← htext] at hc ⊢
    exact .whole _ (h.concat hproper hc)
  · refine .inside ls r [] ⟨⟨cs, h, ?_⟩, by rwa [hopening], hvalid, r.holds_nil⟩
    rw [hopening, List.append_nil]

/-- A character in a region closes it or stays in it. -/
theorem Inside.reading_concat (h : Inside ls r inner cs) (c : Char) : Reading (cs ++ [c]) := by
  obtain ⟨before, hbefore, rfl⟩ := h.exists_before
  by_cases hclosed : r.closing <:+ inner ++ [c]
  · obtain ⟨inside, hinside⟩ := hclosed
    obtain ⟨last, hlast⟩ := r.closing_eq
    have hsplit : inside ++ r.closing.dropLast ++ [last] = inner ++ [c] := by
      rw [List.append_assoc, ← hlast, hinside]
    have hproper : (Chunk.region r inside).IsProper := by
      refine ⟨h.valid, ?_⟩
      rw [(List.append_inj' hsplit rfl).1]
      exact h.holds
    have htext : before ++ r.opening ++ inner ++ [c] =
        before ++ (Chunk.region r inside).text := by
      simp only [Chunk.text, List.append_assoc, ← hinside]
    rw [htext]
    refine .whole _ (hbefore.concat hproper fun l hl d hd => h.parted l hl d ?_)
    have hopening : r.opening ≠ [] := by cases r <;> exact List.cons_ne_nil _ _
    rwa [Chunk.text, List.append_assoc, List.head?_append_of_ne_nil _ hopening] at hd
  · refine .inside ls r (inner ++ [c]) ⟨⟨before, hbefore, ?_⟩, h.parted, h.valid,
      h.holds.concat hclosed⟩
    rw [List.append_assoc]

/-- Every text consists of whole chunks, or of whole chunks and an open region. -/
theorem reading (cs : List Char) : Reading cs := by
  induction cs using List.reverseRecOn with
  | nil => exact .whole [] .nil
  | append_singleton cs c ih =>
    cases ih with
    | inside ls r inner h => exact h.reading_concat c
    | whole ls h =>
      by_cases hc : Parted ls [c]
      · exact h.reading_of_parted hc
      · obtain ⟨l, hl, hjoins⟩ : ∃ l ∈ ls.getLast?, l.joins c = true := by
          simpa [Parted] using hc
        obtain ⟨before, rfl⟩ := List.getLast?_eq_some_iff.mp hl
        exact h.reading_of_joins hjoins

theorem not_isOpen_scanAfter (ls : List Chunk) : ¬ (scanAfter ls).mode.IsOpen := by
  cases ls using List.reverseRecOn with
  | nil => exact id
  | append_singleton ls l =>
    rw [scanAfter_concat]
    cases l with
    | sign c =>
      rw [Chunk.after]
      split_ifs <;> exact id
    | _ => exact id

/-- After whole chunks no region is open. -/
theorem Chunked.not_inside (h : Chunked ls cs) (before : List Chunk) (r : Region)
    (inner : List Char) : ¬ Inside before r inner cs := by
  intro hinside
  have hopen : (scanOf cs).mode.IsOpen := by
    rw [hinside.scanOf_eq]
    exact r.isOpen_mode inner
  rw [h.scanOf_eq] at hopen
  exact not_isOpen_scanAfter ls hopen

/-- Texts can be put together if the second does not run together with the first. -/
theorem Chunked.append {ls' : List Chunk} {ds : List Char} (h : Chunked ls cs) (h' : Chunked ls' ds)
    (hparted : Parted ls ds) : Chunked (ls ++ ls') (cs ++ ds) := by
  induction h' with
  | nil => simpa using h
  | @concat ls' ds l hds hproper hl ih =>
    have hfirst : Parted ls ds := fun a ha c hc => by
      refine hparted a ha c ?_
      rw [List.head?_append, hc]
      rfl
    rw [← List.append_assoc, ← List.append_assoc]
    refine (ih hfirst).concat hproper fun a ha c hc => ?_
    cases ls' using List.reverseRecOn with
    | nil =>
      rw [List.append_nil] at ha
      exact hparted a ha c (by rwa [hds.eq_nil, List.nil_append])
    | append_singleton ls' m =>
      rw [← List.append_assoc, List.getLast?_concat] at ha
      exact hl a (by rwa [List.getLast?_concat]) c hc

/-- A semicolon is in no chunk but its own, unless a region holds it. -/
theorem Chunked.exists_semicolon (h : Chunked ls (cs ++ [';'])) :
    ∃ before, ls = before ++ [.semicolon] := by
  cases ls using List.reverseRecOn with
  | nil => simpa using h.eq_nil
  | append_singleton before l =>
    obtain ⟨text, -, htext, hproper, -⟩ := h.of_concat
    have hlast : l.text.getLast? = some ';' := by
      have hall := congrArg List.getLast? htext
      rwa [List.getLast?_concat, List.getLast?_append_of_ne_nil _ (Chunk.text_ne_nil hproper),
        eq_comm] at hall
    refine ⟨before, ?_⟩
    cases l with
    | semicolon => rfl
    | blank c =>
      obtain rfl : c = ';' := Option.some.inj hlast
      rcases hproper with hc | hc | hc | hc | hc <;> cases hc
    | word letters =>
      have hword := hproper.2 _ (List.mem_of_getLast? hlast)
      cases hword
    | sign c => exact absurd (Option.some.inj hlast) hproper.1
    | region r inner =>
      have hclosing : r.closing.getLast? = some ';' := by
        have hne : r.closing ≠ [] := by cases r <;> exact List.cons_ne_nil _ _
        rwa [Chunk.text, List.getLast?_append_of_ne_nil _ hne] at hlast
      cases r with
      | quoted q =>
        obtain rfl : q = ';' := Option.some.inj hclosing
        rcases hproper.1 with hq | hq | hq <;> cases hq
      | _ => cases hclosing

end Chunked

end DocFilter.Sql
