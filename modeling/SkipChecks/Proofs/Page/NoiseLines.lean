import SkipChecks.Page.Noise
import SkipChecks.Proofs.Text.Blanks
import SkipChecks.Proofs.Text.Occurrence

/-!
# Noise and entries, line by line

A text is noise exactly when one of its lines is, and its entries are those of its lines. So of a
header with entries below it, each part can be judged by itself: the dash in front of an entry is no
part of a word of the parser.
-/

namespace SkipChecks.Noise

open Text

/-- The words of a parser error as they are compared. -/
def foldedPhrase : List Text := phrase.map (·.map foldCase)

/-- A line is noise when the words of a parser error stand in it, whatever their case. -/
def IsNoiseLine (line : Text) : Prop := InOrder foldedPhrase (line.map foldCase)

theorem isNoiseLine_of_infix {line t : Text} (h : IsNoiseLine t) (hwithin : t <:+: line) :
    IsNoiseLine line := by
  obtain ⟨before, after, rfl⟩ := hwithin
  refine h.of_within ⟨before.map foldCase, after.map foldCase, ?_⟩
  simp only [List.map_append]

theorem mem_of_isNoiseLine {line : Text} (h : IsNoiseLine line) : 'c' ∈ line.map foldCase := by
  generalize hwhole : line.map foldCase = whole
  rw [IsNoiseLine, hwhole] at h
  obtain _ | ⟨gap, -⟩ := h
  exact List.mem_append_right gap List.mem_cons_self

theorem isNoiseLine_marker : IsNoiseLine marker :=
  inOrder_iff.mp (by decide +kernel)

theorem mentions_phrase_iff {s : Text} :
    mentions phrase s ↔ ∃ line ∈ lines s, IsNoiseLine line := by
  rw [mentions, List.any_eq_true]
  simp only [lineHas, inOrder_iff]
  rfl

/-- The literal marker never decides alone: where it stands, the words stand in its line. -/
theorem classify_eq_noise_iff {s : Text} :
    classify s = .noise ↔ ∃ line ∈ lines s, IsNoiseLine line := by
  have hmarker : contains marker s → ∃ line ∈ lines s, IsNoiseLine line := by
    intro h
    obtain ⟨line, hline, hwithin⟩ := exists_line_infix (by decide) (contains_iff.mp h)
    exact ⟨line, hline, isNoiseLine_of_infix isNoiseLine_marker hwithin⟩
  rw [classify]
  split
  next h => exact iff_of_true rfl (h.elim hmarker mentions_phrase_iff.mp)
  next h => exact iff_of_false (by simp) fun hline => h (.inr (mentions_phrase_iff.mpr hline))

theorem classify_eq_genuine_iff {s : Text} : classify s = .genuine ↔ classify s ≠ .noise := by
  cases classify s <;> simp

theorem classify_append_feed {a b : Text} :
    classify (a ++ '\n' :: b) = .noise ↔ classify a = .noise ∨ classify b = .noise := by
  simp only [classify_eq_noise_iff, lines_append_feed, List.mem_append, or_and_right, exists_or]

theorem classify_of_notMem {s : Text} (h : '\n' ∉ s) : classify s = .noise ↔ IsNoiseLine s := by
  simp only [classify_eq_noise_iff, lines_of_notMem h, List.mem_singleton, exists_eq_left]

/-! ## Openings that say nothing of the parser -/

/-- Words before a space that hold neither a line feed nor the first word of the phrase. -/
structure IsQuiet (words : Text) : Prop where
  oneLine : '\n' ∉ words
  noWord : ¬ "csp".toList <:+: words.map foldCase

theorem IsQuiet.isNoiseLine_iff {words line : Text} (h : IsQuiet words) :
    IsNoiseLine (words ++ ' ' :: line) ↔ IsNoiseLine line := by
  constructor
  · intro hline
    rw [IsNoiseLine, List.map_append, List.map_cons] at hline
    exact hline.of_append_cons (by decide) (by decide) h.noWord
  · exact fun hline => isNoiseLine_of_infix hline ⟨words ++ [' '], [], by simp⟩

theorem IsQuiet.lines_eq {words : Text} (h : IsQuiet words) (s : Text) :
    lines (words ++ ' ' :: s) = (lines s).modifyHead (words ++ ' ' :: ·) := by
  have hfree : '\n' ∉ words ++ [' '] := by simp [h.oneLine]
  simpa using lines_append_of_notMem hfree s

/-- Quiet words in front of a text do not change what it is. -/
theorem IsQuiet.classify_iff {words s : Text} (h : IsQuiet words) :
    classify (words ++ ' ' :: s) = .noise ↔ classify s = .noise := by
  obtain ⟨line, others, hs⟩ := exists_lines_eq_cons s
  simp only [classify_eq_noise_iff, h.lines_eq, hs, List.modifyHead_cons, List.mem_cons,
    exists_eq_or_imp, h.isNoiseLine_iff]

theorem isQuiet_dash : IsQuiet ['-'] where
  oneLine := by decide
  noWord := by decide +kernel

/-! ## Entries -/

/-- An entry stands behind a dash and a space that only spaces and tabs precede, and there is
something of it on the line. -/
theorem item?_eq_some_iff {line entry : Text} :
    item? line = some entry ↔
      ∃ indent rest, (∀ c ∈ indent, c = ' ' ∨ c = '\t') ∧ rest ≠ [] ∧
        line = indent ++ '-' :: ' ' :: rest ∧ entry = trimEnd rest := by
  constructor
  · intro h
    rw [item?] at h
    split at h
    next c rest hrest =>
      refine ⟨line.takeWhile fun c => c == ' ' || c == '\t', c :: rest, ?_, by simp, ?_, ?_⟩
      · intro d hd
        have hindent := List.all_eq_true.mp (List.all_takeWhile (l := line)) d hd
        simpa using hindent
      · have hsplit := List.isPrefixOf?_eq_some_iff_append_eq.mp hrest
        rw [List.cons_append, List.cons_append, List.nil_append] at hsplit
        rw [hsplit, List.takeWhile_append_dropWhile]
      · exact (Option.some.inj h).symm
    next => cases h
  · rintro ⟨indent, rest, hindent, hne, rfl, rfl⟩
    obtain ⟨c, rest, rfl⟩ := List.exists_cons_of_ne_nil hne
    have hdrop : (indent ++ '-' :: ' ' :: c :: rest).dropWhile (fun c => c == ' ' || c == '\t') =
        '-' :: ' ' :: c :: rest := by
      rw [List.dropWhile_append_of_pos fun d hd => by simpa using hindent d hd]
      rfl
    rw [item?, hdrop]
    rfl

@[simp] theorem item?_nil : item? [] = none := rfl

theorem item?_dash (line : Text) :
    item? ('-' :: ' ' :: line) = if line = [] then none else some (trimEnd line) := by
  cases line <;> rfl

/-- A line that begins with a letter is no item. -/
theorem item?_of_head {c : Char} (line : Text) (hspace : c ≠ ' ') (htab : c ≠ '\t')
    (hdash : c ≠ '-') : item? (c :: line) = none := by
  rw [item?, List.dropWhile_cons_of_neg (by simp [hspace, htab])]
  simp [List.isPrefixOf?, Ne.symm hdash]

theorem infix_of_item? {line entry : Text} (h : item? line = some entry) : entry <:+: line := by
  obtain ⟨indent, rest, -, -, rfl, rfl⟩ := item?_eq_some_iff.mp h
  exact (trimEnd_prefix_self rest).isInfix.trans ⟨indent ++ ['-', ' '], [], by simp⟩

theorem entries_append_feed (a b : Text) : entries (a ++ '\n' :: b) = entries a ++ entries b := by
  rw [entries, lines_append_feed, List.filterMap_append]
  rfl

theorem entries_of_notMem {s : Text} (h : '\n' ∉ s) : entries s = (item? s).toList := by
  rw [entries, lines_of_notMem h]
  cases hs : item? s <;> simp [hs]

/-- A text with a noisy entry is noise. -/
theorem classify_of_mem_entries {s entry : Text} (hentry : entry ∈ entries s)
    (hnoise : classify entry = .noise) : classify s = .noise := by
  obtain ⟨line, hline, hitem⟩ := List.mem_filterMap.mp hentry
  have hwithin := infix_of_item? hitem
  have hfree : '\n' ∉ entry := fun hfeed =>
    notMem_of_mem_split hline (hwithin.subset hfeed)
  exact classify_eq_noise_iff.mpr
    ⟨line, hline, isNoiseLine_of_infix ((classify_of_notMem hfree).mp hnoise) hwithin⟩

theorem entries_dash {s line : Text} {others : List Text} (h : lines s = line :: others) :
    entries ('-' :: ' ' :: s) =
      (if line = [] then [] else [trimEnd line]) ++ others.filterMap item? := by
  have hlines := isQuiet_dash.lines_eq s
  rw [h] at hlines
  rw [entries]
  change (lines (['-'] ++ ' ' :: s)).filterMap item? = _
  rw [hlines]
  by_cases hline : line = []
  · simp [hline, item?_dash]
  · simp [hline, item?_dash]

/-- A text is listed without an entry when nothing of it stands behind the dash and none of its
lines is an item. -/
theorem entries_dash_eq_nil_iff {s : Text} :
    entries ('-' :: ' ' :: s) = [] ↔ (s = [] ∨ s.head? = some '\n') ∧ entries s = [] := by
  obtain ⟨line, others, hs⟩ := exists_lines_eq_cons s
  rw [entries_dash hs, ← head?_lines_eq_nil_iff, entries, hs]
  by_cases hline : line = []
  · simp [hline]
  · simp [hline]

/-! ## Lists below a header -/

theorem list_cons (header entry : Text) (others : List Text) :
    list header (entry :: others) = list (header ++ '\n' :: '-' :: ' ' :: entry) others := by
  simp [list]

/-- A list is noise when its header is, or one of the texts in it. -/
theorem classify_list {header : Text} {texts : List Text} :
    classify (list header texts) = .noise ↔
      classify header = .noise ∨ ∃ text ∈ texts, classify text = .noise := by
  induction texts generalizing header with
  | nil => simp [list]
  | cons text texts ih =>
      have hdash : classify ('-' :: ' ' :: text) = .noise ↔ classify text = .noise :=
        isQuiet_dash.classify_iff
      rw [list_cons, ih, classify_append_feed, hdash, or_assoc]
      simp only [List.mem_cons, exists_eq_or_imp]

/-- The entries of a list are those of its header and then those of each text behind a dash. -/
theorem entries_list (header : Text) (texts : List Text) :
    entries (list header texts) =
      entries header ++ texts.flatMap fun text => entries ('-' :: ' ' :: text) := by
  induction texts generalizing header with
  | nil => simp [list]
  | cons text texts ih =>
      rw [list_cons, ih, entries_append_feed, List.append_assoc, List.flatMap_cons]

end SkipChecks.Noise
