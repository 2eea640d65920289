import SkipChecks.Proofs.Page.NoiseLines
import SkipChecks.Proofs.Text.Finds

/-!
# Searches of a whole text

Entries and words are looked for line by line. A single search of the whole text finds the same. In
an entry and between two words it takes anything but a line feed, as much as there is, so it never
reaches into another line; and since an entry takes up the rest of its line, the search goes on at
the next one.
-/

namespace SkipChecks.Noise

open Text

variable {s t line item rest : Text}

/-! ## Words -/

/-- The words of a parser error, whatever their case, with a text between the first two and another
one between the last two. -/
def HasWords (s gap next : Text) : Prop :=
  ∃ front csp parser error back,
    s = front ++ (csp ++ (gap ++ (parser ++ (next ++ (error ++ back))))) ∧
      csp.map foldCase = "csp".toList ∧ parser.map foldCase = "parser".toList ∧
      error.map foldCase = "error".toList

theorem isNoiseLine_iff : IsNoiseLine line ↔ ∃ gap next, HasWords line gap next := by
  have hphrase : foldedPhrase = ["csp".toList, "parser".toList, "error".toList] := by
    decide +kernel
  rw [IsNoiseLine, hphrase]
  simp only [inOrder_cons_map_iff]
  constructor
  · rintro ⟨front, csp, _, rfl, hcsp, gap, parser, _, rfl, hparser, next, error, back, rfl, herror, -⟩
    exact ⟨gap, next, front, csp, parser, error, back, rfl, hcsp, hparser, herror⟩
  · rintro ⟨gap, next, front, csp, parser, error, back, rfl, hcsp, hparser, herror⟩
    exact ⟨front, csp, _, rfl, hcsp, gap, parser, _, rfl, hparser, next, error, back, rfl, herror,
      .nil _⟩

theorem feed_notMem_word {word folded : Text} (h : word.map foldCase = folded)
    (hfolded : '\n' ∉ folded) : '\n' ∉ word := by
  intro hmem
  rw [← h] at hfolded
  exact hfolded (List.mem_map_of_mem (f := foldCase) hmem)

/-- Only in one line do the words make noise, and then whatever the rest of the text is. -/
theorem classify_eq_noise_iff_hasWords :
    classify s = .noise ↔ ∃ gap next, '\n' ∉ gap ∧ '\n' ∉ next ∧ HasWords s gap next := by
  rw [classify_eq_noise_iff]
  constructor
  · rintro ⟨line, hline, hnoise⟩
    obtain ⟨before, after, rfl⟩ := infix_of_mem_split hline
    obtain ⟨gap, next, front, csp, parser, error, back, rfl, hwords⟩ := isNoiseLine_iff.mp hnoise
    have hfree := notMem_of_mem_split hline
    simp only [List.mem_append, not_or] at hfree
    exact ⟨gap, next, hfree.2.2.1, hfree.2.2.2.2.1, before ++ front, csp, parser, error,
      back ++ after, by simp, hwords⟩
  · rintro ⟨gap, next, hgap, hnext, front, csp, parser, error, back, rfl, hcsp, hparser, herror⟩
    -- from the first word to the last there is no line feed, so one line holds all of it
    let stretch := csp ++ (gap ++ (parser ++ (next ++ error)))
    have hstretch : IsNoiseLine stretch :=
      isNoiseLine_iff.mpr ⟨gap, next, [], csp, parser, error, [], by simp [stretch], hcsp, hparser,
        herror⟩
    have hfree : '\n' ∉ stretch := by
      simp only [stretch, List.mem_append, not_or]
      exact ⟨feed_notMem_word hcsp (by decide), hgap, feed_notMem_word hparser (by decide), hnext,
        feed_notMem_word herror (by decide)⟩
    obtain ⟨line, hline, hwithin⟩ := exists_line_infix hfree
      (s := front ++ (csp ++ (gap ++ (parser ++ (next ++ (error ++ back))))))
      ⟨front, back, by simp [stretch]⟩
    exact ⟨line, hline, isNoiseLine_of_infix hstretch hwithin⟩

/-- The literal marker never decides: without it the verdict is the same. -/
theorem classify_eq_ite (s : Text) :
    classify s = if mentions phrase s then .noise else .genuine := by
  split
  next hmentions => exact classify_eq_noise_iff.mpr (mentions_phrase_iff.mp hmentions)
  next hnot =>
    rw [classify_eq_genuine_iff, ne_eq, classify_eq_noise_iff, ← mentions_phrase_iff]
    exact hnot

/-! ## Entries -/

/-- An item behind a line feed, as far as its line goes. -/
def itemBehindFeed? : Recogniser Text
  | '\n' :: s =>
    (['-', ' '].isPrefixOf? (s.dropWhile fun c => c == ' ' || c == '\t')).bind fun rest =>
      match rest.takeWhile (· != '\n') with
      | [] => none
      | item => some (item, rest.dropWhile (· != '\n'))
  | _ => none

/-- What is left of a text behind a line: nothing, or a line feed and what follows it. -/
def EndsLine (rest : Text) : Prop := ∀ c ∈ rest.head?, c = '\n'

theorem endsLine_dropWhile (s : Text) : EndsLine (s.dropWhile (· != '\n')) := by
  intro c hc
  have hhead := List.head?_dropWhile_not (· != '\n') s
  rw [Option.mem_def.mp hc] at hhead
  simpa using hhead

theorem takeWhile_append_of_endsLine (hline : '\n' ∉ line) (hrest : EndsLine rest) :
    (line ++ rest).takeWhile (· != '\n') = line := by
  have hall : ∀ c ∈ line, (c != '\n') = true :=
    fun c hc => bne_iff_ne.mpr fun heq => hline (heq ▸ hc)
  rw [List.takeWhile_append_of_pos hall]
  cases rest with
  | nil => simp
  | cons c rest =>
      obtain rfl := hrest c rfl
      simp

theorem dropWhile_append_of_endsLine (hline : '\n' ∉ line) (hrest : EndsLine rest) :
    (line ++ rest).dropWhile (· != '\n') = rest := by
  have hwhole := List.takeWhile_append_dropWhile (p := (· != '\n')) (l := line ++ rest)
  rw [takeWhile_append_of_endsLine hline hrest] at hwhole
  exact List.append_cancel_left hwhole

/-- A line is cut off from the rest of a text in one way. -/
theorem eq_of_append_endsLine (hline : '\n' ∉ line) (hrest : EndsLine rest) (hitem : '\n' ∉ item)
    (ht : EndsLine t) (h : line ++ rest = item ++ t) : line = item := by
  rw [← takeWhile_append_of_endsLine hline hrest, h, takeWhile_append_of_endsLine hitem ht]

theorem itemBehindFeed?_eq_some_iff :
    itemBehindFeed? s = some (item, rest) ↔
      ∃ indent, (∀ c ∈ indent, c = ' ' ∨ c = '\t') ∧ item ≠ [] ∧ '\n' ∉ item ∧ EndsLine rest ∧
        s = '\n' :: (indent ++ '-' :: ' ' :: (item ++ rest)) := by
  constructor
  · intro h
    unfold itemBehindFeed? at h
    split at h
    next s =>
      obtain ⟨behind, hdash, hitem⟩ := Option.bind_eq_some_iff.mp h
      have hsplit := List.isPrefixOf?_eq_some_iff_append_eq.mp hdash
      split at hitem
      next => cases hitem
      next hne =>
        obtain ⟨rfl, rfl⟩ := Prod.mk.inj (Option.some.inj hitem)
        refine ⟨s.takeWhile fun c => c == ' ' || c == '\t', fun c hc => ?_, hne, fun hmem => ?_,
          endsLine_dropWhile behind, ?_⟩
        · simpa using List.all_eq_true.mp (List.all_takeWhile (l := s)) c hc
        · simpa using List.all_eq_true.mp (List.all_takeWhile (l := behind)) _ hmem
        · rw [List.takeWhile_append_dropWhile]
          change _ = '\n' :: (_ ++ (['-', ' '] ++ behind))
          rw [hsplit, List.takeWhile_append_dropWhile]
    next => cases h
  · rintro ⟨indent, hindent, hne, hfree, hrest, rfl⟩
    have hdrop : (indent ++ '-' :: ' ' :: (item ++ rest)).dropWhile
        (fun c => c == ' ' || c == '\t') = '-' :: ' ' :: (item ++ rest) := by
      rw [List.dropWhile_append_of_pos fun c hc => by simpa using hindent c hc]
      rfl
    have hdash : ['-', ' '].isPrefixOf? ('-' :: ' ' :: (item ++ rest)) = some (item ++ rest) :=
      List.isPrefixOf?_eq_some_iff_append_eq.mpr rfl
    obtain ⟨c, item, rfl⟩ := List.exists_cons_of_ne_nil hne
    rw [itemBehindFeed?, hdrop, hdash, Option.bind_some, takeWhile_append_of_endsLine hfree hrest,
      dropWhile_append_of_endsLine hfree hrest]

theorem consumes_itemBehindFeed? : Consumes itemBehindFeed? := by
  intro s item rest h
  obtain ⟨indent, -, -, -, -, rfl⟩ := itemBehindFeed?_eq_some_iff.mp h
  exact ⟨'\n' :: (indent ++ '-' :: ' ' :: item), by simp, by simp⟩

/-- Nothing is found inside a line. -/
theorem findAll_line_append (hline : '\n' ∉ line) (rest : Text) :
    findAll itemBehindFeed? (line ++ rest) = findAll itemBehindFeed? rest := by
  induction line with
  | nil => rfl
  | cons c line ih =>
      rw [List.mem_cons, not_or] at hline
      have hnone : itemBehindFeed? (c :: (line ++ rest)) = none := by
        rw [Option.eq_none_iff_forall_ne_some]
        rintro ⟨item, behind⟩ hsome
        obtain ⟨indent, -, -, -, -, heq⟩ := itemBehindFeed?_eq_some_iff.mp hsome
        exact hline.1 (List.cons.inj heq).1.symm
      rw [List.cons_append, findAll_of_none hnone, ih hline.2]

/-- The entries that a search of a whole text finds, each behind a line feed. -/
def searched (s : Text) : List Text := (findAll itemBehindFeed? s).map fun find => trimEnd find.1

/-- The search finds the entry on a line and goes on behind the line. -/
theorem searched_line (hline : '\n' ∉ line) (hrest : EndsLine rest) :
    searched ('\n' :: (line ++ rest)) = (item? line).toList ++ searched rest := by
  cases hitem : item? line with
  | some entry =>
      obtain ⟨indent, item, hindent, hne, rfl, rfl⟩ := item?_eq_some_iff.mp hitem
      have hfree : '\n' ∉ item := fun hmem => hline (by simp [hmem])
      have hsome : itemBehindFeed? ('\n' :: (indent ++ '-' :: ' ' :: item ++ rest)) =
          some (item, rest) :=
        itemBehindFeed?_eq_some_iff.mpr ⟨indent, hindent, hne, hfree, hrest, by simp⟩
      rw [searched, findAll_of_some consumes_itemBehindFeed? hsome]
      rfl
  | none =>
      have hnone : itemBehindFeed? ('\n' :: (line ++ rest)) = none := by
        rw [Option.eq_none_iff_forall_ne_some]
        rintro ⟨item, behind⟩ hsome
        obtain ⟨indent, hindent, hne, hfree, hbehind, heq⟩ :=
          itemBehindFeed?_eq_some_iff.mp hsome
        -- the item would be one of the line, since neither goes over a line feed
        have hlisted : '\n' ∉ indent ++ '-' :: ' ' :: item := by
          have hblank : '\n' ∉ indent := fun hmem => absurd (hindent _ hmem) (by decide)
          simp [hblank, hfree]
        obtain rfl := eq_of_append_endsLine hline hrest hlisted hbehind
          (by simpa using (List.cons.inj heq).2)
        have hsome := item?_eq_some_iff.mpr ⟨indent, item, hindent, hne, rfl, rfl⟩
        rw [hitem] at hsome
        cases hsome
      rw [searched, findAll_of_none hnone, findAll_line_append hline]
      rfl

/-- Line after line, the search of a whole text finds its entries. -/
theorem searched_eq_entries (s : Text) : searched ('\n' :: s) = entries s := by
  induction hlength : s.length using Nat.strongRecOn generalizing s with
  | ind length ih =>
      by_cases hfeed : '\n' ∈ s
      · obtain ⟨line, more, rfl, hline⟩ := List.eq_append_cons_of_mem hfeed
        have hshorter : more.length < length := by
          rw [← hlength, List.length_append, List.length_cons]
          omega
        rw [searched_line hline (by simp [EndsLine]), ih more.length hshorter more rfl,
          entries_append_feed, entries_of_notMem hline]
      · have hall : searched ('\n' :: (s ++ [])) = (item? s).toList ++ searched [] :=
          searched_line hfeed (by simp [EndsLine])
        rw [List.append_nil] at hall
        rw [hall, entries_of_notMem hfeed]
        exact List.append_nil _

/-! ## Lines judged apart -/

/-- Entries and noise of a text are those of its lines. Where a line feed stands, the entries in
front of it come before those behind it, and the whole is noise when a part is. A line has at most
one entry, which stands behind a dash and a space, and is noise when the words of a parser error
stand in it; the literal marker adds nothing to that. A single search of a whole text finds the
same. -/
theorem lines_judged_apart (a b : Text) {line : Text} (hline : '\n' ∉ line) :
    entries (a ++ '\n' :: b) = entries a ++ entries b ∧
    (entries line).length ≤ 1 ∧
    (∀ entry, entry ∈ entries line ↔ ∃ indent rest, (∀ c ∈ indent, c = ' ' ∨ c = '\t') ∧
      rest ≠ [] ∧ line = indent ++ '-' :: ' ' :: rest ∧ entry = trimEnd rest) ∧
    (classify (a ++ '\n' :: b) = .noise ↔ classify a = .noise ∨ classify b = .noise) ∧
    (classify line = .noise ↔ ∃ gap next, HasWords line gap next) ∧
    ∀ s, (classify s = if mentions phrase s then .noise else .genuine) ∧
      (classify s = .noise ↔ ∃ gap next, '\n' ∉ gap ∧ '\n' ∉ next ∧ HasWords s gap next) ∧
      entries s = searched ('\n' :: s) := by
  refine ⟨entries_append_feed a b, ?_, fun entry => ?_, classify_append_feed, ?_, fun s =>
    ⟨classify_eq_ite s, classify_eq_noise_iff_hasWords, (searched_eq_entries s).symm⟩⟩
  · rw [entries_of_notMem hline]
    exact Option.length_toList_le
  · rw [entries_of_notMem hline, Option.mem_toList]
    exact item?_eq_some_iff
  · rw [classify_of_notMem hline, isNoiseLine_iff]

/-- A carriage return belongs to its line, and a long s to the words. The same words in two lines
are no noise. -/
theorem lines_judged_apart_carriage_return :
    let line := "\t - C\u017fP ParserERROR\r".toList
    '\n' ∉ line ∧ entries line = ["C\u017fP ParserERROR".toList] ∧ classify line = .noise ∧
      classify ("csp".toList ++ '\n' :: "parser error".toList) ≠ .noise := by
  intro line
  have hline : '\n' ∉ line := by decide
  obtain ⟨-, hlength, hentries, happend, hnoise, -⟩ :=
    lines_judged_apart "csp".toList "parser error".toList hline
  have hentry : "C\u017fP ParserERROR".toList ∈ entries line :=
    (hentries _).mpr ⟨['\t', ' '], "C\u017fP ParserERROR\r".toList, by simp, by decide, by decide,
      by decide⟩
  have hpositive := List.length_pos_of_mem hentry
  obtain ⟨entry, hsingle⟩ := List.length_eq_one_iff.mp (Nat.le_antisymm hlength hpositive)
  rw [hsingle, List.mem_singleton] at hentry
  refine ⟨hline, by rw [hsingle, hentry], hnoise.mpr ⟨[' '], [], "\t - ".toList,
    "C\u017fP".toList, "Parser".toList, "ERROR".toList, ['\r'], by decide, by decide, by decide,
    by decide⟩, ?_⟩
  rw [ne_eq, happend]
  decide +kernel

end SkipChecks.Noise
