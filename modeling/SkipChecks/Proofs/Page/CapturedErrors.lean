import SkipChecks.Page.Console
import SkipChecks.Proofs.Page.Standing
import SkipChecks.Proofs.Text.Folding

/-!
# Captured errors and the noise among them

The texts of captured errors are put into one message, and the filter reads entries back from it.
Nothing is escaped in between. A text of one line comes back as it is; a text that begins with a
line feed may leave no entry at all, and then a genuine error goes unnoticed beside noise.
-/

namespace SkipChecks

/-! ## Runs of consoles -/

namespace Consoles

/-- What can be done with consoles. -/
inductive Step
  | create
  | share (handle : Nat)
  | push (handle : Nat) (message : Message)
  | clear (handle : Nat)
  deriving DecidableEq, Repr

/-- The consoles behind a step. -/
def act (consoles : Consoles) : Step → Consoles
  | .create => consoles.create
  | .share handle => consoles.share handle
  | .push handle message => consoles.push handle message
  | .clear handle => consoles.clear handle

/-- The consoles behind a run of steps. -/
def run (consoles : Consoles) (steps : List Step) : Consoles := steps.foldl act consoles

end Consoles

namespace Capture

open Text Noise

/-- The texts of the captured errors. -/
def errorTexts (capture : Capture) : List Text := capture.errors.map (·.text)

/-- The check of a capture with noise left aside passes. -/
def Passes (capture : Capture) : Prop := exceptNoise capture.checkNoErrors = .ok ()

/-! ## The message about errors -/

/-- The line above a list of errors. -/
def countLine (n : Nat) : Text := header ++ ' ' :: ofNat n ++ [':']

theorem errorsMessage_singleton (text : Text) :
    errorsMessage [text] = (header ++ " 1:".toList) ++ ' ' :: text := by
  simp [errorsMessage]

theorem errorsMessage_of_length {texts : List Text} (h : 2 ≤ texts.length) :
    errorsMessage texts = Noise.list (countLine texts.length) texts := by
  match texts, h with
  | _ :: _ :: _, _ => rfl

theorem isQuiet_header : IsQuiet header where
  oneLine := by
    unfold header
    simp
  noWord := by decide +kernel

theorem isQuiet_singleLine : IsQuiet (header ++ " 1:".toList) where
  oneLine := by simp [isQuiet_header.oneLine]
  noWord := by decide +kernel

/-- No line that begins like the header is an item. -/
theorem item?_header (s : Text) : item? (header ++ s) = none := by
  have hhead : header.head? = some 'E' := by
    unfold header
    simp
  obtain ⟨rest, hheader⟩ := List.head?_eq_some_iff.mp hhead
  rw [hheader]
  exact item?_of_head _ (by decide) (by decide) (by decide)

theorem foldCase_of_isDigit {c : Char} (h : c.isDigit) : foldCase c = c := by
  have hdigits : ∀ c ∈ foldable, ¬ c.isDigit := List.all_iff_forall_prop.mp (by decide)
  exact foldCase_of_notMem fun hc => hdigits c hc h

theorem isDigit_of_mem_ofNat {n : Nat} {c : Char} (h : c ∈ ofNat n) : c.isDigit :=
  Nat.isDigit_of_mem_toDigits (by decide) (by decide) h

theorem feed_notMem_countLine (n : Nat) : '\n' ∉ countLine n := by
  have hdigits : '\n' ∉ ofNat n := by
    intro hmem
    have hdigit := isDigit_of_mem_ofNat hmem
    exact absurd hdigit (by decide)
  have hheader := isQuiet_header.oneLine
  simp [countLine, hdigits, hheader]

/-- The line above a list is no noise, whatever the number in it. -/
theorem classify_countLine (n : Nat) : classify (countLine n) ≠ .noise := by
  intro hnoise
  have hline : countLine n = header ++ ' ' :: (ofNat n ++ [':']) := by simp [countLine]
  rw [hline, isQuiet_header.classify_iff] at hnoise
  -- noise would need a letter, and behind the header there are digits and a colon only
  have hfree : '\n' ∉ ofNat n ++ [':'] := fun hmem =>
    feed_notMem_countLine n (by simp [countLine] at hmem ⊢; exact .inr hmem)
  have hword := mem_of_isNoiseLine ((classify_of_notMem hfree).mp hnoise)
  obtain ⟨c, hc, hfold⟩ := List.mem_map.mp hword
  rcases List.mem_append.mp hc with hdigit | hcolon
  · have hdigit := isDigit_of_mem_ofNat hdigit
    rw [foldCase_of_isDigit hdigit] at hfold
    subst hfold
    exact absurd hdigit (by decide)
  · rw [List.mem_singleton.mp hcolon] at hfold
    exact absurd hfold (by decide)

theorem entries_countLine (n : Nat) : entries (countLine n) = [] := by
  rw [entries_of_notMem (feed_notMem_countLine n), countLine, List.append_assoc, item?_header]
  rfl

/-- The message about several errors is noise when one of the texts is. -/
theorem classify_errorsMessage {texts : List Text} (hne : texts ≠ []) :
    classify (errorsMessage texts) = .noise ↔ ∃ text ∈ texts, classify text = .noise := by
  match texts, hne with
  | [text], _ =>
      rw [errorsMessage_singleton, isQuiet_singleLine.classify_iff]
      simp
  | first :: second :: others, _ =>
      rw [errorsMessage_of_length (by simp), classify_list]
      simp only [classify_countLine, false_or]

theorem entries_errorsMessage {texts : List Text} (h : 2 ≤ texts.length) :
    entries (errorsMessage texts) = texts.flatMap fun text => entries ('-' :: ' ' :: text) := by
  rw [errorsMessage_of_length h, entries_list, entries_countLine, List.nil_append]

/-! ## When the check passes -/

theorem checkNoErrors_eq (capture : Capture) :
    capture.checkNoErrors =
      if capture.errorTexts = [] then .ok ()
      else .error (.assertion (errorsMessage capture.errorTexts)) := by
  rw [checkNoErrors, errorTexts]
  cases capture.errors <;> simp

/-- The check passes without errors, and where the message about them is noise as a whole and in
each entry. -/
theorem passes_iff {capture : Capture} :
    capture.Passes ↔ capture.errorTexts = [] ∨
      (∃ text ∈ capture.errorTexts, classify text = .noise) ∧
        ∀ entry ∈ entries (errorsMessage capture.errorTexts), classify entry = .noise := by
  rw [Passes, checkNoErrors_eq]
  by_cases hnone : capture.errorTexts = []
  · simp [hnone, exceptNoise]
  · rw [if_neg hnone, ← classify_errorsMessage hnone, ← standing?_eq_none_iff]
    simp only [exceptNoise, hnone, false_or]
    cases standing? (errorsMessage capture.errorTexts) <;> simp

/-- No entry of a genuine text is noise. So the filter drops all of it only when it is listed
without any entry: nothing stands behind its dash, and none of its lines is an item. -/
theorem entries_noise_iff {text : Text} (hgenuine : classify text = .genuine) :
    (∀ entry ∈ entries ('-' :: ' ' :: text), classify entry = .noise) ↔
      (text = [] ∨ text.head? = some '\n') ∧ entries text = [] := by
  rw [← entries_dash_eq_nil_iff]
  constructor
  · intro hnoise
    -- a noisy entry would make the text noise
    refine List.eq_nil_iff_forall_not_mem.mpr fun entry hentry => ?_
    have hlisted := classify_of_mem_entries hentry (hnoise entry hentry)
    exact classify_eq_genuine_iff.mp hgenuine (isQuiet_dash.classify_iff.mp hlisted)
  · intro hnone
    simp [hnone]

/-- Noise and a genuine text are two texts. -/
theorem two_le_length {texts : List Text} (hnoise : ∃ text ∈ texts, classify text = .noise)
    (hgenuine : ∃ text ∈ texts, classify text = .genuine) : 2 ≤ texts.length := by
  obtain ⟨first, hfirst, hnoise⟩ := hnoise
  obtain ⟨second, hsecond, hgenuine⟩ := hgenuine
  match texts, hfirst, hsecond with
  | [text], hfirst, hsecond =>
      rw [List.mem_singleton.mp hfirst] at hnoise
      rw [List.mem_singleton.mp hsecond, hnoise] at hgenuine
      cases hgenuine
  | _ :: _ :: _, _, _ => simp

/-- All entries of the message about several errors are noise when each text is listed with noisy
entries only, which for a genuine text means without any. -/
theorem entries_errorsMessage_noise_iff {texts : List Text} (h : 2 ≤ texts.length) :
    (∀ entry ∈ entries (errorsMessage texts), classify entry = .noise) ↔
      (∀ text ∈ texts, classify text = .genuine →
        (text = [] ∨ text.head? = some '\n') ∧ entries text = []) ∧
      (∀ text ∈ texts, classify text = .noise →
        ∀ entry ∈ entries ("- ".toList ++ text), classify entry = .noise) := by
  have hlisted : (∀ entry ∈ entries (errorsMessage texts), classify entry = .noise) ↔
      ∀ text ∈ texts, ∀ entry ∈ entries ('-' :: ' ' :: text), classify entry = .noise := by
    rw [entries_errorsMessage h]
    simp only [List.mem_flatMap, forall_exists_index, and_imp]
    exact ⟨fun hall text htext entry hentry => hall entry text htext hentry,
      fun hall entry text htext hentry => hall text htext entry hentry⟩
  rw [hlisted, ← forall₂_and]
  refine forall₂_congr fun text _ => ?_
  cases hkind : classify text with
  | noise => simp
  | genuine => simp [entries_noise_iff hkind]

/-- Exactly when a genuine error goes unnoticed. There must be noise beside it that is listed with
noisy entries only, and every genuine error must be empty or begin with a line feed, without an item
among its lines. -/
theorem passes_with_genuine_error_iff (steps : List Consoles.Step) (handle : Nat) :
    let capture := (Consoles.start.run steps).messages handle
    let texts := capture.errorTexts
    (capture.Passes ∧ ∃ text ∈ texts, classify text = .genuine) ↔
      (∃ text ∈ texts, classify text = .noise) ∧ (∃ text ∈ texts, classify text = .genuine) ∧
        (∀ text ∈ texts, classify text = .genuine →
          (text = [] ∨ text.head? = some '\n') ∧ entries text = []) ∧
        (∀ text ∈ texts, classify text = .noise →
          ∀ entry ∈ entries ("- ".toList ++ text), classify entry = .noise) := by
  intro capture texts
  rw [passes_iff]
  constructor
  · rintro ⟨hnone | ⟨hnoise, hentries⟩, hgenuine⟩
    · obtain ⟨text, htext, -⟩ := hgenuine
      have hempty : texts = [] := hnone
      rw [hempty] at htext
      cases htext
    · have hlength := two_le_length hnoise hgenuine
      exact ⟨hnoise, hgenuine, (entries_errorsMessage_noise_iff hlength).mp hentries⟩
  · rintro ⟨hnoise, hgenuine, hentries⟩
    have hlength := two_le_length hnoise hgenuine
    exact ⟨.inr ⟨hnoise, (entries_errorsMessage_noise_iff hlength).mpr hentries⟩, hgenuine⟩

/-- An error that begins with a line feed goes unnoticed beside noise. -/
theorem leading_feed_goes_unnoticed :
    let genuine := "\nTypeError: x is undefined".toList
    let steps : List Consoles.Step :=
      [.push 0 (.ofText .error genuine 0), .push 0 (.ofText .error "CSP Parser Error: y".toList 1)]
    let capture := (Consoles.start.run steps).messages 0
    capture.Passes ∧ genuine ∈ capture.errorTexts ∧ classify genuine = .genuine := by
  have hpasses : exceptNoise (Capture.checkNoErrors
      [.ofText .error "\nTypeError: x is undefined".toList 0,
        .ofText .error "CSP Parser Error: y".toList 1]) = .ok () := by
    decide +kernel
  exact ⟨hpasses, by decide +kernel, by decide +kernel⟩

/-! ## Errors of one line -/

/-- A text of one line that is not empty and does not end in a blank. -/
structure IsPlain (s : Text) : Prop where
  ne_nil : s ≠ []
  oneLine : '\n' ∉ s
  noBlankEnd : ∀ c ∈ s.getLast?, isBlank c = false

theorem isPlain_iff {s : Text} :
    IsPlain s ↔ s ≠ [] ∧ '\n' ∉ s ∧ s.getLast?.all (!isBlank ·) := by
  rw [Option.all_eq_true]
  simp only [Bool.not_eq_true']
  exact ⟨fun h => ⟨h.ne_nil, h.oneLine, h.noBlankEnd⟩, fun ⟨hne, hline, hend⟩ => ⟨hne, hline, hend⟩⟩

instance : DecidablePred IsPlain := fun _ => decidable_of_iff _ isPlain_iff.symm

/-- A plain text is listed as one entry, even when it looks like an item itself. -/
theorem IsPlain.entries_eq {s : Text} (h : IsPlain s) : entries ('-' :: ' ' :: s) = [s] := by
  rw [entries_dash (lines_of_notMem h.oneLine), if_neg h.ne_nil, trimEnd_of_getLast? h.noBlankEnd]
  rfl

theorem entries_errorsMessage_of_plain {texts : List Text} (hplain : ∀ text ∈ texts, IsPlain text)
    (h : 2 ≤ texts.length) : entries (errorsMessage texts) = texts := by
  rw [entries_errorsMessage h, List.flatMap_congr fun text htext => (hplain text htext).entries_eq]
  exact List.flatMap_singleton' texts

theorem entries_errorsMessage_singleton {text : Text} (h : '\n' ∉ text) :
    entries (errorsMessage [text]) = [] := by
  have hfree : '\n' ∉ errorsMessage [text] := by
    rw [errorsMessage_singleton, List.mem_append, not_or]
    exact ⟨isQuiet_singleLine.oneLine, by simpa using h⟩
  rw [entries_of_notMem hfree, errorsMessage_singleton, List.append_assoc, item?_header]
  rfl

/-- Of plain texts the message disappears when all are noise. It stands as it is when it has one
text, or none that is noise, and otherwise lists the genuine texts. -/
theorem standing?_of_plain {texts : List Text} (hplain : ∀ text ∈ texts, IsPlain text)
    (hne : texts ≠ []) :
    standing? (errorsMessage texts) =
      if ∀ text ∈ texts, classify text = .noise then none
      else if texts.length = 1 ∨ ∀ text ∈ texts, classify text = .genuine then
        some (errorsMessage texts)
      else some (Noise.list Noise.header (texts.filter (classify · = .genuine))) := by
  have hmessage := classify_errorsMessage hne
  split
  next hall =>
    obtain ⟨first, hfirst⟩ := List.exists_mem_of_ne_nil texts hne
    refine standing?_eq_none_iff.mpr ⟨hmessage.mpr ⟨first, hfirst, hall first hfirst⟩, ?_⟩
    match texts, hplain with
    | [text], hplain =>
        rw [entries_errorsMessage_singleton (hplain text List.mem_cons_self).oneLine]
        simp
    | _ :: _ :: _, hplain =>
        rw [entries_errorsMessage_of_plain hplain (by simp)]
        exact hall
  next hsome =>
    simp only [not_forall, exists_prop] at hsome
    obtain ⟨text, htext, hkind⟩ := hsome
    have hgenuine := classify_eq_genuine_iff.mpr hkind
    split
    next hstands =>
      refine standing?_of_genuine fun hnoise => ?_
      have hother := hmessage.mp hnoise
      rcases hstands with hsingle | hall
      · have hlength := two_le_length hother ⟨text, htext, hgenuine⟩
        omega
      · obtain ⟨noisy, hmem, hnoisy⟩ := hother
        rw [hall noisy hmem] at hnoisy
        cases hnoisy
    next hlisted =>
      rw [not_or] at hlisted
      have hnoise : ∃ text ∈ texts, classify text = .noise := by
        simpa [classify_eq_genuine_iff] using hlisted.2
      have hentries := entries_errorsMessage_of_plain hplain
        (two_le_length hnoise ⟨text, htext, hgenuine⟩)
      have hentry : text ∈ entries (errorsMessage texts) := hentries.symm ▸ htext
      rw [standing?_of_noise (hmessage.mpr hnoise) ⟨text, hentry, hgenuine⟩, hentries]

/-- Plain error texts are read back from their message as they are, and the check of a capture with
these errors, whatever other messages there are, judges each of them by itself. -/
theorem plain_errors_filtered {texts : List Text} (hplain : ∀ text ∈ texts, IsPlain text) :
    (2 ≤ texts.length → entries (errorsMessage texts) = texts) ∧
      ∀ capture : Capture, capture.errorTexts = texts →
        exceptNoise capture.checkNoErrors =
          if ∀ text ∈ texts, classify text = .noise then .ok ()
          else if texts.length = 1 ∨ ∀ text ∈ texts, classify text = .genuine then
            .error (.assertion (errorsMessage texts))
          else
            .error (.assertion (Noise.header ++
              (texts.filter (classify · = .genuine)).flatMap
                fun text => "\n- ".toList ++ text)) := by
  refine ⟨entries_errorsMessage_of_plain hplain, fun capture hcapture => ?_⟩
  rw [checkNoErrors_eq, hcapture]
  by_cases hne : texts = []
  · simp [hne, exceptNoise]
  · simp only [if_neg hne, exceptNoise, standing?_of_plain hplain hne]
    split_ifs <;> rfl

/-- Noise and a genuine error that looks like an item, with another message between them. -/
theorem plain_errors_filtered_item :
    let texts := ["CSP Parser Error: x".toList, "- boom".toList]
    let capture : Capture := [.ofText .error "CSP Parser Error: x".toList 0,
      .ofText .log "ready".toList 1, .ofText .error "- boom".toList 2]
    (∀ text ∈ texts, IsPlain text) ∧ entries (errorsMessage texts) = texts ∧
      capture.errorTexts = texts ∧
      exceptNoise capture.checkNoErrors =
        .error (.assertion
          "Expected no JavaScript errors on the page, but found:\n- - boom".toList) := by
  intro texts capture
  have hplain : ∀ text ∈ texts, IsPlain text := by decide +kernel
  obtain ⟨hentries, hanswer⟩ := plain_errors_filtered hplain
  exact ⟨hplain, hentries (by decide), rfl, (hanswer capture rfl).trans (by decide +kernel)⟩

end Capture

end SkipChecks
