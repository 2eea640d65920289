import SkipChecks.Proofs.Dependencies.Scan
import SkipChecks.Proofs.Text.Literals

/-!
# Guards as calls

A guard is meant to be one call whose literals close where they were written to. Names are put into
the literals as they were found, without escapes. So a name that was cut at an escaped quote, and
therefore ends in the backslash before it, leaves its literal open.
-/

namespace SkipChecks

namespace Text

/-- The literals of an argument list, at most so many, read up to the end of a statement. -/
def arguments? : Nat → Text → Option (List Text)
  | most + 1, '\'' :: s => do
    let (argument, s) ← Literal.read? s
    if s = ");".toList then
      return [argument]
    else
      let s ← ", ".toList.isPrefixOf? s
      return argument :: (← arguments? most s)
  | _, _ => none

/-- Reads a statement that is a single call with at most two literals, up to its end: the name of
the function, and what the literals stand for. -/
def singleCall? (s : Text) : Option (Text × List Text) := do
  let rest ← ['('].isPrefixOf? (s.dropWhile Char.isAlpha)
  let arguments ← if rest = ");".toList then some [] else arguments? 2 rest
  if s.takeWhile Char.isAlpha = [] then none else return (s.takeWhile Char.isAlpha, arguments)

theorem singleCall?_append {function s : Text} (hne : function ≠ [])
    (halpha : function.all Char.isAlpha) (hs : s ≠ ");".toList) :
    singleCall? (function ++ '(' :: s) = (arguments? 2 s).map (function, ·) := by
  have halpha := List.all_eq_true.mp halpha
  have hdrop : (function ++ '(' :: s).dropWhile Char.isAlpha = '(' :: s := by
    rw [List.dropWhile_append_of_pos halpha]
    rfl
  have htake : (function ++ '(' :: s).takeWhile Char.isAlpha = function := by
    rw [List.takeWhile_append_of_pos halpha]
    simp
  have hopen : ['('].isPrefixOf? ('(' :: s) = some s :=
    List.isPrefixOf?_eq_some_iff_append_eq.mpr rfl
  rw [singleCall?, hdrop, htake, hopen]
  simp only [Option.bind_eq_bind, Option.bind_some, if_neg hs, if_neg hne]
  cases arguments? 2 s <;> rfl

end Text

namespace Guard

open Text Literal

/-- The function that a guard calls. -/
def function : Guard → Text
  | starterKit => "skipIfNotStarterKit".toList
  | route _ => "skipIfRouteMissing".toList
  | method _ => "skipIfMethodMissing".toList

/-- What a guard has between quotes. -/
def literals : Guard → List Text
  | starterKit => []
  | route name => [name]
  | method m => [m.className, m.name]

theorem singleCall?_route {name : Text} (h : '\'' ∉ name) :
    singleCall? (route name).text =
      if Closes name then some ((route name).function, [value name]) else none := by
  have htext : (route name).text =
      "skipIfRouteMissing".toList ++ '(' :: '\'' :: (name ++ '\'' :: ");".toList) := rfl
  have hread := read?_append_quote h (show '\'' ∉ ");".toList by decide)
  rw [htext, singleCall?_append (by decide) (by decide) (by simp), arguments?, hread]
  split <;> rfl

theorem singleCall?_factoryMethod :
    ∀ name ∈ Dependencies.factoryMethods,
      let guard := method ⟨Dependencies.userFactory, name⟩
      singleCall? guard.text =
        if ∀ inside ∈ guard.literals, Closes inside then
          some (guard.function, guard.literals.map value)
        else none := by
  decide +kernel

/-- A guard for a scanned body is one call with its literals as they were written, when the
backslashes at the end of each literal are in pairs. Otherwise a literal does not close, and the
guard is no call. -/
theorem singleCall?_text (body : Text) :
    ∀ guard ∈ (Dependencies.scan body).guards,
      singleCall? guard.text =
        if ∀ inside ∈ guard.literals, Closes inside then
          some (guard.function, guard.literals.map value)
        else none := by
  intro guard hguard
  rcases Dependencies.mem_guards hguard with rfl | ⟨name, hname, rfl⟩ | ⟨method, hmethod, rfl⟩
  · decide
  · have hfree : '\'' ∉ name := fun hquote =>
      absurd (Dependencies.notQuote_of_mem_routes hname _ hquote) (by decide)
    simp only [singleCall?_route hfree, literals, List.mem_singleton, forall_eq, List.map_cons,
      List.map_nil]
  · obtain ⟨name, hname, rfl⟩ := Dependencies.mem_methods hmethod
    exact singleCall?_factoryMethod name hname

/-- One guard of this body is a call, and the other one is not. -/
theorem singleCall?_text_escaped_quote :
    let body := "route('a.b'); route('it\\'s')".toList
    (Guard.route "a.b".toList ∈ (Dependencies.scan body).guards ∧
      singleCall? (route "a.b".toList).text =
        some ("skipIfRouteMissing".toList, ["a.b".toList])) ∧
    Guard.route "it\\".toList ∈ (Dependencies.scan body).guards ∧
      singleCall? (route "it\\".toList).text = none := by
  intro body
  have hclosed : Guard.route "a.b".toList ∈ (Dependencies.scan body).guards := by decide +kernel
  have hopen : Guard.route "it\\".toList ∈ (Dependencies.scan body).guards := by decide +kernel
  exact ⟨⟨hclosed, (singleCall?_text body _ hclosed).trans (by decide)⟩, hopen,
    (singleCall?_text body _ hopen).trans (by decide)⟩

/-- A name that is cut at an escaped quote gives a guard whose literal does not close. -/
theorem escaped_quote_leaves_literal_open :
    let body := "visit(route('it\\'s'));".toList
    ∃ guard ∈ (Dependencies.scan body).guards,
      guard.text = "skipIfRouteMissing('it\\');".toList ∧ singleCall? guard.text = none := by
  exact ⟨.route "it\\".toList, by decide +kernel, by decide, by decide +kernel⟩

end Guard

end SkipChecks
