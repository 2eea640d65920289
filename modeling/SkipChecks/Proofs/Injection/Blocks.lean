import SkipChecks.Injection.Basic
import SkipChecks.Proofs.Dependencies.Scan
import SkipChecks.Proofs.Text.Occurrence
import SkipChecks.Proofs.Text.Silence

/-!
# Blocks of guards go unnoticed

In a block of guards no declaration begins, no call that names a route, and no factory chain, also
none that would end behind the block. Nor does a block mention copy that the body behind it does not
mention: apart from route names it has none, and route names are taken from the body. So a body
depends on the same things with its block in front of it. The only texts that are not fixed are the
route names; parentheses and braces in them would spoil this.
-/

namespace SkipChecks

open Text Dependencies

/-- A guard that holds no braces, and no parentheses but those of its own call. -/
def Guard.IsInert : Guard → Prop
  | .starterKit => True
  | .route name => '(' ∉ name ∧ '{' ∉ name ∧ '}' ∉ name
  | .method m => m.className = userFactory ∧ m.name ∈ factoryMethods

namespace Injection

/-- How everything begins that is looked for in a source, apart from copy. -/
def openings : List Text := "test(".toList :: (routeCalls ++ factoryMethods.map factoryChain)

/-- A guard on its line. -/
def line (guard : Guard) : Text := "    ".toList ++ guard.text

theorem block_cons (guard : Guard) (guards : List Guard) :
    block (guard :: guards) = '\n' :: (line guard ++ block guards) := by
  have hfeed : "\n    ".toList = '\n' :: "    ".toList := rfl
  rw [block, block, line, List.flatMap_cons, hfeed]
  simp only [List.cons_append, List.append_assoc]

theorem line_route (name : Text) :
    line (.route name) =
      "    skipIfRouteMissing(".toList ++ '\'' :: (name ++ '\'' :: ");".toList) := rfl

variable {guard : Guard} {guards : List Guard} {needle : Text}

/-! ## Needles -/

theorem silent_line (hneedle : needle ∈ openings) (hinert : guard.IsInert) :
    Silent needle ('\n' :: line guard) := by
  cases guard with
  | starterKit =>
      have hfixed : ∀ needle ∈ openings, Silent needle ('\n' :: line .starterKit) := by
        decide +kernel
      exact hfixed needle hneedle
  | route name =>
      have hfront : ∀ needle ∈ openings,
          Silent needle ('\n' :: ("    skipIfRouteMissing(".toList ++ ['\''])) := by
        decide +kernel
      have hback : ∀ needle ∈ openings, Silent needle ");".toList := by decide +kernel
      have hchars : ∀ needle ∈ openings, '(' ∈ needle ∧ '\'' ∉ needle := by decide +kernel
      obtain ⟨hopen, hquote⟩ := hchars needle hneedle
      -- the name is followed by a quote, which no needle has
      have hname := Silent.of_notMem hopen hinert.1 hquote
      have hwhole := (hfront needle hneedle).append (hname.append (hback needle hneedle))
      simpa only [line_route, List.append_assoc, List.cons_append, List.nil_append] using hwhole
  | method m =>
      obtain ⟨className, name⟩ := m
      obtain ⟨rfl, hname⟩ := hinert
      have hfixed : ∀ needle ∈ openings, ∀ name ∈ factoryMethods,
          Silent needle ('\n' :: line (.method ⟨userFactory, name⟩)) := by
        decide +kernel
      exact hfixed needle hneedle name hname

theorem silent_block (hneedle : needle ∈ openings) (hinert : ∀ guard ∈ guards, guard.IsInert) :
    Silent needle (block guards) := by
  induction guards with
  | nil =>
      have hfeed : ∀ needle ∈ openings, Silent needle ['\n'] := by decide +kernel
      exact hfeed needle hneedle
  | cons guard guards ih =>
      rw [block_cons, ← List.cons_append]
      exact (silent_line hneedle (hinert guard List.mem_cons_self)).append
        (ih fun other hother => hinert other (List.mem_cons_of_mem guard hother))

/-! ## Braces -/

theorem notMem_line {c : Char} (hc : c = '{' ∨ c = '}') (hinert : guard.IsInert) :
    c ∉ line guard := by
  cases guard with
  | starterKit => rcases hc with rfl | rfl <;> decide +kernel
  | route name =>
      have hfixed : c ∉ "    skipIfRouteMissing(".toList ∧ c ∉ ");".toList ∧ c ≠ '\'' := by
        rcases hc with rfl | rfl <;> decide +kernel
      obtain ⟨hfront, hback, hquote⟩ := hfixed
      have hname : c ∉ name := by
        rcases hc with rfl | rfl
        · exact hinert.2.1
        · exact hinert.2.2
      simp only [line_route, List.mem_append, List.mem_cons, not_or]
      exact ⟨hfront, hquote, hname, hquote, hback⟩
  | method m =>
      obtain ⟨className, name⟩ := m
      obtain ⟨rfl, hname⟩ := hinert
      have hfixed : ∀ name ∈ factoryMethods, c ∉ line (.method ⟨userFactory, name⟩) := by
        rcases hc with rfl | rfl <;> decide +kernel
      exact hfixed name hname

theorem notMem_block {c : Char} (hc : c = '{' ∨ c = '}')
    (hinert : ∀ guard ∈ guards, guard.IsInert) : c ∉ block guards := by
  have hfeed : c ≠ '\n' := by rcases hc with rfl | rfl <;> decide
  induction guards with
  | nil =>
      have hblock : block [] = ['\n'] := rfl
      simpa [hblock] using hfeed
  | cons guard guards ih =>
      rw [block_cons, List.mem_cons, List.mem_append]
      rintro (h | h | h)
      · exact hfeed h
      · exact notMem_line hc (hinert guard List.mem_cons_self) h
      · exact ih (fun other hother => hinert other (List.mem_cons_of_mem guard hother)) h

/-! ## Copy -/

/-- Copy that a guard of a body mentions stands in the body. -/
theorem mentions_of_line {phrase : List Text} (hphrase : phrase ∈ starterKitCopy) {body : Text}
    (hguard : guard ∈ (scan body).guards) (h : mentions phrase (line guard)) :
    mentions phrase body := by
  rcases mem_guards hguard with rfl | ⟨name, hname, rfl⟩ | ⟨method, hmethod, rfl⟩
  · have hfixed : ∀ phrase ∈ starterKitCopy, ¬ mentions phrase (line .starterKit) := by
      decide +kernel
    exact absurd h (hfixed phrase hphrase)
  · have hforeign : ∀ phrase ∈ starterKitCopy,
        Foreign phrase "    skipIfRouteMissing(".toList ");".toList := by
      decide +kernel
    rw [line_route] at h
    exact mentions_of_infix ((hforeign phrase hphrase).mentions_of_quoted (by decide) (by decide) h)
      (infix_of_mem_routes hname)
  · obtain ⟨name, hname, rfl⟩ := mem_methods hmethod
    have hfixed : ∀ phrase ∈ starterKitCopy, ∀ name ∈ factoryMethods,
        ¬ mentions phrase (line (.method ⟨userFactory, name⟩)) := by
      decide +kernel
    exact absurd h (hfixed phrase hphrase name hname)

theorem mentions_append_block {phrase : List Text} {front body : Text}
    (hguards : ∀ guard ∈ guards, mentions phrase (line guard) → mentions phrase body)
    (h : mentions phrase (front ++ (block guards ++ body))) :
    mentions phrase front ∨ mentions phrase body := by
  induction guards generalizing front with
  | nil => exact mentions_append_feed.mp h
  | cons guard guards ih =>
      rw [block_cons, List.cons_append, List.append_assoc] at h
      rcases mentions_append_feed.mp h with hfront | hrest
      · exact .inl hfront
      · have hothers := fun other hother => hguards other (List.mem_cons_of_mem guard hother)
        rcases ih hothers hrest with hline | hbody
        · exact .inr (hguards guard List.mem_cons_self hline)
        · exact .inr hbody

/-! ## Scans -/

/-- A body depends on the same things with its guards in front of it. -/
theorem scan_append_block {body : Text} (hinert : ∀ guard ∈ (scan body).guards, guard.IsInert) :
    scan (block (scan body).guards ++ body) = scan body := by
  have hsilent : ∀ needle ∈ openings, Silent needle (block (scan body).guards) :=
    fun needle hneedle => silent_block hneedle hinert
  generalize hguards : (scan body).guards = guards at hinert hsilent ⊢
  have hroutes : ∀ opening ∈ routeCalls,
      namesCalled opening (block guards ++ body) = namesCalled opening body := by
    intro opening hopening
    have hneedle : opening ∈ openings := List.mem_cons_of_mem _ (List.mem_append_left _ hopening)
    have hstart : ∀ ⦃s find⦄, call? opening s = some find → opening <+: s := by
      rintro s ⟨name, rest⟩ hcall
      obtain ⟨first, last, -, -, -, -, rfl⟩ := call?_eq_some_iff.mp hcall
      exact List.prefix_append _ _
    rw [namesCalled, Silent.findAll_append hstart (hsilent opening hneedle), namesCalled]
  have hmethods : ∀ method ∈ factoryMethods,
      contains (factoryChain method) (block guards ++ body) =
        contains (factoryChain method) body := by
    intro method hmethod
    have hneedle : factoryChain method ∈ openings :=
      List.mem_cons_of_mem _ (List.mem_append_right _ (List.mem_map_of_mem hmethod))
    exact (hsilent _ hneedle).contains_append body
  have hcopy : ∀ phrase ∈ starterKitCopy,
      (mentions phrase (block guards ++ body) ↔ mentions phrase body) := by
    refine fun phrase hphrase =>
      ⟨fun h => ?_, fun h => mentions_of_infix h (List.suffix_append _ _).isInfix⟩
    have hown : ∀ guard ∈ guards, mentions phrase (line guard) → mentions phrase body :=
      fun guard hguard => mentions_of_line hphrase (hguards ▸ hguard)
    rw [← List.nil_append (block guards ++ body)] at h
    rcases mentions_append_block hown h with hnone | hbody
    · exact mentions_of_infix hnone List.nil_infix
    · exact hbody
  have hnames : routeCalls.flatMap (namesCalled · (block guards ++ body)) =
      routeCalls.flatMap (namesCalled · body) := List.flatMap_congr hroutes
  have hchains := List.filter_congr hmethods
  have hany : (starterKitCopy.any fun phrase => mentions phrase (block guards ++ body)) =
      starterKitCopy.any fun phrase => mentions phrase body := by
    rw [Bool.eq_iff_iff, List.any_eq_true, List.any_eq_true]
    exact exists_congr fun phrase => and_congr_right (hcopy phrase)
  rw [scan, hnames, hchains, hany, scan]

end Injection

end SkipChecks
