import SkipChecks.Proofs.Json.Members
import SkipChecks.Proofs.Route.Outputs
import SkipChecks.Route.Router

/-!
# Named routes

The names of routes come from what a program prints: an array with an object for each route. One
object that is no route spoils all of them, and then the router is left as it was.
-/

namespace SkipChecks

namespace Listing

variable {members : List (Option Text × Json)} {tables : List (List (Option Text × Json))}

/-- The key of the name of a route. -/
def nameKey : Text := "name".toList

/-- The members with the key of the name. -/
def nameMembers (members : List (Option Text × Json)) : List (Option Text × Json) :=
  members.filter (·.1 == some nameKey)

/-- The object tells of a route: all of its keys stand for texts, and it has one name at most, which
is null or a string that stands for a text. -/
structure IsRoute (members : List (Option Text × Json)) : Prop where
  keys : ∀ member ∈ members, member.1 ≠ none
  once : (nameMembers members).length ≤ 1
  kind : ∀ member ∈ nameMembers members,
    member.2 = .null ∨ ∃ name, member.2 = .string (some name)

/-- The string under the key of the name, if there is one. -/
def name? (members : List (Option Text × Json)) : Option Text :=
  (nameMembers members).findSome? (·.2.text?)

/-! ## Entries -/

theorem entryName?_object (members : List (Option Text × Json)) :
    entryName? (.object members) =
      (Json.members? (.object members)).bind (Json.field? · nameKey none Json.textOrNull?) := rfl

theorem IsRoute.entryName?_eq (h : IsRoute members) :
    entryName? (.object members) = some (name? members) := by
  have hmembers := Json.members?_eq_some_iff.mpr ⟨rfl, h.keys⟩
  have honce := h.once
  have hkind := h.kind
  rw [entryName?_object, hmembers, Option.bind_some, Json.field?, ← nameMembers, name?]
  cases hnames : nameMembers members with
  | nil => rfl
  | cons member others =>
      obtain ⟨key, value⟩ := member
      obtain rfl : others = [] := by simpa [hnames] using honce
      rcases hkind (key, value) (by simp [hnames]) with hnull | ⟨name, hname⟩
      · obtain rfl : value = .null := hnull
        rfl
      · obtain rfl : value = .string (some name) := hname
        rfl

theorem isRoute_of_entryName? {name : Option Text} (h : entryName? (.object members) = some name) :
    IsRoute members := by
  rw [entryName?_object] at h
  obtain ⟨listed, hlisted, hname⟩ := Option.bind_eq_some_iff.mp h
  obtain ⟨rfl, hkeys⟩ := Json.members?_eq_some_iff.mp hlisted
  rw [Json.field?, ← nameMembers] at hname
  cases hnames : nameMembers listed with
  | nil => exact ⟨hkeys, by simp [hnames], by simp [hnames]⟩
  | cons member others =>
      rw [hnames] at hname
      cases others with
      | nil =>
          refine ⟨hkeys, by simp [hnames], fun other hother => ?_⟩
          rw [hnames, List.mem_singleton] at hother
          subst hother
          rcases Json.textOrNull?_eq_some_iff.mp hname with ⟨hnull, -⟩ | ⟨s, hs, -⟩
          · exact .inl hnull
          · exact .inr ⟨s, hs⟩
      | cons second others => cases hname

/-! ## Tables -/

theorem mapM_entryName?_of_isRoute (h : ∀ members ∈ tables, IsRoute members) :
    (tables.map Json.object).mapM entryName? = some (tables.map name?) := by
  induction tables with
  | nil => rfl
  | cons members tables ih =>
      obtain ⟨hfirst, hothers⟩ := List.forall_mem_cons.mp h
      rw [List.map_cons, List.mapM_cons, hfirst.entryName?_eq, ih hothers]
      rfl

theorem isRoute_of_mapM_entryName? {names : List (Option Text)}
    (h : (tables.map Json.object).mapM entryName? = some names) :
    ∀ members ∈ tables, IsRoute members := by
  induction tables generalizing names with
  | nil => simp
  | cons members tables ih =>
      rw [List.map_cons, List.mapM_cons] at h
      obtain ⟨name, hname, hrest⟩ := Option.bind_eq_some_iff.mp h
      obtain ⟨others, hothers, -⟩ := Option.bind_eq_some_iff.mp hrest
      exact List.forall_mem_cons.mpr ⟨isRoute_of_entryName? hname, ih hothers⟩

theorem ofJson?_tables (h : ∀ members ∈ tables, IsRoute members) :
    ofJson? (.array (tables.map .object)) = some (tables.filterMap name?) := by
  rw [ofJson?, mapM_entryName?_of_isRoute h, Option.map_some, List.filterMap_map]
  rfl

theorem ofJson?_tables_eq_none (h : ∃ members ∈ tables, ¬ IsRoute members) :
    ofJson? (.array (tables.map .object)) = none := by
  rw [ofJson?, Option.map_eq_none_iff, Option.eq_none_iff_forall_not_mem]
  intro names hnames
  obtain ⟨members, hmem, hnot⟩ := h
  exact hnot (isRoute_of_mapM_entryName? hnames members hmem)

theorem ofOutput?_of_printedAs {value : Json} {output : Bytes} (h : value.PrintedAs output) :
    ofOutput? output = ofJson? value := by
  rw [ofOutput?, ofText?_readable_iff.mpr h, Option.bind_some]

/-- Only an array lists names. -/
theorem exists_printedAs_of_ofOutput? {output : Bytes} {names : List Text}
    (h : ofOutput? output = some names) : ∃ entries, (Json.array entries).PrintedAs output := by
  obtain ⟨value, hvalue, hnames⟩ := Option.bind_eq_some_iff.mp h
  cases value with
  | array entries => exact ⟨entries, ofText?_readable_iff.mp hvalue⟩
  | _ => cases hnames

end Listing

namespace Router

open Listing

variable {programs : Programs} {line : List Text} {t u : Tree} {run : Run}

theorem answer_of_ofOutput? (hsuccess : run.ending.isSuccess) :
    answer (.ok run) = (ofOutput? run.output).elim (.error (.noListing run.output)) .ok := by
  rw [answer, if_pos hsuccess]
  cases ofOutput? run.output <;> rfl

theorem lists_of_ofOutput? {names : List Text} (hrun : programs line t = (.ok run, u))
    (hsuccess : run.ending.isSuccess) (h : ofOutput? run.output = some names) :
    (command line none).names programs t = (.ok names, command line (some names), u) := by
  rw [Router.names, hrun]
  simp only [answer_of_ofOutput? hsuccess, h, Option.elim_some]

/-- A listing that cannot be read leaves the router as it was, and then no route is there. -/
theorem refuses_of_ofOutput? (hrun : programs line t = (.ok run, u))
    (hsuccess : run.ending.isSuccess) (h : ofOutput? run.output = none) :
    (command line none).names programs t =
        (.error (.routeCommand line (.noListing run.output)), command line none, u) ∧
      ∀ name, (command line none).has programs t name = (false, command line none, u) := by
  have hnames : (command line none).names programs t =
      (.error (.routeCommand line (.noListing run.output)), command line none, u) := by
    rw [names, hrun]
    simp only [answer_of_ofOutput? hsuccess, h, Option.elim_none]
  refine ⟨hnames, fun name => ?_⟩
  rw [has, hnames]

/-- A program that prints an array with an object for each route lists the strings under the key of
the name, in their order and with their repeats, and they stay. Where one of the objects is no
route, or no array is printed, nothing is listed and nothing stays. -/
theorem names_of_printed (hrun : programs line t = (.ok run, u))
    (hsuccess : run.ending.isSuccess) :
    let router := command line none
    let refused := router.names programs t =
        (.error (.routeCommand line (.noListing run.output)), router, u) ∧
      ∀ name, router.has programs t name = (false, router, u)
    (∀ tables : List (List (Option Text × Json)),
        (Json.array (tables.map .object)).PrintedAs run.output →
          ((∀ members ∈ tables, IsRoute members) →
            router.names programs t =
              (.ok (tables.filterMap name?), command line (some (tables.filterMap name?)), u)) ∧
          ((∃ members ∈ tables, ¬ IsRoute members) → refused)) ∧
      ((∀ entries, ¬ (Json.array entries).PrintedAs run.output) → refused) := by
  intro router refused
  refine ⟨fun tables hprinted => ⟨fun hroutes => ?_, fun hspoiled => ?_⟩, fun hnone => ?_⟩
  · have hread := (ofOutput?_of_printedAs hprinted).trans (ofJson?_tables hroutes)
    exact lists_of_ofOutput? hrun hsuccess hread
  · have hread := (ofOutput?_of_printedAs hprinted).trans (ofJson?_tables_eq_none hspoiled)
    exact refuses_of_ofOutput? hrun hsuccess hread
  · refine refuses_of_ofOutput? hrun hsuccess (Option.eq_none_iff_forall_not_mem.mpr ?_)
    intro names hnames
    obtain ⟨entries, hentries⟩ := exists_printedAs_of_ofOutput? hnames
    exact hnone entries hentries

/-- A program that prints the same each time. -/
def printing (output : Bytes) : Programs := fun _ t => (.ok ⟨.exited 0, output, Bytes.ofText []⟩, t)

/-- Escapes and blanks, members aside, routes without a name, and a name that is there twice; and an
object with two names behind a route. -/
theorem names_of_printed_escaped :
    let s := "[\x7b\"x\":[\"\\ud800\",\x7b\x7d], \"n\\u0061me\":\"login\"\x7d,\n".toList ++
      "\x7b\"name\" : null\x7d,\x7b\x7d,\x7b\"name\":\"login\",\"names\":-1.5e3\x7d]".toList
    let spoiled := "[\x7b\"name\":\"login\"\x7d,\x7b\"name\":\"home\",\"name\":null\x7d]".toList
    let tables : List (List (Option Text × Json)) :=
      [[(some ['x'], .array [.string none, .object []]),
          (some nameKey, .string (some "login".toList))],
        [(some nameKey, .null)], [],
        [(some nameKey, .string (some "login".toList)), (some "names".toList, .number)]]
    let names := ["login".toList, "login".toList]
    let line := ["routes".toList]
    (Json.array (tables.map .object)).PrintedAs (Bytes.ofText s) ∧
      (∀ members ∈ tables, IsRoute members) ∧
      (command line none).names (printing (Bytes.ofText s)) .empty =
        (.ok names, command line (some names), .empty) ∧
      (command line none).names (printing (Bytes.ofText spoiled)) .empty =
        (.error (.routeCommand line (.noListing (Bytes.ofText spoiled))), command line none, .empty) := by
  intro s spoiled tables names line
  have htext : Json.Token.ofText? s = some (Json.tokens (.array (tables.map .object))) := by
    decide +kernel
  have hprinted := Json.printedAs_ofText_iff.mpr (Json.Token.lays_of_ofText? htext)
  have hroutes : ∀ members ∈ tables, IsRoute members := by
    intro members hmembers
    refine ⟨?_, ?_, ?_⟩
    · revert members
      decide
    · revert members
      decide
    · revert members
      simp [tables, nameMembers, nameKey]
      grind
  let twice : List (Option Text × Json) :=
    [(some nameKey, .string (some "home".toList)), (some nameKey, .null)]
  let others : List (List (Option Text × Json)) :=
    [[(some nameKey, .string (some "login".toList))], twice]
  have hother : Json.Token.ofText? spoiled = some (Json.tokens (.array (others.map .object))) := by
    decide +kernel
  have hspoiled := Json.printedAs_ofText_iff.mpr (Json.Token.lays_of_ofText? hother)
  have htwice : ¬ IsRoute twice := fun h => absurd h.once (by decide)
  have hrun (output : Bytes) : printing output line .empty =
      (.ok ⟨.exited 0, output, Bytes.ofText []⟩, .empty) := rfl
  obtain ⟨hlists, -⟩ := names_of_printed (hrun (Bytes.ofText s)) (by decide)
  obtain ⟨hrefuses, -⟩ := names_of_printed (hrun (Bytes.ofText spoiled)) (by decide)
  refine ⟨hprinted, hroutes, (hlists tables hprinted).1 hroutes, ?_⟩
  exact ((hrefuses others hspoiled).2 ⟨twice, by simp [others], htwice⟩).1

/-- A key that stands for no text spoils a listing whose only object has one name. A byte that is no
text spoils none where it stands in a member aside. -/
theorem unpaired_key_spoils_listing :
    let line := ["routes".toList]
    let s := "[\x7b\"name\":\"login\",\"\\ud800\":0\x7d]".toList
    let members : List (Option Text × Json) :=
      [(some nameKey, .string (some "login".toList)), (none, .natural 0)]
    let damaged : Bytes := Bytes.ofText "[\x7b\"x\":\"".toList ++ ⟨#[0xff]⟩ ++
      Bytes.ofText "\",\"name\":\"login\"\x7d]".toList
    (Json.array [.object members]).WrittenAs s ∧
      nameMembers members = [(some nameKey, .string (some "login".toList))] ∧
      (command line none).names (printing (Bytes.ofText s)) .empty =
        (.error (.routeCommand line (.noListing (Bytes.ofText s))), command line none, .empty) ∧
      Bytes.text? damaged = none ∧
      (command line none).names (printing damaged) .empty =
        (.ok ["login".toList], command line (some ["login".toList]), .empty) := by
  intro line s members damaged
  have htext : Json.Token.ofText? s = some (Json.tokens (.array [.object members])) := by
    decide +kernel
  have hrefused : ofOutput? (Bytes.ofText s) = none := by
    rw [ofOutput?_ofText]
    decide +kernel
  have hlisted : ofOutput? damaged = some ["login".toList] := by
    rw [ofOutput?, Bytes.pieces_ofText_between (by decide) (by decide)]
    decide +kernel
  have hrun : printing (Bytes.ofText s) line .empty =
      (.ok ⟨.exited 0, Bytes.ofText s, Bytes.ofText []⟩, .empty) := rfl
  exact ⟨Json.Token.lays_of_ofText? htext, rfl,
    (refuses_of_ofOutput? hrun (by decide) hrefused).1, by decide +kernel,
    lists_of_ofOutput? rfl (by decide) hlisted⟩

end Router

end SkipChecks
