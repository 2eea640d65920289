import SkipChecks.Guard
import SkipChecks.Proofs.Text.Finds

/-!
# What a scan finds

A route is named by a call in the body, so its name stands in the body and has no quotes. The
methods are among the known ones.
-/

namespace SkipChecks.Dependencies

open Text

variable {body name : Text}

theorem call?_eq_some_iff {opening s rest : Text} :
    call? opening s = some (name, rest) ↔
      ∃ first last, isQuote first ∧ isQuote last ∧ name ≠ [] ∧ (∀ c ∈ name, isQuote c = false) ∧
        s = opening ++ (first :: name ++ last :: rest) := by
  rw [call?, Option.bind_eq_some_iff]
  constructor
  · rintro ⟨s, hopening, hname⟩
    obtain ⟨first, last, hfirst, hlast, hne, hfree, rfl⟩ := quotedName?_eq_some_iff.mp hname
    exact ⟨first, last, hfirst, hlast, hne, hfree,
      (List.isPrefixOf?_eq_some_iff_append_eq.mp hopening).symm⟩
  · rintro ⟨first, last, hfirst, hlast, hne, hfree, rfl⟩
    exact ⟨_, List.isPrefixOf?_eq_some_iff_append_eq.mpr rfl,
      quotedName?_eq_some_iff.mpr ⟨first, last, hfirst, hlast, hne, hfree, rfl⟩⟩

theorem consumes_call? (opening : Text) : Consumes (call? opening) := by
  intro s name rest h
  obtain ⟨first, last, -, -, -, -, rfl⟩ := call?_eq_some_iff.mp h
  exact ⟨opening ++ (first :: name ++ [last]), by simp, by simp⟩

theorem mem_routes_iff :
    name ∈ (scan body).routes ↔ ∃ opening ∈ routeCalls, name ∈ namesCalled opening body := by
  simp only [scan, ofNames, List.mem_eraseDups, List.mem_flatMap]

/-- A route is named by a call that stands in the body. -/
theorem exists_call_of_mem_routes (h : name ∈ (scan body).routes) :
    ∃ opening ∈ routeCalls, ∃ first last, isQuote first ∧ isQuote last ∧ name ≠ [] ∧
      (∀ c ∈ name, isQuote c = false) ∧ opening ++ first :: name ++ [last] <:+: body := by
  obtain ⟨opening, hopening, hname⟩ := mem_routes_iff.mp h
  obtain ⟨⟨name, rest⟩, hfind, rfl⟩ := List.mem_map.mp hname
  obtain ⟨before, s, rfl, hcall⟩ := exists_of_mem_findAll (consumes_call? opening) hfind
  obtain ⟨first, last, hfirst, hlast, hne, hfree, rfl⟩ := call?_eq_some_iff.mp hcall
  exact ⟨opening, hopening, first, last, hfirst, hlast, hne, hfree, before, rest, by simp⟩

theorem notQuote_of_mem_routes (h : name ∈ (scan body).routes) : ∀ c ∈ name, isQuote c = false := by
  obtain ⟨-, -, -, -, -, -, -, hfree, -⟩ := exists_call_of_mem_routes h
  exact hfree

theorem infix_of_mem_routes (h : name ∈ (scan body).routes) : name <:+: body := by
  obtain ⟨opening, -, first, last, -, -, -, -, hcall⟩ := exists_call_of_mem_routes h
  exact List.IsInfix.trans ⟨opening ++ [first], [last], by simp⟩ hcall

theorem mem_methods {method : Method} (h : method ∈ (scan body).methods) :
    ∃ name ∈ factoryMethods, method = ⟨userFactory, name⟩ := by
  obtain ⟨name, hname, rfl⟩ := List.mem_map.mp h
  exact ⟨name, List.mem_of_mem_filter hname, rfl⟩

/-- A guard stands for the starter kit, for a route or for a method that is depended on. -/
theorem mem_guards {d : Dependencies} {guard : Guard} (h : guard ∈ d.guards) :
    guard = .starterKit ∨ (∃ name ∈ d.routes, guard = .route name) ∨
      ∃ method ∈ d.methods, guard = .method method := by
  simp only [guards, List.mem_append, List.mem_map] at h
  rcases h with (hkit | ⟨name, hname, rfl⟩) | ⟨method, hmethod, rfl⟩
  · split at hkit
    · exact .inl (List.mem_singleton.mp hkit)
    · cases hkit
  · exact .inr (.inl ⟨name, hname, rfl⟩)
  · exact .inr (.inr ⟨method, hmethod, rfl⟩)

end SkipChecks.Dependencies
