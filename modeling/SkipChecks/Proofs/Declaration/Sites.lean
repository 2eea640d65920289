import SkipChecks.Proofs.Declaration.Forms
import SkipChecks.Proofs.Text.Starts

/-!
# Where declarations stand

A site is a place in a source where a declaration stands, whether it is located there or not. No two
sites share their start. The located sites follow one another, and every other site starts inside
one of them. So a declaration is passed over only where it is part of another one, such as in the
parameters of that one.
-/

namespace SkipChecks.Declaration

open Text

namespace Form

/-- A text begins with a declaration in one way at most. -/
theorem text_append_inj {first second : Form} {after rest : Text}
    (h : first.text ++ after = second.text ++ rest) : first = second ∧ after = rest := by
  obtain ⟨name, opening, closing, before, between, parameters, behind, _, hclosing, _, hname,
    hbefore, hbetween, hbehind, hparameters⟩ := first
  obtain ⟨name', opening', closing', before', between', parameters', behind', _, hclosing', _,
    hname', hbefore', hbetween', hbehind', hparameters'⟩ := second
  have hfree {name : Text} {quote : Char} (hname : ∀ c ∈ name, isQuote c = false)
      (hquote : isQuote quote) : quote ∉ name := by
    intro hmem
    rw [hname quote hmem] at hquote
    cases hquote
  have hword : "function".toList = 'f' :: "unction".toList := rfl
  simp only [text, header, ending, hword, List.append_assoc, List.cons_append,
    List.append_cancel_left_eq, List.cons.injEq] at h
  obtain ⟨rfl, h⟩ := h
  -- each part ends at the first character that cannot be in it
  obtain ⟨rfl, rfl, hheader⟩ :=
    (append_cons_inj (hfree hname hclosing') (hfree hname' hclosing)).mp h
  have hf : isBlank 'f' = false := by decide
  obtain ⟨rfl, -, hcall⟩ :=
    (append_cons_inj (notMem_of_isBlank hbefore hf) (notMem_of_isBlank hbefore' hf)).mp
      (List.cons.inj hheader).2
  have hopen : isBlank '(' = false := by decide
  obtain ⟨rfl, -, hlist⟩ :=
    (append_cons_inj (notMem_of_isBlank hbetween hopen) (notMem_of_isBlank hbetween' hopen)).mp
      (List.append_cancel_left hcall)
  obtain ⟨rfl, -, hend⟩ := (append_cons_inj hparameters hparameters').mp hlist
  have hbrace : isBlank '{' = false := by decide
  obtain ⟨rfl, -, hrest⟩ :=
    (append_cons_inj (notMem_of_isBlank hbehind hbrace) (notMem_of_isBlank hbehind' hbrace)).mp hend
  exact ⟨rfl, hrest⟩

end Form

/-- A declaration that stands in a source. -/
structure Site (source : Text) where
  before : Text
  form : Form
  after : Text
  source_eq : source = before ++ (form.text ++ after)

namespace Site

variable {source : Text}

/-- The byte offset at which the declaration starts. -/
def start (site : Site source) : Nat := byteLength site.before

/-- The byte offset behind its opening brace. -/
def stop (site : Site source) : Nat := byteLength site.before + byteLength site.form.text

/-- What is told of a declaration that is located. -/
def declaration (site : Site source) : Declaration := ⟨site.form.name, site.stop⟩

/-- The find that is made where the declaration stands. -/
def find (site : Site source) : (Text × Text) × Text :=
  ((site.form.text ++ site.after, site.form.name), site.after)

/-- The search for declarations finds the declaration where it stands. -/
def IsLocated (site : Site source) : Prop := site.find ∈ findAll (started name?) source

/-- Offsets count from the front, and what a find leaves from the end. -/
theorem byteLength_source (site : Site source) :
    site.start + byteLength site.find.1.1 = byteLength source ∧
      site.stop + byteLength site.find.2 = byteLength source := by
  have hlength := congrArg byteLength site.source_eq
  simp only [byteLength_append] at hlength
  simp only [start, stop, find, byteLength_append]
  omega

theorem eq_of_start_eq {first second : Site source} (h : first.find.1.1 = second.find.1.1) :
    first = second := by
  obtain ⟨before, form, after, hfirst⟩ := first
  obtain ⟨before', form', after', hsecond⟩ := second
  obtain ⟨rfl, rfl⟩ := Form.text_append_inj h
  obtain rfl := List.append_cancel_right (hfirst.symm.trans hsecond)
  rfl

theorem places (source : Text) : Places name? source (@find source) where
  injective _ _ h := eq_of_start_eq (congrArg (·.1.1) h)
  exists_iff start name rest := by
    constructor
    · rintro ⟨site, hsite⟩
      simp only [find, Prod.mk.injEq] at hsite
      obtain ⟨⟨rfl, rfl⟩, rfl⟩ := hsite
      exact ⟨⟨site.before, site.source_eq.symm⟩, name?_eq_some_iff.mpr ⟨site.form, rfl, rfl⟩⟩
    · rintro ⟨⟨before, rfl⟩, hsome⟩
      obtain ⟨form, rfl, rfl⟩ := name?_eq_some_iff.mp hsome
      exact ⟨⟨before, form, rest, rfl⟩, rfl⟩

/-- At an offset at most one declaration starts. -/
theorem start_injective (source : Text) : Function.Injective (@start source) := by
  intro first second h
  have hfirst : splitAtByte? source second.start = some (first.before, first.find.1.1) :=
    splitAtByte?_eq_some_iff.mpr ⟨first.source_eq, h⟩
  have hsecond : splitAtByte? source second.start = some (second.before, second.find.1.1) :=
    splitAtByte?_eq_some_iff.mpr ⟨second.source_eq, rfl⟩
  rw [hfirst] at hsecond
  exact eq_of_start_eq (Prod.mk.inj (Option.some.inj hsecond)).2

end Site

theorem locate_eq_map {source : Text} {located : List (Site source)}
    (h : located.map Site.find = findAll (started name?) source) :
    locate source = located.map Site.declaration := by
  rw [locate, ← map_findAll_started consumes_name?, ← h, List.map_map, List.map_map]
  refine List.map_congr_left fun site _ => ?_
  have hlength := site.byteLength_source.2
  simp only [Function.comp_apply, Site.declaration, Site.find, mk.injEq, true_and] at hlength ⊢
  omega

theorem exists_site_of_mem_locate {source : Text} {d : Declaration} (hd : d ∈ locate source) :
    ∃ site : Site source, site.declaration = d := by
  obtain ⟨located, hlocated, -⟩ := (Site.places source).exists_located consumes_name?
  rw [locate_eq_map hlocated] at hd
  obtain ⟨site, -, hsite⟩ := List.mem_map.mp hd
  exact ⟨site, hsite⟩

/-- Every declaration in a source is located, or it starts inside a located one. The located ones
follow one another. They are told with their names and with the offsets behind their braces, and
those ascend. At no offset two declarations start. -/
theorem locate_finds_every_site (source : Text) :
    Function.Injective (@Site.start source) ∧
    ∃ located : List (Site source),
      (∀ site, site ∈ located ↔ site.IsLocated) ∧
      locate source = located.map Site.declaration ∧
      located.Pairwise (fun first second => first.stop ≤ second.start) ∧
      ((locate source).map (·.bodyStart)).Pairwise (· < ·) ∧
      ∀ site : Site source, site ∈ located ∨
        ∃ other ∈ located, other.start < site.start ∧ site.start < other.stop := by
  obtain ⟨located, hlocated, hmem, hordered, hcomplete⟩ :=
    (Site.places source).exists_located consumes_name?
  refine ⟨Site.start_injective source, located, hmem, locate_eq_map hlocated, ?_,
    bodyStart_pairwise source, fun site => ?_⟩
  · refine hordered.imp fun {first second} hapart => ?_
    have hfirst := first.byteLength_source.2
    have hsecond := second.byteLength_source.1
    omega
  · refine (hcomplete site).imp_right fun ⟨other, hother, hbehind, hwithin⟩ => ?_
    have hlater := hbehind.byteLength_lt
    have hearlier := hwithin.byteLength_lt
    have hsite := site.byteLength_source.1
    have hlengths := other.byteLength_source
    exact ⟨other, hother, by omega, by omega⟩

end SkipChecks.Declaration
