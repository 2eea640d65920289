import SkipChecks.Proofs.Dependencies.Scan
import SkipChecks.Proofs.Basic
import SkipChecks.Proofs.Text.Occurrence
import SkipChecks.Proofs.Text.Starts

/-!
# Which calls a scan reports

A call stands in a body wherever its text does. Of the calls that begin in one way, a scan reports
all but those that begin inside the name of a reported one: since no name has a quote, such a call
begins at the end of that name and takes its closing quote for an opening one. The names of reported
calls become routes in the order in which the scan meets them.
-/

namespace SkipChecks.Dependencies

open Text

/-- A call that stands in a body, with a quoted name behind its opening. -/
structure Call (opening body : Text) where
  before : Text
  first : Char
  name : Text
  last : Char
  after : Text
  isQuote_first : isQuote first
  isQuote_last : isQuote last
  name_ne_nil : name ≠ []
  notQuote : ∀ c ∈ name, isQuote c = false
  body_eq : body = before ++ (opening ++ (first :: name ++ last :: after))

/-- An opening holds no quotes, and its first character only once. -/
structure IsOpening (opening : Text) : Prop where
  notQuote : ∀ c ∈ opening, isQuote c = false
  headOnce : ∃ c others, opening = c :: others ∧ c ∉ others

theorem isOpening_of_mem {opening : Text} (h : opening ∈ routeCalls) : IsOpening opening := by
  have hfree : ∀ opening ∈ routeCalls, ∀ c ∈ opening, isQuote c = false := by
    simp [routeCalls, isQuote]
  have honce : ∀ opening ∈ routeCalls, ∃ c ∈ opening.head?, c ∉ opening.tail := by
    simp [routeCalls]
  obtain ⟨c, hhead, hc⟩ := honce opening h
  obtain ⟨others, rfl⟩ := List.head?_eq_some_iff.mp hhead
  exact ⟨hfree _ h, c, others, rfl, hc⟩

namespace IsOpening

variable {opening name after rest gap : Text} {first last quote : Char}

theorem notMem (hopening : IsOpening opening) (hquote : isQuote quote) : quote ∉ opening := by
  intro hmem
  rw [hopening.notQuote quote hmem] at hquote
  cases hquote

/-- An opening does not begin at a quote, or inside itself. -/
theorem not_inside (hopening : IsOpening opening) (hfirst : isQuote first) {part : Text}
    (hpart : part <:+ opening) (hne : part ≠ opening) (s : Text) :
    part ++ first :: s ≠ opening ++ rest := by
  obtain ⟨c, others, rfl, honce⟩ := hopening.headOnce
  have hlater : part <:+ others := (List.suffix_cons_iff.mp hpart).resolve_left hne
  cases part with
  | nil =>
      intro h
      obtain ⟨rfl, -⟩ := List.cons.inj h
      exact hopening.notMem hfirst List.mem_cons_self
  | cons d part =>
      intro h
      obtain ⟨rfl, -⟩ := List.cons.inj h
      exact honce (hlater.subset List.mem_cons_self)

/-- Where the same opening begins again before a call ends, it is the end of the name. -/
theorem exists_of_inside (hopening : IsOpening opening) (hfirst : isQuote first)
    (hlast : isQuote last) (hname : ∀ c ∈ name, isQuote c = false) (hquote : isQuote quote)
    (h : opening ++ (first :: name ++ last :: after) = gap ++ (opening ++ quote :: rest))
    (hgap : gap ≠ []) (hlength : after.length < (opening ++ quote :: rest).length) :
    ∃ front, name = front ++ opening ∧ gap = opening ++ first :: front := by
  have hempty : [] ≠ opening := by
    obtain ⟨c, others, rfl, -⟩ := hopening.headOnce
    exact (List.cons_ne_nil c others).symm
  rcases List.append_eq_append_iff.mp h with ⟨more, rfl, hmore⟩ | ⟨part, hpart, hmore⟩
  · cases more with
    | nil => exact absurd hmore (hopening.not_inside hfirst List.nil_suffix hempty _)
    | cons c front =>
        simp only [List.cons_append, List.cons.injEq] at hmore
        obtain ⟨rfl, hmore⟩ := hmore
        rcases List.append_eq_append_iff.mp hmore with ⟨beyond, rfl, hend⟩ | ⟨part, rfl, hend⟩
        · -- only the closing quote is left behind the name
          have hsame := congrArg List.length hend
          simp only [List.length_append, List.length_cons] at hsame hlength
          obtain rfl : beyond = [] := List.length_eq_zero_iff.mp (by omega)
          exact absurd hend (hopening.not_inside hlast List.nil_suffix hempty after)
        · have hquoted : quote ∉ part := by
            intro hmem
            rw [hname quote (List.mem_append_right front hmem)] at hquote
            cases hquote
          obtain ⟨rfl, -, -⟩ := (append_cons_inj (hopening.notMem hlast) hquoted).mp hend
          exact ⟨front, rfl, rfl⟩
  · have hne : part ≠ opening := by
      intro heq
      rw [heq] at hpart
      exact hgap (List.append_left_eq_self.mp hpart.symm)
    exact absurd hmore.symm (hopening.not_inside hfirst ⟨gap, hpart.symm⟩ hne _)

end IsOpening

namespace Call

variable {opening body : Text}

/-- The byte offset at which the call starts. -/
def start (call : Call opening body) : Nat := byteLength call.before

/-- The byte offset behind the quote that closes the name. -/
def stop (call : Call opening body) : Nat :=
  call.start + byteLength (opening ++ (call.first :: call.name ++ [call.last]))

/-- The find that is made where the call stands. -/
def find (call : Call opening body) : (Text × Text) × Text :=
  ((opening ++ (call.first :: call.name ++ call.last :: call.after), call.name), call.after)

/-- The opening of the call is the end of the name of the other one. -/
def BeginsAtEndOf (call other : Call opening body) : Prop :=
  ∃ front, other.name = front ++ opening ∧
    call.before = other.before ++ (opening ++ other.first :: front)

theorem byteLength_body (call : Call opening body) :
    call.start + byteLength call.find.1.1 = byteLength body ∧
      call.stop + byteLength call.find.2 = byteLength body := by
  have hlength := congrArg byteLength call.body_eq
  simp only [byteLength_append, byteLength_cons] at hlength
  simp only [start, stop, find, byteLength_append, byteLength_cons, byteLength_nil]
  omega

theorem places (opening body : Text) :
    Places (call? opening) body (@find opening body) where
  injective := by
    rintro ⟨before, q, name, r, after, _, _, _, _, hfirst⟩
      ⟨before', q', name', r', after', _, _, _, _, hsecond⟩ h
    simp only [find, Prod.mk.injEq] at h
    obtain ⟨⟨htext, rfl⟩, rfl⟩ := h
    rw [htext] at hfirst
    obtain rfl := List.append_cancel_right (hfirst.symm.trans hsecond)
    simp only [List.append_cancel_left_eq, List.cons_append, List.cons.injEq, and_true] at htext
    obtain ⟨rfl, rfl⟩ := htext
    rfl
  exists_iff start name rest := by
    constructor
    · rintro ⟨call, hcall⟩
      simp only [find, Prod.mk.injEq] at hcall
      obtain ⟨⟨rfl, rfl⟩, rfl⟩ := hcall
      exact ⟨⟨call.before, call.body_eq.symm⟩, call?_eq_some_iff.mpr ⟨call.first, call.last,
        call.isQuote_first, call.isQuote_last, call.name_ne_nil, call.notQuote, rfl⟩⟩
    · rintro ⟨⟨before, rfl⟩, hsome⟩
      obtain ⟨first, last, hfirst, hlast, hne, hfree, rfl⟩ := call?_eq_some_iff.mp hsome
      exact ⟨⟨before, first, name, last, rest, hfirst, hlast, hne, hfree, rfl⟩, rfl⟩

theorem beginsAtEndOf (hopening : IsOpening opening) {call other : Call opening body}
    (hbehind : Behind call.find.1.1 other.find.1.1) (hwithin : Behind other.find.2 call.find.1.1) :
    call.BeginsAtEndOf other := by
  obtain ⟨gap, hgap, hother⟩ := hbehind
  obtain ⟨front, hname, rfl⟩ := hopening.exists_of_inside other.isQuote_first other.isQuote_last
    other.notQuote call.isQuote_first hother hgap hwithin.length_lt
  refine ⟨front, hname, ?_⟩
  -- both calls stand in one body, so that the other one and the gap make up what is in front
  have hbody := call.body_eq.symm.trans other.body_eq
  change call.before ++ call.find.1.1 = other.before ++ other.find.1.1 at hbody
  rw [hother, ← List.append_assoc] at hbody
  exact List.append_cancel_right hbody

end Call

/-- The calls that a search reports: they follow one another, and every other call begins at the end
of a reported name. -/
structure Reported {opening body : Text} (reported : List (Call opening body)) : Prop where
  ordered : reported.Pairwise fun first second => first.stop ≤ second.start
  complete : ∀ call, call ∈ reported ∨ ∃ other ∈ reported, call.BeginsAtEndOf other

theorem exists_reported {opening : Text} (hopening : IsOpening opening) (body : Text) :
    ∃ reported : List (Call opening body),
      Reported reported ∧ reported.map (·.name) = namesCalled opening body := by
  obtain ⟨reported, hreported, -, hordered, hcomplete⟩ :=
    (Call.places opening body).exists_located (consumes_call? opening)
  refine ⟨reported, ⟨?_, fun call => ?_⟩, ?_⟩
  · refine hordered.imp fun {first second} hapart => ?_
    have hfirst := first.byteLength_body.2
    have hsecond := second.byteLength_body.1
    omega
  · exact (hcomplete call).imp_right fun ⟨other, hother, hbehind, hwithin⟩ =>
      ⟨other, hother, Call.beginsAtEndOf hopening hbehind hwithin⟩
  · rw [namesCalled, ← map_findAll_started (consumes_call? opening), ← hreported, List.map_map,
      List.map_map]
    rfl

/-! ## What a scan gives -/

variable {body : Text}

theorem routes_scan (body : Text) :
    (scan body).routes =
      (namesCalled "route(".toList body).eraseDups ++
        ((namesCalled "URL::temporarySignedRoute(".toList body).filter
          (· ∉ namesCalled "route(".toList body)).eraseDups ++
        ((namesCalled "URL::signedRoute(".toList body).filter fun name =>
          name ∉ namesCalled "route(".toList body ∧
            name ∉ namesCalled "URL::temporarySignedRoute(".toList body).eraseDups := by
  have hfilter (names earlier : List Text) :
      names.removeAll earlier = names.filter (· ∉ earlier) := by
    rw [List.removeAll]
    exact List.filter_congr fun name _ => by simp
  simp only [scan, ofNames, routeCalls, List.flatMap_cons, List.flatMap_nil, List.append_nil]
  rw [← List.append_assoc, List.eraseDups_append, List.eraseDups_append, hfilter, hfilter]
  simp only [List.mem_append, not_or]

theorem method_mem_scan_iff {name : Text} (hname : name ∈ factoryMethods) :
    ⟨userFactory, name⟩ ∈ (scan body).methods ↔ factoryChain name <:+: body := by
  have hmethods : (scan body).methods = (factoryMethods.filter fun method =>
      contains (factoryChain method) body).map (⟨userFactory, ·⟩) := rfl
  rw [hmethods, List.mem_map]
  constructor
  · rintro ⟨method, hmethod, heq⟩
    obtain ⟨-, rfl⟩ := Method.mk.inj heq
    exact contains_iff.mp (List.mem_filter.mp hmethod).2
  · intro hchain
    exact ⟨name, List.mem_filter.mpr ⟨hname, contains_iff.mpr hchain⟩, rfl⟩

theorem methods_scan_sublist (body : Text) :
    (scan body).methods.Sublist (factoryMethods.map (⟨userFactory, ·⟩)) :=
  List.filter_sublist.map _

theorem starterKit_scan_iff :
    (scan body).starterKit ↔
      ∃ line ∈ lines body, ∃ phrase ∈ starterKitCopy,
        InOrder (folded phrase) (line.map foldCase) := by
  have hkit : (scan body).starterKit = starterKitCopy.any fun phrase => mentions phrase body := rfl
  simp only [hkit, List.any_eq_true, mentions_iff, lineHas_iff]
  constructor
  · rintro ⟨phrase, hphrase, line, hline, hhas⟩
    exact ⟨line, hline, phrase, hphrase, hhas⟩
  · rintro ⟨line, hline, phrase, hphrase, hhas⟩
    exact ⟨phrase, hphrase, line, hline, hhas⟩

theorem nodup_guards {d : Dependencies} (hroutes : d.routes.Nodup) (hmethods : d.methods.Nodup) :
    d.guards.Nodup := by
  have hnames : (d.routes.map Guard.route).Nodup :=
    hroutes.map fun _ _ heq => Guard.route.inj heq
  have hchains : (d.methods.map Guard.method).Nodup :=
    hmethods.map fun _ _ heq => Guard.method.inj heq
  have hkit : (if d.starterKit then [Guard.starterKit] else []).Nodup := by split <;> simp
  rw [guards, List.append_assoc]
  refine List.nodup_append.mpr ⟨hkit, List.nodup_append.mpr ⟨hnames, hchains, ?_⟩, ?_⟩
  · -- guards of different kinds differ
    simp
  · intro guard hguard other hother
    have hstarter : guard = .starterKit := by
      split at hguard
      · exact List.mem_singleton.mp hguard
      · cases hguard
    subst hstarter
    rintro rfl
    simp at hother

/-- A scan reports the calls of a body. They follow one another for each opening, and a call that is
not reported begins at the end of a reported name. The names of reported calls are the routes, each
once: first those of plain calls, then those that temporary signed calls add, then those that signed
calls add. The two methods are listed where their chains stand in the body, and the starter kit is
required where a line holds its copy, whatever the case. The guards follow in that order, starter
kit first, and none comes twice. -/
theorem scan_reports_calls (body : Text) :
    let d := scan body
    ∃ reported : (opening : Text) → List (Call opening body),
      let plain := (reported "route(".toList).map (·.name)
      let temporary := (reported "URL::temporarySignedRoute(".toList).map (·.name)
      let signed := (reported "URL::signedRoute(".toList).map (·.name)
      (∀ opening ∈ routeCalls, Reported (reported opening)) ∧
      (∀ name ∈ d.routes, ∃ opening ∈ routeCalls, ∃ call : Call opening body, call.name = name) ∧
      (∀ opening ∈ routeCalls, ∀ call : Call opening body, call.name ∈ d.routes ∨
        ∃ other ∈ reported opening, call.BeginsAtEndOf other) ∧
      d.routes.Nodup ∧
      d.routes = plain.eraseDups ++ (temporary.filter (· ∉ plain)).eraseDups ++
        (signed.filter fun name => name ∉ plain ∧ name ∉ temporary).eraseDups ∧
      d.methods.Sublist [⟨userFactory, "withoutTwoFactor".toList⟩,
        ⟨userFactory, "unverified".toList⟩] ∧
      (⟨userFactory, "withoutTwoFactor".toList⟩ ∈ d.methods ↔
        "User::factory()->withoutTwoFactor()".toList <:+: body) ∧
      (⟨userFactory, "unverified".toList⟩ ∈ d.methods ↔
        "User::factory()->unverified()".toList <:+: body) ∧
      (d.starterKit ↔ ∃ line ∈ lines body, ∃ phrase ∈ starterKitCopy,
        InOrder (folded phrase) (line.map foldCase)) ∧
      d.guards.Nodup ∧
      d.guards = (if d.starterKit then [.starterKit] else []) ++ d.routes.map .route ++
        d.methods.map .method := by
  intro d
  have hexists : ∀ opening, ∃ reported : List (Call opening body), opening ∈ routeCalls →
      Reported reported ∧ reported.map (·.name) = namesCalled opening body := by
    intro opening
    by_cases hopening : opening ∈ routeCalls
    · obtain ⟨reported, hreported⟩ := exists_reported (isOpening_of_mem hopening) body
      exact ⟨reported, fun _ => hreported⟩
    · exact ⟨[], fun h => absurd h hopening⟩
  -- what is reported for texts that open no calls does not matter
  choose reported hreported using hexists
  have hroutes : ∀ opening ∈ routeCalls, ∀ call ∈ reported opening, call.name ∈ d.routes := by
    intro opening hopening call hcall
    refine mem_routes_iff.mpr ⟨opening, hopening, ?_⟩
    rw [← (hreported opening hopening).2]
    exact List.mem_map_of_mem hcall
  have hnodup : d.routes.Nodup := Entries.nodup_eraseDups _
  have hmethods : d.methods.Nodup := (methods_scan_sublist body).nodup (by decide +kernel)
  refine ⟨reported, fun opening hopening => (hreported opening hopening).1, ?_, ?_, hnodup, ?_,
    methods_scan_sublist body, method_mem_scan_iff (by decide), method_mem_scan_iff (by decide),
    starterKit_scan_iff, nodup_guards hnodup hmethods, rfl⟩
  · intro name hname
    obtain ⟨opening, hopening, hcalled⟩ := mem_routes_iff.mp hname
    rw [← (hreported opening hopening).2] at hcalled
    obtain ⟨call, -, rfl⟩ := List.mem_map.mp hcalled
    exact ⟨opening, hopening, call, rfl⟩
  · intro opening hopening call
    exact ((hreported opening hopening).1.complete call).imp_left (hroutes opening hopening call)
  · rw [(hreported _ (by decide)).2, (hreported _ (by decide)).2, (hreported _ (by decide)).2]
    exact routes_scan body

end SkipChecks.Dependencies
