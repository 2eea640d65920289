import Mathlib.Data.List.Induction
import SkipChecks.Proofs.Page.CapturedErrors

/-!
# Handles on shared captures

A handle descends by cloning from the first handle on a new capture. Handles that descend from the
same one see the same messages: what was pushed through any of them since any of them cleared, and
nothing of what was done to other captures. The queries about a capture tell of its messages alone,
so they agree with each other behind every step.
-/

namespace SkipChecks

namespace Consoles

variable {consoles : Consoles} {steps before after : List Step} {step : Step}
  {handle other root : Nat}

/-! ## Runs -/

/-- The handle that a step goes through, if it goes through one. -/
def Step.handle? : Step → Option Nat
  | .create => none
  | .share handle | .push handle _ | .clear handle => some handle

/-- Whether a step makes a new handle. -/
def Step.makesHandle : Step → Bool
  | .create | .share _ => true
  | .push .. | .clear _ => false

/-- How many handles there are behind a run. They have the numbers below. -/
def handleCount (steps : List Step) : Nat := 1 + steps.countP Step.makesHandle

/-- Every step goes through a handle that is there by then. -/
def Proper (steps : List Step) : Prop :=
  ∀ before step after, steps = before ++ step :: after →
    ∀ handle ∈ step.handle?, handle < handleCount before

/-- The handle descends by cloning from the first handle on a new capture. -/
inductive Descends (steps : List Step) : Nat → Nat → Prop
  | first : Descends steps 0 0
  | create {before after : List Step} (h : steps = before ++ .create :: after) :
      Descends steps (handleCount before) (handleCount before)
  | share {before after : List Step} {handle root : Nat}
      (h : steps = before ++ .share handle :: after) (hhandle : Descends steps handle root) :
      Descends steps (handleCount before) root

/-- Both handles give access to the same buffer. -/
def SameBuffer (consoles : Consoles) (handle other : Nat) : Prop :=
  ∃ buffer ∈ consoles.handles[handle]?, buffer ∈ consoles.handles[other]?

instance (consoles : Consoles) (handle other : Nat) :
    Decidable (consoles.SameBuffer handle other) :=
  inferInstanceAs
    (Decidable (∃ buffer ∈ consoles.handles[handle]?, buffer ∈ consoles.handles[other]?))

/-- The message that a step pushes through one of these handles. -/
def Step.pushed? (own : Nat → Bool) : Step → Option Message
  | .push handle message => if own handle then some message else none
  | _ => none

/-- Whether a step clears through one of these handles. -/
def Step.clears (own : Nat → Bool) : Step → Bool
  | .clear handle => own handle
  | _ => false

/-- The messages pushed through these handles since the last clear through one of them. -/
def sinceClear (own : Nat → Bool) (steps : List Step) : List Message :=
  (steps.reverse.takeWhile (!·.clears own)).reverse.filterMap (·.pushed? own)

theorem proper_iff_take : Proper steps ↔ ∀ (i : Nat) (h : i < steps.length),
    ∀ handle ∈ steps[i].handle?, handle < handleCount (steps.take i) := by
  constructor
  · intro h i hin
    exact h (steps.take i) steps[i] (steps.drop (i + 1)) (by simp)
  · rintro h before step after rfl
    simpa using h before.length (by simp)

instance : DecidablePred Proper := fun _ => decidable_of_iff _ proper_iff_take.symm

theorem Proper.front (h : Proper (before ++ after)) : Proper before := by
  intro first step rest heq
  exact h first step (rest ++ after) (by rw [heq]; simp)

theorem Proper.last (h : Proper (before ++ [step])) :
    ∀ handle ∈ step.handle?, handle < handleCount before := h before step [] rfl

theorem Proper.concat (h : Proper steps)
    (hstep : ∀ handle ∈ step.handle?, handle < handleCount steps) :
    Proper (steps ++ [step]) := by
  intro before last after heq
  obtain rfl | ⟨front, final, rfl⟩ := List.eq_nil_or_concat after
  · obtain ⟨rfl, hlast⟩ := List.append_inj' heq rfl
    obtain rfl := List.singleton_injective hlast
    exact hstep
  · have hsplit : steps ++ [step] = (before ++ last :: front) ++ [final] := by simp [heq]
    obtain ⟨rfl, -⟩ := List.append_inj' hsplit rfl
    exact h before last front rfl

theorem handleCount_concat (steps : List Step) (step : Step) :
    handleCount (steps ++ [step]) = handleCount steps + if step.makesHandle then 1 else 0 := by
  rw [handleCount, handleCount, List.countP_append, List.countP_singleton, Nat.add_assoc]

theorem handleCount_le_append (before after : List Step) :
    handleCount before ≤ handleCount (before ++ after) := by
  rw [handleCount, handleCount, List.countP_append]
  omega

/-! ## Handles -/

theorem run_concat (consoles : Consoles) (steps : List Step) (step : Step) :
    consoles.run (steps ++ [step]) = (consoles.run steps).act step := List.foldl_concat ..

@[simp] theorem handles_edit (f : Capture → Capture) :
    (consoles.edit handle f).handles = consoles.handles := by
  unfold edit
  split <;> rfl

@[simp] theorem length_buffers_edit (f : Capture → Capture) :
    (consoles.edit handle f).buffers.length = consoles.buffers.length := by
  unfold edit
  split <;> simp

theorem share_eq {buffer : Nat} (h : consoles.handles[handle]? = some buffer) :
    consoles.share handle = { consoles with handles := consoles.handles ++ [buffer] } := by
  rw [share, h]

theorem handles_prefix_act (consoles : Consoles) (step : Step) :
    consoles.handles <+: (consoles.act step).handles := by
  cases step with
  | create => exact List.prefix_append _ _
  | share handle =>
      rw [act, share]
      split
      · exact List.prefix_append _ _
      · exact List.prefix_rfl
  | push handle message => rw [act, push, handles_edit]
  | clear handle => rw [act, clear, handles_edit]

theorem handles_prefix_run (consoles : Consoles) (steps : List Step) :
    consoles.handles <+: (consoles.run steps).handles := by
  induction steps generalizing consoles with
  | nil => exact List.prefix_rfl
  | cons step steps ih => exact (handles_prefix_act consoles step).trans (ih _)

theorem length_handles (h : Proper steps) :
    (start.run steps).handles.length = handleCount steps := by
  induction steps using List.reverseRecOn with
  | nil => rfl
  | append_singleton steps step ih =>
      have hbefore := ih h.front
      rw [run_concat, handleCount_concat, ← hbefore]
      cases step with
      | create => simp [act, create, Step.makesHandle]
      | share handle =>
          have hin := h.last handle rfl
          rw [← hbefore] at hin
          rw [act, share_eq (List.getElem?_eq_getElem hin)]
          simp [Step.makesHandle]
      | push handle message => simp [act, push, Step.makesHandle]
      | clear handle => simp [act, clear, Step.makesHandle]

theorem exists_buffer (h : Proper steps) (hin : handle < handleCount steps) :
    ∃ buffer, (start.run steps).handles[handle]? = some buffer :=
  ⟨_, List.getElem?_eq_getElem (by rwa [length_handles h])⟩

/-- Every handle is on a buffer that there is. -/
theorem lt_length_buffers (steps : List Step) :
    ∀ buffer ∈ (start.run steps).handles, buffer < (start.run steps).buffers.length := by
  induction steps using List.reverseRecOn with
  | nil => simp [run, start]
  | append_singleton steps step ih =>
      rw [run_concat]
      cases step with
      | create =>
          intro buffer hbuffer
          rcases List.mem_append.mp hbuffer with hold | hnew
          · have := ih buffer hold
            simp only [act, create, List.length_append, List.length_singleton]
            omega
          · rw [List.mem_singleton.mp hnew]
            simp [act, create]
      | share handle =>
          rw [act, share]
          split
          next buffer hhandle =>
            intro other hother
            rcases List.mem_append.mp hother with hold | hnew
            · exact ih other hold
            · rw [List.mem_singleton.mp hnew]
              exact ih buffer (List.mem_of_getElem? hhandle)
          next => exact ih
      | push handle message => simpa [act, push] using ih
      | clear handle => simpa [act, clear] using ih

/-! ## Where handles come from -/

theorem handles_append (h : Proper before) (hin : handle < handleCount before)
    (after : List Step) :
    (start.run (before ++ after)).handles[handle]? = (start.run before).handles[handle]? := by
  obtain ⟨more, hmore⟩ := handles_prefix_run (start.run before) after
  rw [run, List.foldl_append, ← run, ← run, ← hmore, List.getElem?_append_left]
  rwa [length_handles h]

/-- A new handle keeps the buffer that the step has given it. -/
theorem getElem?_made (h : Proper (before ++ step :: after)) (hmaker : step.makesHandle) :
    (start.run (before ++ step :: after)).handles[handleCount before]? =
      ((start.run before).act step).handles[handleCount before]? := by
  have hsplit : before ++ step :: after = (before ++ [step]) ++ after := by simp
  rw [hsplit] at h ⊢
  have hin : handleCount before < handleCount (before ++ [step]) := by
    rw [handleCount_concat, if_pos hmaker]
    omega
  rw [handles_append h.front hin, run_concat]

theorem getElem?_create (h : Proper (before ++ .create :: after)) :
    (start.run (before ++ .create :: after)).handles[handleCount before]? =
      some (start.run before).buffers.length := by
  rw [getElem?_made h rfl, ← length_handles h.front, act, create, List.getElem?_concat_length]

theorem getElem?_share (h : Proper (before ++ .share handle :: after)) :
    (start.run (before ++ .share handle :: after)).handles[handleCount before]? =
      (start.run (before ++ .share handle :: after)).handles[handle]? := by
  have hin : handle < handleCount before := h before _ after rfl handle rfl
  obtain ⟨buffer, hbuffer⟩ := exists_buffer h.front hin
  rw [getElem?_made h rfl, handles_append h.front hin, act, share_eq hbuffer, hbuffer,
    ← length_handles h.front, List.getElem?_concat_length]

theorem eq_zero_or_exists_maker (h : handle < handleCount steps) :
    handle = 0 ∨ ∃ before step after, steps = before ++ step :: after ∧ step.makesHandle ∧
      handle = handleCount before := by
  induction steps using List.reverseRecOn with
  | nil =>
      left
      simp [handleCount] at h
      exact h
  | append_singleton steps step ih =>
      rw [handleCount_concat] at h
      by_cases hold : handle < handleCount steps
      · rcases ih hold with hzero | ⟨before, maker, after, rfl, hmaker, hcount⟩
        · exact .inl hzero
        · exact .inr ⟨before, maker, after ++ [step], by simp, hmaker, hcount⟩
      · split at h
        next hmaker => exact .inr ⟨steps, step, [], rfl, hmaker, by omega⟩
        next => omega

theorem exists_descends (h : Proper steps) (hin : handle < handleCount steps) :
    ∃ root, Descends steps handle root := by
  induction handle using Nat.strongRecOn with
  | ind handle ih =>
      rcases eq_zero_or_exists_maker hin with rfl | ⟨before, step, after, hsteps, hmaker, rfl⟩
      · exact ⟨0, .first⟩
      · cases step with
        | create => exact ⟨_, .create hsteps⟩
        | share source =>
            have hsource : source < handleCount before := h before _ after hsteps source rfl
            obtain ⟨root, hroot⟩ := ih source hsource (hsource.trans hin)
            exact ⟨root, .share hsteps hroot⟩
        | push source message => cases hmaker
        | clear source => cases hmaker

/-- The first handle on a new capture. -/
def IsFirst (steps : List Step) (root : Nat) : Prop :=
  root = 0 ∨ ∃ before after, steps = before ++ .create :: after ∧ root = handleCount before

theorem Descends.isFirst (h : Descends steps handle root) : IsFirst steps root := by
  induction h with
  | first => exact .inl rfl
  | create h => exact .inr ⟨_, _, h, rfl⟩
  | share _ _ ih => exact ih

theorem Descends.handles_eq (hproper : Proper steps) (h : Descends steps handle root) :
    (start.run steps).handles[handle]? = (start.run steps).handles[root]? := by
  induction h with
  | first => rfl
  | create h => rfl
  | share h _ ih =>
      subst h
      exact (getElem?_share hproper).trans ih

/-- A new capture has a buffer that no handle had before. -/
theorem getElem?_ne_of_create (h : Proper (before ++ .create :: after))
    (hlt : handle < handleCount before) :
    (start.run (before ++ .create :: after)).handles[handle]? ≠
      (start.run (before ++ .create :: after)).handles[handleCount before]? := by
  rw [getElem?_create h, handles_append h.front hlt]
  intro heq
  have hsmall := lt_length_buffers before _ (List.mem_of_getElem? heq)
  omega

theorem IsFirst.ne_of_lt (hproper : Proper steps) (h : IsFirst steps root) (hlt : handle < root) :
    (start.run steps).handles[handle]? ≠ (start.run steps).handles[root]? := by
  rcases h with rfl | ⟨before, after, rfl, rfl⟩
  · omega
  · exact getElem?_ne_of_create hproper hlt

theorem IsFirst.eq_of_handles_eq {root second : Nat} (hproper : Proper steps)
    (hroot : IsFirst steps root) (hsecond : IsFirst steps second)
    (h : (start.run steps).handles[root]? = (start.run steps).handles[second]?) :
    root = second := by
  rcases Nat.lt_trichotomy root second with hlt | heq | hlt
  · exact absurd h (hsecond.ne_of_lt hproper hlt)
  · exact heq
  · exact absurd h.symm (hroot.ne_of_lt hproper hlt)

theorem sameBuffer_iff_handles_eq (hin : handle < consoles.handles.length) :
    consoles.SameBuffer handle other ↔ consoles.handles[other]? = consoles.handles[handle]? := by
  rw [SameBuffer, List.getElem?_eq_getElem hin]
  simp

theorem sameBuffer_iff_descends (h : Proper steps) (hhandle : handle < handleCount steps)
    (hother : other < handleCount steps) :
    (start.run steps).SameBuffer handle other ↔
      ∃ root, Descends steps handle root ∧ Descends steps other root := by
  rw [sameBuffer_iff_handles_eq (by rwa [length_handles h])]
  obtain ⟨root, hroot⟩ := exists_descends h hhandle
  obtain ⟨second, hsecond⟩ := exists_descends h hother
  constructor
  · intro heq
    have hfirst : root = second := by
      refine hroot.isFirst.eq_of_handles_eq h hsecond.isFirst ?_
      rw [← hroot.handles_eq h, ← hsecond.handles_eq h, heq]
    exact ⟨root, hroot, hfirst ▸ hsecond⟩
  · rintro ⟨root, hroot, hsecond⟩
    rw [hroot.handles_eq h, hsecond.handles_eq h]

/-! ## What a buffer holds -/

section Buffers

variable {own : Nat → Bool} {buffer : Nat} {message : Message}

theorem sinceClear_concat (own : Nat → Bool) (steps : List Step) (step : Step) :
    sinceClear own (steps ++ [step]) =
      if step.clears own then [] else sinceClear own steps ++ (step.pushed? own).toList := by
  rw [sinceClear, List.reverse_concat, List.takeWhile_cons]
  cases step.clears own with
  | true => rfl
  | false =>
      simp only [Bool.not_false, if_true, Bool.false_eq_true, if_false, List.reverse_cons,
        List.filterMap_append, sinceClear]
      cases hpushed : step.pushed? own <;> simp [hpushed]

section Concat

variable (own : Nat → Bool) (steps : List Step) (handle : Nat)

@[simp] theorem sinceClear_create :
    sinceClear own (steps ++ [.create]) = sinceClear own steps := by
  simp [sinceClear_concat, Step.clears, Step.pushed?]

@[simp] theorem sinceClear_share :
    sinceClear own (steps ++ [.share handle]) = sinceClear own steps := by
  simp [sinceClear_concat, Step.clears, Step.pushed?]

@[simp] theorem sinceClear_push (message : Message) :
    sinceClear own (steps ++ [.push handle message]) =
      sinceClear own steps ++ if own handle then [message] else [] := by
  cases howns : own handle <;> simp [sinceClear_concat, Step.clears, Step.pushed?, howns]

@[simp] theorem sinceClear_clear :
    sinceClear own (steps ++ [.clear handle]) =
      if own handle then [] else sinceClear own steps := by
  cases howns : own handle <;> simp [sinceClear_concat, Step.clears, Step.pushed?, howns]

end Concat

theorem sinceClear_congr {others : Nat → Bool}
    (h : ∀ step ∈ steps, ∀ handle ∈ step.handle?, own handle = others handle) :
    sinceClear own steps = sinceClear others steps := by
  induction steps using List.reverseRecOn with
  | nil => rfl
  | append_singleton steps step ih =>
      have hbefore := ih fun earlier hearlier => h earlier (List.mem_append_left [step] hearlier)
      have hstep := h step (List.mem_append_right steps List.mem_cons_self)
      have hclears : step.clears own = step.clears others := by
        cases step <;> first | rfl | exact hstep _ rfl
      have hpushed : step.pushed? own = step.pushed? others := by
        cases step with
        | push handle message => simp only [Step.pushed?, hstep handle rfl]
        | _ => rfl
      rw [sinceClear_concat, sinceClear_concat, hbefore, hclears, hpushed]

theorem sinceClear_of_none (h : ∀ step ∈ steps, ∀ handle ∈ step.handle?, own handle = false) :
    sinceClear own steps = [] := by
  rw [sinceClear, List.filterMap_eq_nil_iff]
  intro step hstep
  have hmem : step ∈ steps :=
    List.mem_reverse.mp ((List.takeWhile_prefix _).subset (List.mem_reverse.mp hstep))
  cases step with
  | push handle message => simp [Step.pushed?, h _ hmem handle rfl]
  | _ => rfl

/-- The handles that a run goes through are there at its end. -/
theorem Proper.lt_handleCount (h : Proper steps) {step : Step} (hstep : step ∈ steps) :
    ∀ handle ∈ step.handle?, handle < handleCount steps := by
  intro handle hhandle
  obtain ⟨before, after, rfl⟩ := List.append_of_mem hstep
  exact (h before step after rfl handle hhandle).trans_le (handleCount_le_append before _)

/-- Whether a handle is on a buffer. -/
def isOn (consoles : Consoles) (buffer handle : Nat) : Bool :=
  consoles.handles[handle]? == some buffer

@[simp] theorem isOn_edit (f : Capture → Capture) :
    (consoles.edit handle f).isOn = consoles.isOn := by
  funext buffer other
  rw [isOn, isOn, handles_edit]

/-- What handles are on does not change, and new ones tell nothing about the steps before. -/
theorem sinceClear_act (h : Proper steps) (step : Step) (buffer : Nat) :
    sinceClear (((start.run steps).act step).isOn buffer) steps =
      sinceClear ((start.run steps).isOn buffer) steps := by
  obtain ⟨more, hmore⟩ := handles_prefix_act (start.run steps) step
  refine sinceClear_congr fun earlier hearlier k hk => ?_
  have hin := h.lt_handleCount hearlier k hk
  rw [← length_handles h] at hin
  rw [isOn, isOn, ← hmore, List.getElem?_append_left hin]

/-- No step goes through a handle on a buffer that is not there. -/
theorem sinceClear_of_length_le (hbuffer : (start.run steps).buffers.length ≤ buffer) :
    sinceClear ((start.run steps).isOn buffer) steps = [] := by
  refine sinceClear_of_none fun step _ k _ => ?_
  rw [isOn, beq_eq_false_iff_ne]
  intro hk
  have hin := lt_length_buffers steps buffer (List.mem_of_getElem? hk)
  omega

theorem getElem?_edit {source : Nat} (h : consoles.handles[handle]? = some source)
    (f : Capture → Capture) (buffer : Nat) :
    (consoles.edit handle f).buffers[buffer]? =
      if consoles.isOn buffer handle then consoles.buffers[buffer]?.map f
      else consoles.buffers[buffer]? := by
  simp only [edit, h, isOn, List.getElem?_modify]
  by_cases hsame : source = buffer <;> simp [hsame]

/-- A buffer holds what was pushed through its handles since it was cleared last. -/
theorem buffers_run (h : Proper steps) (hin : buffer < (start.run steps).buffers.length) :
    (start.run steps).buffers[buffer]? =
      some (sinceClear ((start.run steps).isOn buffer) steps) := by
  induction steps using List.reverseRecOn generalizing buffer with
  | nil =>
      obtain rfl : buffer = 0 := by simpa [run, start] using hin
      rfl
  | append_singleton steps step ih =>
      have hbefore := h.front
      have hold := sinceClear_act hbefore step buffer
      rw [run_concat] at hin ⊢
      cases step with
      | create =>
          rw [sinceClear_create, hold, act, create]
          rcases Nat.lt_or_ge buffer (start.run steps).buffers.length with hlt | hge
          · rw [List.getElem?_append_left hlt, ih hbefore hlt]
          · obtain rfl : buffer = (start.run steps).buffers.length := by
              simp [act, create] at hin
              omega
            rw [List.getElem?_concat_length, sinceClear_of_length_le (Nat.le_refl _)]
      | share handle =>
          obtain ⟨source, hsource⟩ := exists_buffer hbefore (h.last handle rfl)
          rw [sinceClear_share, hold]
          rw [act, share_eq hsource] at hin ⊢
          exact ih hbefore hin
      | push handle message =>
          obtain ⟨source, hsource⟩ := exists_buffer hbefore (h.last handle rfl)
          have hthere : buffer < (start.run steps).buffers.length := by simpa [act, push] using hin
          have hheld := ih hbefore hthere
          rw [sinceClear_push, hold, act, push, getElem?_edit hsource, hheld, isOn_edit]
          split <;> simp
      | clear handle =>
          obtain ⟨source, hsource⟩ := exists_buffer hbefore (h.last handle rfl)
          have hthere : buffer < (start.run steps).buffers.length := by simpa [act, clear] using hin
          have hheld := ih hbefore hthere
          rw [sinceClear_clear, hold, act, clear, getElem?_edit hsource, hheld, isOn_edit]
          split <;> rfl

end Buffers

/-- A handle shows what was pushed through those on its buffer since one of them cleared. -/
theorem messages_run (h : Proper steps) (hin : handle < handleCount steps) :
    (start.run steps).messages handle =
      sinceClear (fun k => (start.run steps).SameBuffer handle k) steps := by
  obtain ⟨buffer, hbuffer⟩ := exists_buffer h hin
  have hown : (fun k => decide ((start.run steps).SameBuffer handle k)) =
      (start.run steps).isOn buffer := by
    funext k
    rw [isOn, Bool.eq_iff_iff, decide_eq_true_iff, beq_iff_eq, SameBuffer, hbuffer]
    simp
  have hheld := buffers_run h (lt_length_buffers steps buffer (List.mem_of_getElem? hbuffer))
  rw [messages, buffer?, hbuffer, Option.bind_some, hheld, hown]
  rfl

theorem messages_push (h : Proper steps) (hhandle : handle < handleCount steps)
    (hother : other < handleCount steps) (message : Message) :
    ((start.run steps).push other message).messages handle =
      (start.run steps).messages handle ++
        if (start.run steps).SameBuffer handle other then [message] else [] := by
  have hproper : Proper (steps ++ [.push other message]) := h.concat fun k hk => by
    obtain rfl : other = k := Option.some.inj hk
    exact hother
  have hpushed := messages_run hproper (hhandle.trans_le (handleCount_le_append steps _))
  have hsame (k : Nat) : ((start.run steps).push other message).SameBuffer handle k ↔
      (start.run steps).SameBuffer handle k := by
    simp only [SameBuffer, push, handles_edit]
  simpa only [run_concat, act, hsame, sinceClear_push, decide_eq_true_iff,
    ← messages_run h hhandle] using hpushed

end Consoles

/-! ## Queries -/

namespace Capture

/-- The message about errors says first how many there are. -/
theorem countLine_prefix (texts : List Text) :
    countLine texts.length <+: errorsMessage texts := by
  match texts with
  | [] => exact List.prefix_rfl
  | [text] =>
      have hone : countLine 1 = header ++ " 1:".toList := by decide +kernel
      rw [errorsMessage_singleton, List.length_singleton, hone]
      exact List.prefix_append _ _
  | first :: second :: others =>
      rw [errorsMessage_of_length (by simp)]
      exact List.prefix_append _ _

theorem errorCount_eq_length_errorTexts (capture : Capture) :
    capture.errorCount = capture.errorTexts.length := by
  rw [errorTexts, List.length_map]
  exact List.countP_eq_length_filter

theorem checkNoErrors_eq_ok_iff {capture : Capture} :
    capture.checkNoErrors = .ok () ↔ capture.errorCount = 0 := by
  rw [checkNoErrors_eq, errorCount_eq_length_errorTexts, List.length_eq_zero_iff]
  split <;> simp_all

theorem exists_countLine_prefix {capture : Capture} (h : capture.errorCount ≠ 0) :
    ∃ message, capture.checkNoErrors = .error (.assertion message) ∧
      countLine capture.errorCount <+: message := by
  rw [errorCount_eq_length_errorTexts] at h ⊢
  have hne : capture.errorTexts ≠ [] := mt List.length_eq_zero_iff.mpr h
  exact ⟨_, by rw [checkNoErrors_eq, if_neg hne], countLine_prefix _⟩

end Capture

namespace Consoles

variable {steps : List Step} {handle other : Nat}

/-- What is asked of a handle is asked of the messages that it shows. -/
theorem queries_eq (consoles : Consoles) (handle : Nat) :
    consoles.errorCount handle = (consoles.messages handle).errorCount ∧
      consoles.length handle = (consoles.messages handle).length := by
  rw [errorCount, length, messages]
  cases consoles.buffer? handle <;> exact ⟨rfl, rfl⟩

/-- Behind every run, which may well be the beginning of another one, handles share a buffer when
they descend from the same first handle. Then they see the same messages, those pushed through any
of them since the last clear through any of them, and what is pushed next through one of them. All
queries through a handle agree on the messages that are seen through it. -/
theorem handles_share_buffers (hproper : Proper steps) (hhandle : handle < handleCount steps)
    (hother : other < handleCount steps) :
    let consoles := start.run steps
    let capture := consoles.messages handle
    (consoles.SameBuffer handle other ↔
        ∃ root, Descends steps handle root ∧ Descends steps other root) ∧
      (∀ message, (consoles.push other message).messages handle =
        capture ++ if consoles.SameBuffer handle other then [message] else []) ∧
      capture = sinceClear (fun k => consoles.SameBuffer handle k) steps ∧
      consoles.errors handle = capture.filter (·.level = .error) ∧
      consoles.errorCount handle = (consoles.errors handle).length ∧
      consoles.length handle = capture.length ∧
      (consoles.isEmpty handle ↔ consoles.length handle = 0) ∧
      (consoles.checkNoErrors handle = .ok () ↔ consoles.errorCount handle = 0) ∧
      (consoles.errorCount handle ≠ 0 →
        ∃ message, consoles.checkNoErrors handle = .error (.assertion message) ∧
          Capture.countLine (consoles.errorCount handle) <+: message) := by
  intro consoles capture
  obtain ⟨hcount, hlength⟩ := queries_eq consoles handle
  refine ⟨sameBuffer_iff_descends hproper hhandle hother, messages_push hproper hhandle hother,
    messages_run hproper hhandle, rfl, ?_, hlength, beq_iff_eq, ?_, ?_⟩
  · rw [hcount]
    exact List.countP_eq_length_filter
  · rw [hcount]
    exact Capture.checkNoErrors_eq_ok_iff
  · rw [hcount]
    exact Capture.exists_countLine_prefix

/-- The last handle is a clone of a clone of the first one, and another one is on a capture of its
own: a clear through the last one leaves what was pushed there. -/
theorem handles_share_buffers_clone_of_clone :
    let error (text : String) (now : Int) : Message := .ofText .error text.toList now
    let steps : List Step := [.share 0, .create, .share 1, .push 0 (error "a" 0),
      .push 2 (error "b" 1), .clear 3, .push 1 (error "c" 2)]
    let consoles := start.run steps
    Proper steps ∧ 0 < handleCount steps ∧ 3 < handleCount steps ∧
      (∃ root, Descends steps 0 root ∧ Descends steps 3 root) ∧
      consoles.messages 0 = [error "c" 2] ∧ consoles.messages 2 = [error "b" 1] ∧
      (consoles.push 3 (error "d" 3)).messages 0 = [error "c" 2, error "d" 3] := by
  intro error steps consoles
  have hproper : Proper steps := by decide
  obtain ⟨hsame, hpush, hcapture, -⟩ :=
    handles_share_buffers hproper (show 0 < handleCount steps by decide)
      (show 3 < handleCount steps by decide)
  exact ⟨hproper, by decide, by decide, hsame.mp (by decide), hcapture.trans (by decide),
    by decide, (hpush _).trans (by decide)⟩

end Consoles

end SkipChecks
